import Mathlib.Data.List.Basic
import Mathlib.Data.List.GetD

/-! NOR flash as a function from addresses to bytes. Erasing sets a range to `0xFF`, programming can
only clear bits. A range is read back exactly when every bit the data needs is still set there, and
that always holds on an erased range. -/

namespace NorFlash

abbrev Byte := BitVec 8

/-- The contents of the chip, one byte for each address. -/
abbrev Mem := Nat → Byte

def read (m : Mem) (a n : Nat) : List Byte := (List.range n).map fun i => m (a + i)

def erase (m : Mem) (a n : Nat) : Mem := fun x => if a ≤ x ∧ x < a + n then 0xFF#8 else m x

/-- Programming ANDs the data into the cells. -/
def program (m : Mem) (a : Nat) (bs : List Byte) : Mem :=
  fun x => if a ≤ x ∧ x < a + bs.length then m x &&& bs.getD (x - a) 0xFF#8 else m x

def Erased (m : Mem) (a n : Nat) : Prop := ∀ x, a ≤ x → x < a + n → m x = 0xFF#8

/-- Every bit that is set in the data is still set in the cells it goes to. -/
def Fits (m : Mem) (a : Nat) (bs : List Byte) : Prop :=
  ∀ i, i < bs.length → m (a + i) &&& bs.getD i 0xFF#8 = bs.getD i 0xFF#8

instance (m : Mem) (a : Nat) (bs : List Byte) : Decidable (Fits m a bs) :=
  inferInstanceAs (Decidable (∀ i, i < bs.length → _))

/-! ### Reading -/

@[simp] theorem length_read (m : Mem) (a n : Nat) : (read m a n).length = n := by simp [read]

theorem read_congr {m m' : Mem} {a n : Nat} (h : ∀ x, a ≤ x → x < a + n → m' x = m x) :
    read m' a n = read m a n := by
  apply List.map_congr_left
  intro i hi
  exact h (a + i) (by omega) (by have := List.mem_range.mp hi; omega)

theorem read_eq_iff {m : Mem} {a : Nat} {bs : List Byte} :
    read m a bs.length = bs ↔ ∀ i, i < bs.length → m (a + i) = bs.getD i 0xFF#8 := by
  constructor
  · intro h i hi
    have hget : (read m a bs.length)[i]? = some (m (a + i)) := by simp [read, hi]
    rw [h] at hget
    simp [List.getD, hget]
  · intro h
    apply List.ext_getElem (by simp)
    intro i hi hi'
    have hv := h i hi'
    simp only [List.getD, List.getElem?_eq_getElem hi', Option.getD_some] at hv
    simp [read, hv]

theorem read_append (m : Mem) (a k l : Nat) : read m a (k + l) = read m a k ++ read m (a + k) l := by
  rw [read, List.range_add, List.map_append, List.map_map, read, read]
  refine congrArg₂ _ rfl (List.map_congr_left fun i _ => ?_)
  rw [Function.comp_apply, Nat.add_assoc]

theorem read_of_erased {m : Mem} {a n : Nat} (h : Erased m a n) : read m a n = List.replicate n 0xFF#8 := by
  apply List.ext_getElem (by simp)
  intro i hi _
  simp only [length_read] at hi
  simp [read, h (a + i) (by omega) (by omega)]

/-! ### Erasing -/

theorem erase_inside {m : Mem} {a n x : Nat} (hl : a ≤ x) (hr : x < a + n) : erase m a n x = 0xFF#8 := by
  simp [erase, hl, hr]

theorem erase_outside {m : Mem} {a n x : Nat} (h : x < a ∨ a + n ≤ x) : erase m a n x = m x := by
  have hnot : ¬ (a ≤ x ∧ x < a + n) := by omega
  simp [erase, hnot]

theorem erased_erase (m : Mem) (a n : Nat) : Erased (erase m a n) a n :=
  fun _ hl hr => erase_inside hl hr

theorem erase_append (m : Mem) (a k l : Nat) : erase (erase m a k) (a + k) l = erase m a (k + l) := by
  funext x
  by_cases hlast : a + k ≤ x ∧ x < a + k + l
  · rw [erase_inside hlast.1 hlast.2, erase_inside (by omega) (by omega)]
  · rw [erase_outside (by omega)]
    by_cases hfirst : a ≤ x ∧ x < a + k
    · rw [erase_inside hfirst.1 hfirst.2, erase_inside (by omega) (by omega)]
    · rw [erase_outside (by omega), erase_outside (by omega)]

/-- Erasing more never spoils an erased range. -/
theorem Erased.erase {m : Mem} {a n : Nat} (h : Erased m a n) (b k : Nat) :
    Erased (NorFlash.erase m b k) a n := by
  intro x hl hr
  unfold NorFlash.erase
  split
  · rfl
  · exact h x hl hr

theorem Erased.mono {m : Mem} {a n b k : Nat} (h : Erased m a n) (hl : a ≤ b) (hr : b + k ≤ a + n) :
    Erased m b k :=
  fun x h1 h2 => h x (by omega) (by omega)

theorem Erased.congr {m m' : Mem} {a n : Nat} (h : Erased m a n)
    (heq : ∀ x, a ≤ x → x < a + n → m' x = m x) : Erased m' a n :=
  fun x hl hr => (heq x hl hr).trans (h x hl hr)

/-! ### Programming -/

theorem program_outside {m : Mem} {a x : Nat} {bs : List Byte} (h : x < a ∨ a + bs.length ≤ x) :
    program m a bs x = m x := by
  have hnot : ¬ (a ≤ x ∧ x < a + bs.length) := by omega
  simp [program, hnot]

theorem program_inside {m : Mem} {a i : Nat} {bs : List Byte} (h : i < bs.length) :
    program m a bs (a + i) = m (a + i) &&& bs.getD i 0xFF#8 := by
  have hin : a ≤ a + i ∧ a + i < a + bs.length := by omega
  rw [program, if_pos hin, Nat.add_sub_cancel_left]

/-- A write that stops early does the same where it has been, and where the rest of the data is all ones. -/
theorem program_take {m : Mem} {a i j : Nat} {bs : List Byte} (h : i < j ∨ bs.getD i 0xFF#8 = 0xFF#8) :
    program m a (bs.take j) (a + i) = program m a bs (a + i) := by
  have hones : ∀ x : Byte, x &&& 0xFF#8 = x := fun _ => BitVec.and_allOnes
  by_cases hi : i < bs.length
  · by_cases hj : i < j
    · have htake : i < (bs.take j).length := by rw [List.length_take]; omega
      rw [program_inside htake, program_inside hi, List.getD, List.getElem?_take_of_lt hj, List.getD]
    · have hout : (bs.take j).length ≤ i := by rw [List.length_take]; omega
      rw [program_outside (Or.inr (by omega)), program_inside hi, h.resolve_left hj, hones]
  · have hout : (bs.take j).length ≤ i := by rw [List.length_take]; omega
    rw [program_outside (Or.inr (by omega)), program_outside (Or.inr (by omega))]

/-- Two writes one behind the other are one write. -/
theorem program_append (m : Mem) (a : Nat) (xs ys : List Byte) :
    program (program m a xs) (a + xs.length) ys = program m a (xs ++ ys) := by
  funext x
  by_cases hx : a ≤ x
  · obtain ⟨i, rfl⟩ := Nat.exists_eq_add_of_le hx
    by_cases hi : i < xs.length
    · rw [program_outside (Or.inl (by omega)), program_inside hi,
        program_inside (by rw [List.length_append]; omega), List.getD_append _ _ _ _ hi]
    · by_cases hj : i < xs.length + ys.length
      · obtain ⟨j, rfl⟩ := Nat.exists_eq_add_of_le (Nat.le_of_not_lt hi)
        rw [← Nat.add_assoc, program_inside (by omega), program_outside (Or.inr (by omega)), Nat.add_assoc,
          program_inside (by rw [List.length_append]; omega), List.getD_append_right _ _ _ _ (by omega),
          Nat.add_sub_cancel_left]
      · rw [program_outside (Or.inr (by omega)), program_outside (Or.inr (by omega)),
          program_outside (by rw [List.length_append]; omega)]
  · rw [program_outside (Or.inl (by omega)), program_outside (Or.inl (by omega)), program_outside (Or.inl (by omega))]

theorem program_byte (m : Mem) (a : Nat) (v : Byte) : program m a [v] a = m a &&& v :=
  program_inside (i := 0) Nat.one_pos

theorem program_byte_ne {m : Mem} {a x : Nat} (v : Byte) (h : x ≠ a) : program m a [v] x = m x :=
  program_outside (by rw [List.length_singleton]; omega)

theorem read_byte (m : Mem) (a : Nat) : read m a 1 = [m a] := rfl

theorem read_program_eq_iff {m : Mem} {a : Nat} {bs : List Byte} :
    read (program m a bs) a bs.length = bs ↔ Fits m a bs := by
  rw [read_eq_iff]
  constructor
  · intro h i hi
    rw [← program_inside hi, h i hi]
  · intro h i hi
    rw [program_inside hi, h i hi]

theorem Erased.fits {m : Mem} {a : Nat} {bs : List Byte} (h : Erased m a bs.length) : Fits m a bs := by
  intro i hi
  rw [h (a + i) (by omega) (by omega)]
  exact BitVec.allOnes_and

theorem Fits.congr {m m' : Mem} {a : Nat} {bs : List Byte} (h : Fits m a bs)
    (heq : ∀ x, a ≤ x → x < a + bs.length → m' x = m x) : Fits m' a bs := fun i hi => by
  rw [heq _ (by omega) (by omega)]
  exact h i hi

theorem fits_append {m : Mem} {a : Nat} {xs ys : List Byte} :
    Fits m a (xs ++ ys) ↔ Fits m a xs ∧ Fits m (a + xs.length) ys := by
  constructor
  · refine fun h => ⟨fun i hi => ?_, fun i hi => ?_⟩
    · have hboth := h i (by rw [List.length_append]; omega)
      rwa [List.getD_append _ _ _ _ hi] at hboth
    · have hboth := h (xs.length + i) (by rw [List.length_append]; omega)
      rwa [List.getD_append_right _ _ _ _ (by omega), Nat.add_sub_cancel_left, ← Nat.add_assoc] at hboth
  · rintro ⟨hxs, hys⟩ i hi
    by_cases hl : i < xs.length
    · rw [List.getD_append _ _ _ _ hl]
      exact hxs i hl
    · obtain ⟨j, rfl⟩ := Nat.exists_eq_add_of_le (Nat.le_of_not_lt hl)
      rw [List.length_append] at hi
      rw [List.getD_append_right _ _ _ _ (by omega), Nat.add_sub_cancel_left, ← Nat.add_assoc]
      exact hys j (by omega)

/-- Data that fits still does when a part of it has been written already. -/
theorem Fits.program_take {m : Mem} {a : Nat} {bs : List Byte} (h : Fits m a bs) (j : Nat) :
    Fits (program m a (bs.take j)) a bs := by
  intro i hi
  by_cases hj : i < j
  · rw [NorFlash.program_take (Or.inl hj), program_inside hi, h i hi, BitVec.and_self]
  · rw [program_outside (Or.inr (by rw [List.length_take]; omega)), h i hi]

/-- A bit that is clear stays clear. -/
theorem program_and_mask {m : Mem} {a : Nat} {bs : List Byte} {x : Nat} {mask : Byte}
    (h : m x &&& mask ≠ mask) : program m a bs x &&& mask ≠ mask := by
  unfold program
  split
  · intro hall
    refine h (BitVec.eq_of_getLsbD_eq fun i hi => ?_)
    have hbit := congrArg (fun v => v.getLsbD i) hall
    simp only [BitVec.getLsbD_and] at hbit ⊢
    cases hm : (m x).getLsbD i <;> cases hk : mask.getLsbD i <;> simp_all
  · exact h

end NorFlash
