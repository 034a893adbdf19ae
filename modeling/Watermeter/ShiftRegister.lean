import Mathlib.Data.BitVec
import Mathlib.Data.List.Basic

/-! A linear feedback register of any width, fed one bit at a time from the low end: checksums of the
reflected kind. One shift is linear in exclusive or, and it can be undone when the generator has its top
bit set; both carry over to whole messages. -/

namespace ShiftRegister

variable {w : Nat} (g : BitVec w)

/-- One shift: the generator is added for a bit shifted out. -/
def shift (c : BitVec w) : BitVec w := if c.getLsbD 0 then (c >>> 1) ^^^ g else c >>> 1

/-- `n` shifts. -/
def shifts (n : Nat) (c : BitVec w) : BitVec w := (shift g)^[n] c

/-- A bit as a word. -/
def unit (b : Bool) : BitVec w := (BitVec.ofBool b).setWidth w

/-- A bit is added at the low end and shifted through. -/
def feed (c : BitVec w) (b : Bool) : BitVec w := shift g (c ^^^ unit b)

/-- The register after a message. -/
def absorb (c : BitVec w) (bits : List Bool) : BitVec w := bits.foldl (feed g) c

/-- A message as a word, the first bit lowest. -/
def word : List Bool → BitVec w
  | [] => 0#w
  | b :: bs => unit b ^^^ (word bs <<< 1)

/-- The bits of a word, the lowest first. -/
def bitsOf {n : Nat} (x : BitVec n) : List Bool := (List.range n).map x.getLsbD

/-! ### One shift -/

private theorem xor_cross (a b c d : BitVec w) : a ^^^ b ^^^ (c ^^^ d) = a ^^^ c ^^^ (b ^^^ d) := by ac_rfl

theorem shift_xor (c d : BitVec w) : shift g (c ^^^ d) = shift g c ^^^ shift g d := by
  simp only [shift, BitVec.getLsbD_xor, BitVec.ushiftRight_xor_distrib]
  rcases hc : c.getLsbD 0 <;> rcases hd : d.getLsbD 0
  · simp
  · simp only [Bool.false_xor, if_true, Bool.false_eq_true, if_false]; ac_rfl
  · simp only [Bool.xor_false, if_true, Bool.false_eq_true, if_false]; ac_rfl
  · simp only [Bool.xor_self, if_true, Bool.false_eq_true, if_false]
    rw [xor_cross, BitVec.xor_self, BitVec.xor_zero]

/-- A word with its lowest bit clear only moves down. -/
theorem shift_of_even {c : BitVec w} (h : c.getLsbD 0 = false) : shift g c = c >>> 1 := by simp [shift, h]

variable {g}

/-- The top bit after a shift is the bit that was shifted out. -/
theorem shift_top (hg : g.getLsbD (w - 1) = true) (c : BitVec w) :
    (shift g c).getLsbD (w - 1) = c.getLsbD 0 := by
  have hw : 0 < w := by
    apply Nat.pos_of_ne_zero
    intro h
    subst h
    simp at hg
  have hout : (c >>> 1).getLsbD (w - 1) = false := by
    rw [BitVec.getLsbD_ushiftRight]; exact BitVec.getLsbD_of_ge _ _ (by omega)
  rcases hb : c.getLsbD 0 <;> simp [shift, hb, hout, hg, BitVec.getLsbD_xor]

/-- A shift can be undone: the top bit says whether the generator was added. -/
theorem shift_injective (hg : g.getLsbD (w - 1) = true) {c d : BitVec w} (h : shift g c = shift g d) : c = d := by
  have hlow : c.getLsbD 0 = d.getLsbD 0 := by rw [← shift_top hg c, h, shift_top hg d]
  have hhigh : c >>> 1 = d >>> 1 := by
    unfold shift at h
    rw [hlow] at h
    split at h
    · exact (BitVec.xor_left_inj g).mp h
    · exact h
  apply BitVec.eq_of_getLsbD_eq
  intro i hi
  cases i with
  | zero => exact hlow
  | succ i =>
      have hbit := congrArg (fun x : BitVec w => x.getLsbD i) hhigh
      simpa [BitVec.getLsbD_ushiftRight, Nat.add_comm] using hbit

/-! ### Several shifts -/

theorem shifts_succ (n : Nat) (c : BitVec w) : shifts g (n + 1) c = shifts g n (shift g c) := rfl

theorem shifts_xor (n : Nat) (c d : BitVec w) : shifts g n (c ^^^ d) = shifts g n c ^^^ shifts g n d := by
  induction n generalizing c d with
  | zero => rfl
  | succ n ih => rw [shifts_succ, shift_xor, ih, ← shifts_succ, ← shifts_succ]

theorem shifts_injective (hg : g.getLsbD (w - 1) = true) (n : Nat) {c d : BitVec w}
    (h : shifts g n c = shifts g n d) : c = d := by
  induction n generalizing c d with
  | zero => exact h
  | succ n ih => exact shift_injective hg (ih h)

/-- A word with its `n` lowest bits clear only moves down through `n` shifts. -/
theorem shifts_of_low {n : Nat} {c : BitVec w} (h : ∀ i, i < n → c.getLsbD i = false) :
    shifts g n c = c >>> n := by
  induction n generalizing c with
  | zero => simp [shifts]
  | succ n ih =>
      rw [shifts_succ, shift_of_even g (h 0 (by omega)), ih, ← BitVec.shiftRight_add, Nat.add_comm]
      intro i hi
      rw [BitVec.getLsbD_ushiftRight]
      exact h (1 + i) (by omega)

/-! ### Messages -/

theorem absorb_append (c : BitVec w) (p q : List Bool) : absorb g c (p ++ q) = absorb g (absorb g c p) q :=
  List.foldl_append

theorem unit_xor (a b : Bool) : (unit (a ^^ b) : BitVec w) = unit a ^^^ unit b := by
  cases a <;> cases b <;> simp [unit]

theorem feed_xor (c d : BitVec w) (a b : Bool) : feed g (c ^^^ d) (a ^^ b) = feed g c a ^^^ feed g d b := by
  rw [feed, unit_xor, xor_cross, shift_xor, ← feed, ← feed]

/-- The register is additive in the start and the message together. -/
theorem absorb_xor (c d : BitVec w) {p q : List Bool} (h : p.length = q.length) :
    absorb g (c ^^^ d) (List.zipWith xor p q) = absorb g c p ^^^ absorb g d q := by
  induction p generalizing c d q with
  | nil =>
      cases q with
      | nil => rfl
      | cons b q => simp at h
  | cons a p ih =>
      cases q with
      | nil => simp at h
      | cons b q =>
          simp only [absorb, List.zipWith_cons_cons, List.foldl_cons, feed_xor]
          exact ih _ _ (by simpa using h)

/-- For one start the checksum is affine in the message. -/
theorem absorb_affine (c : BitVec w) {p q r : List Bool} (hq : p.length = q.length) (hr : p.length = r.length) :
    absorb g c (List.zipWith xor (List.zipWith xor p q) r) = absorb g c p ^^^ absorb g c q ^^^ absorb g c r := by
  have hlen : (List.zipWith xor p q).length = r.length := by simp [← hq, hr]
  rw [← absorb_xor c c hq, ← absorb_xor _ c hlen, BitVec.xor_self, BitVec.zero_xor]

theorem feed_injective (hg : g.getLsbD (w - 1) = true) {c d : BitVec w} {b : Bool} (h : feed g c b = feed g d b) :
    c = d :=
  (BitVec.xor_left_inj _).mp (shift_injective hg h)

/-- The message leaves different registers different. -/
theorem absorb_injective (hg : g.getLsbD (w - 1) = true) (p : List Bool) {c d : BitVec w}
    (h : absorb g c p = absorb g d p) : c = d := by
  induction p generalizing c d with
  | nil => exact h
  | cons b p ih => exact feed_injective hg (ih h)

/-! ### Messages no longer than the register -/

theorem getLsbD_unit (b : Bool) (i : Nat) : (unit b : BitVec w).getLsbD i = (decide (i = 0 ∧ i < w) && b) := by
  rw [unit, BitVec.getLsbD_setWidth, BitVec.getLsbD_ofBool]
  by_cases hi : i = 0 <;> simp [hi]

theorem getLsbD_word (p : List Bool) (i : Nat) : (word p : BitVec w).getLsbD i = (decide (i < w) && p.getD i false) := by
  induction p generalizing i with
  | nil => simp [word]
  | cons b p ih =>
      rw [word, BitVec.getLsbD_xor, getLsbD_unit, BitVec.getLsbD_shiftLeft]
      cases i with
      | zero => simp
      | succ i =>
          rw [Nat.add_sub_cancel, ih]
          have hlt : i + 1 < w → i < w := fun h => by omega
          by_cases hi : i + 1 < w <;> simp [hi, hlt]

/-- A message shorter than the register does not lose its last bit when it moves up. -/
theorem shift_word {p : List Bool} (h : p.length < w) : shift g (word p <<< 1) = word p := by
  rw [shift_of_even g (by simp)]
  apply BitVec.eq_of_getLsbD_eq
  intro i hi
  rw [BitVec.getLsbD_ushiftRight, BitVec.getLsbD_shiftLeft]
  by_cases hlast : 1 + i < w
  · simp [hlast]
  · have hout : p.length ≤ i := by omega
    simp [hlast, getLsbD_word, List.getElem?_eq_none hout]

/-- Absorbing a short message is adding it as a word and shifting it through. -/
theorem absorb_eq_shifts (c : BitVec w) {p : List Bool} (h : p.length ≤ w) :
    absorb g c p = shifts g p.length (c ^^^ word p) := by
  induction p generalizing c with
  | nil => simp [absorb, word, shifts]
  | cons b p ih =>
      have hshort : p.length < w := h
      calc absorb g c (b :: p) = absorb g (feed g c b) p := rfl
        _ = shifts g p.length (feed g c b ^^^ word p) := ih _ hshort.le
        _ = shifts g p.length (shift g (c ^^^ unit b) ^^^ shift g (word p <<< 1)) := by
            rw [feed, shift_word hshort]
        _ = shifts g (p.length + 1) (c ^^^ word (b :: p)) := by
            rw [← shift_xor, ← shifts_succ, word, BitVec.xor_assoc]

theorem word_injective {p q : List Bool} (hlen : p.length = q.length) (hw : p.length ≤ w)
    (h : (word p : BitVec w) = word q) : p = q := by
  apply List.ext_getElem hlen
  intro i hp hq
  have hbit := congrArg (fun x : BitVec w => x.getLsbD i) h
  have hiw : i < w := by omega
  simp only [getLsbD_word] at hbit
  simpa [hiw, hp, hq] using hbit

/-- Two short messages of one length leave different registers. -/
theorem absorb_short_injective (hg : g.getLsbD (w - 1) = true) {c : BitVec w} {p q : List Bool}
    (hlen : p.length = q.length) (hw : p.length ≤ w) (h : absorb g c p = absorb g c q) : p = q := by
  rw [absorb_eq_shifts c hw, absorb_eq_shifts c (hlen ▸ hw), hlen] at h
  exact word_injective hlen hw ((BitVec.xor_right_inj c).mp (shifts_injective hg _ h))

/-- A burst no longer than the register never goes undetected. -/
theorem absorb_burst (hg : g.getLsbD (w - 1) = true) {c : BitVec w} {p q : List Bool} (hlen : p.length = q.length)
    (s : Nat) (hwin : ∀ i, p.getD i false ≠ q.getD i false → s ≤ i ∧ i < s + w)
    (h : absorb g c p = absorb g c q) : p = q := by
  have hsame : ∀ i, ¬(s ≤ i ∧ i < s + w) → p[i]? = q[i]? := by
    intro i hi
    by_cases hp : i < p.length
    · have hbit := not_imp_comm.mp (hwin i) hi
      simpa [hp, hlen ▸ hp] using hbit
    · rw [List.getElem?_eq_none (Nat.not_lt.mp hp), List.getElem?_eq_none (hlen ▸ Nat.not_lt.mp hp)]
  have hhead : p.take s = q.take s := by
    refine List.ext_getElem? fun i => ?_
    rw [List.getElem?_take, List.getElem?_take]
    split
    · exact hsame i (by omega)
    · rfl
  have htail : p.drop (s + w) = q.drop (s + w) := by
    refine List.ext_getElem? fun i => ?_
    rw [List.getElem?_drop, List.getElem?_drop]
    exact hsame _ (by omega)
  have hsplit : ∀ r : List Bool, r = r.take s ++ (r.drop s).take w ++ r.drop (s + w) := by
    intro r
    rw [List.append_assoc, ← List.drop_drop, List.take_append_drop, List.take_append_drop]
  have hmid : (p.drop s).take w = (q.drop s).take w := by
    rw [hsplit p, hsplit q, hhead, htail, absorb_append, absorb_append, absorb_append, absorb_append] at h
    refine absorb_short_injective hg ?_ ?_ (absorb_injective hg _ h)
    · rw [List.length_take, List.length_take, List.length_drop, List.length_drop, hlen]
    · rw [List.length_take]; exact Nat.min_le_left _ _
  rw [hsplit p, hsplit q, hhead, hmid, htail]

/-! ### Octets and other groups of bits -/

@[simp] theorem length_bitsOf {n : Nat} (x : BitVec n) : (bitsOf x).length = n := by simp [bitsOf]

theorem getElem?_bitsOf {n : Nat} (x : BitVec n) {i : Nat} (h : i < n) : (bitsOf x)[i]? = some (x.getLsbD i) := by
  simp [bitsOf, h]

theorem word_bitsOf {n : Nat} (x : BitVec n) : (word (bitsOf x) : BitVec w) = x.setWidth w := by
  apply BitVec.eq_of_getLsbD_eq
  intro i hi
  rw [getLsbD_word, BitVec.getLsbD_setWidth]
  by_cases hn : i < n
  · simp [getElem?_bitsOf x hn]
  · simp [bitsOf, hn, BitVec.getLsbD_of_ge x i (Nat.not_lt.mp hn)]

/-- A group of bits is absorbed by adding it and shifting it through. -/
theorem absorb_bitsOf {n : Nat} (hn : n ≤ w) (c : BitVec w) (x : BitVec n) :
    absorb g c (bitsOf x) = shifts g n (c ^^^ x.setWidth w) := by
  rw [absorb_eq_shifts c (by rw [length_bitsOf]; exact hn), length_bitsOf, word_bitsOf]

theorem bitsOf_xor {n : Nat} (x y : BitVec n) : bitsOf (x ^^^ y) = List.zipWith xor (bitsOf x) (bitsOf y) := by
  refine List.ext_getElem? fun i => ?_
  by_cases hn : i < n
  · rw [getElem?_bitsOf _ hn, List.getElem?_zipWith, getElem?_bitsOf _ hn, getElem?_bitsOf _ hn, BitVec.getLsbD_xor]
  · rw [List.getElem?_eq_none (by simpa using hn), List.getElem?_eq_none (by simpa using hn)]

/-- Bit `k` of a sequence of groups is bit `k % n` of group `k / n`. -/
theorem getD_flatMap_bitsOf {n : Nat} (hn : 0 < n) (xs : List (BitVec n)) (k : Nat) :
    (xs.flatMap bitsOf).getD k false = (xs.getD (k / n) 0#n).getLsbD (k % n) := by
  induction xs generalizing k with
  | nil => simp
  | cons x xs ih =>
      rw [List.flatMap_cons, List.getD_eq_getElem?_getD]
      by_cases hk : k < n
      · rw [List.getElem?_append_left (by rw [length_bitsOf]; exact hk), getElem?_bitsOf x hk,
          Nat.div_eq_of_lt hk, Nat.mod_eq_of_lt hk]
        rfl
      · obtain ⟨k, rfl⟩ := Nat.exists_eq_add_of_le' (Nat.not_lt.mp hk)
        rw [List.getElem?_append_right (by rw [length_bitsOf]; omega), length_bitsOf, Nat.add_sub_cancel,
          ← List.getD_eq_getElem?_getD, ih, Nat.add_div_right _ hn, Nat.add_mod_right, List.getD_cons_succ]

theorem flatMap_bitsOf_injective {n : Nat} {xs ys : List (BitVec n)} (hlen : xs.length = ys.length)
    (h : xs.flatMap bitsOf = ys.flatMap bitsOf) : xs = ys := by
  refine List.ext_getElem hlen fun i hx hy => BitVec.eq_of_getLsbD_eq fun k hk => ?_
  have hbit := congrArg (fun bits : List Bool => bits.getD (n * i + k) false) h
  have hn : 0 < n := by omega
  simp only [getD_flatMap_bitsOf hn, Nat.mul_add_div hn, Nat.mul_add_mod, Nat.div_eq_of_lt hk, Nat.mod_eq_of_lt hk,
    Nat.add_zero] at hbit
  simpa [hx, hy] using hbit

theorem flatMap_bitsOf_xor {n : Nat} (xs ys : List (BitVec n)) :
    (List.zipWith (· ^^^ ·) xs ys).flatMap bitsOf = List.zipWith xor (xs.flatMap bitsOf) (ys.flatMap bitsOf) := by
  induction xs generalizing ys with
  | nil => simp
  | cons x xs ih =>
      cases ys with
      | nil => simp
      | cons y ys =>
          rw [List.zipWith_cons_cons, List.flatMap_cons, List.flatMap_cons, List.flatMap_cons, ih, bitsOf_xor,
            List.zipWith_append (by simp)]

/-- Groups that differ only in a window of groups differ only in the window of their bits. -/
theorem window_bitsOf {n : Nat} (hn : 0 < n) {xs ys : List (BitVec n)} {i k : Nat}
    (h : ∀ j, xs.getD j 0#n ≠ ys.getD j 0#n → i ≤ j ∧ j < i + k) (b : Nat)
    (hb : (xs.flatMap bitsOf).getD b false ≠ (ys.flatMap bitsOf).getD b false) :
    n * i ≤ b ∧ b < n * i + n * k := by
  rw [getD_flatMap_bitsOf hn, getD_flatMap_bitsOf hn] at hb
  obtain ⟨hl, hr⟩ := h (b / n) fun heq => hb (by rw [heq])
  rw [Nat.le_div_iff_mul_le hn, Nat.mul_comm] at hl
  rw [Nat.div_lt_iff_lt_mul hn, Nat.mul_comm, Nat.mul_add] at hr
  exact ⟨hl, hr⟩

/-- A register that takes its groups one after the other. -/
theorem foldl_eq_absorb {n : Nat} {step : BitVec w → BitVec n → BitVec w}
    (h : ∀ c x, step c x = absorb g c (bitsOf x)) (c : BitVec w) (xs : List (BitVec n)) :
    xs.foldl step c = absorb g c (xs.flatMap bitsOf) := by
  rw [absorb, List.foldl_flatMap]
  exact List.foldl_ext _ _ _ fun c x _ => h c x

/-- The table step: the shifts of the lowest bits, and the rest moved down. -/
theorem shifts_split {n : Nat} (hn : n ≤ w) (c : BitVec w) :
    shifts g n c = (c >>> n) ^^^ shifts g n ((c.setWidth n).setWidth w) := by
  have hlow : ∀ i, i < n → (c ^^^ (c.setWidth n).setWidth w).getLsbD i = false := by
    intro i hi
    have hw : i < w := by omega
    simp [hi, hw]
  have hmove : (c ^^^ (c.setWidth n).setWidth w) >>> n = c >>> n := by
    apply BitVec.eq_of_getLsbD_eq
    intro i _
    simp [BitVec.getLsbD_ushiftRight, BitVec.getLsbD_xor, BitVec.getLsbD_setWidth]
  calc shifts g n c
      = shifts g n (c ^^^ (c.setWidth n).setWidth w ^^^ (c.setWidth n).setWidth w) := by
        rw [BitVec.xor_assoc, BitVec.xor_self, BitVec.xor_zero]
    _ = (c >>> n) ^^^ shifts g n ((c.setWidth n).setWidth w) := by
        rw [shifts_xor, shifts_of_low hlow, hmove]

end ShiftRegister
