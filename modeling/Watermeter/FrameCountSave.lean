import Watermeter.FrameCount

/-! Saving and reading the frame counter, with the power failing between any two commands. While the counts begin anew in
the other sector, the old ones count until the header there is written. -/

namespace Watermeter.Nv

open NorFlash CrashLogic

variable {m m' : Mem} {n : Nat} {counts new : List (BitVec 32)} {c : BitVec 32} {flag : BitVec 16}

/-! ### Records -/

theorem Records.congr (h : Records m n counts) (hn : n < 2)
    (hsame : ∀ x, moduleSectStart .nwkFrameCount n + 4 ≤ x → x < moduleSectEnd .nwkFrameCount n → m' x = m x) :
    Records m' n counts := by
  have hstart := payloadStart_eq hn
  have hend := (layout .nwkFrameCount hn).sectEnd
  have hsize : nvSectorSize .nwkFrameCount = 4096 := rfl
  have hnum : framecountNumPerSect = 1023 := rfl
  have hfits := h.fits
  refine ⟨hfits, fun i hi => ?_, h.written, h.free.congr fun x hl hr => hsame x (by omega) (by omega)⟩
  rw [read32_congr fun x hl hr => hsame x (by omega) (by omega), h.word i hi]

theorem records_nil (hn : n < 2) (h : Erased m (moduleSectStart .nwkFrameCount n) flashSectorSize) : Records m n [] := by
  have hstart := payloadStart_eq hn
  have hnum : framecountNumPerSect = 1023 := rfl
  refine ⟨Nat.zero_le _, fun i hi => absurd hi (Nat.not_lt_zero i), List.not_mem_nil, h.mono (by omega) ?_⟩
  unfold flashSectorSize
  show framecountPayloadStart n + 4 * 0 + 4 * (framecountNumPerSect - 0) ≤ _
  omega

/-- Where the next count goes. -/
def nextCount (n : Nat) (counts : List (BitVec 32)) : Nat := framecountPayloadStart n + 4 * counts.length

theorem nextCount_nil (n : Nat) : framecountPayloadStart n = nextCount n [] := by
  rw [nextCount, List.length_nil, Nat.mul_zero, Nat.add_zero]

theorem nextCount_singleton (n : Nat) (c : BitVec 32) : framecountPayloadStart n + 4 = nextCount n [c] := by
  rw [nextCount, List.length_singleton, Nat.mul_one]

theorem read32_bytes32 {a : Nat} (h : Erased m a 4) (c : BitVec 32) : read32 (program m a (bytes32 c)) a = c := by
  have hfits : Fits m a (bytes32 c) := Erased.fits h
  have hread : NorFlash.read (program m a (bytes32 c)) a 4 = bytes32 c := read_program_eq_iff.mpr hfits
  have hsplit : NorFlash.read (program m a (bytes32 c)) a 4 =
      [program m a (bytes32 c) a, program m a (bytes32 c) (a + 1), program m a (bytes32 c) (a + 2),
        program m a (bytes32 c) (a + 3)] := rfl
  rw [hsplit] at hread
  simp only [bytes32, List.cons.injEq] at hread
  rw [read32, bytes32, hread.1, hread.2.1, hread.2.2.1, hread.2.2.2.1, u32_bytes]

/-- A count is written behind the others. -/
theorem Records.append (h : Records m n counts) (hroom : counts.length < framecountNumPerSect) (hc : c ≠ idleWord) :
    Records (program m (nextCount n counts) (bytes32 c)) n (counts ++ [c]) := by
  have hlen : (bytes32 c).length = 4 := rfl
  have hfree : Erased m (nextCount n counts) 4 := h.free.mono (le_refl _) (by unfold nextCount; omega)
  unfold nextCount at *
  refine ⟨by rw [List.length_append]; exact hroom, fun i hi => ?_, ?_, ?_⟩
  · rw [List.length_append, List.length_singleton] at hi
    by_cases hlast : i = counts.length
    · subst hlast
      rw [read32_bytes32 hfree, List.getElem_append_right (le_refl _)]
      simp
    · rw [read32_congr fun x hl hr => program_outside (by omega), h.word i (by omega),
        List.getElem_append_left]
  · rw [List.mem_append, List.mem_singleton, not_or]
    exact ⟨h.written, fun heq => hc heq.symm⟩
  · rw [List.length_append, List.length_singleton]
    exact (h.free.mono (by omega) (by omega)).congr fun x hl hr => program_outside (by omega)

/-- A word goes to one page. -/
theorem wp_frameCountWord {C : Mem → Prop} {R : Bool → Mem → Prop} (h : Records m n counts) (hn : n < 2)
    (hroom : counts.length < framecountNumPerSect) (hC : C m) (hC' : C (program m (nextCount n counts) (bytes32 c)))
    (hR : R true (program m (nextCount n counts) (bytes32 c))) :
    wp C (flashWriteWithCheck (nextCount n counts) (bytes32 c)) R m := by
  have haligned := (layout .nwkFrameCount hn).aligned
  have hstart := payloadStart_eq hn
  have hfree : Erased m (nextCount n counts) 4 := h.free.mono (le_refl _) (by unfold nextCount; omega)
  refine wp_flashWriteWithCheck (PageCut.whole ?_ hC hC') (Erased.fits hfree) hR
  have hlen : (bytes32 c).length = 4 := rfl
  unfold flashSectorSize at haligned
  unfold flashPageSize nextCount
  omega

theorem word_within (hn : n < 2) (hroom : counts.length < framecountNumPerSect) {x : Nat}
    (hx : x < moduleSectStart .nwkFrameCount n + 4 ∨ moduleSectEnd .nwkFrameCount n ≤ x) :
    program m (nextCount n counts) (bytes32 c) x = m x := by
  have hstart := payloadStart_eq hn
  have hend := (layout .nwkFrameCount hn).sectEnd
  have hsize : nvSectorSize .nwkFrameCount = 4096 := rfl
  have hnum : framecountNumPerSect = 1023 := rfl
  have hlen : (bytes32 c).length = 4 := rfl
  apply program_outside
  unfold nextCount
  omega

/-! ### The counts of the module -/

/-- A sector with a header that is found, and counts. -/
structure Counted (m : Mem) (flag : BitVec 16) (n : Nat) (counts : List (BitVec 32)) : Prop where
  lt : n < 2
  header : sectInfoAt m .nwkFrameCount n = usedSectInfo flag .nwkFrameCount n
  records : Records m n counts
  ne : counts ≠ []
  passed : Passed m .nwkFrameCount n

/-- The module keeps the counts: in a sector in use, or in one that has been made ready while the other is given up. -/
inductive KeepsCounts (m : Mem) (counts : List (BitVec 32)) : Prop
  | empty (h : ∀ n < 2, Rejected (sectInfoAt m .nwkFrameCount n) .nwkFrameCount) (hcounts : counts = [])
  | active (n : Nat) (h : Counted m nvSectorValidCheckCrc n counts)
  | half (n : Nat) (h : Counted m nvSectorValidReadyCheckCrc n counts)
      (hother : (sectInfoAt m .nwkFrameCount ((n + 1) % 2)).usedFlag &&& nvSectorInvalid = nvSectorInvalid)

theorem HeadersOnly.records (h : HeadersOnly .nwkFrameCount m m') (hn : n < 2) (hr : Records m n counts) :
    Records m' n counts := hr.congr hn fun _ hl hr => h.behind hn hl hr

theorem Counted.headers {flag' : BitVec 16} (ho : Counted m flag n counts) (h : HeadersOnly .nwkFrameCount m m')
    (hheader : sectInfoAt m' .nwkFrameCount n = usedSectInfo flag' .nwkFrameCount n)
    (hother : (sectInfoAt m' .nwkFrameCount ((n + 1) % 2)).usedFlag = nvSectorInvalid) : Counted m' flag' n counts :=
  ⟨ho.lt, hheader, h.records ho.lt ho.records, ho.ne, passed_invalid ho.lt hother⟩

theorem wp_countSector {C : Mem → Prop} {Q : Option Nat → Mem → Prop} (h : KeepsCounts m counts)
    (hC : ∀ m', Outside .nwkFrameCount m m' → KeepsCounts m' counts → C m')
    (hnone : (∀ n < 2, Rejected (sectInfoAt m .nwkFrameCount n) .nwkFrameCount) → counts = [] → Q none m)
    (hsome : ∀ n m', Outside .nwkFrameCount m m' → Counted m' nvSectorValidCheckCrc n counts → Q (some n) m') :
    wp C (nvSectorRead .nwkFrameCount) Q m := by
  have hnow : C m := hC m (Outside.refl _ m) h
  rcases h with ⟨hrej, rfl⟩ | ⟨n, ho⟩ | ⟨n, ho, hother⟩
  · exact wp_sectorRead_none hrej hnow (hnone hrej rfl)
  · exact wp_sectorRead_active ho.lt ho.passed ho.header hnow (hsome n m (Outside.refl _ m) ho)
  · refine wp_sectorRead_half ho.lt ho.passed ho.header hother hnow (fun m' hh hheader hflag => ?_) fun m' hh hheader hflag => ?_
    · exact hC m' hh.outside (.half n (ho.headers hh hheader hflag) (by rw [hflag, BitVec.and_self]))
    · have ho' := ho.headers hh hheader hflag
      exact ⟨hC m' hh.outside (.active n ho'), hsome n m' hh.outside ho'⟩

/-! ### The other sector -/

/-- The counts begin anew in the other sector, which has no header yet. -/
structure Staged (m : Mem) (n : Nat) (counts new : List (BitVec 32)) : Prop where
  old : Counted m nvSectorValidCheckCrc n counts
  blank : Erased m (moduleSectStart .nwkFrameCount ((n + 1) % 2)) 4
  records : Records m ((n + 1) % 2) new

theorem other_lt (n : Nat) : (n + 1) % 2 < 2 := Nat.mod_lt _ (by decide)

/-- Only the other sector has changed, and its header is not written. -/
theorem Counted.aside (h : Counted m nvSectorValidCheckCrc n counts)
    (hblank : Erased m' (moduleSectStart .nwkFrameCount ((n + 1) % 2)) 4)
    (hsame : ∀ x, moduleSectStart .nwkFrameCount n ≤ x → x < moduleSectEnd .nwkFrameCount n → m' x = m x) :
    Counted m' nvSectorValidCheckCrc n counts := by
  have hn := h.lt
  have hend := (layout .nwkFrameCount hn).sectEnd
  have hsize : nvSectorSize .nwkFrameCount = 4096 := rfl
  refine ⟨hn, ?_, h.records.congr hn fun x hl hr => hsame x (by omega) hr, h.ne, fun h1 => ?_⟩
  · rw [← h.header]
    exact readSectInfo_congr fun x hl hr => hsame x hl (by omega)
  · subst h1
    exact rejected_erased hblank

theorem apart (hn : n < 2) {x : Nat} (hl : moduleSectStart .nwkFrameCount n ≤ x) (hr : x < moduleSectEnd .nwkFrameCount n) :
    x < moduleSectStart .nwkFrameCount ((n + 1) % 2) ∨ moduleSectEnd .nwkFrameCount ((n + 1) % 2) ≤ x := by
  obtain ⟨h01, hend, hsect, hpos⟩ := sectors .nwkFrameCount
  have hcases : n = 0 ∨ n = 1 := by omega
  rcases hcases with rfl | rfl
  · exact Or.inl (by show x < moduleSectStart .nwkFrameCount 1; omega)
  · exact Or.inr (by show moduleSectEnd .nwkFrameCount 0 ≤ x; omega)

theorem Counted.eraseOther (h : Counted m nvSectorValidCheckCrc n counts) :
    Staged (erase m (moduleSectStart .nwkFrameCount ((n + 1) % 2)) flashSectorSize) n counts [] := by
  have hj := other_lt n
  have hend := (layout .nwkFrameCount hj).sectEnd
  have hsize : nvSectorSize .nwkFrameCount = flashSectorSize := rfl
  have herased := erased_erase m (moduleSectStart .nwkFrameCount ((n + 1) % 2)) flashSectorSize
  have hblank : Erased (erase m (moduleSectStart .nwkFrameCount ((n + 1) % 2)) flashSectorSize)
      (moduleSectStart .nwkFrameCount ((n + 1) % 2)) 4 := herased.mono (le_refl _) (by unfold flashSectorSize; omega)
  refine ⟨h.aside hblank fun x hl hr => erase_outside ?_, hblank, records_nil hj herased⟩
  have hapart := apart h.lt hl hr
  omega

theorem Staged.word (h : Staged m n counts new) (hroom : new.length < framecountNumPerSect) (hc : c ≠ idleWord) :
    Staged (program m (nextCount ((n + 1) % 2) new) (bytes32 c)) n counts (new ++ [c]) := by
  have hj := other_lt n
  have hidx := (layout .nwkFrameCount hj).idxStart
  have hblank := h.blank.congr fun x hl hr => word_within hj hroom (c := c) (Or.inl hr)
  refine ⟨h.old.aside hblank fun x hl hr => word_within hj hroom ?_, hblank, h.records.append hroom hc⟩
  have hapart := apart h.old.lt hl hr
  omega

theorem sector_outside (hn : n < 2)
    (h : ∀ x, x < moduleSectStart .nwkFrameCount n ∨ moduleSectEnd .nwkFrameCount n ≤ x → m' x = m x) :
    Outside .nwkFrameCount m m' := by
  obtain ⟨h01, hend, hsect, hpos⟩ := sectors .nwkFrameCount
  have hcases : n = 0 ∨ n = 1 := by omega
  intro x hx
  apply h x
  rcases hcases with rfl | rfl <;> omega

theorem erase_outside_module (hn : n < 2) (m : Mem) :
    Outside .nwkFrameCount m (erase m (moduleSectStart .nwkFrameCount n) flashSectorSize) := by
  have hend := (layout .nwkFrameCount hn).sectEnd
  have hsize : nvSectorSize .nwkFrameCount = flashSectorSize := rfl
  exact sector_outside hn fun x hx => erase_outside (by omega)

theorem word_outside_module (hn : n < 2) (hroom : counts.length < framecountNumPerSect) :
    Outside .nwkFrameCount m (program m (nextCount n counts) (bytes32 c)) :=
  sector_outside hn fun _ hx => word_within hn hroom (hx.imp_left fun hlt => by omega)

/-- The new counts take the place of the old ones. -/
theorem wp_frameCountSwitch {C : Mem → Prop} {Q : NvSts → Mem → Prop} (ret : NvSts) (h : Staged m n counts new) (hnew : new ≠ [])
    (hC : ∀ m', Outside .nwkFrameCount m m' → (KeepsCounts m' counts ∨ KeepsCounts m' new) → C m')
    (hQ : ∀ m', Outside .nwkFrameCount m m' → KeepsCounts m' new → Q ret m') :
    wp C (do
      if ← flashWriteWithCheck (moduleSectStart .nwkFrameCount ((n + 1) % 2))
          (usedSectInfo nvSectorValidReadyCheckCrc .nwkFrameCount ((n + 1) % 2)).toBytes then
        if ← flashWriteWithCheck (moduleSectStart .nwkFrameCount n) (bytes16 nvSectorInvalid) then
          let _ ← flashWriteWithCheck (moduleSectStart .nwkFrameCount ((n + 1) % 2)) (bytes16 nvSectorValidCheckCrc)
          return ret
        else return NvSts.checkSumError
      else return NvSts.checkSumError) Q m := by
  have hn := h.old.lt
  have hj := other_lt n
  have hback : ((n + 1) % 2 + 1) % 2 = n := by omega
  have hbits : nvSectorValidCheckCrc &&& nvSectorInvalid = nvSectorInvalid := by decide
  refine wp_switchHeaders ret .checkSumError .checkSumError hn h.old.header h.blank
    (hC m (Outside.refl _ m) (Or.inl (.active n h.old))) (fun m' hh hold hnew' => ?_) (fun m' hh hold hnew' => ?_)
    fun m' hh hold hnew' => ?_
  · have hcases : n = 0 ∨ n = 1 := by omega
    apply hC m' hh.outside
    rcases hcases with rfl | rfl
    · exact Or.inl (.active 0 ⟨hn, hold, hh.records hn h.old.records, h.old.ne, fun h1 => absurd h1 Nat.zero_ne_one⟩)
    · refine Or.inr (.half 0 ⟨hj, hnew', hh.records hj h.records, hnew, fun h1 => absurd h1 Nat.zero_ne_one⟩ ?_)
      rw [show (0 + 1) % 2 = 1 from rfl, hold]
      exact hbits
  · refine hC m' hh.outside (Or.inr (.half _ ⟨hj, hnew', hh.records hj h.records, hnew, passed_invalid hj ?_⟩ ?_))
    · rw [hback, hold]
    · rw [hback, hold, BitVec.and_self]
  · have hm' : KeepsCounts m' new :=
      .active _ ⟨hj, hnew', hh.records hj h.records, hnew, passed_invalid hj (by rw [hback, hold])⟩
    exact ⟨hC m' hh.outside (Or.inr hm'), hQ m' hh.outside hm'⟩

/-! ### Saving -/

/-- The counts once another one is saved. A sector that is full is followed by one that begins with its last count. -/
def saveCount (counts : List (BitVec 32)) (c : BitVec 32) : List (BitVec 32) :=
  if counts.length < framecountNumPerSect then counts ++ [c] else counts.getLast?.toList ++ [c]

theorem frameCountHeader_same (forceChgSec : Option Nat) {opSect wAddr : Nat} (h : wAddr ≠ framecountPayloadStart opSect)
    (ret : NvSts) : frameCountHeader forceChgSec false opSect opSect wAddr ret = return ret := by
  rw [frameCountHeader, if_neg]
  rintro (hfalse | heq)
  · exact Bool.false_ne_true hfalse
  · exact h heq

section Save

variable {C : Mem → Prop} {Q : NvSts → Mem → Prop}

/-- There is room in the sector in use. -/
theorem wp_frameCountWrite_append (ho : Counted m nvSectorValidCheckCrc n counts)
    (hroom : counts.length < framecountNumPerSect) (hc : c ≠ idleWord) (ret : NvSts)
    (hC : ∀ m', Outside .nwkFrameCount m m' → (KeepsCounts m' counts ∨ KeepsCounts m' (counts ++ [c])) → C m')
    (hQ : ∀ m', Outside .nwkFrameCount m m' → KeepsCounts m' (counts ++ [c]) → Q ret m') :
    wp C (frameCountWrite none c n ret) Q m := by
  have hn := ho.lt
  have hstart := payloadStart_eq hn
  have hend := (layout .nwkFrameCount hn).sectEnd
  have hsize : nvSectorSize .nwkFrameCount = 4096 := rfl
  have hnum : framecountNumPerSect = 1023 := rfl
  have hpos : 0 < counts.length := List.length_pos_of_ne_nil ho.ne
  have hnow : C m := hC m (Outside.refl _ m) (Or.inl (.active n ho))
  have hout : Outside .nwkFrameCount m (program m (nextCount n counts) (bytes32 c)) := word_outside_module hn hroom
  have hwithin : ∀ x, x < moduleSectStart .nwkFrameCount n + 4 ∨ moduleSectEnd .nwkFrameCount n ≤ x →
      program m (nextCount n counts) (bytes32 c) x = m x := fun x hx => word_within hn hroom hx
  have hdone : KeepsCounts (program m (nextCount n counts) (bytes32 c)) (counts ++ [c]) := by
    refine .active n ⟨hn, ?_, ho.records.append hroom hc, by simp, fun h1 => ?_⟩
    · rw [← ho.header]
      exact readSectInfo_congr fun x hl hr => hwithin x (Or.inl hr)
    · subst h1
      obtain ⟨h01, -, hsect, hpos'⟩ := sectors .nwkFrameCount
      have hsame : sectInfoAt (program m (nextCount 1 counts) (bytes32 c)) .nwkFrameCount 0 = sectInfoAt m .nwkFrameCount 0 :=
        readSectInfo_congr fun x hl hr => hwithin x (Or.inl (by omega))
      rw [hsame]
      exact ho.passed rfl
  have hcut : C (program m (nextCount n counts) (bytes32 c)) := hC _ hout (Or.inr hdone)
  have hlast : ∃ last, counts.getLast? = some last := ⟨_, List.getLast?_eq_some_getLast ho.ne⟩
  obtain ⟨last, hlast⟩ := hlast
  refine wp_bind.mpr (wp_get.mpr ⟨hnow, ?_⟩)
  rw [nvNwkFrameCountSearch_eq ho.records hn, hlast]
  dsimp only
  rw [if_neg (by omega)]
  refine wp_bind.mpr (wp_frameCountWord ho.records hn hroom hnow hcut ?_)
  rw [if_pos rfl, frameCountHeader_same none (by omega)]
  exact wp_pure.mpr ⟨hcut, hQ _ hout hdone⟩

theorem wp_flashErase {R : Unit → Mem → Prop} {addr : Nat} (haligned : addr % flashSectorSize = 0) (hC : C m)
    (hC' : C (erase m addr flashSectorSize)) (hR : R () (erase m addr flashSectorSize)) : wp C (flashErase addr) R m := by
  have happly : Medium.apply m (FlashOp.erase addr) = erase m addr flashSectorSize := by
    show erase m (addr - addr % flashSectorSize) flashSectorSize = _
    rw [haligned, Nat.sub_zero]
  refine wp_perform.mpr ⟨hC, ?_⟩
  rw [happly]
  exact ⟨hC', hR⟩

/-- The sector is full. -/
theorem wp_frameCountWrite_full (ho : Counted m nvSectorValidCheckCrc n counts) (hfull : counts.length = framecountNumPerSect)
    (hc : c ≠ idleWord) (ret : NvSts)
    (hC : ∀ m', Outside .nwkFrameCount m m' → (KeepsCounts m' counts ∨ KeepsCounts m' (counts.getLast?.toList ++ [c])) → C m')
    (hQ : ∀ m', Outside .nwkFrameCount m m' → KeepsCounts m' (counts.getLast?.toList ++ [c]) → Q ret m') :
    wp C (frameCountWrite none c n ret) Q m := by
  have hn := ho.lt
  have hj := other_lt n
  have hstart := payloadStart_eq hn
  have hend := (layout .nwkFrameCount hn).sectEnd
  have hsize : nvSectorSize .nwkFrameCount = 4096 := rfl
  have hnum : framecountNumPerSect = 1023 := rfl
  have hlast : counts.getLast? = some (counts.getLast ho.ne) := List.getLast?_eq_some_getLast ho.ne
  have hidle : counts.getLast ho.ne ≠ idleWord := fun heq => ho.records.written (heq ▸ List.getLast_mem ho.ne)
  obtain ⟨last, hlast_eq⟩ : ∃ last, last = counts.getLast ho.ne := ⟨_, rfl⟩
  rw [← hlast_eq] at hlast hidle
  obtain ⟨m₁, hm₁⟩ : ∃ m₁, m₁ = erase m (moduleSectStart .nwkFrameCount ((n + 1) % 2)) flashSectorSize := ⟨_, rfl⟩
  have hs₁ : Staged m₁ n counts [] := hm₁ ▸ ho.eraseOther
  have hout₁ : Outside .nwkFrameCount m m₁ := hm₁ ▸ erase_outside_module hj m
  obtain ⟨m₂, hm₂⟩ : ∃ m₂, m₂ = program m₁ (nextCount ((n + 1) % 2) []) (bytes32 last) := ⟨_, rfl⟩
  have hs₂ : Staged m₂ n counts [last] := hm₂ ▸ hs₁.word (by decide) hidle
  have hout₂ : Outside .nwkFrameCount m m₂ := hout₁.trans (hm₂ ▸ word_outside_module hj (by decide))
  obtain ⟨m₃, hm₃⟩ : ∃ m₃, m₃ = program m₂ (nextCount ((n + 1) % 2) [last]) (bytes32 c) := ⟨_, rfl⟩
  have hs₃ : Staged m₃ n counts [last, c] := hm₃ ▸ hs₂.word (by show 1 < framecountNumPerSect; decide) hc
  have hout₃ : Outside .nwkFrameCount m m₃ :=
    hout₂.trans (hm₃ ▸ word_outside_module hj (by show 1 < framecountNumPerSect; decide))
  have hcut : ∀ {m' new}, Outside .nwkFrameCount m m' → Staged m' n counts new → C m' := fun hout hs =>
    hC _ hout (Or.inl (.active n hs.old))
  have hnow : C m := hC m (Outside.refl _ m) (Or.inl (.active n ho))
  have hnew : counts.getLast?.toList ++ [c] = [last, c] := by rw [hlast]; rfl
  rw [hnew] at hC hQ
  have haddr : modulesStartAddr .nwkFrameCount + (n + 1) % 2 * flashSectorSize =
      moduleSectStart .nwkFrameCount ((n + 1) % 2) := rfl
  have haligned : moduleSectStart .nwkFrameCount ((n + 1) % 2) % flashSectorSize = 0 := (layout .nwkFrameCount hj).aligned
  refine wp_bind.mpr (wp_get.mpr ⟨hnow, ?_⟩)
  rw [nvNwkFrameCountSearch_eq ho.records hn, hlast]
  dsimp only
  rw [if_pos (by omega), haddr, nextCount_singleton _ last, nextCount_nil]
  refine wp_bind.mpr (wp_flashErase haligned hnow (hm₁ ▸ hcut hout₁ hs₁) ?_)
  rw [← hm₁]
  refine wp_bind.mpr (wp_frameCountWord hs₁.records hj (by decide) (hcut hout₁ hs₁) (hm₂ ▸ hcut hout₂ hs₂) ?_)
  rw [if_pos rfl, ← hm₂]
  refine wp_bind.mpr (wp_frameCountWord hs₂.records hj (by show 1 < framecountNumPerSect; decide) (hcut hout₂ hs₂)
    (hm₃ ▸ hcut hout₃ hs₃) ?_)
  rw [if_pos rfl, ← hm₃]
  unfold frameCountHeader
  rw [if_pos (Or.inl rfl)]
  simp only [true_or, if_true, Option.getD_none]
  exact wp_frameCountSwitch ret hs₃ (by simp) (fun m' hout h => hC m' (hout₃.trans hout) h) fun m' hout h =>
    hQ m' (hout₃.trans hout) h

/-- The counts begin anew in a sector that has been erased for them. -/
theorem wp_frameCountWrite_forced (hs : Staged m n counts []) (hc : c ≠ idleWord) (ret : NvSts)
    (hC : ∀ m', Outside .nwkFrameCount m m' → (KeepsCounts m' counts ∨ KeepsCounts m' [c]) → C m')
    (hQ : ∀ m', Outside .nwkFrameCount m m' → KeepsCounts m' [c] → Q ret m') :
    wp C (frameCountWrite (some n) c ((n + 1) % 2) ret) Q m := by
  have hj := other_lt n
  have hnum : ([] : List (BitVec 32)).length < framecountNumPerSect := by decide
  have hsw : Staged (program m (nextCount ((n + 1) % 2) []) (bytes32 c)) n counts [c] := hs.word hnum hc
  have hout : Outside .nwkFrameCount m (program m (nextCount ((n + 1) % 2) []) (bytes32 c)) := word_outside_module hj hnum
  have hnow : C m := hC m (Outside.refl _ m) (Or.inl (.active n hs.old))
  have hcut : C (program m (nextCount ((n + 1) % 2) []) (bytes32 c)) := hC _ hout (Or.inl (.active n hsw.old))
  have hsearch : nvNwkFrameCountSearch m ((n + 1) % 2) = (none, nextCount ((n + 1) % 2) []) :=
    nvNwkFrameCountSearch_eq hs.records hj
  refine wp_bind.mpr (wp_get.mpr ⟨hnow, ?_⟩)
  rw [hsearch]
  refine wp_bind.mpr (wp_frameCountWord hs.records hj hnum hnow hcut ?_)
  rw [if_pos rfl]
  unfold frameCountHeader
  rw [if_pos (Or.inr (nextCount_nil _).symm)]
  simp only [Option.isSome_some, or_true, if_true, Option.getD_some]
  exact wp_frameCountSwitch ret hsw (by simp) (fun m' hout' h => hC m' (hout.trans hout') h) fun m' hout' h =>
    hQ m' (hout.trans hout') h

/-- The first count of all. -/
theorem wp_frameCountWrite_first (hfresh : Erased m (moduleSectStart .nwkFrameCount 0) flashSectorSize)
    (herased : Erased m (moduleSectStart .nwkFrameCount 1) 4) (hc : c ≠ idleWord) (ret : NvSts)
    (hC : ∀ m', Outside .nwkFrameCount m m' → (KeepsCounts m' [] ∨ KeepsCounts m' [c]) → C m')
    (hQ : ∀ m', Outside .nwkFrameCount m m' → KeepsCounts m' [c] → Q ret m') :
    wp C (frameCountWrite none c 0 ret) Q m := by
  have h0 : 0 < 2 := by decide
  obtain ⟨h01, hend, hsect, hpos⟩ := sectors .nwkFrameCount
  have hsize : nvSectorSize .nwkFrameCount = 4096 := rfl
  have hnum : ([] : List (BitVec 32)).length < framecountNumPerSect := by decide
  have hrec := records_nil h0 hfresh
  have hblank : Erased m (moduleSectStart .nwkFrameCount 0) 4 := hfresh.mono (le_refl _) (by unfold flashSectorSize; omega)
  have hkeep : ∀ {m'}, Erased m' (moduleSectStart .nwkFrameCount 0) 4 → Erased m' (moduleSectStart .nwkFrameCount 1) 4 →
      KeepsCounts m' [] := by
    intro m' he₀ he₁
    refine .empty (fun n hn => ?_) rfl
    have hcases : n = 0 ∨ n = 1 := by omega
    rcases hcases with rfl | rfl
    · exact rejected_erased he₀
    · exact rejected_erased he₁
  obtain ⟨m₁, hm₁⟩ : ∃ m₁, m₁ = program m (nextCount 0 []) (bytes32 c) := ⟨_, rfl⟩
  have hsame : ∀ x, x < moduleSectStart .nwkFrameCount 0 + 4 ∨ moduleSectEnd .nwkFrameCount 0 ≤ x → m₁ x = m x :=
    fun x hx => hm₁ ▸ word_within h0 hnum hx
  have hblank₁ : Erased m₁ (moduleSectStart .nwkFrameCount 0) 4 := hblank.congr fun x hl hr => hsame x (Or.inl hr)
  have herased₁ : Erased m₁ (moduleSectStart .nwkFrameCount 1) 4 :=
    herased.congr fun x hl hr => hsame x (Or.inr (by omega))
  have hrec₁ : Records m₁ 0 [c] := hm₁ ▸ hrec.append hnum hc
  have hout₁ : Outside .nwkFrameCount m m₁ := hm₁ ▸ word_outside_module h0 hnum
  obtain ⟨m₂, hm₂⟩ : ∃ m₂, m₂ = program m₁ (moduleSectStart .nwkFrameCount 0)
    (usedSectInfo nvSectorValidReadyCheckCrc .nwkFrameCount 0).toBytes := ⟨_, rfl⟩
  have hlen := usedSectInfo_length nvSectorValidReadyCheckCrc .nwkFrameCount 0
  have hheaders : HeadersOnly .nwkFrameCount m₁ m₂ := hm₂ ▸ headersOnly_program _ h0 hlen.le m₁
  have hother : (sectInfoAt m₂ .nwkFrameCount ((0 + 1) % 2)).usedFlag &&& nvSectorInvalid = nvSectorInvalid := by
    have hsame₂ : sectInfoAt m₂ .nwkFrameCount 1 = sectInfoAt m₁ .nwkFrameCount 1 :=
      hm₂ ▸ header_other (by decide) h0 (by decide) hlen.le m₁
    show (sectInfoAt m₂ .nwkFrameCount 1).usedFlag &&& nvSectorInvalid = nvSectorInvalid
    rw [hsame₂, sectInfoAt, readSectInfo_erased herased₁]
    decide
  have hdone : KeepsCounts m₂ [c] := .half 0
    ⟨h0, hm₂ ▸ sectInfoAt_program hblank₁ _, hheaders.records h0 hrec₁, by simp, fun h1 => absurd h1 Nat.zero_ne_one⟩ hother
  have hnow : C m := hC m (Outside.refl _ m) (Or.inl (hkeep hblank herased))
  have hcut₁ : C m₁ := hC m₁ hout₁ (Or.inl (hkeep hblank₁ herased₁))
  have hcut₂ : C m₂ := hC m₂ (hout₁.trans hheaders.outside) (Or.inr hdone)
  have hsearch : nvNwkFrameCountSearch m 0 = (none, nextCount 0 []) := nvNwkFrameCountSearch_eq hrec h0
  refine wp_bind.mpr (wp_get.mpr ⟨hnow, ?_⟩)
  rw [hsearch]
  refine wp_bind.mpr (wp_frameCountWord hrec h0 hnum hnow (hm₁ ▸ hcut₁) ?_)
  rw [if_pos rfl, ← hm₁]
  unfold frameCountHeader
  rw [if_pos (Or.inr (nextCount_nil _).symm)]
  refine wp_bind.mpr (wp_sectHeader h0 hblank₁ hcut₁ (hm₂ ▸ hcut₂) ?_)
  rw [if_pos rfl, if_neg (by simp), ← hm₂]
  exact wp_pure.mpr ⟨hcut₂, hQ m₂ (hout₁.trans hheaders.outside) hdone⟩

/-- `nv_nwkFrameCountSaveToFlashHandler` saves the count, or leaves what was saved before. -/
theorem wp_saveHandler (h : KeepsCounts m counts) (hc : c ≠ idleWord)
    (hC : ∀ m', Outside .nwkFrameCount m m' → (KeepsCounts m' counts ∨ KeepsCounts m' (saveCount counts c)) → C m')
    (hQ : ∀ m' ret, Outside .nwkFrameCount m m' → KeepsCounts m' (saveCount counts c) → ret ≠ .checkSumError → Q ret m') :
    wp C (nvNwkFrameCountSaveToFlashHandler none c) Q m := by
  refine wp_bind.mpr (wp_bind.mpr (wp_countSector h (fun m' hout hk => hC m' hout (Or.inl hk)) (fun hrej hnil => ?_)
    fun n m' hout ho => ?_))
  · subst hnil
    have hsaved : saveCount [] c = [c] := rfl
    rw [hsaved] at hC hQ
    obtain ⟨h01, hend, hsect, hpos⟩ := sectors .nwkFrameCount
    have hsize : nvSectorSize .nwkFrameCount = flashSectorSize := rfl
    have haligned : ∀ n < 2, moduleSectStart .nwkFrameCount n % flashSectorSize = 0 := fun n hn =>
      (layout .nwkFrameCount hn).aligned
    have hstart : ∀ j, modulesStartAddr .nwkFrameCount + j * flashSectorSize = moduleSectStart .nwkFrameCount j := fun _ => rfl
    obtain ⟨m₁, hm₁⟩ : ∃ m₁, m₁ = erase m (moduleSectStart .nwkFrameCount 0) flashSectorSize := ⟨_, rfl⟩
    obtain ⟨m₂, hm₂⟩ : ∃ m₂, m₂ = erase m₁ (moduleSectStart .nwkFrameCount 1) flashSectorSize := ⟨_, rfl⟩
    have hout₁ : Outside .nwkFrameCount m m₁ := hm₁ ▸ erase_outside_module (by decide) m
    have hout₂ : Outside .nwkFrameCount m m₂ := hout₁.trans (hm₂ ▸ erase_outside_module (by decide) m₁)
    have hfresh₁ : Erased m₁ (moduleSectStart .nwkFrameCount 0) flashSectorSize := hm₁ ▸ erased_erase _ _ _
    have hfresh₂ : Erased m₂ (moduleSectStart .nwkFrameCount 0) flashSectorSize :=
      hfresh₁.congr fun x hl hr => hm₂ ▸ erase_outside (Or.inl (by omega))
    have hblank₂ : Erased m₂ (moduleSectStart .nwkFrameCount 1) 4 :=
      (hm₂ ▸ erased_erase m₁ (moduleSectStart .nwkFrameCount 1) flashSectorSize : Erased m₂ _ _).mono (le_refl _)
        (by unfold flashSectorSize; omega)
    have hrej₁ : ∀ n < 2, Rejected (sectInfoAt m₁ .nwkFrameCount n) .nwkFrameCount := by
      intro n hn
      have hcases : n = 0 ∨ n = 1 := by omega
      rcases hcases with rfl | rfl
      · exact rejected_erased (hfresh₁.mono (le_refl _) (by unfold flashSectorSize; omega))
      · have hsame : sectInfoAt m₁ .nwkFrameCount 1 = sectInfoAt m .nwkFrameCount 1 :=
          readSectInfo_congr fun x hl hr => hm₁ ▸ erase_outside (Or.inr (by omega))
        rw [hsame]
        exact hrej 1 (by decide)
    have hrej₂ : ∀ n < 2, Rejected (sectInfoAt m₂ .nwkFrameCount n) .nwkFrameCount := by
      intro n hn
      have hcases : n = 0 ∨ n = 1 := by omega
      rcases hcases with rfl | rfl
      · exact rejected_erased (hfresh₂.mono (le_refl _) (by unfold flashSectorSize; omega))
      · exact rejected_erased hblank₂
    have hnow : C m := hC m (Outside.refl _ m) (Or.inl (.empty hrej rfl))
    have hcut₁ : C m₁ := hC m₁ hout₁ (Or.inl (.empty hrej₁ rfl))
    have hcut₂ : C m₂ := hC m₂ hout₂ (Or.inl (.empty hrej₂ rfl))
    refine wp_bind.mpr (wp_bind.mpr (wp_bind.mpr (wp_pure.mpr ⟨hnow, ?_⟩)))
    rw [hstart]
    apply wp_flashErase (haligned 0 (by decide)) hnow (hm₁ ▸ hcut₁)
    rw [hstart, ← hm₁]
    apply wp_flashErase (haligned 1 (by decide)) hcut₁ (hm₂ ▸ hcut₂)
    rw [← hm₂]
    refine wp_pure.mpr ⟨hcut₂, wp_frameCountWrite_first hfresh₂ hblank₂ hc .itemNotFound
      (fun m' hout hk => hC m' (hout₂.trans hout) hk) fun m' hout hk => hQ m' _ (hout₂.trans hout) hk (by decide)⟩
  · refine wp_pure.mpr ⟨hC m' hout (Or.inl (.active n ho)), ?_⟩
    by_cases hroom : counts.length < framecountNumPerSect
    · rw [saveCount, if_pos hroom] at hC hQ
      exact wp_frameCountWrite_append ho hroom hc .succ (fun m'' hout' hk => hC m'' (hout.trans hout') hk)
        fun m'' hout' hk => hQ m'' _ (hout.trans hout') hk (by decide)
    · rw [saveCount, if_neg hroom] at hC hQ
      have hfits := ho.records.fits
      exact wp_frameCountWrite_full ho (by omega) hc .succ (fun m'' hout' hk => hC m'' (hout.trans hout') hk)
        fun m'' hout' hk => hQ m'' _ (hout.trans hout') hk (by decide)

theorem wp_nvNwkFrameCountSaveToFlash (h : KeepsCounts m counts) (hc : c ≠ idleWord)
    (hC : ∀ m', Outside .nwkFrameCount m m' → (KeepsCounts m' counts ∨ KeepsCounts m' (saveCount counts c)) → C m')
    (hQ : ∀ m', Outside .nwkFrameCount m m' → KeepsCounts m' (saveCount counts c) → Q .succ m') :
    wp C (nvNwkFrameCountSaveToFlash c) Q m := by
  refine wp_bind.mpr (wp_saveHandler h hc hC fun m' ret hout hk hret => ?_)
  have hdone : wp C (pure .succ : Driver NvSts) Q m' := wp_pure.mpr ⟨hC m' hout (Or.inr hk), hQ m' hout hk⟩
  cases ret with
  | checkSumError => exact absurd rfl hret
  | _ => exact hdone

end Save

end Watermeter.Nv
