import Watermeter.NvItems

/-! The two sectors of a module: which one is in use is decided by their headers. While the items move from one to the
other both headers count, and the next access puts them right. -/

namespace Watermeter.Nv

open NorFlash CrashLogic SlotLog

variable {m m' : Mem} {id : Module} {n : Nat} {log : List Item} {length : Byte → Nat}

/-- The header of a sector. -/
def sectInfoAt (m : Mem) (id : Module) (n : Nat) : SectInfo := readSectInfo m (moduleSectStart id n)

/-- `nv_sector_read` passes over the header. -/
def Rejected (s : SectInfo) (id : Module) : Prop :=
  (s.usedFlag = nvSectorValidReadyCheckCrc → nvSectInfoCrcCheck s = false) ∧
    ¬ (s.usedFlag ≠ nvSectorValidReadyCheckCrc ∧
      sectValidCheck s ∧ s.idName.toNat = id.id ∧ (s.usedFlag = nvSectorValidCheckCrc → nvSectInfoCrcCheck s))

/-- The headers before the `n`-th are passed over. -/
def Passed (m : Mem) (id : Module) (n : Nat) : Prop := n = 1 → Rejected (sectInfoAt m id 0) id

/-! ### Headers -/

theorem usedSectInfo_crc (flag : BitVec 16) (id : Module) (hn : n < 2) :
    nvSectInfoCrcCheck (usedSectInfo flag id n) = true := by
  have hcases : n = 0 ∨ n = 1 := by omega
  show nvSectInfoCrcCheck (usedSectInfo 0#16 id n) = true
  rcases hcases with rfl | rfl <;> cases id <;> decide +kernel

theorem usedSectInfo_opSect (flag : BitVec 16) (id : Module) (hn : n < 2) :
    ((usedSectInfo flag id n).opSect &&& 0x3#8).toNat = n := by
  have hcases : n = 0 ∨ n = 1 := by omega
  show ((usedSectInfo 0#16 id n).opSect &&& 0x3#8).toNat = n
  rcases hcases with rfl | rfl <;> cases id <;> decide +kernel

theorem usedSectInfo_idName (flag : BitVec 16) (id : Module) (n : Nat) :
    (usedSectInfo flag id n).idName.toNat = id.id := by
  cases id <;> rfl

theorem u16_and (b₀ b₁ : Byte) (flag : BitVec 16) :
    u16 (b₀ &&& flag.extractLsb' 0 8) (b₁ &&& flag.extractLsb' 8 8) = u16 b₀ b₁ &&& flag := by
  apply BitVec.eq_of_getLsbD_eq
  intro i hi
  simp only [u16, BitVec.getLsbD_append, BitVec.getLsbD_and, BitVec.getLsbD_extractLsb']
  grind

theorem extract_u16 (b₀ b₁ : Byte) : (u16 b₀ b₁).extractLsb' 0 8 = b₀ ∧ (u16 b₀ b₁).extractLsb' 8 8 = b₁ := by
  refine ⟨?_, ?_⟩ <;>
  · apply BitVec.eq_of_getLsbD_eq
    intro i hi
    simp only [u16, BitVec.getLsbD_append, BitVec.getLsbD_extractLsb']
    grind

/-- The first two bytes of a header are its flag. -/
theorem readSectInfo_flag (m : Mem) (a : Nat) (flag : BitVec 16) :
    readSectInfo (program m a (bytes16 flag)) a =
      { readSectInfo m a with usedFlag := (readSectInfo m a).usedFlag &&& flag } := by
  have hlen : (bytes16 flag).length = 2 := rfl
  have h0 : program m a (bytes16 flag) a = m a &&& flag.extractLsb' 0 8 := program_inside (i := 0) (by omega)
  have h1 : program m a (bytes16 flag) (a + 1) = m (a + 1) &&& flag.extractLsb' 8 8 := program_inside (by omega)
  have h2 : ∀ x, a + 2 ≤ x → program m a (bytes16 flag) x = m x := fun x hx => program_outside (Or.inr hx)
  rw [readSectInfo, readSectInfo, h0, h1, h2 (a + 2) (le_refl _), h2 (a + 3) (by omega), u16_and]

/-- Where a flag fits. -/
theorem flag_fits {a : Nat} {flag : BitVec 16} (h : (readSectInfo m a).usedFlag &&& flag = flag) :
    Fits m a (bytes16 flag) := by
  have hflag : u16 (m a) (m (a + 1)) &&& flag = flag := h
  rw [← u16_and] at hflag
  have hlow := congrArg (BitVec.extractLsb' 0 8) hflag
  have hhigh := congrArg (BitVec.extractLsb' 8 8) hflag
  rw [(extract_u16 _ _).1] at hlow
  rw [(extract_u16 _ _).2] at hhigh
  intro i hi
  have hlen : (bytes16 flag).length = 2 := rfl
  have hcases : i = 0 ∨ i = 1 := by omega
  rcases hcases with rfl | rfl
  · exact hlow
  · exact hhigh

theorem rejected_of_flag {s : SectInfo} (h : s.usedFlag ≠ nvSectorValidReadyCheckCrc) (hv : sectValidCheck s = false) :
    Rejected s id := by
  refine ⟨fun hr => absurd hr h, fun hu => ?_⟩
  rw [hv] at hu
  exact Bool.false_ne_true hu.2.1

/-- An invalid sector is passed over. -/
theorem rejected_invalid {s : SectInfo} (h : s.usedFlag = nvSectorInvalid) : Rejected s id := by
  apply rejected_of_flag (by rw [h]; decide)
  rw [sectValidCheck, h]
  decide

theorem readSectInfo_erased {a : Nat} (h : Erased m a 4) : readSectInfo m a = ⟨0xFFFF#16, 0xFF#8, 0xFF#8⟩ := by
  rw [readSectInfo, h a (by omega) (by omega), h (a + 1) (by omega) (by omega), h (a + 2) (by omega) (by omega),
    h (a + 3) (by omega) (by omega)]
  rfl

theorem rejected_erased {a : Nat} (h : Erased m a 4) : Rejected (readSectInfo m a) id := by
  rw [readSectInfo_erased h]
  exact rejected_of_flag (by decide) (by decide)

/-! ### The state of a module -/

/-- Only the two sectors of the module may change. -/
def Outside (id : Module) (m m' : Mem) : Prop :=
  ∀ x, x < moduleSectStart id 0 ∨ moduleSectEnd id 1 ≤ x → m' x = m x

theorem Outside.refl (id : Module) (m : Mem) : Outside id m m := fun _ _ => rfl

theorem Outside.trans {m₁ m₂ m₃ : Mem} (h : Outside id m₁ m₂) (h' : Outside id m₂ m₃) : Outside id m₁ m₃ :=
  fun x hx => (h' x hx).trans (h x hx)

/-- The two sectors lie one behind the other. -/
theorem sectors (id : Module) : moduleSectEnd id 0 = moduleSectStart id 1 ∧ moduleSectEnd id 1 = moduleSectStart id 1 + nvSectorSize id ∧
    moduleSectStart id 1 = moduleSectStart id 0 + nvSectorSize id ∧ 0 < nvSectorSize id := by
  cases id <;> decide

theorem Within.outside (hn : n < 2) (h : Within id n m m') : Outside id m m' := by
  obtain ⟨h01, hend, hsect, hpos⟩ := sectors id
  have hidx := (layout id hn).idxStart
  have hlast := (layout id hn).sectEnd
  have hcases : n = 0 ∨ n = 1 := by omega
  intro x hx
  apply h x
  rcases hcases with rfl | rfl <;> omega

/-- A sector with a header and a log of items of known lengths. -/
structure Filled (length : Byte → Nat) (id : Module) (m : Mem) (flag : BitVec 16) (n : Nat) (log : List Item) : Prop where
  lt : n < 2
  header : sectInfoAt m id n = usedSectInfo flag id n
  image : Image id n m log
  ne : log ≠ []
  sized : Sized length log

/-- Its header is found. -/
structure Opened (length : Byte → Nat) (id : Module) (m : Mem) (flag : BitVec 16) (n : Nat) (log : List Item) : Prop
    extends Filled length id m flag n log where
  passed : Passed m id n

/-- The module holds the items: in a sector in use, or in one that has been made ready while the other is given up. -/
inductive Repr (length : Byte → Nat) (id : Module) (m : Mem) (σ : Byte → Option (List Byte)) : Prop
  | empty (h : ∀ n < 2, Rejected (sectInfoAt m id n) id) (hσ : σ = fun _ => none) : Repr length id m σ
  | active (n : Nat) (log : List Item) (h : Opened length id m nvSectorValidCheckCrc n log) (hσ : lookup log = σ) :
      Repr length id m σ
  | half (n : Nat) (log : List Item) (h : Opened length id m nvSectorValidReadyCheckCrc n log)
      (hother : (sectInfoAt m id ((n + 1) % 2)).usedFlag &&& nvSectorInvalid = nvSectorInvalid) (hσ : lookup log = σ) :
      Repr length id m σ

/-! ### Looking for the sector in use -/

section Search

variable {C : Mem → Prop} {Q : Option Nat → Mem → Prop} {rest : List Nat}

theorem wp_pass (h : Rejected (sectInfoAt m id n) id) (hrest : wp C (nvSectorReadFrom id rest) Q m) :
    wp C (nvSectorReadFrom id (n :: rest)) Q m := by
  refine wp_bind.mpr (wp_get.mpr ⟨hrest.crash, wp_ite.mpr ⟨fun hready => ?_, fun hready => ?_⟩⟩)
  · have hcrc := h.1 hready
    unfold sectInfoAt at hcrc
    rw [hcrc]
    exact hrest
  · refine wp_ite.mpr ⟨fun hused => ?_, fun _ => hrest⟩
    exact absurd ⟨hready, hused⟩ h.2

theorem wp_found (hn : n < 2) (h : sectInfoAt m id n = usedSectInfo nvSectorValidCheckCrc id n) (hC : C m)
    (hQ : Q (some n) m) : wp C (nvSectorReadFrom id (n :: rest)) Q m := by
  unfold sectInfoAt at h
  have hready : nvSectorValidCheckCrc ≠ nvSectorValidReadyCheckCrc := by decide
  have hvalid : sectValidCheck (usedSectInfo nvSectorValidCheckCrc id n) = true := by
    unfold sectValidCheck
    exact Bool.or_eq_true_iff.mpr (Or.inr (beq_self_eq_true _))
  refine wp_bind.mpr (wp_get.mpr ⟨hC, ?_⟩)
  rw [h]
  refine wp_ite.mpr ⟨fun heq => absurd heq hready, fun _ => wp_ite.mpr ⟨fun _ => ?_, fun hnot => ?_⟩⟩
  · rw [usedSectInfo_opSect nvSectorValidCheckCrc id hn]
    exact wp_pure.mpr ⟨hC, hQ⟩
  · exact absurd ⟨hvalid, usedSectInfo_idName _ id n, fun _ => usedSectInfo_crc _ id hn⟩ hnot

/-- A flag of a header is changed. -/
theorem wp_sectFlag {R : Bool → Mem → Prop} {flag : BitVec 16} (hn : n < 2)
    (hfits : (sectInfoAt m id n).usedFlag &&& flag = flag) (hC : C m)
    (hC' : C (program m (moduleSectStart id n) (bytes16 flag)))
    (hR : R true (program m (moduleSectStart id n) (bytes16 flag))) :
    wp C (flashWriteWithCheck (moduleSectStart id n) (bytes16 flag)) R m := by
  refine wp_flashWriteWithCheck (PageCut.whole ?_ hC hC') (flag_fits hfits) hR
  have haligned := (layout id hn).aligned
  have hlen : (bytes16 flag).length = 2 := rfl
  unfold flashSectorSize at haligned
  unfold flashPageSize
  omega

theorem wp_ready {m₁ m₂ : Mem} (hn : n < 2) (h : sectInfoAt m id n = usedSectInfo nvSectorValidReadyCheckCrc id n)
    (hother : (sectInfoAt m id ((n + 1) % 2)).usedFlag &&& nvSectorInvalid = nvSectorInvalid)
    (hm₁ : m₁ = program m (moduleSectStart id ((n + 1) % 2)) (bytes16 nvSectorInvalid))
    (hm₂ : m₂ = program m₁ (moduleSectStart id n) (bytes16 nvSectorValidCheckCrc))
    (hsame : sectInfoAt m₁ id n = sectInfoAt m id n) (hC : C m) (hC₁ : C m₁) (hC₂ : C m₂) (hQ : Q (some n) m₂) :
    wp C (nvSectorReadFrom id (n :: rest)) Q m := by
  have hready : (usedSectInfo nvSectorValidReadyCheckCrc id n).usedFlag = nvSectorValidReadyCheckCrc := rfl
  have hfits : (sectInfoAt m₁ id n).usedFlag &&& nvSectorValidCheckCrc = nvSectorValidCheckCrc := by
    rw [hsame, h, hready]
    decide
  subst hm₁ hm₂
  unfold sectInfoAt at h
  refine wp_bind.mpr (wp_get.mpr ⟨hC, ?_⟩)
  rw [h]
  refine wp_ite.mpr ⟨fun _ => ?_, fun hnot => absurd rfl hnot⟩
  rw [usedSectInfo_crc _ id hn, if_pos rfl]
  simp only [usedSectInfo_opSect nvSectorValidReadyCheckCrc id hn]
  refine wp_bind.mpr (wp_sectFlag (by omega) hother hC hC₁ ?_)
  rw [if_pos rfl]
  exact wp_bind.mpr (wp_sectFlag hn hfits hC₁ hC₂ (wp_pure.mpr ⟨hC₂, hQ⟩))

end Search

/-! ### Changing a header -/

/-- Nothing but the headers of the two sectors differs. -/
def HeadersOnly (id : Module) (m m' : Mem) : Prop :=
  ∀ x, (∀ j < 2, x < moduleSectStart id j ∨ moduleSectStart id j + 4 ≤ x) → m' x = m x

theorem HeadersOnly.trans {m₁ m₂ m₃ : Mem} (h : HeadersOnly id m₁ m₂) (h' : HeadersOnly id m₂ m₃) : HeadersOnly id m₁ m₃ :=
  fun x hx => (h' x hx).trans (h x hx)

theorem HeadersOnly.outside (h : HeadersOnly id m m') : Outside id m m' := by
  obtain ⟨h01, hend, hsect, hpos⟩ := sectors id
  intro x hx
  apply h x
  intro j hj
  have hidx := (layout id hj).idxStart
  have hidxEnd := (layout id hj).idxEnd
  have hctx := (layout id hj).ctx_lt
  have hcases : j = 0 ∨ j = 1 := by omega
  rcases hcases with rfl | rfl <;> omega

/-- Behind its header a sector is as before. -/
theorem HeadersOnly.behind (h : HeadersOnly id m m') (hn : n < 2) {x : Nat} (hl : moduleSectStart id n + 4 ≤ x)
    (hr : x < moduleSectEnd id n) : m' x = m x := by
  obtain ⟨h01, hend, hsect, hpos⟩ := sectors id
  apply h x
  intro j hj
  have hcases : n = j ∨ n = 0 ∧ j = 1 ∨ n = 1 ∧ j = 0 := by omega
  rcases hcases with rfl | ⟨rfl, rfl⟩ | ⟨rfl, rfl⟩ <;> omega

theorem HeadersOnly.image (h : HeadersOnly id m m') (hn : n < 2) (hI : Image id n m log) : Image id n m' log := by
  have hidx := (layout id hn).idxStart
  exact hI.congr hn fun x hl hr => h.behind hn (by omega) hr

section Header

variable {j : Nat} {bs : List Byte} {flag : BitVec 16}

theorem headersOnly_program (id : Module) (hj : j < 2) (hbs : bs.length ≤ 4) (m : Mem) :
    HeadersOnly id m (program m (moduleSectStart id j) bs) := by
  refine fun x hx => program_outside ?_
  have hj' := hx j hj
  omega

theorem length_flag (flag : BitVec 16) : (bytes16 flag).length ≤ 4 := by
  show 2 ≤ 4
  decide

theorem header_other (hn : n < 2) (hj : j < 2) (hne : n ≠ j) (hbs : bs.length ≤ 4) (m : Mem) :
    sectInfoAt (program m (moduleSectStart id j) bs) id n = sectInfoAt m id n := by
  obtain ⟨h01, hend, hsect, hpos⟩ := sectors id
  have hidx := (layout id hn).idxStart
  have hidxEnd := (layout id hn).idxEnd
  have hctx := (layout id hn).ctx_lt
  have hlast := (layout id hn).sectEnd
  refine readSectInfo_congr fun x hl hr => program_outside ?_
  have hcases : n = 0 ∧ j = 1 ∨ n = 1 ∧ j = 0 := by omega
  rcases hcases with ⟨rfl, rfl⟩ | ⟨rfl, rfl⟩ <;> omega

theorem sectInfoAt_flag (m : Mem) (id : Module) (n : Nat) (flag : BitVec 16) :
    sectInfoAt (program m (moduleSectStart id n) (bytes16 flag)) id n =
      { sectInfoAt m id n with usedFlag := (sectInfoAt m id n).usedFlag &&& flag } := readSectInfo_flag ..

/-- The other sector has been given up, and so the header is found. -/
theorem passed_invalid (hn : n < 2) (h : (sectInfoAt m id ((n + 1) % 2)).usedFlag = nvSectorInvalid) : Passed m id n := by
  intro h1
  subst h1
  exact rejected_invalid h

/-- A sector that has been made ready is now in use. -/
theorem sectInfoAt_use (h : sectInfoAt m id n = usedSectInfo nvSectorValidReadyCheckCrc id n) :
    sectInfoAt (program m (moduleSectStart id n) (bytes16 nvSectorValidCheckCrc)) id n =
      usedSectInfo nvSectorValidCheckCrc id n := by
  have hbits : nvSectorValidReadyCheckCrc &&& nvSectorValidCheckCrc = nvSectorValidCheckCrc := by decide
  rw [sectInfoAt_flag, h, usedSectInfo, usedSectInfo, hbits]

theorem Opened.headers {flag' : BitVec 16} (ho : Opened length id m flag n log) (h : HeadersOnly id m m')
    (hheader : sectInfoAt m' id n = usedSectInfo flag' id n)
    (hother : (sectInfoAt m' id ((n + 1) % 2)).usedFlag = nvSectorInvalid) : Opened length id m' flag' n log :=
  ⟨⟨ho.lt, hheader, h.image ho.lt ho.image, ho.ne, ho.sized⟩, passed_invalid ho.lt hother⟩

end Header

section Search

variable {C : Mem → Prop} {Q : Option Nat → Mem → Prop} {σ : Byte → Option (List Byte)}

theorem wp_sectorRead_passed (hn : n < 2) (hp : Passed m id n) (h : ∀ rest, wp C (nvSectorReadFrom id (n :: rest)) Q m) :
    wp C (nvSectorRead id) Q m := by
  have hcases : n = 0 ∨ n = 1 := by omega
  rcases hcases with rfl | rfl
  · exact h _
  · exact wp_pass (hp rfl) (h _)

theorem wp_sectorRead_none (hrej : ∀ n < 2, Rejected (sectInfoAt m id n) id) (hC : C m) (hQ : Q none m) :
    wp C (nvSectorRead id) Q m :=
  wp_pass (hrej 0 (by decide)) (wp_pass (hrej 1 (by decide)) (wp_pure.mpr ⟨hC, hQ⟩))

theorem wp_sectorRead_active (hn : n < 2) (hp : Passed m id n)
    (h : sectInfoAt m id n = usedSectInfo nvSectorValidCheckCrc id n) (hC : C m) (hQ : Q (some n) m) :
    wp C (nvSectorRead id) Q m := wp_sectorRead_passed hn hp fun _ => wp_found hn h hC hQ

/-- What a change of sectors has left half done is put right. -/
theorem wp_sectorRead_half (hn : n < 2) (hp : Passed m id n)
    (h : sectInfoAt m id n = usedSectInfo nvSectorValidReadyCheckCrc id n)
    (hother : (sectInfoAt m id ((n + 1) % 2)).usedFlag &&& nvSectorInvalid = nvSectorInvalid) (hC : C m)
    (hC₁ : ∀ m', HeadersOnly id m m' → sectInfoAt m' id n = usedSectInfo nvSectorValidReadyCheckCrc id n →
      (sectInfoAt m' id ((n + 1) % 2)).usedFlag = nvSectorInvalid → C m')
    (hQ : ∀ m', HeadersOnly id m m' → sectInfoAt m' id n = usedSectInfo nvSectorValidCheckCrc id n →
      (sectInfoAt m' id ((n + 1) % 2)).usedFlag = nvSectorInvalid → C m' ∧ Q (some n) m') :
    wp C (nvSectorRead id) Q m := by
  have hj : (n + 1) % 2 < 2 := Nat.mod_lt _ (by decide)
  have hne : n ≠ (n + 1) % 2 := by omega
  obtain ⟨m₁, hm₁⟩ : ∃ m₁, m₁ = program m (moduleSectStart id ((n + 1) % 2)) (bytes16 nvSectorInvalid) := ⟨_, rfl⟩
  obtain ⟨m₂, hm₂⟩ : ∃ m₂, m₂ = program m₁ (moduleSectStart id n) (bytes16 nvSectorValidCheckCrc) := ⟨_, rfl⟩
  have hheaders₁ : HeadersOnly id m m₁ := hm₁ ▸ headersOnly_program id hj (length_flag _) m
  have hheaders₂ : HeadersOnly id m m₂ := hheaders₁.trans (hm₂ ▸ headersOnly_program id hn (length_flag _) m₁)
  have hsame : sectInfoAt m₁ id n = sectInfoAt m id n := by
    rw [hm₁, header_other hn hj hne (length_flag _)]
  have hflag₁ : (sectInfoAt m₁ id ((n + 1) % 2)).usedFlag = nvSectorInvalid := by
    rw [hm₁, sectInfoAt_flag]
    exact hother
  have hflag₂ : (sectInfoAt m₂ id ((n + 1) % 2)).usedFlag = nvSectorInvalid := by
    rw [hm₂, header_other hj hn hne.symm (length_flag _)]
    exact hflag₁
  have huse : sectInfoAt m₂ id n = usedSectInfo nvSectorValidCheckCrc id n := hm₂ ▸ sectInfoAt_use (hsame.trans h)
  obtain ⟨hC₂, hQ₂⟩ := hQ m₂ hheaders₂ huse hflag₂
  exact wp_sectorRead_passed hn hp fun rest =>
    wp_ready hn h hother hm₁ hm₂ hsame hC (hC₁ m₁ hheaders₁ (hsame.trans h) hflag₁) hC₂ hQ₂

/-- `nv_sector_read` finds the sector in use, and puts right what a change of sectors has left half done. -/
theorem wp_nvSectorRead (h : Repr length id m σ) (hC : ∀ m', Outside id m m' → Repr length id m' σ → C m')
    (hnone : (∀ n < 2, Rejected (sectInfoAt m id n) id) → (σ = fun _ => none) → Q none m)
    (hsome : ∀ n log m', Outside id m m' → Opened length id m' nvSectorValidCheckCrc n log → lookup log = σ → Q (some n) m') :
    wp C (nvSectorRead id) Q m := by
  have hnow : C m := hC m (Outside.refl id m) h
  rcases h with ⟨hrej, rfl⟩ | ⟨n, log, ho, rfl⟩ | ⟨n, log, ho, hother, rfl⟩
  · exact wp_sectorRead_none hrej hnow (hnone hrej rfl)
  · exact wp_sectorRead_active ho.lt ho.passed ho.header hnow (hsome n log m (Outside.refl id m) ho rfl)
  · refine wp_sectorRead_half ho.lt ho.passed ho.header hother hnow (fun m' hh hheader hflag => ?_) fun m' hh hheader hflag => ?_
    · exact hC m' hh.outside (.half n log (ho.headers hh hheader hflag) (by rw [hflag, BitVec.and_self]) rfl)
    · have ho' := ho.headers hh hheader hflag
      exact ⟨hC m' hh.outside (.active n log ho' rfl), hsome n log m' hh.outside ho' rfl⟩

end Search

end Watermeter.Nv
