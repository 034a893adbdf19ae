import Watermeter.Config

/-! The 512K flash of the device: two banks, one with the running firmware, the other with the ring of
configuration records or, during an update, with the new image. The start-up flag in the header of a
bank decides from which one the chip boots. -/

namespace Watermeter

open NorFlash

def flashPageSize : Nat := 256

def flashSectorSize : Nat := 4096

def userDataSize : Nat := 0x34000

def beginUserData1 : Nat := 0x00000

def endUserData1 : Nat := beginUserData1 + userDataSize

def beginUserData2 : Nat := 0x40000

def endUserData2 : Nat := beginUserData2 + userDataSize

def flashAddrOfOtaImage : Nat := 0x40000

def flashTlnkFlagOffset : Nat := 8

def tlStartUpFlagWhole : BitVec 32 := 0x544c4e4b#32

/-- Below this supply, in millivolts, the driver neither erases nor programs. -/
def batterySafetyThreshold : Nat := 2200

/-- `flash_read` of four bytes into a `u32`. -/
def read32 (m : Mem) (a : Nat) : BitVec 32 := u32 (m a) (m (a + 1)) (m (a + 2)) (m (a + 3))

/-- `mcuBootAddrGet`; all ones when neither bank carries the flag. -/
def mcuBootAddrGet (m : Mem) : Nat :=
  if read32 m (0 + flashTlnkFlagOffset) = tlStartUpFlagWhole then 0
  else if read32 m (flashAddrOfOtaImage + flashTlnkFlagOffset) = tlStartUpFlagWhole then flashAddrOfOtaImage
  else 0xFFFFFFFF

/-- The bank the device boots from. -/
inductive Bank
  | low
  | high
  deriving DecidableEq, Repr

namespace Bank

def base : Bank → Nat
  | low => 0
  | high => flashAddrOfOtaImage

def other : Bank → Bank
  | low => high
  | high => low

/-- Where the ring of a device that boots from this bank starts: in the other bank. -/
def userStart (b : Bank) : Nat := b.other.base

def userEnd (b : Bank) : Nat := b.userStart + userDataSize

@[simp] theorem base_low : low.base = 0 := rfl

@[simp] theorem base_high : high.base = 0x40000 := rfl

@[simp] theorem userStart_low : low.userStart = 0x40000 := rfl

@[simp] theorem userStart_high : high.userStart = 0 := rfl

@[simp] theorem other_other (b : Bank) : b.other.other = b := by cases b <;> rfl

theorem userStart_cases (b : Bank) : b.userStart = 0 ∧ b.base = 0x40000 ∨ b.userStart = 0x40000 ∧ b.base = 0 := by
  cases b
  · exact Or.inr ⟨rfl, rfl⟩
  · exact Or.inl ⟨rfl, rfl⟩

theorem base_injective {b b' : Bank} (h : b.base = b'.base) : b = b' := by
  cases b <;> cases b' <;> first | rfl | exact absurd h (by decide)

end Bank

/-- The number of pages in the ring. -/
def ringPages : Nat := userDataSize / flashPageSize

/-- The number of pages in a sector. -/
def sectorPages : Nat := flashSectorSize / flashPageSize

def pageAddr (b : Bank) (q : Nat) : Nat := b.userStart + flashPageSize * q

/-- The records of the ring, by page. -/
def ringLog (m : Mem) (b : Bank) (q : Nat) : Option Config := recordAt m (pageAddr b q)

/-! ### The start-up flag -/

theorem read32_congr {m m' : Mem} {a : Nat} (h : ∀ x, a ≤ x → x < a + 4 → m' x = m x) :
    read32 m' a = read32 m a := by
  unfold read32
  rw [h a (by omega) (by omega), h (a + 1) (by omega) (by omega), h (a + 2) (by omega) (by omega),
    h (a + 3) (by omega) (by omega)]

theorem read32_flag {m : Mem} {a : Nat} (h : read32 m a = tlStartUpFlagWhole) :
    m a = 0x4b#8 ∧ m (a + 1) = 0x4e#8 ∧ m (a + 2) = 0x4c#8 ∧ m (a + 3) = 0x54#8 := by
  have hbyte : ∀ k, (read32 m a).extractLsb' k 8 = tlStartUpFlagWhole.extractLsb' k 8 := fun k => by rw [h]
  obtain ⟨h0, h1, h2, h3⟩ := extract_u32 (m a) (m (a + 1)) (m (a + 2)) (m (a + 3))
  exact ⟨h0.symm.trans (hbyte 0), h1.symm.trans (hbyte 8), h2.symm.trans (hbyte 16), h3.symm.trans (hbyte 24)⟩

theorem mcuBootAddrGet_eq (m : Mem) : mcuBootAddrGet m =
    if read32 m 8 = tlStartUpFlagWhole then 0
    else if read32 m 0x40008 = tlStartUpFlagWhole then 0x40000 else 0xFFFFFFFF := rfl

theorem mcuBootAddrGet_low {m : Mem} : mcuBootAddrGet m = Bank.low.base ↔ read32 m 8 = tlStartUpFlagWhole := by
  rw [Bank.base_low]
  constructor
  · intro h
    by_contra hne
    rw [mcuBootAddrGet_eq, if_neg hne] at h
    split at h
    · exact absurd h (by decide)
    · exact absurd h (by decide)
  · intro h
    rw [mcuBootAddrGet_eq, if_pos h]

theorem mcuBootAddrGet_high {m : Mem} : mcuBootAddrGet m = Bank.high.base ↔
    read32 m 8 ≠ tlStartUpFlagWhole ∧ read32 m 0x40008 = tlStartUpFlagWhole := by
  rw [Bank.base_high]
  constructor
  · intro h
    by_cases hlow : read32 m 8 = tlStartUpFlagWhole
    · rw [mcuBootAddrGet_eq, if_pos hlow] at h
      exact absurd h (by decide)
    · refine ⟨hlow, ?_⟩
      by_contra hne
      rw [mcuBootAddrGet_eq, if_neg hlow, if_neg hne] at h
      exact absurd h (by decide)
  · rintro ⟨hne, heq⟩
    rw [mcuBootAddrGet_eq, if_neg hne, if_pos heq]

/-- A flash with nothing on it but the start-up flag of one bank. -/
def blankFlash (b : Bank) : Mem := fun x =>
  if x = b.base + 8 then 0x4b#8 else if x = b.base + 9 then 0x4e#8
  else if x = b.base + 10 then 0x4c#8 else if x = b.base + 11 then 0x54#8 else 0xFF#8

theorem mcuBootAddrGet_blankFlash (b : Bank) : mcuBootAddrGet (blankFlash b) = b.base := by
  cases b <;> decide

/-- The boot bank stays as long as its flag stays and the other bank does not get one. -/
theorem mcuBootAddrGet_keep {m m' : Mem} {b : Bank} (h : mcuBootAddrGet m = b.base)
    (hbase : ∀ x, b.base + 8 ≤ x → x < b.base + 12 → m' x = m x)
    (huser : read32 m' (b.userStart + 8) = read32 m (b.userStart + 8) ∨
      read32 m' (b.userStart + 8) ≠ tlStartUpFlagWhole) : mcuBootAddrGet m' = b.base := by
  have hflag : read32 m' (b.base + 8) = read32 m (b.base + 8) :=
    read32_congr fun x hl hr => hbase x hl (by omega)
  cases b with
  | low =>
    rw [mcuBootAddrGet_low] at h ⊢
    exact hflag.trans h
  | high =>
    rw [mcuBootAddrGet_high] at h ⊢
    refine ⟨?_, hflag.trans h.2⟩
    rcases huser with heq | hne
    · exact fun hbad => h.1 (heq.symm.trans hbad)
    · exact hne

end Watermeter
