import Mathlib.Data.BitVec
import Watermeter.NorFlash

/-! The configuration record `watermeter_config_t`: 28 packed little-endian bytes, the last two of them
the checksum of the others. -/

namespace Watermeter

open NorFlash

def bytes16 (v : BitVec 16) : List Byte := [v.extractLsb' 0 8, v.extractLsb' 8 8]

def bytes32 (v : BitVec 32) : List Byte :=
  [v.extractLsb' 0 8, v.extractLsb' 8 8, v.extractLsb' 16 8, v.extractLsb' 24 8]

def u16 (b₀ b₁ : Byte) : BitVec 16 := b₁ ++ b₀

def u32 (b₀ b₁ b₂ b₃ : Byte) : BitVec 32 := b₃ ++ b₂ ++ b₁ ++ b₀

theorem u16_bytes (v : BitVec 16) : u16 (v.extractLsb' 0 8) (v.extractLsb' 8 8) = v := by
  apply BitVec.eq_of_getLsbD_eq
  intro i hi
  simp only [u16, BitVec.getLsbD_append, BitVec.getLsbD_extractLsb']
  grind

theorem u32_bytes (v : BitVec 32) :
    u32 (v.extractLsb' 0 8) (v.extractLsb' 8 8) (v.extractLsb' 16 8) (v.extractLsb' 24 8) = v := by
  apply BitVec.eq_of_getLsbD_eq
  intro i hi
  simp only [u32, BitVec.getLsbD_append, BitVec.getLsbD_extractLsb']
  grind

theorem extract_u32 (b₀ b₁ b₂ b₃ : Byte) :
    (u32 b₀ b₁ b₂ b₃).extractLsb' 0 8 = b₀ ∧ (u32 b₀ b₁ b₂ b₃).extractLsb' 8 8 = b₁ ∧
      (u32 b₀ b₁ b₂ b₃).extractLsb' 16 8 = b₂ ∧ (u32 b₀ b₁ b₂ b₃).extractLsb' 24 8 = b₃ := by
  refine ⟨?_, ?_, ?_, ?_⟩ <;>
  · apply BitVec.eq_of_getLsbD_eq
    intro i hi
    simp only [u32, BitVec.getLsbD_append, BitVec.getLsbD_extractLsb']
    grind

/-- `watermeter_config_t`. -/
structure Config where
  id : BitVec 32
  newOta : BitVec 8
  top : BitVec 32
  flashAddrStart : BitVec 32
  flashAddrEnd : BitVec 32
  counterHotWater : BitVec 32
  counterColdWater : BitVec 32
  litersPerPulse : BitVec 8
  crc : BitVec 16
  deriving DecidableEq, Repr

/-- What the record is kept for: the two totals and the step. -/
structure Totals where
  counterHotWater : BitVec 32
  counterColdWater : BitVec 32
  litersPerPulse : BitVec 8
  deriving DecidableEq, Repr

def idConfig : BitVec 32 := 0x0FED1410#32

def topMask : BitVec 32 := 0xFFFFFFFF#32

/-- `sizeof(watermeter_config_t)`. -/
def sizeofConfig : Nat := 28

/-- One byte of `checksum`: eight shifts of the register, the generator added for each bit shifted out. -/
def crcByte (crc : BitVec 16) (b : Byte) : BitVec 16 :=
  (List.range 8).foldl
    (fun crc _ => if crc.getLsbD 0 then (crc >>> 1) ^^^ 0xA010#16 else crc >>> 1) (crc ^^^ b.setWidth 16)

/-- `checksum` over all but the last two bytes of the buffer. -/
def checksum (srcBuffer : List Byte) : BitVec 16 :=
  (srcBuffer.take (srcBuffer.length - 2)).foldl crcByte 0xFFFF#16

namespace Config

def totals (c : Config) : Totals := ⟨c.counterHotWater, c.counterColdWater, c.litersPerPulse⟩

def setTotals (c : Config) (t : Totals) : Config :=
  { c with
    counterHotWater := t.counterHotWater
    counterColdWater := t.counterColdWater
    litersPerPulse := t.litersPerPulse }

/-- The bytes of the record before its checksum. -/
def payload (c : Config) : List Byte :=
  bytes32 c.id ++ [c.newOta] ++ bytes32 c.top ++ bytes32 c.flashAddrStart ++ bytes32 c.flashAddrEnd ++
    bytes32 c.counterHotWater ++ bytes32 c.counterColdWater ++ [c.litersPerPulse]

def toBytes (c : Config) : List Byte := c.payload ++ bytes16 c.crc

def ofBytes (bs : List Byte) : Config :=
  let b := fun i => bs.getD i 0#8
  { id := u32 (b 0) (b 1) (b 2) (b 3)
    newOta := b 4
    top := u32 (b 5) (b 6) (b 7) (b 8)
    flashAddrStart := u32 (b 9) (b 10) (b 11) (b 12)
    flashAddrEnd := u32 (b 13) (b 14) (b 15) (b 16)
    counterHotWater := u32 (b 17) (b 18) (b 19) (b 20)
    counterColdWater := u32 (b 21) (b 22) (b 23) (b 24)
    litersPerPulse := b 25
    crc := u16 (b 26) (b 27) }

/-- The record with its checksum computed. -/
def sealed (c : Config) : Config := { c with crc := checksum c.toBytes }

/-- The test of a record read back: the identifier and the checksum. -/
def Valid (c : Config) : Prop := c.id = idConfig ∧ checksum c.toBytes = c.crc

instance (c : Config) : Decidable c.Valid := inferInstanceAs (Decidable (_ ∧ _))

@[simp] theorem length_payload (c : Config) : c.payload.length = 26 := rfl

@[simp] theorem length_toBytes (c : Config) : c.toBytes.length = sizeofConfig := rfl

/-- Writing a record out and reading the bytes gives the record. -/
@[simp] theorem ofBytes_toBytes (c : Config) : ofBytes c.toBytes = c := by
  cases c
  simp [ofBytes, toBytes, payload, bytes32, bytes16, u32_bytes, u16_bytes]

theorem toBytes_injective {c c' : Config} (h : c.toBytes = c'.toBytes) : c = c' := by
  rw [← ofBytes_toBytes c, h, ofBytes_toBytes]

/-- The checksum does not depend on the field that stores it. -/
theorem checksum_toBytes (c : Config) : checksum c.toBytes = c.payload.foldl crcByte 0xFFFF#16 := by
  unfold checksum
  rw [length_toBytes, show sizeofConfig - 2 = c.payload.length from rfl, toBytes, List.take_left]

theorem sealed_valid {c : Config} (h : c.id = idConfig) : c.sealed.Valid := by
  refine ⟨h, ?_⟩
  simp only [sealed, checksum_toBytes, payload]

@[simp] theorem sealed_id (c : Config) : c.sealed.id = c.id := rfl
@[simp] theorem sealed_newOta (c : Config) : c.sealed.newOta = c.newOta := rfl
@[simp] theorem sealed_top (c : Config) : c.sealed.top = c.top := rfl
@[simp] theorem sealed_flashAddrStart (c : Config) : c.sealed.flashAddrStart = c.flashAddrStart := rfl
@[simp] theorem sealed_flashAddrEnd (c : Config) : c.sealed.flashAddrEnd = c.flashAddrEnd := rfl
@[simp] theorem sealed_totals (c : Config) : c.sealed.totals = c.totals := rfl
@[simp] theorem setTotals_totals (c : Config) (t : Totals) : (c.setTotals t).totals = t := rfl
@[simp] theorem setTotals_id (c : Config) (t : Totals) : (c.setTotals t).id = c.id := rfl
@[simp] theorem setTotals_newOta (c : Config) (t : Totals) : (c.setTotals t).newOta = c.newOta := rfl
@[simp] theorem setTotals_top (c : Config) (t : Totals) : (c.setTotals t).top = c.top := rfl
@[simp] theorem setTotals_flashAddrStart (c : Config) (t : Totals) :
    (c.setTotals t).flashAddrStart = c.flashAddrStart := rfl
@[simp] theorem setTotals_flashAddrEnd (c : Config) (t : Totals) :
    (c.setTotals t).flashAddrEnd = c.flashAddrEnd := rfl
@[simp] theorem setTotals_self (c : Config) : c.setTotals c.totals = c := rfl

end Config

/-! ### Records on flash -/

/-- `flash_read_page` of `sizeof(watermeter_config_t)` bytes into a record. -/
def readConfig (m : Mem) (a : Nat) : Config := .ofBytes (read m a sizeofConfig)

/-- The valid record at an address, if there is one. -/
def recordAt (m : Mem) (a : Nat) : Option Config :=
  if (readConfig m a).Valid then some (readConfig m a) else none

theorem readConfig_congr {m m' : Mem} {a : Nat} (h : ∀ x, a ≤ x → x < a + sizeofConfig → m' x = m x) :
    readConfig m' a = readConfig m a := by rw [readConfig, read_congr h, readConfig]

/-- The bytes before the checksum determine the other fields. -/
theorem readConfig_payload {m m' : Mem} {a : Nat} (h : ∀ i, i < 26 → m' (a + i) = m (a + i)) :
    readConfig m' a = { readConfig m a with crc := (readConfig m' a).crc } := by
  have hread : ∀ (w : Mem) (i : Nat), i < 26 → (read w a sizeofConfig).getD i 0#8 = w (a + i) := by
    intro w i hi
    rw [List.getD_eq_getElem?_getD, NorFlash.read, List.getElem?_map, List.getElem?_range (by unfold sizeofConfig; omega)]
    rfl
  have hbyte : ∀ i, i < 26 → (read m' a sizeofConfig).getD i 0#8 = (read m a sizeofConfig).getD i 0#8 :=
    fun i hi => (hread m' i hi).trans ((h i hi).trans (hread m i hi).symm)
  simp (disch := decide) only [readConfig, Config.ofBytes, hbyte]

theorem recordAt_congr {m m' : Mem} {a : Nat} (h : ∀ x, a ≤ x → x < a + sizeofConfig → m' x = m x) :
    recordAt m' a = recordAt m a := by rw [recordAt, readConfig_congr h, recordAt]

theorem recordAt_eq_some {m : Mem} {a : Nat} {c : Config} :
    recordAt m a = some c ↔ readConfig m a = c ∧ c.Valid := by
  unfold recordAt
  split
  · next h => simp only [Option.some.injEq]; exact ⟨fun heq => ⟨heq, heq ▸ h⟩, fun heq => heq.1⟩
  · next h => simp only [reduceCtorEq, false_iff]; rintro ⟨rfl, hv⟩; exact h hv

/-- An erased page does not carry the identifier. -/
theorem readConfig_id_of_erased {m : Mem} {a : Nat} (h : Erased m a sizeofConfig) :
    (readConfig m a).id ≠ idConfig := by
  rw [readConfig, read_of_erased h]
  decide

theorem recordAt_of_erased {m : Mem} {a : Nat} (h : Erased m a sizeofConfig) : recordAt m a = none := by
  rw [recordAt, if_neg fun hv => readConfig_id_of_erased h hv.1]

/-- A record that fits the cells is read back as it was written. -/
theorem readConfig_program {m : Mem} {a : Nat} {c : Config} (h : Fits m a c.toBytes) :
    readConfig (program m a c.toBytes) a = c := by
  have hread := read_program_eq_iff.mpr h
  rw [Config.length_toBytes] at hread
  rw [readConfig, hread, Config.ofBytes_toBytes]

theorem recordAt_program {m : Mem} {a : Nat} {c : Config} (h : Fits m a c.toBytes) (hv : c.Valid) :
    recordAt (program m a c.toBytes) a = some c :=
  recordAt_eq_some.mpr ⟨readConfig_program h, hv⟩

end Watermeter
