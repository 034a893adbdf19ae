import Watermeter.StoreDevice

/-! The end of an update: the test of the new image and the switch of the start-up flags, as the OTA client
of the SDK does them in the bank that is also the ring's. -/

namespace Watermeter

open NorFlash

def tlImageStartFlag : Byte := 0x4b#8

def flashOtaImageMaxSize : Nat := 0x34000

/-- One entry of `crc32_table`, the table of the reflected polynomial `0xEDB88320`. -/
def crc32Table (i : Byte) : BitVec 32 :=
  (List.range 8).foldl (fun c _ => if c.getLsbD 0 then (c >>> 1) ^^^ 0xEDB88320#32 else c >>> 1) (i.setWidth 32)

def xcrc32 (buf : List Byte) (init : BitVec 32) : BitVec 32 :=
  buf.foldl (fun crc b => (crc >>> 8) ^^^ crc32Table ((crc ^^^ b.setWidth 32).setWidth 8)) init

/-- `ota_newImageValid`: the size and the magic in the header, then the checksum over all but the last four
bytes, with the start-up flag taken as set. -/
def otaNewImageValid (m : Mem) (newImageAddr : Nat) : Bool :=
  let fwSize := (read32 m (newImageAddr + 0x18)).toNat
  if fwSize ≤ flashOtaImageMaxSize then
    let crcVal := read32 m ((newImageAddr + fwSize + (2 ^ 32 - 4)) % 2 ^ 32)
    if read32 m (newImageAddr + flashTlnkFlagOffset) &&& 0xffffff00#32 ≠ 0x544c4e00#32 then false
    else
      let image := (read m newImageAddr (fwSize - 4)).set flashTlnkFlagOffset tlImageStartFlag
      xcrc32 image 0xffffffff#32 == crcVal
  else false

/-- `flash_writeWithCheck`: nothing at a low supply, else the cells are programmed and compared. -/
def flashWriteWithCheck (mv : Nat) (m : Mem) (addr : Nat) (buf : List Byte) : Bool × Mem :=
  if mv < batterySafetyThreshold then (false, m)
  else (read (program m addr buf) addr buf.length == buf, program m addr buf)

/-- `flash_write` outside the store. -/
def flashWrite (mv : Nat) (m : Mem) (addr : Nat) (buf : List Byte) : Mem :=
  if mv < batterySafetyThreshold then m else program m addr buf

/-- `ota_mcuReboot`: whether it resets the MCU, and the flash it leaves. -/
def otaMcuReboot (mcuBootAddr : Nat) (supply : Supply) (m : Mem) : Bool × Mem :=
  let newAddr := if mcuBootAddr ≠ 0 then 0 else flashAddrOfOtaImage
  let baseAddr := if mcuBootAddr ≠ 0 then flashAddrOfOtaImage else 0
  if otaNewImageValid m newAddr then
    match flashWriteWithCheck (supply 0) m (newAddr + flashTlnkFlagOffset) [tlImageStartFlag] with
    | (true, m) => (true, flashWrite (supply 1) m (baseAddr + flashTlnkFlagOffset) [0#8])
    | (false, m) => (false, m)
  else (false, m)

variable {b : Bank} {m : Mem} {supply : Supply}

/-- While the device boots from the upper bank nothing but the switch may complete a flag in the lower one:
the first flag byte is withheld from image blocks, and the second is clear in every record. -/
def FlagSafe (b : Bank) (m : Mem) : Prop :=
  b = .high → m (b.userStart + 8) ≠ 0x4b#8 ∨ m (b.userStart + 9) &&& 0x4e#8 ≠ 0x4e#8

theorem read32_magic {a : Nat} (h : read32 m a &&& 0xffffff00#32 = 0x544c4e00#32) :
    m (a + 1) = 0x4e#8 ∧ m (a + 2) = 0x4c#8 ∧ m (a + 3) = 0x54#8 := by
  have hbyte : ∀ k, (read32 m a).extractLsb' k 8 &&& (0xffffff00#32).extractLsb' k 8 =
      (0x544c4e00#32).extractLsb' k 8 := fun k => by rw [← BitVec.extractLsb'_and, h]
  obtain ⟨-, h1, h2, h3⟩ := extract_u32 (m a) (m (a + 1)) (m (a + 2)) (m (a + 3))
  have hones : ∀ x : Byte, x &&& 0xFF#8 = x := fun _ => BitVec.and_allOnes
  refine ⟨?_, ?_, ?_⟩
  · exact h1.symm.trans ((hones _).symm.trans (hbyte 8))
  · exact h2.symm.trans ((hones _).symm.trans (hbyte 16))
  · exact h3.symm.trans ((hones _).symm.trans (hbyte 24))

theorem read32_of_flag {a : Nat} (h0 : m a = 0x4b#8) (h1 : m (a + 1) = 0x4e#8) (h2 : m (a + 2) = 0x4c#8)
    (h3 : m (a + 3) = 0x54#8) : read32 m a = tlStartUpFlagWhole := by
  rw [read32, h0, h1, h2, h3]; rfl

theorem otaNewImageValid_magic {a : Nat} (h : otaNewImageValid m a = true) :
    m (a + 9) = 0x4e#8 ∧ m (a + 10) = 0x4c#8 ∧ m (a + 11) = 0x54#8 := by
  unfold otaNewImageValid at h
  simp only at h
  split at h
  · split at h
    · cases h
    · next hmagic => exact read32_magic (not_not.mp hmagic)
  · cases h

/-- A bank whose second flag byte is not the flag's is not switched to. -/
theorem otaMcuReboot_refused (hbyte : m (b.userStart + 9) ≠ 0x4e#8) :
    otaMcuReboot b.base supply m = (false, m) := by
  have hnew : (if b.base ≠ 0 then 0 else flashAddrOfOtaImage) = b.userStart := by cases b <;> rfl
  unfold otaMcuReboot
  simp only [hnew]
  refine if_neg fun hvalid => hbyte ?_
  exact (otaNewImageValid_magic hvalid).1

/-- The three outcomes: nothing is written, the flag byte does not take, or the new bank has its flag and
the old one may have lost its own. -/
theorem otaMcuReboot_cases (b : Bank) (supply : Supply) (m : Mem) :
    otaMcuReboot b.base supply m = (false, m) ∨
      otaMcuReboot b.base supply m = (false, program m (b.userStart + 8) [0x4b#8]) ∧
        m (b.userStart + 8) &&& 0x4b#8 ≠ 0x4b#8 ∨
      otaMcuReboot b.base supply m =
          (true, flashWrite (supply 1) (program m (b.userStart + 8) [0x4b#8]) (b.base + 8) [0#8]) ∧
        read32 (program m (b.userStart + 8) [0x4b#8]) (b.userStart + 8) = tlStartUpFlagWhole := by
  have hnew : (if b.base ≠ 0 then 0 else flashAddrOfOtaImage) = b.userStart := by cases b <;> rfl
  have hbase : (if b.base ≠ 0 then flashAddrOfOtaImage else 0) = b.base := by cases b <;> rfl
  by_cases hvalid : otaNewImageValid m b.userStart = true
  swap
  · apply Or.inl
    simp only [otaMcuReboot, hnew]
    exact if_neg hvalid
  by_cases hlow : supply 0 < batterySafetyThreshold
  · apply Or.inl
    simp only [otaMcuReboot, hnew, hvalid, if_true, flashWriteWithCheck, hlow]
  right
  have hcheck : flashWriteWithCheck (supply 0) m (b.userStart + flashTlnkFlagOffset) [tlImageStartFlag] =
      (m (b.userStart + 8) &&& 0x4b#8 == 0x4b#8, program m (b.userStart + 8) [0x4b#8]) := by
    rw [flashWriteWithCheck, if_neg hlow]
    simp only [List.length_singleton, read_byte, flashTlnkFlagOffset, tlImageStartFlag, program_byte]
    simp
  obtain ⟨h1, h2, h3⟩ := otaNewImageValid_magic hvalid
  by_cases htake : m (b.userStart + 8) &&& 0x4b#8 = 0x4b#8
  · refine Or.inr ⟨?_, ?_⟩
    · simp only [otaMcuReboot, hnew, hbase, hvalid, if_true, hcheck, htake, beq_self_eq_true]
      rfl
    · refine read32_of_flag ?_ ?_ ?_ ?_
      · rw [program_byte, htake]
      · rw [program_byte_ne _ (by omega)]; exact h1
      · rw [program_byte_ne _ (by omega)]; exact h2
      · rw [program_byte_ne _ (by omega)]; exact h3
  · refine Or.inl ⟨?_, htake⟩
    have hne : (m (b.userStart + 8) &&& 0x4b#8 == 0x4b#8) = false := beq_eq_false_iff_ne.mpr htake
    simp only [otaMcuReboot, hnew, hvalid, if_true, hcheck, hne]

theorem otaMcuReboot_frame (b : Bank) (supply : Supply) (m : Mem) {x : Nat} (hb : x ≠ b.base + 8)
    (hu : x ≠ b.userStart + 8) : (otaMcuReboot b.base supply m).2 x = m x := by
  rcases otaMcuReboot_cases b supply m with h | ⟨h, -⟩ | ⟨h, -⟩
  · rw [h]
  · rw [h]; exact program_byte_ne _ hu
  · rw [h]
    show flashWrite _ _ _ _ x = _
    unfold flashWrite
    split
    · exact program_byte_ne _ hu
    · rw [program_byte_ne _ hb, program_byte_ne _ hu]

/-- A switch at a good supply moves the flag to the other bank and clears the old one. -/
theorem otaMcuReboot_switch (hs : batterySafetyThreshold ≤ supply 1) (hreset : (otaMcuReboot b.base supply m).1 = true) :
    mcuBootAddrGet (otaMcuReboot b.base supply m).2 = b.other.base ∧
      (otaMcuReboot b.base supply m).2 (b.other.userStart + 8) = 0#8 := by
  rcases otaMcuReboot_cases b supply m with h | ⟨h, -⟩ | ⟨h, hflag⟩
  · rw [h] at hreset; cases hreset
  · rw [h] at hreset; cases hreset
  have hwrite : flashWrite (supply 1) (program m (b.userStart + 8) [0x4b#8]) (b.base + 8) [0#8] =
      program (program m (b.userStart + 8) [0x4b#8]) (b.base + 8) [0#8] :=
    if_neg (Nat.not_lt.mpr hs)
  rw [h]
  simp only [hwrite]
  have hclear : program (program m (b.userStart + 8) [0x4b#8]) (b.base + 8) [0#8] (b.base + 8) = 0#8 := by
    rw [program_byte, BitVec.and_zero]
  have hkeep : read32 (program (program m (b.userStart + 8) [0x4b#8]) (b.base + 8) [0#8]) (b.userStart + 8) =
      tlStartUpFlagWhole := by
    rw [← hflag]
    refine read32_congr fun x hl hr => program_byte_ne _ ?_
    have hbank := b.userStart_cases
    omega
  cases b with
  | low =>
      refine ⟨mcuBootAddrGet_high.mpr ⟨fun hbad => ?_, hkeep⟩, hclear⟩
      exact absurd ((read32_flag hbad).1.symm.trans hclear) (by decide)
  | high => exact ⟨mcuBootAddrGet_low.mpr hkeep, hclear⟩

end Watermeter
