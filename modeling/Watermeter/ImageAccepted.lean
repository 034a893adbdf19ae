import Watermeter.ImageToolsAgree
import Watermeter.ShiftRegister

/-! The image the tools make and the test the device puts it to: both compute the same CRC. -/

namespace Watermeter

open NorFlash ShiftRegister
open PyStruct hiding Byte

variable {f fw : List Byte} {m : Mem} {a : Nat}

/-! ### The CRC of the tools and of the device -/

def crc32Poly : BitVec 32 := 0xEDB88320#32

theorem crc32Poly_top : crc32Poly.getLsbD (32 - 1) = true := by decide

private theorem foldl_range_shifts (c : BitVec 32) :
    (List.range 8).foldl (fun crc _ => if crc.getLsbD 0 then (crc >>> 1) ^^^ 0xEDB88320#32 else crc >>> 1) c =
      shifts crc32Poly 8 c :=
  List.foldl_const (shift crc32Poly) c (List.range 8)

/-- `binascii.crc32` before it is inverted. -/
theorem crc32_eq_absorb (data : List Byte) :
    crc32 data ^^^ 0xffffffff#32 = absorb crc32Poly 0xffffffff#32 (data.flatMap bitsOf) := by
  rw [crc32, BitVec.xor_assoc, BitVec.xor_self, BitVec.xor_zero]
  refine foldl_eq_absorb (fun c b => ?_) _ _
  rw [absorb_bitsOf (by decide), foldl_range_shifts]

/-- The table of the device takes a byte at a time to the same register. -/
theorem xcrc32_eq_absorb (buf : List Byte) (c : BitVec 32) :
    xcrc32 buf c = absorb crc32Poly c (buf.flatMap bitsOf) := by
  refine foldl_eq_absorb (fun c b => ?_) _ _
  have hb : (b.setWidth 32 : BitVec 32) >>> 8 = 0#32 := by
    apply BitVec.eq_of_getLsbD_eq
    intro i _
    rw [BitVec.getLsbD_ushiftRight, BitVec.getLsbD_setWidth, BitVec.getLsbD_of_ge b (8 + i) (by omega)]
    simp
  rw [absorb_bitsOf (by decide), shifts_split (by decide), BitVec.ushiftRight_xor_distrib, hb, BitVec.xor_zero,
    crc32Table, foldl_range_shifts]

theorem crc32_eq_xcrc32 (data : List Byte) : crc32 data ^^^ 0xffffffff#32 = xcrc32 data 0xffffffff#32 := by
  rw [crc32_eq_absorb, xcrc32_eq_absorb]

/-- A single byte that is replaced shows in the CRC. -/
theorem xcrc32_set {data : List Byte} {i : Nat} {b : Byte} (hi : i < data.length) (c : BitVec 32) :
    xcrc32 (data.set i b) c = xcrc32 data c ↔ data.getD i 0#8 = b := by
  constructor
  · intro h
    rw [xcrc32_eq_absorb, xcrc32_eq_absorb] at h
    have hwin : ∀ j, (data.set i b).getD j 0#8 ≠ data.getD j 0#8 → i ≤ j ∧ j < i + 4 := by
      intro j hj
      have heq : i = j := by
        by_contra hne
        rw [List.getD_eq_getElem?_getD, List.getElem?_set_ne hne, ← List.getD_eq_getElem?_getD] at hj
        exact hj rfl
      omega
    have hlen : (data.set i b).length = data.length := List.length_set
    have hbits := absorb_burst crc32Poly_top (by simp [List.length_flatMap]) (8 * i)
      (window_bitsOf (by decide) hwin) h
    have hsame := flatMap_bitsOf_injective hlen hbits
    rw [← hsame, List.getD_eq_getElem?_getD, List.getElem?_set_self hi, Option.getD_some]
  · rintro rfl
    congr 1
    refine List.ext_getElem? fun j => ?_
    by_cases hj : i = j
    · subst hj
      rw [List.getElem?_set_self hi, List.getD_eq_getElem?_getD, List.getElem?_eq_getElem hi, Option.getD_some]
    · rw [List.getElem?_set_ne hj]

/-! ### The image in flash -/

/-- An image as a download leaves it in flash: all but the flag byte. -/
def HoldsImage (m : Mem) (a : Nat) (fw : List Byte) : Prop :=
  ∀ i, i < fw.length → i ≠ flashTlnkFlagOffset → m (a + i) = fw.getD i 0#8

theorem toNat_u32 (b₀ b₁ b₂ b₃ : Byte) : (u32 b₀ b₁ b₂ b₃).toNat = fromBytes [b₀, b₁, b₂, b₃] := by
  have happend : ∀ {k : Nat} (x : BitVec k) (y : Byte), (x ++ y).toNat = y.toNat + 256 * x.toNat := by
    intro k x y
    rw [BitVec.toNat_append, ← Nat.shiftLeft_add_eq_or_of_lt y.isLt, Nat.shiftLeft_eq]
    omega
  simp only [u32, happend, fromBytes]
  omega

theorem read32_toNat (m : Mem) (x : Nat) : (read32 m x).toNat = fromBytes (read m x 4) := toNat_u32 _ _ _ _

theorem read_slice {i n : Nat} (h : HoldsImage m a fw) (hn : i + n ≤ fw.length)
    (hflag : i + n ≤ flashTlnkFlagOffset ∨ flashTlnkFlagOffset < i) : read m (a + i) n = slice fw i (i + n) := by
  have hlen : (slice fw i (i + n)).length = n := by rw [length_slice hn]; omega
  have hall : read m (a + i) (slice fw i (i + n)).length = slice fw i (i + n) := by
    apply read_eq_iff.mpr
    intro k hk
    rw [hlen] at hk
    rw [Nat.add_assoc, h (i + k) (by omega) (by omega), List.getD_eq_getElem?_getD, List.getD_eq_getElem?_getD,
      getElem?_slice, if_pos (by omega), List.getElem?_eq_getElem (by omega)]
    rfl
  rwa [hlen] at hall

theorem slice_four {bs : List Byte} {i : Nat} (h : i + 4 ≤ bs.length) :
    slice bs i (i + 4) = [bs.getD i 0#8, bs.getD (i + 1) 0#8, bs.getD (i + 2) 0#8, bs.getD (i + 3) 0#8] := by
  refine List.ext_getElem? fun k => ?_
  rw [getElem?_slice]
  have hget : ∀ j, j < bs.length → bs[j]? = some (bs.getD j 0#8) := by
    intro j hj
    rw [List.getD_eq_getElem?_getD, List.getElem?_eq_getElem hj]
    rfl
  rcases k with _ | _ | _ | _ | k
  · rw [if_pos (by omega)]; exact hget i (by omega)
  · rw [if_pos (by omega)]; exact hget (i + 1) (by omega)
  · rw [if_pos (by omega)]; exact hget (i + 2) (by omega)
  · rw [if_pos (by omega)]; exact hget (i + 3) (by omega)
  · rw [if_neg (by omega)]; rfl

theorem magic_of_bytes (b : Byte) : u32 b 0x4e#8 0x4c#8 0x54#8 &&& 0xffffff00#32 = 0x544c4e00#32 := by
  revert b
  decide

/-- The bytes `KNLT` that the device looks for at the flag. -/
def startFlag : List Byte := [0x4b#8, 0x4e#8, 0x4c#8, 0x54#8]

/-- Where an image can stand. -/
def NewImageAddr (a : Nat) : Prop := a = 0 ∨ a = flashAddrOfOtaImage

theorem patched_size (hf : 0x1c ≤ f.length) (hfits : (padded f).length + 4 < 256 ^ 4)
    (h : HoldsImage m a (patched f)) : (read32 m (a + 0x18)).toNat = (patched f).length := by
  have hpad := padded_spec f
  have hlen := length_patched hf
  rw [read32_toNat, read_slice h (by omega) (Or.inr (by decide)), patched_length_field hf,
    fromBytes_digits (by omega)]

theorem patched_crcVal (hf : 0x1c ≤ f.length) (h : HoldsImage m a (patched f)) :
    read32 m (a + ((patched f).length - 4)) = xcrc32 (body f) 0xffffffff#32 := by
  have hpad := padded_spec f
  have hlen := length_patched hf
  have hend : (patched f).length - 4 + 4 = (patched f).length := by omega
  have hflag : flashTlnkFlagOffset < (patched f).length - 4 := by rw [flashTlnkFlagOffset]; omega
  apply BitVec.eq_of_toNat_eq
  rw [read32_toNat, read_slice h hend.le (Or.inr hflag), hend, patched_crc hf, take_patched hf,
    fromBytes_digits (BitVec.isLt _), crc32_eq_xcrc32]

theorem read_body (hf : 0x1c ≤ f.length) (h : HoldsImage m a (patched f)) :
    (read m a ((patched f).length - 4)).set flashTlnkFlagOffset tlImageStartFlag =
      (body f).set flashTlnkFlagOffset tlImageStartFlag := by
  have hlen := length_patched hf
  have hbody := length_body hf
  apply List.ext_getElem (by rw [List.length_set, List.length_set, length_read]; omega)
  intro i hi hi'
  rw [List.length_set] at hi'
  by_cases hflag : flashTlnkFlagOffset = i
  · subst hflag
    rw [List.getElem_set_self, List.getElem_set_self]
  · rw [List.getElem_set_ne hflag, List.getElem_set_ne hflag]
    have hcell : m (a + i) = (patched f).getD i 0#8 := h i (by omega) (Ne.symm hflag)
    have hleft : (patched f).getD i 0#8 = (body f)[i] := by
      rw [patched, List.getD_eq_getElem?_getD, List.getElem?_append_left hi', List.getElem?_eq_getElem hi',
        Option.getD_some]
    simpa [NorFlash.read, hcell] using hleft

/-- The flag of the image is the magic that the device reads and the byte it takes as set. -/
theorem startFlag_iff {fw : List Byte} (hlong : 12 ≤ fw.length) (h : HoldsImage m a fw) :
    slice fw 8 12 = startFlag ↔ read32 m (a + flashTlnkFlagOffset) &&& 0xffffff00#32 = 0x544c4e00#32 ∧
      fw.getD 8 0#8 = tlImageStartFlag := by
  have hbytes := slice_four hlong
  have hcell : ∀ i, i < 12 → i ≠ flashTlnkFlagOffset → m (a + i) = fw.getD i 0#8 :=
    fun i hi hne => h i (by omega) hne
  constructor
  · intro hflag
    have heq := hbytes.symm.trans hflag
    rw [startFlag] at heq
    simp only [List.cons.injEq, and_true] at heq
    obtain ⟨h8, h9, h10, h11⟩ := heq
    refine ⟨?_, h8⟩
    rw [flashTlnkFlagOffset, read32, show a + 8 + 1 = a + 9 from rfl, show a + 8 + 2 = a + 10 from rfl,
      show a + 8 + 3 = a + 11 from rfl, hcell 9 (by omega) (by decide), hcell 10 (by omega) (by decide),
      hcell 11 (by omega) (by decide), h9, h10, h11]
    exact magic_of_bytes _
  · rintro ⟨hmagic, h8⟩
    obtain ⟨h9, h10, h11⟩ := read32_magic hmagic
    rw [flashTlnkFlagOffset] at *
    rw [hbytes, h8, ← hcell 9 (by omega) (by omega), ← hcell 10 (by omega) (by omega), ← hcell 11 (by omega) (by omega),
      startFlag, tlImageStartFlag, show a + 9 = a + 8 + 1 from rfl, show a + 10 = a + 8 + 2 from rfl,
      show a + 11 = a + 8 + 3 from rfl, h9, h10, h11]

/-- The CRC of an image stands at its end. -/
theorem crc_addr {len : Nat} (ha : NewImageAddr a) (hlong : 4 ≤ len) (hmax : len ≤ flashOtaImageMaxSize) :
    (a + len + (2 ^ 32 - 4)) % 2 ^ 32 = a + (len - 4) := by
  rw [flashOtaImageMaxSize] at hmax
  rcases ha with rfl | rfl
  · omega
  · rw [flashAddrOfOtaImage]; omega

/-- The device takes a patched image that fits its bank and carries the flag. -/
theorem patched_accepted (hf : 0x1c ≤ f.length) (hfits : (padded f).length + 4 < 256 ^ 4) (ha : NewImageAddr a)
    (h : HoldsImage m a (patched f)) :
    otaNewImageValid m a = true ↔
      (patched f).length ≤ flashOtaImageMaxSize ∧ slice (patched f) 8 12 = startFlag := by
  have hpad := padded_spec f
  have hlen := length_patched hf
  have hbody := length_body hf
  have hflag : (body f).getD 8 0#8 = (patched f).getD 8 0#8 := by
    rw [patched, List.getD_eq_getElem?_getD, List.getD_eq_getElem?_getD, List.getElem?_append_left (by omega)]
  rw [otaNewImageValid, patched_size hf hfits h, startFlag_iff (by omega) h]
  simp only
  by_cases hmax : (patched f).length ≤ flashOtaImageMaxSize
  · rw [if_pos hmax, crc_addr ha (by omega) hmax, patched_crcVal hf h, read_body hf h, and_iff_right hmax, ← hflag]
    by_cases hmagic : read32 m (a + flashTlnkFlagOffset) &&& 0xffffff00#32 = 0x544c4e00#32
    · rw [if_neg (not_not.mpr hmagic), beq_iff_eq, xcrc32_set (by rw [flashTlnkFlagOffset]; omega), and_iff_right hmagic]
      exact Iff.rfl
    · rw [if_pos hmagic]
      exact iff_of_false Bool.false_ne_true fun hgood => hmagic hgood.1
  · rw [if_neg hmax]
    exact iff_of_false Bool.false_ne_true fun hgood => hmax hgood.1

/-- What a raw image becomes: its length in its header, the magic, and the CRC that the device checks. -/
structure Completed (fw : List Byte) : Prop where
  size : fw.length % 16 = 4
  lengthField : slice fw 0x18 0x1c = digits 4 fw.length
  magic : slice fw 6 8 = otaMagic
  crc : slice fw (fw.length - 4) fw.length =
    digits 4 (crc32 (fw.take (fw.length - 4)) ^^^ 0xffffffff#32).toNat
  sameCrc : crc32 (fw.take (fw.length - 4)) ^^^ 0xffffffff#32 = xcrc32 (fw.take (fw.length - 4)) 0xffffffff#32
  accepted : ∀ m a, NewImageAddr a → HoldsImage m a fw →
    (otaNewImageValid m a = true ↔ fw.length ≤ flashOtaImageMaxSize ∧ slice fw 8 12 = startFlag)

theorem completed_patched (hf : 0x1c ≤ f.length) (hfits : (padded f).length + 4 < 256 ^ 4) :
    Completed (patched f) where
  size := by
    have hpad := padded_spec f
    have hlen := length_patched hf
    omega
  lengthField := patched_length_field hf
  magic := patched_magic hf
  crc := patched_crc hf
  sameCrc := crc32_eq_xcrc32 _
  accepted := fun _ _ ha h => patched_accepted hf hfits ha h

/-- The tools agree on every file, the OTA file reads back, and a raw image comes out completed. -/
theorem image_tools_agree (f : List Byte) (hf : 0x1c ≤ f.length) :
    (tlCheckFw f >>= tlCheckFw) = tlCheckFw f ∧
      (∀ fw args, tlCheckFw f = .ok fw → makeOta args fw = makeOta args f) ∧
      (slice f 6 8 ≠ otaMagic → ((∃ fw, tlCheckFw f = .ok fw) ↔ (f.length + 15) / 16 * 16 + 4 < 2 ^ 32)) ∧
      (∀ args, (∃ out, makeOta args f = .ok out) ↔
        some args.inputFile ≠ args.output ∧ ∃ fw, tlCheckFw f = .ok fw ∧ FitsHeader args fw) ∧
      ∀ args out, makeOta args f = .ok out →
        ∃ fw, tlCheckFw f = .ok fw ∧ parseOta out.content = .ok (otaFileOf args fw) ∧
          (out.content.length : Int) = (otaFileOf args fw).totalImageSize ∧
          (otaFileOf args fw).elementLength = (otaFileOf args fw).element.length ∧
          (slice f 6 8 ≠ otaMagic → Completed fw) := by
  refine ⟨tlCheckFw_idem hf, fun fw args h => makeOta_tlCheckFw hf h args, ?_, ?_, ?_⟩
  · intro hraw
    have hpad := padded_spec f
    have hround : (padded f).length + 4 < 256 ^ 4 ↔ (f.length + 15) / 16 * 16 + 4 < 2 ^ 32 := by omega
    rw [tlCheckFw_raw hraw, ← hround]
    split
    · next h => exact ⟨fun _ => h, fun _ => ⟨_, rfl⟩⟩
    · next h =>
        refine ⟨fun hbad => ?_, fun hbad => absurd hbad h⟩
        obtain ⟨_, hbad⟩ := hbad
        cases hbad
  · intro args
    constructor
    · rintro ⟨out, hout⟩
      obtain ⟨hname, fw, hfw, hwrite⟩ := makeOta_ok hout
      exact ⟨hname, fw, hfw, writeOta_ok_fits hwrite⟩
    · rintro ⟨hname, fw, hfw, hfits⟩
      obtain ⟨out, hwrite, -, -⟩ := writeOta_fits hfits
      exact ⟨out, (makeOta_of_checked hname hfw).trans hwrite⟩
  · intro args out hout
    obtain ⟨-, fw, hfw, hwrite⟩ := makeOta_ok hout
    obtain ⟨out', hwrite', hparse, hlen⟩ := writeOta_fits (writeOta_ok_fits hwrite)
    obtain rfl : out' = out := Except.ok.inj (hwrite'.symm.trans hwrite)
    refine ⟨fw, hfw, hparse, by rw [hlen]; rfl, rfl, fun hraw => ?_⟩
    rw [tlCheckFw_raw hraw] at hfw
    split at hfw
    · next hfits => cases hfw; exact completed_patched hf hfits
    · cases hfw

/-- Twenty-eight zero bytes become a completed image. -/
theorem image_tools_agree_zeros :
    ∃ out fw, makeOta { inputFile := ['f', 'w'] } (List.replicate 28 0#8) = .ok out ∧
      tlCheckFw (List.replicate 28 0#8) = .ok fw ∧ Completed fw := by
  obtain ⟨-, -, hcheck, hmake, hout⟩ := image_tools_agree (List.replicate 28 0#8) (by decide)
  have hraw : slice (List.replicate 28 0#8) 6 8 ≠ otaMagic := by decide
  obtain ⟨fw, hfw⟩ := (hcheck hraw).mpr (by decide)
  have hpatched : fw = patched (List.replicate 28 0#8) := by
    rw [tlCheckFw_raw hraw, if_pos (by decide)] at hfw
    exact (Except.ok.inj hfw).symm
  have hfits : FitsHeader { inputFile := ['f', 'w'] } fw := by
    subst hpatched
    exact ⟨by decide, by decide, by rw [length_patched (by decide)]; decide⟩
  obtain ⟨out, hmade⟩ := (hmake { inputFile := ['f', 'w'] }).mpr ⟨by decide, fw, hfw, hfits⟩
  obtain ⟨fw', hfw', -, -, -, hdone⟩ := hout _ out hmade
  exact ⟨out, fw', hmade, hfw', hdone hraw⟩

end Watermeter
