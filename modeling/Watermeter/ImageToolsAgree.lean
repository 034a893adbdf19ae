import Watermeter.ImageTools

/-! The two tools make the same image, and the OTA file reads back. -/

namespace Watermeter

open NorFlash
open PyStruct hiding Byte

variable {f fw : List Byte}

/-! ### Slices -/

theorem getElem?_slice (bs : List Byte) (i j k : Nat) : (slice bs i j)[k]? = if i + k < j then bs[i + k]? else none := by
  rw [slice, List.getElem?_drop, List.getElem?_take]

theorem getElem?_setSlice {bs new : List Byte} {i j : Nat} (hi : i ≤ bs.length) (hnew : i + new.length = j) (k : Nat) :
    (setSlice bs i j new)[k]? = if k < i then bs[k]? else if k < j then new[k - i]? else bs[k]? := by
  have htake : (bs.take i).length = i := by rw [List.length_take]; omega
  rw [setSlice]
  by_cases hl : k < i
  · rw [if_pos hl, List.append_assoc, List.getElem?_append_left (by omega), List.getElem?_take_of_lt hl]
  · rw [if_neg hl]
    by_cases hr : k < j
    · rw [if_pos hr, List.append_assoc, List.getElem?_append_right (by omega),
        List.getElem?_append_left (by omega), htake]
    · rw [if_neg hr, List.getElem?_append_right (by rw [List.length_append]; omega), List.getElem?_drop]
      congr 1
      rw [List.length_append]
      omega

theorem length_setSlice {bs new : List Byte} {i j : Nat} (hj : j ≤ bs.length) (hnew : i + new.length = j) :
    (setSlice bs i j new).length = bs.length := by
  simp only [setSlice, List.length_append, List.length_take, List.length_drop]
  omega

/-- What was assigned is there. -/
theorem slice_setSlice_self {bs new : List Byte} {i j : Nat} (hi : i ≤ bs.length) (hnew : i + new.length = j) :
    slice (setSlice bs i j new) i j = new := by
  refine List.ext_getElem? fun k => ?_
  rw [getElem?_slice]
  split
  · rw [getElem?_setSlice hi hnew, if_neg (by omega), if_pos (by omega), Nat.add_sub_cancel_left]
  · exact (List.getElem?_eq_none (by omega)).symm

/-- Other ranges are not touched. -/
theorem slice_setSlice_disjoint {bs new : List Byte} {i j k l : Nat} (hi : i ≤ bs.length) (hnew : i + new.length = j)
    (h : l ≤ i ∨ j ≤ k) : slice (setSlice bs i j new) k l = slice bs k l := by
  refine List.ext_getElem? fun n => ?_
  rw [getElem?_slice, getElem?_slice]
  split
  · rw [getElem?_setSlice hi hnew]
    rcases h with h | h
    · rw [if_pos (by omega)]
    · rw [if_neg (by omega), if_neg (by omega)]
  · rfl

theorem slice_append_left {a b : List Byte} {i j : Nat} (h : j ≤ a.length) : slice (a ++ b) i j = slice a i j := by
  rw [slice, slice, List.take_append_of_le_length h]

theorem slice_append_right (a b : List Byte) : slice (a ++ b) a.length (a ++ b).length = b := by
  rw [slice, List.take_length, List.drop_left]

theorem length_slice {bs : List Byte} {i j : Nat} (h : j ≤ bs.length) : (slice bs i j).length = j - i := by
  rw [slice, List.length_drop, List.length_take, Nat.min_eq_left h]

/-! ### The patch -/

/-- The firmware filled up to a multiple of 16. -/
def padded (f : List Byte) : List Byte :=
  let padding := 16 - f.length % 16
  if padding < 16 then f ++ List.replicate padding 0xFF#8 else f

/-- The bytes the CRC is over. -/
def body (f : List Byte) : List Byte :=
  setSlice (setSlice (padded f) 0x18 0x1c (digits 4 ((padded f).length + 4))) 6 8 otaMagic

/-- The patched firmware. -/
def patched (f : List Byte) : List Byte := body f ++ digits 4 (crc32 (body f) ^^^ 0xffffffff#32).toNat

theorem padded_spec (f : List Byte) :
    f.length ≤ (padded f).length ∧ (padded f).length % 16 = 0 ∧ (padded f).length < f.length + 16 := by
  unfold padded
  simp only
  split
  · rw [List.length_append, List.length_replicate]; omega
  · omega

private theorem magic_fits : 6 + otaMagic.length = 8 := rfl

theorem length_body (hf : 0x1c ≤ f.length) : (body f).length = (padded f).length := by
  have hpad := padded_spec f
  have hlen : (setSlice (padded f) 0x18 0x1c (digits 4 ((padded f).length + 4))).length = (padded f).length :=
    length_setSlice (by omega) (by rw [length_digits])
  rw [body, length_setSlice (by omega) magic_fits, hlen]

theorem length_patched (hf : 0x1c ≤ f.length) : (patched f).length = (padded f).length + 4 := by
  rw [patched, List.length_append, length_body hf, length_digits]

theorem take_patched (hf : 0x1c ≤ f.length) : (patched f).take ((patched f).length - 4) = body f := by
  rw [length_patched hf, Nat.add_sub_cancel, ← length_body hf, patched, List.take_left]

theorem patched_magic (hf : 0x1c ≤ f.length) : slice (patched f) 6 8 = otaMagic := by
  have hpad := padded_spec f
  rw [patched, slice_append_left (by rw [length_body hf]; omega), body]
  refine slice_setSlice_self ?_ magic_fits
  rw [length_setSlice (by omega) (by rw [length_digits])]
  omega

theorem patched_length_field (hf : 0x1c ≤ f.length) :
    slice (patched f) 0x18 0x1c = digits 4 (patched f).length := by
  have hpad := padded_spec f
  have hset : (setSlice (padded f) 0x18 0x1c (digits 4 ((padded f).length + 4))).length = (padded f).length :=
    length_setSlice (by omega) (by rw [length_digits])
  rw [length_patched hf, patched, slice_append_left (by rw [length_body hf]; omega), body,
    slice_setSlice_disjoint (by omega) magic_fits (by omega)]
  exact slice_setSlice_self (by omega) (by rw [length_digits])

theorem patched_crc (hf : 0x1c ≤ f.length) :
    slice (patched f) ((patched f).length - 4) (patched f).length =
      digits 4 (crc32 ((patched f).take ((patched f).length - 4)) ^^^ 0xffffffff#32).toNat := by
  rw [take_patched hf, length_patched hf, Nat.add_sub_cancel, ← length_body hf]
  have hall := slice_append_right (body f) (digits 4 (crc32 (body f) ^^^ 0xffffffff#32).toNat)
  rwa [List.length_append, length_digits] at hall

/-! ### The scripts -/

/-- `tl_check_fw.py` has a patched image to write unless the length does not fit its field. -/
theorem tlCheckFw_raw (h : slice f 6 8 ≠ otaMagic) :
    tlCheckFw f = if (padded f).length + 4 < 256 ^ 4 then .ok (patched f) else .error .overflowError := by
  have hcrc : toBytes 4 (crc32 (body f) ^^^ 0xffffffff#32).toNat =
      .ok (digits 4 (crc32 (body f) ^^^ 0xffffffff#32).toNat) := if_pos (BitVec.isLt _)
  rw [tlCheckFw, if_pos h]
  split
  · next hfits =>
      have hlen : toBytes 4 ((padded f).length + 4) = .ok (digits 4 ((padded f).length + 4)) := if_pos hfits
      change (toBytes 4 ((padded f).length + 4) >>= fun _ => _) = _
      rw [hlen]
      change (toBytes 4 (crc32 (body f) ^^^ 0xffffffff#32).toNat >>= fun _ => _) = _
      rw [hcrc]
      rfl
  · next hlong =>
      have hlen : toBytes 4 ((padded f).length + 4) = .error .overflowError := if_neg hlong
      change (toBytes 4 ((padded f).length + 4) >>= fun _ => _) = _
      rw [hlen]
      rfl

theorem tlCheckFw_done (h : slice f 6 8 = otaMagic) : tlCheckFw f = .ok f := if_neg (not_not.mpr h)

/-- What `tl_check_fw.py` leaves carries the magic. -/
theorem tlCheckFw_magic (hf : 0x1c ≤ f.length) (h : tlCheckFw f = .ok fw) : slice fw 6 8 = otaMagic := by
  by_cases hraw : slice f 6 8 = otaMagic
  · rw [tlCheckFw_done hraw] at h
    cases h
    exact hraw
  · rw [tlCheckFw_raw hraw] at h
    split at h
    · cases h
      exact patched_magic hf
    · cases h

/-- `make_ota.py` patches its input as `tl_check_fw.py` does. -/
theorem makeOta_eq (args : OtaArgs) (f : List Byte) :
    makeOta args f =
      if some args.inputFile = args.output then .error .assertionError else tlCheckFw f >>= writeOta args := by
  rw [makeOta, tlCheckFw]
  apply if_congr Iff.rfl rfl
  by_cases hraw : slice f 6 8 ≠ otaMagic
  · rw [if_pos hraw, if_pos hraw]
    simp only [bind_assoc, pure_bind]
  · rw [if_neg hraw, if_neg hraw]

theorem tlCheckFw_idem (hf : 0x1c ≤ f.length) : (tlCheckFw f >>= tlCheckFw) = tlCheckFw f := by
  rcases h : tlCheckFw f with e | fw
  · rfl
  · exact tlCheckFw_done (tlCheckFw_magic hf h)

theorem makeOta_tlCheckFw (hf : 0x1c ≤ f.length) (h : tlCheckFw f = .ok fw) (args : OtaArgs) :
    makeOta args fw = makeOta args f := by
  rw [makeOta_eq, makeOta_eq, tlCheckFw_done (tlCheckFw_magic hf h), h]

private theorem ok_bind {ε α β : Type} (a : α) (k : α → Except ε β) : (Except.ok a >>= k) = k a := rfl

theorem makeOta_ok {args : OtaArgs} {out : OtaOutput} (h : makeOta args f = .ok out) :
    some args.inputFile ≠ args.output ∧ ∃ fw, tlCheckFw f = .ok fw ∧ writeOta args fw = .ok out := by
  rw [makeOta_eq] at h
  split at h
  · cases h
  · next hname =>
      rcases hfw : tlCheckFw f with e | fw
      · rw [hfw] at h; cases h
      · rw [hfw, ok_bind] at h; exact ⟨hname, fw, rfl, h⟩

theorem makeOta_of_checked {args : OtaArgs} (hname : some args.inputFile ≠ args.output) (h : tlCheckFw f = .ok fw) :
    makeOta args f = writeOta args fw := by
  rw [makeOta_eq, if_neg hname, h, ok_bind]

/-! ### The file -/

/-- The options and the sizes fit the fields of the header. -/
def FitsHeader (args : OtaArgs) (fw : List Byte) : Prop :=
  (0 ≤ fileVersionOf args fw ∧ fileVersionOf args fw < 256 ^ 4) ∧ (0 ≤ args.otaVersion ∧ args.otaVersion < 256 ^ 2) ∧
    fw.length + headerSize + 6 < 256 ^ 4

/-- The fields of the OTA file of a firmware. -/
def otaFileOf (args : OtaArgs) (fw : List Byte) : OtaFile where
  magic := 0xbeef11e
  headerVersion := 0x100
  headerSize := headerSize
  fieldControl := 0
  manufacturerCode := fromBytes (slice fw 18 20)
  imageType := fromBytes (slice fw 20 22)
  fileVersion := fileVersionOf args fw
  stackVersion := args.otaVersion
  headerString := List.replicate 32 0#8
  totalImageSize := (fw.length + headerSize + 6 : Nat)
  elementTag := 0
  elementLength := fw.length
  element := fw

theorem fromBytes_slice_lt (bs : List Byte) {i j n : Nat} (h : j ≤ i + n) : (fromBytes (slice bs i j) : Int) < 256 ^ n := by
  have hlen : (slice bs i j).length ≤ n := by
    rw [slice, List.length_drop, List.length_take]; omega
  have hlt := (fromBytes_lt (slice bs i j)).trans_le (Nat.pow_le_pow_right (by decide) hlen)
  exact_mod_cast hlt

theorem suits_otaHdr {args : OtaArgs} (h : FitsHeader args fw) : List.Forall₂ Suits otaHdrFormat (otaHdr args fw) := by
  obtain ⟨hversion, hstack, hsize⟩ := h
  have hfield : ∀ {i j : Nat}, j ≤ i + 2 → Suits (.uint 2) (.int (fromBytes (slice fw i j))) :=
    fun hij => ⟨Int.natCast_nonneg _, fromBytes_slice_lt fw hij⟩
  have htotal : Suits (.uint 4) (.int (fw.length + headerSize + 6 : Nat)) :=
    ⟨Int.natCast_nonneg _, by exact_mod_cast hsize⟩
  exact .cons ⟨by decide, by decide⟩ (.cons ⟨by decide, by decide⟩ (.cons ⟨by decide, by decide⟩
    (.cons ⟨by decide, by decide⟩ (.cons (hfield (by decide)) (.cons (hfield (by decide))
    (.cons hversion (.cons hstack (.cons List.length_replicate (.cons htotal .nil)))))))))

theorem suits_chunk (h : fw.length + headerSize + 6 < 256 ^ 4) :
    List.Forall₂ Suits chunkFormat [.int 0, .int fw.length] := by
  have hlen : (fw.length : Int) < 256 ^ 4 := by exact_mod_cast (by omega : fw.length < 256 ^ 4)
  exact .cons ⟨by decide, by decide⟩ (.cons ⟨Int.natCast_nonneg _, hlen⟩ .nil)

/-- A firmware that fits is written, and the file reads back. -/
theorem writeOta_fits {args : OtaArgs} (h : FitsHeader args fw) :
    ∃ out, writeOta args fw = .ok out ∧ parseOta out.content = .ok (otaFileOf args fw) ∧
      out.content.length = fw.length + headerSize + 6 := by
  obtain ⟨hdr, hpack, hlen, hread⟩ := pack_suits (suits_otaHdr h)
  obtain ⟨chunk, hpack', hlen', hread'⟩ := pack_suits (suits_chunk h.2.2)
  refine ⟨_, by rw [writeOta, hpack, hpack']; rfl, ?_, ?_⟩
  · have htake : (hdr ++ chunk ++ fw).take (calcsize otaHdrFormat) = hdr := by
      rw [List.append_assoc, ← hlen, List.take_left]
    have hmid : ((hdr ++ chunk ++ fw).drop (calcsize otaHdrFormat)).take (calcsize chunkFormat) = chunk := by
      rw [List.append_assoc, ← hlen, List.drop_left, ← hlen', List.take_left]
    have hrest : (hdr ++ chunk ++ fw).drop (calcsize otaHdrFormat + calcsize chunkFormat) = fw := by
      rw [← hlen, ← hlen', ← List.length_append, List.drop_left]
    rw [parseOta, htake, hmid, hrest, hread, hread']
    rfl
  · rw [List.length_append, List.length_append, hlen, hlen', show calcsize otaHdrFormat = headerSize from rfl,
      show calcsize chunkFormat = 6 from rfl]
    omega

/-- Nothing is written unless everything fits. -/
theorem writeOta_ok_fits {args : OtaArgs} {out : OtaOutput} (h : writeOta args fw = .ok out) : FitsHeader args fw := by
  rw [writeOta] at h
  rcases hpack : pack otaHdrFormat (otaHdr args fw) with e | hdr
  · rw [hpack] at h; cases h
  · have hall := pack_forall hpack
    simp only [otaHdrFormat, otaHdr, List.forall₂_cons] at hall
    obtain ⟨-, -, -, -, -, -, hversion, hstack, -, hsize, -⟩ := hall
    exact ⟨packOne_uint hversion, packOne_uint hstack, by exact_mod_cast (packOne_uint hsize).2⟩

end Watermeter
