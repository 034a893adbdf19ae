import Watermeter.ZclFormats

/-! The parsers of the general commands beside readers that stay within the payload. They agree on every payload
of whole records, so on all that the senders build, and on no other is what a parser makes of it independent of
the memory behind it. -/

namespace Watermeter.Zcl

open NorFlash TwoPass

variable {dataType direction status : BitVec 8} {data bs : List Byte} {rest m : Memory Byte}

/-! ### Bytes and sizes -/

@[simp] theorem loUint16_u16 (b₀ b₁ : Byte) : loUint16 (u16 b₀ b₁) = b₀ := BitVec.extractLsb'_append_eq_right

@[simp] theorem hiUint16_u16 (b₀ b₁ : Byte) : hiUint16 (u16 b₀ b₁) = b₁ := BitVec.extractLsb'_append_eq_left

@[simp] theorem u16_lo_hi (a : BitVec 16) : u16 (loUint16 a) (hiUint16 a) = a := u16_bytes a

theorem dataTypeLen_le (dataType : BitVec 8) : (zclGetDataTypeLen dataType).toNat ≤ 16 := by
  unfold zclGetDataTypeLen
  split_ifs <;> decide

/-- The size of a structure, without its end at 16 bits. -/
def structLen (m : Memory Byte) : Nat → Nat → Nat
  | 0, dataLen => dataLen
  | itemNum + 1, dataLen => structLen m itemNum (dataLen + ((zclGetDataTypeLen (m dataLen)).toNat + 1))

theorem structSize_toNat (m : Memory Byte) (itemNum : Nat) (dataLen : BitVec 16)
    (h : dataLen.toNat + 17 * itemNum < 65536) :
    (structSize m itemNum dataLen).toNat = structLen m itemNum dataLen.toNat := by
  induction itemNum generalizing dataLen with
  | zero => rfl
  | succ itemNum ih =>
      have hlen := dataTypeLen_le (m dataLen.toNat)
      have hnext : (dataLen + ((zclGetDataTypeLen (m dataLen.toNat)).setWidth 16 + 1)).toNat =
          dataLen.toNat + ((zclGetDataTypeLen (m dataLen.toNat)).toNat + 1) := by
        rw [BitVec.toNat_add, BitVec.toNat_add, BitVec.toNat_setWidth]
        have hone : (1 : BitVec 16).toNat = 1 := rfl
        omega
      rw [structSize, structLen, ih _ (by omega), hnext]

theorem le_structLen (m : Memory Byte) (itemNum dataLen : Nat) : dataLen ≤ structLen m itemNum dataLen := by
  induction itemNum generalizing dataLen with
  | zero => exact Nat.le_refl dataLen
  | succ itemNum ih => exact (Nat.le_add_right _ _).trans (ih _)

theorem structWithin_some {itemNum dataLen size : Nat} (h : structWithin data itemNum dataLen = some size)
    (rest : Memory Byte) : structLen (behind data rest) itemNum dataLen = size := by
  induction itemNum generalizing dataLen with
  | zero => exact Option.some.inj h
  | succ itemNum ih =>
      rw [structWithin] at h
      split at h
      · cases h
      · next dataType hat =>
          obtain ⟨hlt, hget⟩ := List.getElem?_eq_some_iff.mp hat
          have hbyte : behind data rest dataLen = dataType := (behind_of_lt hlt).trans hget
          rw [structLen, hbyte]
          exact ih h

theorem structWithin_none {itemNum dataLen : Nat} (h : structWithin data itemNum dataLen = none) (rest : Memory Byte) :
    data.length < structLen (behind data rest) itemNum dataLen := by
  induction itemNum generalizing dataLen with
  | zero => cases h
  | succ itemNum ih =>
      rw [structWithin] at h
      rw [structLen]
      split at h
      · next hat =>
          have hend : data.length ≤ dataLen := List.getElem?_eq_none_iff.mp hat
          have hgrows := le_structLen (behind data rest) itemNum
            (dataLen + ((zclGetDataTypeLen (behind data rest dataLen)).toNat + 1))
          omega
      · next dataType hat =>
          obtain ⟨hlt, hget⟩ := List.getElem?_eq_some_iff.mp hat
          have hbyte : behind data rest dataLen = dataType := (behind_of_lt hlt).trans hget
          rw [hbyte]
          exact ih h

/-- The size that the code takes for a structure. -/
theorem structSize_count (m : Memory Byte) (itemNum : Byte) :
    (structSize m itemNum.toNat 2#16).toNat = structLen m itemNum.toNat 2 :=
  structSize_toNat m itemNum.toNat 2#16 (by
    have hfew := itemNum.isLt
    have htwo : (2#16).toNat = 2 := rfl
    omega)

theorem sizeWithin_some {size : Nat} (h : sizeWithin dataType data = some size) (rest : Memory Byte) :
    (zclGetAttrSize dataType (behind data rest)).toNat = size := by
  unfold sizeWithin at h
  unfold zclGetAttrSize
  split at h
  · next hlong =>
      rw [if_pos hlong]
      split at h
      · exact Option.some.inj h
      · cases h
  next hlong =>
    rw [if_neg hlong]
    split at h
    · next hstr =>
        rw [if_pos hstr]
        split at h
        · next len tail =>
            rw [← Option.some.inj h, behind_zero, BitVec.toNat_add, BitVec.toNat_setWidth]
            have hbyte := len.isLt
            have hone : (1 : BitVec 16).toNat = 1 := rfl
            omega
        · cases h
    next hstr =>
      rw [if_neg hstr]
      split at h
      · next hstruct =>
          rw [if_pos hstruct]
          split at h
          · next itemNum tail =>
              rw [behind_zero, structSize_count]
              exact structWithin_some h rest
          · cases h
      · next hstruct =>
          rw [if_neg hstruct, ← Option.some.inj h, BitVec.toNat_setWidth]
          have hlen := dataTypeLen_le dataType
          omega

/-- Where the size is not told within the payload, bytes 0 or 1 behind it give a size that ends behind it. -/
theorem sizeWithin_none {c : Byte} (hc : c = 0#8 ∨ c = 1#8) (h : sizeWithin dataType data = none) :
    data.length < (zclGetAttrSize dataType (behind data fun _ => c)).toNat := by
  have hsmall : c.toNat ≤ 1 := by rcases hc with rfl | rfl <;> decide
  unfold sizeWithin at h
  unfold zclGetAttrSize
  split at h
  · next hlong =>
      rw [if_pos hlong]
      have hsize : ∀ b₀ : Byte, b₀.toNat + 256 * c.toNat + 2 = (u16 b₀ c + 2).toNat := fun b₀ => by
        have hlo := b₀.isLt
        rw [BitVec.toNat_add, u16, BitVec.toNat_append, Nat.shiftLeft_eq, Nat.mul_comm c.toNat,
          ← Nat.two_pow_add_eq_or_of_lt hlo]
        have htwo : (2 : BitVec 16).toNat = 2 := rfl
        omega
      rcases data with _ | ⟨b₀, _ | ⟨b₁, tail⟩⟩
      · rw [behind_nil, ← hsize]
        exact Nat.succ_pos _
      · have hone : behind [b₀] (fun _ => c) 1 = c := rfl
        rw [behind_zero, hone, ← hsize, List.length_singleton]
        omega
      · cases h
  next hlong =>
    rw [if_neg hlong]
    split at h
    · next hstr =>
        rw [if_pos hstr]
        rcases data with _ | ⟨len, tail⟩
        · rw [behind_nil, BitVec.toNat_add, BitVec.toNat_setWidth]
          have hone : (1 : BitVec 16).toNat = 1 := rfl
          rw [List.length_nil]
          omega
        · cases h
    next hstr =>
      rw [if_neg hstr]
      split at h
      · next hstruct =>
          rw [if_pos hstruct, structSize_count]
          rcases data with _ | ⟨itemNum, tail⟩
          · exact Nat.lt_of_lt_of_le Nat.two_pos (le_structLen _ _ _)
          · rw [behind_zero]
            exact structWithin_none h _
      · cases h

/-- The data of an attribute lies within the payload, or takes more of the memory than the payload has. -/
theorem dataWithin_some {value : List Byte} (h : dataWithin dataType data = some value) (rest : Memory Byte) :
    value.length ≤ data.length ∧ (zclGetAttrSize dataType (behind data rest)).toNat = value.length ∧
      attrData dataType (behind data rest) = value := by
  unfold dataWithin at h
  split at h
  · cases h
  · next size hsize =>
      split at h
      · next hle =>
          obtain rfl := Option.some.inj h
          have hlen := sizeWithin_some hsize rest
          have htake : (data.take size).length = size := by rw [List.length_take]; omega
          rw [attrData, hlen, htake]
          exact ⟨hle, rfl, behind_take hle rest⟩
      · cases h

theorem dataWithin_none {c : Byte} (hc : c = 0#8 ∨ c = 1#8) (h : dataWithin dataType data = none) :
    data.length < (zclGetAttrSize dataType (behind data fun _ => c)).toNat := by
  unfold dataWithin at h
  split at h
  · next hsize => exact sizeWithin_none hc hsize
  · next size hsize =>
      split at h
      · cases h
      · next hlt =>
          rw [sizeWithin_some hsize]
          omega

/-! ### The checked readers -/

theorem attrFormat_read (m : Memory Byte) :
    attrFormat.read m =
      (⟨u16 (m 0) (m 1), m 2, attrData (m 2) (m.from 3)⟩, 3 + (zclGetAttrSize (m 2) (m.from 3)).toNat) := rfl

theorem attrData_length (dataType : BitVec 8) (m : Memory Byte) :
    (attrData dataType m).length = (zclGetAttrSize dataType m).toNat := Memory.first_length _ _

theorem attrFormat_checks : Checks attrFormat attrWithin AttrRec.bytes 0#8 1#8 where
  skip_read _ := rfl
  weight_read m := (attrData_length (m 2) (m.from 3)).symm
  size_read m := Nat.le_of_eq (congrArg (3 + ·) (attrData_length (m 2) (m.from 3)))
  encode_read m := by
    rw [attrFormat_read, AttrRec.bytes, Memory.first_add]
    simp only [loUint16_u16, hiUint16_u16]
    rfl
  inside bs r n h := by
    unfold attrWithin at h
    split at h
    · next lo hi dataType data =>
        obtain ⟨value, hvalue, heq⟩ := Option.map_eq_some_iff.mp h
        obtain ⟨rfl, rfl⟩ := Prod.mk.inj heq
        refine ⟨?_, fun rest => ?_⟩
        · have hle := (dataWithin_some hvalue fun _ => 0#8).1
          simp only [List.length_cons]
          omega
        · obtain ⟨-, hsize, hdata⟩ := dataWithin_some hvalue rest
          simp only [attrFormat_read, behind_zero, behind_succ, behind_from_succ, Memory.from_zero, hsize, hdata]
    · cases h
  outside bs h := by
    have hlong : ∀ c : Byte, c = 0#8 ∨ c = 1#8 → bs.length < (attrFormat.read (behind bs fun _ => c)).2 := fun c hc => by
      rw [attrFormat_read]
      match bs, h with
      | [], _ => simp only [List.length_nil]; omega
      | [_], _ => simp only [List.length_cons, List.length_nil]; omega
      | [_, _], _ => simp only [List.length_cons, List.length_nil]; omega
      | lo :: hi :: dataType :: data, h =>
          have hsize := dataWithin_none hc (Option.map_eq_none_iff.mp h)
          simp only [behind_succ, behind_zero, behind_from_succ, Memory.from_zero, List.length_cons]
          omega
    exact ⟨hlong _ (.inl rfl), hlong _ (.inr rfl)⟩
  different := by decide

theorem readRspFormat_read (m : Memory Byte) :
    readRspFormat.read m =
      (⟨u16 (m 0) (m 1), m 2, if m 2 = zclStaSuccess then some (m 3, attrData (m 3) (m.from 4)) else none⟩,
        3 + if m 2 = zclStaSuccess then 1 + (zclGetAttrSize (m 3) (m.from 4)).toNat else 0) := rfl

theorem readRspFormat_checks : Checks readRspFormat readRspWithin ReadRspRec.bytes 0#8 1#8 where
  skip_read _ := rfl
  weight_read m := by
    rw [readRspFormat_read]
    simp only [readRspFormat, ReadRspRec.size]
    by_cases hstatus : m 2 = zclStaSuccess
    · simp only [hstatus, if_true, attrData_length]
    · simp only [hstatus, if_false]
  size_read m := by
    rw [readRspFormat_read]
    simp only [readRspFormat, ReadRspRec.size]
    by_cases hstatus : m 2 = zclStaSuccess
    · simp only [hstatus, if_true, attrData_length]
      omega
    · simp only [hstatus, if_false]
      exact Nat.le_refl 3
  encode_read m := by
    rw [readRspFormat_read, ReadRspRec.bytes, Memory.first_add]
    simp only [loUint16_u16, hiUint16_u16]
    by_cases hstatus : m 2 = zclStaSuccess
    · rw [if_pos hstatus, if_pos hstatus, Memory.first_add, Memory.from_from]
      rfl
    · rw [if_neg hstatus, if_neg hstatus]
      rfl
  inside bs r n h := by
    unfold readRspWithin at h
    split at h
    · next lo hi status tail =>
        split at h
        · next hstatus =>
            match tail, h with
            | dataType :: data, h =>
                obtain ⟨value, hvalue, heq⟩ := Option.map_eq_some_iff.mp h
                obtain ⟨rfl, rfl⟩ := Prod.mk.inj heq
                refine ⟨?_, fun rest => ?_⟩
                · have hle := (dataWithin_some hvalue fun _ => 0#8).1
                  simp only [List.length_cons]
                  omega
                · obtain ⟨-, hsize, hdata⟩ := dataWithin_some hvalue rest
                  simp only [readRspFormat_read, behind_zero, behind_succ, behind_from_succ, Memory.from_zero, hstatus,
                    if_true, hsize, hdata]
        · next hstatus =>
            obtain ⟨rfl, rfl⟩ := Prod.mk.inj (Option.some.inj h)
            refine ⟨by simp only [List.length_cons]; omega, fun rest => ?_⟩
            simp only [readRspFormat_read, behind_zero, behind_succ, hstatus, if_false]
    · cases h
  outside bs h := by
    have hlong : ∀ c : Byte, c = 0#8 ∨ c = 1#8 → bs.length < (readRspFormat.read (behind bs fun _ => c)).2 :=
      fun c hc => by
        rw [readRspFormat_read]
        match bs, h with
        | [], _ => simp only [List.length_nil]; omega
        | [_], _ => simp only [List.length_cons, List.length_nil]; omega
        | [_, _], _ => simp only [List.length_cons, List.length_nil]; omega
        | lo :: hi :: status :: tail, h =>
            simp only [readRspWithin] at h
            split at h
            · next hstatus =>
                simp only [behind_succ, behind_zero, behind_from_succ, hstatus, if_true, List.length_cons]
                match tail, h with
                | [], _ => simp only [List.length_nil]; omega
                | dataType :: data, h =>
                    have hsize := dataWithin_none hc (Option.map_eq_none_iff.mp h)
                    simp only [behind_zero, behind_from_succ, Memory.from_zero, List.length_cons]
                    omega
            · cases h
    exact ⟨hlong _ (.inl rfl), hlong _ (.inr rfl)⟩
  different := by decide

/-! ### Settings of reports -/

theorem analog_size (h : zclAnalogDataType dataType = true) (m : Memory Byte) :
    (zclGetAttrSize dataType m).toNat = changeLen dataType := by
  have hkind : ∀ d : BitVec 8, zclAnalogDataType d = true →
      ¬ (d = zclDataTypeLongCharStr ∨ d = zclDataTypeLongOctetStr) ∧
        ¬ (d = zclDataTypeCharStr ∨ d = zclDataTypeOctetStr) ∧ d ≠ zclDataTypeStruct := by decide
  obtain ⟨hlong, hstr, hstruct⟩ := hkind dataType h
  have hlen := dataTypeLen_le dataType
  rw [zclGetAttrSize, if_neg hlong, if_neg hstr, if_neg hstruct, changeLen, if_pos h, BitVec.toNat_setWidth]
  omega

/-- The change that is copied takes the bytes that the readers go on by. -/
theorem change_copied (dataType : BitVec 8) (m : Memory Byte) :
    (if zclAnalogDataType dataType then attrData dataType m else []) = m.first (changeLen dataType) := by
  by_cases h : zclAnalogDataType dataType = true
  · rw [if_pos h, attrData, analog_size h]
  · rw [if_neg h, changeLen, if_neg h]
    rfl

theorem readSetting_bytes (direction : BitVec 8) (m : Memory Byte) :
    (readSetting direction m).1.bytes = m.first (readSetting direction m).2 := by
  unfold readSetting
  split
  · simp only [ReportSetting.bytes, change_copied, loUint16_u16, hiUint16_u16, Memory.first_add]
    rfl
  · simp only [ReportSetting.bytes, loUint16_u16, hiUint16_u16]
    rfl

theorem readSetting_size (direction : BitVec 8) (m : Memory Byte) :
    (readSetting direction m).1.size = (if direction = zclSendAttrReports then changeLen (m 0) else 0) ∧
      (readSetting direction m).1.size + 2 ≤ (readSetting direction m).2 := by
  unfold readSetting
  by_cases hsend : direction = zclSendAttrReports
  · simp only [hsend, if_true, ReportSetting.size, change_copied, Memory.first_length]
    exact ⟨trivial, by omega⟩
  · simp only [hsend, if_false, ReportSetting.size]
    exact ⟨trivial, by omega⟩

theorem settingWithin_some {setting : ReportSetting} {n : Nat} (h : settingWithin direction bs = some (setting, n)) :
    n ≤ bs.length ∧ ∀ rest, readSetting direction (behind bs rest) = (setting, n) := by
  unfold settingWithin at h
  split at h
  · next b₀ b₁ tail =>
      split at h
      · next hsend =>
          match tail, h with
          | b₂ :: b₃ :: b₄ :: change, h =>
              simp only at h
              split at h
              · next hle =>
                  obtain ⟨rfl, rfl⟩ := Prod.mk.inj (Option.some.inj h)
                  refine ⟨by simp only [List.length_cons]; omega, fun rest => ?_⟩
                  rw [readSetting, if_pos hsend, change_copied]
                  simp only [behind_zero, behind_succ, behind_from_succ, Memory.from_zero, behind_take hle]
              · cases h
      · next hreceive =>
          obtain ⟨rfl, rfl⟩ := Prod.mk.inj (Option.some.inj h)
          refine ⟨by simp only [List.length_cons]; omega, fun rest => ?_⟩
          rw [readSetting, if_neg hreceive]
          rfl
  · cases h

theorem settingWithin_none (h : settingWithin direction bs = none) (rest : Memory Byte) :
    bs.length < (readSetting direction (behind bs rest)).2 := by
  have hleast : ∀ m, 2 ≤ (readSetting direction m).2 := fun m => by
    unfold readSetting
    split <;> simp only <;> omega
  match bs, h with
  | [], _ => exact Nat.lt_of_lt_of_le Nat.two_pos (hleast _)
  | [_], _ => exact hleast _
  | b₀ :: b₁ :: tail, h =>
      simp only [settingWithin] at h
      split at h
      · next hsend =>
          rw [readSetting, if_pos hsend]
          match tail, h with
          | [], _ => simp only [List.length_cons, List.length_nil]; omega
          | [_], _ => simp only [List.length_cons, List.length_nil]; omega
          | [_, _], _ => simp only [List.length_cons, List.length_nil]; omega
          | b₂ :: b₃ :: b₄ :: change, h =>
              simp only at h
              split at h
              · cases h
              · simp only [behind_zero, List.length_cons]
                omega
      · cases h

theorem readReportCfgRspFormat_read (m : Memory Byte) :
    readReportCfgRspFormat.read m =
      (⟨m 0, m 1, u16 (m 2) (m 3), if m 0 = zclStaSuccess then some (readSetting (m 1) (m.from 4)).1 else none⟩,
        4 + if m 0 = zclStaSuccess then (readSetting (m 1) (m.from 4)).2 else 0) := rfl

theorem readReportCfgRspFormat_checks :
    Checks readReportCfgRspFormat readReportCfgRspWithin CfgRspRec.bytes 0#8 1#8 where
  skip_read m := by
    rw [readReportCfgRspFormat_read]
    simp only [readReportCfgRspFormat, readSetting]
    split_ifs <;> rfl
  weight_read m := by
    rw [readReportCfgRspFormat_read]
    simp only [readReportCfgRspFormat, CfgRspRec.size]
    by_cases hstatus : m 0 = zclStaSuccess
    · simp only [hstatus, if_true]
      exact (readSetting_size (m 1) (m.from 4)).1.symm
    · simp only [hstatus, if_false]
  size_read m := by
    rw [readReportCfgRspFormat_read]
    simp only [readReportCfgRspFormat, CfgRspRec.size]
    by_cases hstatus : m 0 = zclStaSuccess
    · have hsize := (readSetting_size (m 1) (m.from 4)).2
      simp only [hstatus, if_true]
      omega
    · simp only [hstatus, if_false]
      exact Nat.le_refl 4
  encode_read m := by
    rw [readReportCfgRspFormat_read, CfgRspRec.bytes, Memory.first_add]
    simp only [loUint16_u16, hiUint16_u16]
    by_cases hstatus : m 0 = zclStaSuccess
    · rw [if_pos hstatus, if_pos hstatus, ← readSetting_bytes]
      rfl
    · rw [if_neg hstatus, if_neg hstatus]
      rfl
  inside bs r n h := by
    unfold readReportCfgRspWithin at h
    split at h
    · next status direction lo hi tail =>
        split at h
        · next hstatus =>
            obtain ⟨⟨setting, len⟩, hsetting, heq⟩ := Option.map_eq_some_iff.mp h
            obtain ⟨rfl, rfl⟩ := Prod.mk.inj heq
            obtain ⟨hle, hread⟩ := settingWithin_some hsetting
            refine ⟨by simp only [List.length_cons]; omega, fun rest => ?_⟩
            simp only [readReportCfgRspFormat_read, behind_zero, behind_succ, behind_from_succ, Memory.from_zero, hstatus,
              if_true, hread]
        · next hstatus =>
            obtain ⟨rfl, rfl⟩ := Prod.mk.inj (Option.some.inj h)
            refine ⟨by simp only [List.length_cons]; omega, fun rest => ?_⟩
            simp only [readReportCfgRspFormat_read, behind_zero, behind_succ, hstatus, if_false]
    · cases h
  outside bs h := by
    have hlong : ∀ rest, bs.length < (readReportCfgRspFormat.read (behind bs rest)).2 := fun rest => by
      rw [readReportCfgRspFormat_read]
      match bs, h with
      | [], _ => simp only [List.length_nil]; omega
      | [_], _ => simp only [List.length_cons, List.length_nil]; omega
      | [_, _], _ => simp only [List.length_cons, List.length_nil]; omega
      | [_, _, _], _ => simp only [List.length_cons, List.length_nil]; omega
      | status :: direction :: lo :: hi :: tail, h =>
          simp only [readReportCfgRspWithin] at h
          split at h
          · next hstatus =>
              have hsize := settingWithin_none (Option.map_eq_none_iff.mp h) rest
              simp only [behind_succ, behind_zero, behind_from_succ, Memory.from_zero, hstatus, if_true, List.length_cons]
              omega
          · cases h
    exact ⟨hlong _, hlong _⟩
  different := by decide

end Watermeter.Zcl
