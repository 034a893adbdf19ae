import Watermeter.ZclRoundTrip
import Watermeter.WriteData

/-! What the senders of the general commands build is read back by the receivers, which payloads the receivers
read without a look behind them, and which make them write more than they have asked a buffer for. -/

namespace Watermeter.Zcl

open NorFlash TwoPass

variable {dataType direction : BitVec 8} {tail : List Byte} {m : Memory Byte}

/-! ### What is built -/

/-- The size of the data is the one its bytes tell: a long string does not take all sixteen bits for its length. -/
def Sized (dataType : BitVec 8) (data : Memory Byte) : Prop :=
  dataType = zclDataTypeLongCharStr ∨ dataType = zclDataTypeLongOctetStr → (u16 (data 0) (data 1)).toNat + 2 < 65536

theorem first_append_get (m : Memory Byte) {n k : Nat} (h : k < n) (tail : List Byte) :
    (m.first n ++ tail)[k]? = some (m k) := by
  rw [List.getElem?_append_left (by rw [Memory.first_length]; exact h), Memory.first_get m h]

theorem structWithin_built (tail : List Byte) {itemNum dataLen size : Nat} (h : structLen m itemNum dataLen = size) :
    structWithin (m.first size ++ tail) itemNum dataLen = some size := by
  induction itemNum generalizing dataLen with
  | zero => exact congrArg some h
  | succ itemNum ih =>
      have hgrows := le_structLen m itemNum (dataLen + ((zclGetDataTypeLen (m dataLen)).toNat + 1))
      rw [structLen] at h
      have hlt : dataLen < size := by omega
      rw [structWithin, first_append_get m hlt]
      exact ih h

theorem first_cons (m : Memory Byte) (n : Nat) : m.first (n + 1) = m 0 :: (m.from 1).first n := by
  rw [Nat.add_comm, Memory.first_add]
  rfl

theorem sizeWithin_built (h : Sized dataType m) (tail : List Byte) :
    sizeWithin dataType (attrData dataType m ++ tail) = some (zclGetAttrSize dataType m).toNat := by
  unfold sizeWithin attrData
  by_cases hlong : dataType = zclDataTypeLongCharStr ∨ dataType = zclDataTypeLongOctetStr
  · have hsize : (zclGetAttrSize dataType m).toNat = (u16 (m 0) (m 1)).toNat + 1 + 1 := by
      have hfits := h hlong
      rw [zclGetAttrSize, if_pos hlong, BitVec.toNat_add]
      have htwo : (2 : BitVec 16).toNat = 2 := rfl
      omega
    have hexact : (zclGetAttrSize dataType m).toNat = (u16 (m 0) (m 1) + 2).toNat := by
      rw [zclGetAttrSize, if_pos hlong]
    rw [if_pos hlong, hsize, first_cons, first_cons, ← hsize, hexact]
    rfl
  by_cases hstr : dataType = zclDataTypeCharStr ∨ dataType = zclDataTypeOctetStr
  · have hsize : (zclGetAttrSize dataType m).toNat = (m 0).toNat + 1 := by
      rw [zclGetAttrSize, if_neg hlong, if_pos hstr, BitVec.toNat_add, BitVec.toNat_setWidth]
      have hone : (1 : BitVec 16).toNat = 1 := rfl
      have hbyte := (m 0).isLt
      omega
    rw [if_neg hlong, if_pos hstr, hsize, first_cons]
    rfl
  by_cases hstruct : dataType = zclDataTypeStruct
  · have hsize : structLen m (m 0).toNat 2 = (zclGetAttrSize dataType m).toNat := by
      rw [zclGetAttrSize, if_neg hlong, if_neg hstr, if_pos hstruct, structSize_count]
    obtain ⟨size, hlen⟩ : ∃ size, (zclGetAttrSize dataType m).toNat = size + 1 := by
      have hgrows := le_structLen m (m 0).toNat 2
      exact ⟨(zclGetAttrSize dataType m).toNat - 1, by omega⟩
    have hwithin := structWithin_built (m := m) tail hsize
    rw [hlen, first_cons] at hwithin
    rw [if_neg hlong, if_neg hstr, if_pos hstruct, hlen, first_cons]
    exact hwithin
  · rw [if_neg hlong, if_neg hstr, if_neg hstruct, zclGetAttrSize, if_neg hlong, if_neg hstr, if_neg hstruct,
      BitVec.toNat_setWidth]
    have hlen := dataTypeLen_le dataType
    congr 1
    omega

theorem dataWithin_built (h : Sized dataType m) (tail : List Byte) :
    dataWithin dataType (attrData dataType m ++ tail) = some (attrData dataType m) := by
  have hlen := attrData_length dataType m
  have hle : (zclGetAttrSize dataType m).toNat ≤ (attrData dataType m ++ tail).length := by
    rw [List.length_append]
    omega
  rw [dataWithin, sizeWithin_built h]
  simp only
  rw [if_pos hle, ← hlen, List.take_left]

theorem attrWithin_built {r : AttrSource} (h : Sized r.dataType r.attrData) (tail : List Byte) :
    attrWithin (r.record.bytes ++ tail) = some (r.record, r.record.bytes.length) := by
  have hdata := dataWithin_built h tail
  simp only [AttrSource.record, AttrRec.bytes, List.cons_append, attrWithin, hdata, Option.map_some, u16_lo_hi,
    List.length_cons]
  congr 2
  omega

theorem readRspWithin_built {r : ReadRspSource} (h : r.status = zclStaSuccess → Sized r.dataType r.data)
    (tail : List Byte) : readRspWithin (r.record.bytes ++ tail) = some (r.record, r.record.bytes.length) := by
  by_cases hstatus : r.status = zclStaSuccess
  · have hdata := dataWithin_built (h hstatus) tail
    simp only [ReadRspSource.record, ReadRspRec.bytes, hstatus, if_true, List.cons_append, readRspWithin, hdata,
      Option.map_some, u16_lo_hi, List.length_cons]
    congr 2
    omega
  · simp only [ReadRspSource.record, ReadRspRec.bytes, hstatus, if_false, List.cons_append, List.nil_append,
      readRspWithin, u16_lo_hi, List.length_cons, List.length_nil]

theorem settingWithin_built (r : ReportSource) (tail : List Byte) :
    settingWithin r.direction (r.setting.bytes ++ tail) = some (r.setting, r.setting.bytes.length) := by
  unfold ReportSource.setting
  by_cases hsend : r.direction = zclSendAttrReports
  · have hlen : (r.reportableChange.first (changeLen r.dataType)).length = changeLen r.dataType :=
      Memory.first_length _ _
    have hle : changeLen r.dataType ≤ (r.reportableChange.first (changeLen r.dataType) ++ tail).length := by
      rw [List.length_append]
      omega
    have htake : (r.reportableChange.first (changeLen r.dataType) ++ tail).take (changeLen r.dataType) =
        r.reportableChange.first (changeLen r.dataType) := List.take_left' hlen
    simp only [hsend, if_true, change_copied, ReportSetting.bytes, List.cons_append, settingWithin, hle, u16_lo_hi,
      htake, List.length_cons, hlen]
    congr 2
    omega
  · simp only [hsend, if_false, ReportSetting.bytes, List.cons_append, List.nil_append, settingWithin, u16_lo_hi,
      List.length_cons, List.length_nil]

theorem cfgReportWithin_built (r : ReportSource) (tail : List Byte) :
    cfgReportWithin (r.record.bytes ++ tail) = some (r.record, r.record.bytes.length) := by
  have hsetting := settingWithin_built r tail
  simp only [ReportSource.record, CfgRec.bytes, List.cons_append, cfgReportWithin, hsetting, Option.map_some, u16_lo_hi,
    List.length_cons]
  congr 2
  omega

theorem readReportCfgRspWithin_built (status : BitVec 8) (r : ReportSource) (tail : List Byte) :
    readReportCfgRspWithin ((r.answer status).bytes ++ tail) = some (r.answer status, (r.answer status).bytes.length) := by
  have hsetting := settingWithin_built r tail
  by_cases hstatus : status = zclStaSuccess
  · simp only [ReportSource.answer, CfgRspRec.bytes, hstatus, if_true, List.cons_append, readReportCfgRspWithin, hsetting,
      Option.map_some, u16_lo_hi, List.length_cons]
    congr 2
    omega
  · simp only [ReportSource.answer, CfgRspRec.bytes, hstatus, if_false, List.cons_append, List.nil_append,
      readReportCfgRspWithin, u16_lo_hi, List.length_cons, List.length_nil]

/-! ### The counting pass of a configure-report command -/

/-- The counting pass goes on by the length of the record: it is no report of a discrete type. -/
def CfgRec.Tight (r : CfgRec) : Prop :=
  match r.setting with
  | .send dataType _ _ _ => zclAnalogDataType dataType = true
  | .receive _ => True

theorem cfgReportFormat_read (m : Memory Byte) :
    cfgReportFormat.read m =
      (⟨m 0, u16 (m 1) (m 2), (readSetting (m 0) (m.from 3)).1⟩, 3 + (readSetting (m 0) (m.from 3)).2) := rfl

theorem cfgReportFormat_skip (m : Memory Byte) :
    (cfgReportFormat.read m).2 ≤ cfgReportFormat.skip m ∧
      ((cfgReportFormat.read m).1.Tight → cfgReportFormat.skip m = (cfgReportFormat.read m).2) := by
  rw [cfgReportFormat_read]
  simp only [cfgReportFormat, readSetting, CfgRec.Tight]
  by_cases hsend : m 0 = zclSendAttrReports
  · have htype : m.from 3 0 = m 3 := rfl
    simp only [hsend, if_true, changeLen, htype]
    by_cases hanalog : zclAnalogDataType (m 3) = true
    · simp only [hanalog, if_true]
      exact ⟨Nat.le_refl _, fun _ => trivial⟩
    · rw [if_neg hanalog, if_neg hanalog]
      exact ⟨by omega, fun h => absurd h hanalog⟩
  · simp only [hsend, if_false]
    exact ⟨Nat.le_refl _, fun _ => trivial⟩

theorem cfgReportFormat_size (m : Memory Byte) :
    cfgReportFormat.weight m = cfgReportFormat.size (cfgReportFormat.read m).1 ∧
      cfgReportFormat.least + cfgReportFormat.size (cfgReportFormat.read m).1 ≤ (cfgReportFormat.read m).2 := by
  obtain ⟨hsize, hle⟩ := readSetting_size (m 0) (m.from 3)
  rw [cfgReportFormat_read]
  simp only [cfgReportFormat]
  exact ⟨hsize.symm, by omega⟩

theorem cfgReportFormat_follows : Follows cfgReportFormat cfgReportWithin CfgRec.Tight := by
  intro bs r n h
  unfold cfgReportWithin at h
  split at h
  · next direction lo hi tail =>
      obtain ⟨⟨setting, len⟩, hsetting, heq⟩ := Option.map_eq_some_iff.mp h
      obtain ⟨rfl, rfl⟩ := Prod.mk.inj heq
      obtain ⟨hle, hread⟩ := settingWithin_some hsetting
      have hrecord : ∀ rest, cfgReportFormat.read (behind (direction :: lo :: hi :: tail) rest) =
          (⟨direction, u16 lo hi, setting⟩, 3 + len) := fun rest => by
        simp only [cfgReportFormat_read, behind_zero, behind_succ, behind_from_succ, Memory.from_zero, hread]
      have hsize := fun rest => cfgReportFormat_size (behind (direction :: lo :: hi :: tail) rest)
      simp only [hrecord] at hsize
      refine ⟨by simp only [List.length_cons]; omega, (hsize fun _ => 0#8).2, fun rest => ?_⟩
      have hskip := cfgReportFormat_skip (behind (direction :: lo :: hi :: tail) rest)
      rw [hrecord] at hskip
      exact ⟨hrecord rest, (hsize rest).1, hskip⟩
  · cases h

/-! ### The payloads -/

variable (availBufNum : Fin 4 → Nat)

theorem parsed_within {R : Type} {f : Format Byte R} {checked : List Byte → Option (R × Nat)} {encode : R → List Byte}
    (h : Checks f checked encode 0#8 1#8) (l : Layout) (hleast : 3 ≤ f.least) (hlen : l.lenMod = 65536)
    (hroom : l.head + 255 * l.record + largeBuffer < 65536) {payload : List Byte} (hfit : payload.length ≤ largeBuffer) :
    (∀ recs, (∀ rest, f.parse l (evBufAllocate availBufNum) (behind payload rest) payload.length = .command recs) ↔
        checkedParse checked payload = some recs ∧ evBufAllocate availBufNum (f.commandSize l recs) = true) ∧
      ∀ recs rest, checkedParse checked payload = some recs →
        f.parse l (evBufAllocate availBufNum) (behind payload rest) payload.length =
          f.stored l (evBufAllocate availBufNum) recs := by
  rw [largeBuffer] at hfit hroom
  exact h.parse_iff (evBufAllocate availBufNum) (by omega) (by omega) (by omega)

/-- Write commands and reports are parsed into what a payload of whole records holds, as far as there is a
buffer, and no other payload alone decides a command. -/
theorem attrs_parsed_iff (payload : List Byte) (hlen : payload.length ≤ largeBuffer) :
    (∀ recs, (∀ rest, zclParseInWriteCmd availBufNum (behind payload rest) payload.length = .command recs) ↔
        checkedParse attrWithin payload = some recs ∧
          evBufAllocate availBufNum (attrFormat.commandSize zclWriteCmd recs) = true) ∧
      (∀ recs rest, checkedParse attrWithin payload = some recs →
        zclParseInWriteCmd availBufNum (behind payload rest) payload.length =
          attrFormat.stored zclWriteCmd (evBufAllocate availBufNum) recs) ∧
      ∀ rest, zclParseInReportCmd availBufNum (behind payload rest) payload.length =
        zclParseInWriteCmd availBufNum (behind payload rest) payload.length :=
  have hwithin := parsed_within availBufNum attrFormat_checks zclWriteCmd (by decide) rfl (by decide) hlen
  ⟨hwithin.1, hwithin.2, fun _ => rfl⟩

/-- A write of one Boolean, and the same without its data. -/
theorem attrs_parsed_bool :
    (∀ rest, zclParseInWriteCmd (fun _ => 1) (behind [0x55#8, 0xFF#8, 0x10#8, 0x01#8] rest) 4 =
        .command [⟨0xFF55#16, 0x10#8, [0x01#8]⟩]) ∧
      ∀ recs, ¬ ∀ rest, zclParseInWriteCmd (fun _ => 1) (behind [0x55#8, 0xFF#8, 0x10#8] rest) 3 = .command recs := by
  refine ⟨fun rest => ?_, fun recs hall => ?_⟩
  · have hchecked : checkedParse attrWithin [0x55#8, 0xFF#8, 0x10#8, 0x01#8] = some [⟨0xFF55#16, 0x10#8, [0x01#8]⟩] := by
      rw [checkedParse_some (by decide) (by decide : attrWithin _ = some (⟨0xFF55#16, 0x10#8, [0x01#8]⟩, 4)) (by decide)]
      exact congrArg _ checkedParse_nil
    exact ((attrs_parsed_iff (fun _ => 1) _ (by decide)).1 _).mpr ⟨hchecked, by decide⟩ rest
  · have hwhole := (((attrs_parsed_iff (fun _ => 1) [0x55#8, 0xFF#8, 0x10#8] (by decide)).1 recs).mp hall).1
    rw [checkedParse_none (by decide) (by decide)] at hwhole
    cases hwhole

/-- The same of the parsers of the two answers that carry a status for each record. -/
theorem answers_parsed_iff (payload : List Byte) (hlen : payload.length ≤ largeBuffer) :
    ((∀ recs, (∀ rest, zclParseInReadRspCmd availBufNum (behind payload rest) payload.length = .command recs) ↔
          checkedParse readRspWithin payload = some recs ∧
            evBufAllocate availBufNum (readRspFormat.commandSize zclReadRspCmd recs) = true) ∧
        ∀ recs rest, checkedParse readRspWithin payload = some recs →
          zclParseInReadRspCmd availBufNum (behind payload rest) payload.length =
            readRspFormat.stored zclReadRspCmd (evBufAllocate availBufNum) recs) ∧
      (∀ recs, (∀ rest, zclParseInReadReportCfgRspCmd availBufNum (behind payload rest) payload.length =
            .command recs) ↔
          checkedParse readReportCfgRspWithin payload = some recs ∧
            evBufAllocate availBufNum (readReportCfgRspFormat.commandSize zclReadReportCfgRspCmd recs) = true) ∧
        ∀ recs rest, checkedParse readReportCfgRspWithin payload = some recs →
          zclParseInReadReportCfgRspCmd availBufNum (behind payload rest) payload.length =
            readReportCfgRspFormat.stored zclReadReportCfgRspCmd (evBufAllocate availBufNum) recs :=
  ⟨parsed_within availBufNum readRspFormat_checks zclReadRspCmd (by decide) rfl (by decide) hlen,
    parsed_within availBufNum readReportCfgRspFormat_checks zclReadReportCfgRspCmd (by decide) rfl (by decide) hlen⟩

/-- An answer that an attribute cannot be read, and one that says it can and ends there. -/
theorem answers_parsed_status :
    (∀ rest, zclParseInReadRspCmd (fun _ => 1) (behind [0x00#8, 0x00#8, 0x86#8] rest) 3 =
        .command [⟨0x0000#16, 0x86#8, none⟩]) ∧
      ∀ recs, ¬ ∀ rest, zclParseInReadRspCmd (fun _ => 1) (behind [0x00#8, 0x00#8, 0x00#8] rest) 3 =
        .command recs := by
  refine ⟨fun rest => ?_, fun recs hall => ?_⟩
  · have hchecked : checkedParse readRspWithin [0x00#8, 0x00#8, 0x86#8] = some [⟨0x0000#16, 0x86#8, none⟩] := by
      rw [checkedParse_some (by decide) (by decide : readRspWithin _ = some (⟨0x0000#16, 0x86#8, none⟩, 3)) (by decide)]
      exact congrArg _ checkedParse_nil
    exact ((answers_parsed_iff (fun _ => 1) _ (by decide)).1.1 _).mpr ⟨hchecked, by decide⟩ rest
  · have hwhole := (((answers_parsed_iff (fun _ => 1) [0x00#8, 0x00#8, 0x00#8] (by decide)).1.1 recs).mp hall).1
    rw [checkedParse_none (by decide) (by decide)] at hwhole
    cases hwhole

/-- The command takes 65536 bytes or more, and there is a buffer of what sixteen bits keep of that. -/
def Overruns {R : Type} (f : Format Byte R) (l : Layout) (pData : Memory Byte) (dataLen : Nat) : Prop :=
  65536 ≤ l.needed (f.counted pData dataLen).length (f.counted pData dataLen).sum ∧
    evBufAllocate availBufNum (l.needed (f.counted pData dataLen).length (f.counted pData dataLen).sum % 65536) = true

theorem changeLen_le (dataType : BitVec 8) : changeLen dataType ≤ 16 := by
  unfold changeLen
  split
  · exact dataTypeLen_le dataType
  · exact Nat.zero_le 16

/-- The changes to be reported are too small to come to sixteen bits. -/
theorem readReportCfgRsp_fits (pData : Memory Byte) {dataLen : Nat} (hlen : dataLen ≤ largeBuffer) :
    zclParseInReadReportCfgRspCmd availBufNum pData dataLen ≠ .overrun := by
  have hshort : dataLen < 255 * readReportCfgRspFormat.least := Nat.lt_of_le_of_lt hlen (by decide)
  have hsmall : ∀ m, readReportCfgRspFormat.weight m ≤ 16 := fun m => by
    simp only [readReportCfgRspFormat]
    split_ifs
    · exact changeLen_le (m 4)
    · exact Nat.zero_le 16
    · exact Nat.zero_le 16
  intro hoverrun
  have hneeded := ((readReportCfgRspFormat_checks.overrun_iff (evBufAllocate availBufNum) hshort rfl pData).mp hoverrun).1
  have hfew := Format.counted_few hshort pData
  have hdata := Format.counted_sum_le hsmall pData dataLen
  simp only [Layout.needed, zclReadReportCfgRspCmd] at hneeded
  omega

/-- A message makes a parser write more than it has asked a buffer for exactly when the sizes that its records
tell do not fit into sixteen bits together. -/
theorem parsers_overrun_iff (pData : Memory Byte) (dataLen : Nat) (hlen : dataLen ≤ largeBuffer) :
    (zclParseInWriteCmd availBufNum pData dataLen = .overrun ↔
        Overruns availBufNum attrFormat zclWriteCmd pData dataLen) ∧
      (zclParseInReportCmd availBufNum pData dataLen = .overrun ↔
        Overruns availBufNum attrFormat zclReportCmd pData dataLen) ∧
      (zclParseInReadRspCmd availBufNum pData dataLen = .overrun ↔
        Overruns availBufNum readRspFormat zclReadRspCmd pData dataLen) ∧
      zclParseInReadReportCfgRspCmd availBufNum pData dataLen ≠ .overrun := by
  have hattr : dataLen < 255 * attrFormat.least := Nat.lt_of_le_of_lt hlen (by decide)
  have hread : dataLen < 255 * readRspFormat.least := Nat.lt_of_le_of_lt hlen (by decide)
  exact ⟨attrFormat_checks.overrun_iff (evBufAllocate availBufNum) hattr rfl pData,
    attrFormat_checks.overrun_iff (evBufAllocate availBufNum) hattr rfl pData,
    readRspFormat_checks.overrun_iff (evBufAllocate availBufNum) hread rfl pData,
    readReportCfgRsp_fits availBufNum pData hlen⟩

/-- Five bytes: a long string of 65528 bytes, for which a buffer of two bytes is asked. -/
theorem parsers_overrun_long_string :
    (∀ rest, zclParseInWriteCmd (fun _ => 1) (behind [0x00#8, 0x40#8, 0x44#8, 0xF8#8, 0xFF#8] rest) 5 = .overrun) ∧
      ∀ rest, zclParseInReportCmd (fun _ => 1) (behind [0x00#8, 0x40#8, 0x44#8, 0xF8#8, 0xFF#8] rest) 5 = .overrun := by
  have hcounted : ∀ rest,
      attrFormat.counted (behind [0x00#8, 0x40#8, 0x44#8, 0xF8#8, 0xFF#8] rest) 5 = [65530] := fun rest => by
    have hsize : (zclGetAttrSize 0x44#8 (behind [0xF8#8, 0xFF#8] rest)).toNat = 65530 :=
      sizeWithin_some (by decide) rest
    rw [Format.counted_pos (by decide)]
    simp only [attrFormat, behind_succ, behind_zero, behind_from_succ, Memory.from_zero, hsize]
    rw [Format.counted_zero]
  have hoverruns : ∀ rest, Overruns (fun _ => 1) attrFormat zclWriteCmd
      (behind [0x00#8, 0x40#8, 0x44#8, 0xF8#8, 0xFF#8] rest) 5 := fun rest => by
    rw [Overruns, hcounted]
    decide
  have hiff := fun rest =>
    parsers_overrun_iff (fun _ => 1) (behind [0x00#8, 0x40#8, 0x44#8, 0xF8#8, 0xFF#8] rest) 5 (by decide)
  exact ⟨fun rest => (hiff rest).1.mpr (hoverruns rest), fun rest => (hiff rest).2.1.mpr (hoverruns rest)⟩

theorem attrs_built {attrList : List AttrSource} (h : ∀ r ∈ attrList, Sized r.dataType r.attrData) :
    checkedParse attrWithin (attrsBuilt attrList) = some (attrList.map AttrSource.record) :=
  checkedParse_built (fun r hr tail => attrWithin_built (h r hr) tail) fun _ => Nat.succ_ne_zero _

theorem reads_built {attrList : List ReadRspSource}
    (h : ∀ r ∈ attrList, r.status = zclStaSuccess → Sized r.dataType r.data) :
    checkedParse readRspWithin (zclReadRsp attrList) = some (attrList.map ReadRspSource.record) :=
  checkedParse_built (fun r hr tail => readRspWithin_built (h r hr) tail) fun _ => Nat.succ_ne_zero _

theorem answers_built (attrList : List (BitVec 8 × ReportSource)) :
    checkedParse readReportCfgRspWithin (zclReadReportConfigRsp attrList) =
      some (attrList.map fun r => r.2.answer r.1) :=
  checkedParse_built (fun r _ tail => readReportCfgRspWithin_built r.1 r.2 tail) fun _ => Nat.succ_ne_zero _

/-- The payloads of write commands, reports and of the two answers are read back as they were meant, whatever
lies behind them in memory, when there is a buffer for the command. -/
theorem built_read_back (attrs : List AttrSource) (reads : List ReadRspSource) (answers : List (BitVec 8 × ReportSource))
    (hattrs : ∀ r ∈ attrs, Sized r.dataType r.attrData)
    (hreads : ∀ r ∈ reads, r.status = zclStaSuccess → Sized r.dataType r.data)
    (hfit : ∀ payload ∈ [zclWriteReq attrs, zclReadRsp reads, zclReadReportConfigRsp answers],
      payload.length ≤ largeBuffer) (rest : Memory Byte) :
    zclParseInWriteCmd availBufNum (behind (zclWriteReq attrs) rest) (zclWriteReq attrs).length =
        attrFormat.stored zclWriteCmd (evBufAllocate availBufNum) (attrs.map AttrSource.record) ∧
      zclParseInReportCmd availBufNum (behind (zclReportAttrs attrs) rest) (zclReportAttrs attrs).length =
        attrFormat.stored zclReportCmd (evBufAllocate availBufNum) (attrs.map AttrSource.record) ∧
      zclParseInReadRspCmd availBufNum (behind (zclReadRsp reads) rest) (zclReadRsp reads).length =
        readRspFormat.stored zclReadRspCmd (evBufAllocate availBufNum) (reads.map ReadRspSource.record) ∧
      zclParseInReadReportCfgRspCmd availBufNum (behind (zclReadReportConfigRsp answers) rest)
          (zclReadReportConfigRsp answers).length =
        readReportCfgRspFormat.stored zclReadReportCfgRspCmd (evBufAllocate availBufNum)
          (answers.map fun r => r.2.answer r.1) := by
  have hwrite := (parsed_within availBufNum attrFormat_checks zclWriteCmd (by decide) rfl (by decide)
    (hfit (zclWriteReq attrs) (by simp))).2 _ rest (attrs_built hattrs)
  have hread := (parsed_within availBufNum readRspFormat_checks zclReadRspCmd (by decide) rfl (by decide)
    (hfit (zclReadRsp reads) (by simp))).2 _ rest (reads_built hreads)
  have hanswer := (parsed_within availBufNum readReportCfgRspFormat_checks zclReadReportCfgRspCmd (by decide) rfl
    (by decide) (hfit (zclReadReportConfigRsp answers) (by simp))).2 _ rest (answers_built answers)
  exact ⟨hwrite, hwrite, hread, hanswer⟩

/-- A character string and a Boolean, an attribute that cannot be read, and the configuration of a report. -/
theorem built_read_back_string :
    (∀ rest, zclParseInWriteCmd (fun _ => 1)
        (behind [0x05#8, 0x00#8, 0x42#8, 0x01#8, 0x41#8, 0x55#8, 0xFF#8, 0x10#8, 0x01#8] rest) 9 =
      .command [⟨0x0005#16, 0x42#8, [0x01#8, 0x41#8]⟩, ⟨0xFF55#16, 0x10#8, [0x01#8]⟩]) ∧
      ∀ rest, zclParseInReadReportCfgRspCmd (fun _ => 1)
          (behind [0x00#8, 0x00#8, 0x55#8, 0xFF#8, 0x10#8, 0x3C#8, 0x00#8, 0x2C#8, 0x01#8] rest) 9 =
        .command [⟨0x00#8, 0x00#8, 0xFF55#16, some (.send 0x10#8 60#16 300#16 [])⟩] := by
  have hstring : ∀ r ∈ [(⟨0x0005#16, 0x42#8, behind [0x01#8, 0x41#8] fun _ => 0#8⟩ : AttrSource),
      ⟨0xFF55#16, 0x10#8, fun _ => 0x01#8⟩], Sized r.dataType r.attrData := by
    intro r hr hlong
    simp only [List.mem_cons, List.not_mem_nil, or_false] at hr
    rcases hr with rfl | rfl <;> exact absurd hlong (by decide)
  have hback := fun rest => built_read_back (fun _ => 1) _ [⟨0x0000#16, 0x86#8, 0x00#8, fun _ => 0#8⟩]
    [(0x00#8, ⟨0x00#8, 0xFF55#16, 0x10#8, 60#16, 300#16, 0#16, fun _ => 0#8⟩)] hstring
    (fun r hr hstatus => absurd hstatus (by rw [List.mem_singleton.mp hr]; decide)) (by decide) rest
  exact ⟨fun rest => (hback rest).1, fun rest => (hback rest).2.2.2⟩

/-! ### The records of a write command -/

/-- The record with its data in memory. -/
def sentSource (r : SentRec) : AttrSource := ⟨r.attrID, r.dataType, fun k => r.data.getD k 0#8⟩

/-- The list of a command as the application finds it: behind the data of a record lie those of the records
after it. -/
def laidOut : List AttrRec → List WriteRec
  | [] => []
  | r :: recs => ⟨r.attrID, r.dataType, r.attrData ++ recs.flatMap AttrRec.attrData⟩ :: laidOut recs

theorem sent_sized (r : SentRec) : Sized (sentSource r).dataType (sentSource r).attrData := by
  intro hlong
  obtain ⟨attrID, dataType, data, hsized⟩ := r
  simp only [sentSource] at hlong ⊢
  rw [zclGetAttrSize, if_pos hlong, BitVec.toNat_add] at hsized
  have htwo : (2 : BitVec 16).toNat = 2 := rfl
  rcases data with _ | ⟨b₀, _ | ⟨b₁, tail⟩⟩
  · -- the missing bytes are 0
    decide
  · have hlo := b₀.isLt
    have hbytes : (u16 b₀ 0#8).toNat = b₀.toNat := by
      rw [u16, BitVec.toNat_append, Nat.shiftLeft_eq]
      simp
    simp only [List.getD_cons_zero, List.getD_cons_succ, List.getD_nil, hbytes]
    omega
  · simp only [List.length_cons] at hsized
    omega

theorem sent_record (r : SentRec) : (sentSource r).record = ⟨r.attrID, r.dataType, r.data⟩ := by
  have hdata : attrData r.dataType (fun k => r.data.getD k 0#8) = r.data := by
    rw [attrData, ← r.sized]
    apply List.ext_getElem?
    intro k
    by_cases hk : k < r.data.length
    · rw [Memory.first_get _ hk]
      simp [hk]
    · rw [List.getElem?_eq_none (by rw [Memory.first_length]; omega), List.getElem?_eq_none (by omega)]
  simp only [sentSource, AttrSource.record, hdata]

theorem sent_laidOut (recs : List SentRec) :
    laidOut (recs.map fun r => (sentSource r).record) = Watermeter.zclParseInWriteCmd recs := by
  have hbehind (recs : List SentRec) :
      (recs.map fun r => (sentSource r).record).flatMap AttrRec.attrData = recs.flatMap SentRec.data := by
    rw [List.flatMap_map]
    exact congrArg (fun f => List.flatMap f recs) (funext fun r => congrArg AttrRec.attrData (sent_record r))
  induction recs with
  | nil => rfl
  | cons r recs ih => rw [List.map_cons, laidOut, ih, hbehind, sent_record, Watermeter.zclParseInWriteCmd]

/-- A write command that is sent reaches the application as the list of its records with their data one behind
the other, when there is a buffer for it. -/
theorem sent_parsed (recs : List SentRec) (hfit : (zclWriteReq (recs.map sentSource)).length ≤ largeBuffer)
    (rest : Memory Byte) :
    zclParseInWriteCmd availBufNum (behind (zclWriteReq (recs.map sentSource)) rest)
        (zclWriteReq (recs.map sentSource)).length =
          attrFormat.stored zclWriteCmd (evBufAllocate availBufNum) (recs.map fun r => (sentSource r).record) ∧
      laidOut (recs.map fun r => (sentSource r).record) = Watermeter.zclParseInWriteCmd recs := by
  have hsized : ∀ r ∈ recs.map sentSource, Sized r.dataType r.attrData := fun r hr => by
    obtain ⟨sent, -, rfl⟩ := List.mem_map.mp hr
    exact sent_sized sent
  have hparsed := (parsed_within availBufNum attrFormat_checks zclWriteCmd (by decide) rfl (by decide) hfit).2 _ rest
    (attrs_built hsized)
  rw [List.map_map] at hparsed
  exact ⟨hparsed, sent_laidOut recs⟩

/-- A preset and the step behind it. -/
theorem sent_parsed_preset :
    (∀ rest, zclParseInWriteCmd (fun _ => 1) (behind [0x00#8, 0xF0#8, 0x23#8, 0x10#8, 0x27#8, 0x00#8, 0x00#8,
          0x02#8, 0xF0#8, 0x21#8, 0x0A#8, 0x00#8] rest) 12 =
        .command [⟨0xF000#16, 0x23#8, [0x10#8, 0x27#8, 0x00#8, 0x00#8]⟩, ⟨0xF002#16, 0x21#8, [0x0A#8, 0x00#8]⟩]) ∧
      laidOut [⟨0xF000#16, 0x23#8, [0x10#8, 0x27#8, 0x00#8, 0x00#8]⟩, ⟨0xF002#16, 0x21#8, [0x0A#8, 0x00#8]⟩] =
        [⟨0xF000#16, 0x23#8, [0x10#8, 0x27#8, 0x00#8, 0x00#8, 0x0A#8, 0x00#8]⟩,
          ⟨0xF002#16, 0x21#8, [0x0A#8, 0x00#8]⟩] := by
  have hparsed := fun rest => sent_parsed (fun _ => 1)
    [⟨0xF000#16, 0x23#8, [0x10#8, 0x27#8, 0x00#8, 0x00#8], by decide⟩, ⟨0xF002#16, 0x21#8, [0x0A#8, 0x00#8], by decide⟩]
    (by decide) rest
  exact ⟨fun rest => (hparsed rest).1, (hparsed fun _ => 0#8).2⟩

/-! ### Configure-report commands -/

theorem ReportSource.tight {r : ReportSource}
    (h : r.direction = zclSendAttrReports → zclAnalogDataType r.dataType = true) : r.record.Tight := by
  unfold CfgRec.Tight ReportSource.record ReportSource.setting
  by_cases hsend : r.direction = zclSendAttrReports
  · simp only [hsend, if_true]
    exact h hsend
  · simp only [hsend, if_false]

/-- The eight bits for the size before the data hold eighteen records. -/
theorem cfgReport_asked (n data : Nat) (hroom : zclCfgReportCmd.needed n data < 65536) :
    zclCfgReportCmd.asked n data < zclCfgReportCmd.needed n data ↔ ¬ n < 19 := by
  by_cases hfew : n < 19
  · have hlen : zclCfgReportCmd.head + n * zclCfgReportCmd.record < zclCfgReportCmd.lenMod := by
      simp only [zclCfgReportCmd]
      omega
    rw [Layout.asked_eq hlen hroom]
    exact iff_of_false (Nat.lt_irrefl _) (not_not.mpr hfew)
  · refine iff_of_true ?_ hfew
    have hlen : (1 + n * 14) % 256 < 256 := Nat.mod_lt _ (by decide)
    have hdata := Nat.mod_le data 65536
    have hsum := Nat.mod_le ((1 + n * 14) % 256 + data % 65536) 65536
    simp only [Layout.asked, Layout.needed, zclCfgReportCmd]
    omega

/-- A configure-report command in which no report of a discrete type stands before another record is read back
when it has fewer than nineteen records; from there on more is written than the buffer was asked for. -/
theorem cfgReport_read_back (attrList : List ReportSource) (hfit : (zclConfigReport attrList).length ≤ largeBuffer)
    (htight : ∀ r ∈ attrList.dropLast, r.direction = zclSendAttrReports → zclAnalogDataType r.dataType = true)
    (rest : Memory Byte) :
    zclParseInCfgReportCmd availBufNum (behind (zclConfigReport attrList) rest) (zclConfigReport attrList).length =
      if evBufAllocate availBufNum
          (zclCfgReportCmd.asked attrList.length (attrList.map fun r => r.setting.size).sum) then
        if attrList.length < 19 then .command (attrList.map ReportSource.record) else .overrun
      else .noBuffer := by
  have hbuilt : checkedParse cfgReportWithin (zclConfigReport attrList) = some (attrList.map ReportSource.record) :=
    checkedParse_built (fun r _ tail => cfgReportWithin_built r tail) fun _ => Nat.succ_ne_zero _
  have hshort : (zclConfigReport attrList).length < 255 * cfgReportFormat.least := Nat.lt_of_le_of_lt hfit (by decide)
  have htights : ∀ r ∈ (attrList.map ReportSource.record).dropLast, r.Tight := fun r hr => by
    rw [← List.map_dropLast] at hr
    obtain ⟨source, hsource, rfl⟩ := List.mem_map.mp hr
    exact ReportSource.tight (htight source hsource)
  have hsizes := cfgReportFormat_follows.sizes_le hbuilt
  have hparse := cfgReportFormat_follows.parse_eq zclCfgReportCmd (evBufAllocate availBufNum) hshort hbuilt htights rest
  have hmap : (attrList.map ReportSource.record).map cfgReportFormat.size = attrList.map fun r => r.setting.size := by
    rw [List.map_map]
    rfl
  rw [Format.commandSize] at hparse
  rw [hmap, List.length_map] at hsizes hparse
  have hasked := cfgReport_asked attrList.length (attrList.map fun r => r.setting.size).sum (by
    have hleast : cfgReportFormat.least = 5 := rfl
    rw [hleast] at hsizes
    rw [largeBuffer] at hfit
    simp only [Layout.needed, zclCfgReportCmd]
    omega)
  rw [zclParseInCfgReportCmd, hparse]
  by_cases hfew : attrList.length < 19
  · rw [if_neg (mt hasked.mp (not_not.mpr hfew)), if_pos hfew]
  · rw [if_pos (hasked.mpr hfew), if_neg hfew]

theorem ReportSource.discrete_bytes {r : ReportSource} (hsend : r.direction = zclSendAttrReports)
    (hdiscrete : zclAnalogDataType r.dataType = false) :
    r.record.bytes = [zclSendAttrReports, loUint16 r.attrID, hiUint16 r.attrID, r.dataType, loUint16 r.minReportInt,
      hiUint16 r.minReportInt, loUint16 r.maxReportInt, hiUint16 r.maxReportInt] := by
  simp only [record, CfgRec.bytes, setting, ReportSetting.bytes, hsend, hdiscrete, if_true, Bool.false_eq_true, if_false]

theorem counted_discrete {lo hi dataType : Byte} (bs : List Byte) (h : zclAnalogDataType dataType = false)
    (rest : Memory Byte) (left : Nat) :
    (cfgReportFormat.counted (behind (zclSendAttrReports :: lo :: hi :: dataType :: bs) rest) (left + 9)).length =
      (cfgReportFormat.counted ((behind bs rest).from 5) left).length + 1 := by
  have hskip : cfgReportFormat.skip (behind (zclSendAttrReports :: lo :: hi :: dataType :: bs) rest) = 9 := by
    simp only [cfgReportFormat, behind_zero, behind_succ, h, if_true, Bool.false_eq_true, if_false]
  rw [Format.counted_pos (by omega), hskip, Nat.add_sub_cancel, List.length_cons]
  simp only [behind_from_succ]

theorem counted_receive {b : Byte} (bs : List Byte) (h : b ≠ zclSendAttrReports) (rest : Memory Byte) (left : Nat) :
    (cfgReportFormat.counted (behind (b :: bs) rest) (left + 5)).length =
      (cfgReportFormat.counted ((behind bs rest).from 4) left).length + 1 := by
  have hskip : cfgReportFormat.skip (behind (b :: bs) rest) = 5 := by
    simp only [cfgReportFormat, behind_zero, h, if_false]
  rw [Format.counted_pos (by omega), hskip, Nat.add_sub_cancel, List.length_cons]
  simp only [behind_from_succ]

theorem counted_last {left : Nat} (hpos : left ≠ 0) (hle : left ≤ 5) (m : Memory Byte) :
    (cfgReportFormat.counted m left).length = 1 := by
  have hleast : 5 ≤ cfgReportFormat.skip m := cfgReportFormat.least_le m
  rw [Format.counted_pos hpos, Nat.sub_eq_zero_of_le (hle.trans hleast), Format.counted_zero]
  rfl

/-- Behind a report of a discrete type the counting pass takes the attribute of the next for its direction: of two
such reports it counts three, the last from behind the payload, unless the attribute looks like a direction to send. -/
theorem cfgReport_miscounted {r r' : ReportSource} (hsend : r.direction = zclSendAttrReports)
    (hsend' : r'.direction = zclSendAttrReports) (hdiscrete : zclAnalogDataType r.dataType = false)
    (hdiscrete' : zclAnalogDataType r'.dataType = false) (hattr : loUint16 r'.attrID ≠ zclSendAttrReports)
    (rest : Memory Byte) :
    (cfgReportFormat.counted (behind (zclConfigReport [r, r']) rest) (zclConfigReport [r, r']).length).length = 3 := by
  have hbytes : zclConfigReport [r, r'] = r.record.bytes ++ r'.record.bytes := by
    rw [zclConfigReport, List.flatMap_cons, List.flatMap_singleton]
  have hlen : (zclConfigReport [r, r']).length = 2 + 5 + 9 := by
    rw [hbytes, r.discrete_bytes hsend hdiscrete, r'.discrete_bytes hsend' hdiscrete']
    rfl
  rw [hlen, hbytes, r.discrete_bytes hsend hdiscrete, r'.discrete_bytes hsend' hdiscrete']
  simp only [List.cons_append, List.nil_append]
  rw [counted_discrete _ hdiscrete]
  simp only [behind_from_succ, Memory.from_zero]
  rw [counted_receive _ hattr, counted_last (by decide) (by decide)]

/-- The configuration of an analog type before that of a Boolean. -/
theorem cfgReport_read_back_analog :
    zclParseInCfgReportCmd (fun _ => 1)
        (behind [0x00#8, 0x00#8, 0x00#8, 0x20#8, 0x0A#8, 0x00#8, 0x3C#8, 0x00#8, 0x01#8, 0x00#8, 0x55#8, 0xFF#8, 0x10#8,
          0x0A#8, 0x00#8, 0x3C#8, 0x00#8] fun _ => 0xFF#8) 17 =
      .command [⟨0x00#8, 0x0000#16, .send 0x20#8 10#16 60#16 [0x01#8]⟩,
        ⟨0x00#8, 0xFF55#16, .send 0x10#8 10#16 60#16 []⟩] :=
  cfgReport_read_back (fun _ => 1)
    [⟨0x00#8, 0x0000#16, 0x20#8, 10#16, 60#16, 0#16, fun _ => 0x01#8⟩,
      ⟨0x00#8, 0xFF55#16, 0x10#8, 10#16, 60#16, 0#16, fun _ => 0#8⟩]
    (by decide) (by decide) _

end Watermeter.Zcl
