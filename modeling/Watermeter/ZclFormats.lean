import Watermeter.TwoPass
import Watermeter.CfgReport

/-! The payloads of the general commands of `zcl.c`: what the senders build, what the two passes of the receivers
make of them in a buffer of the pool, and a reader of each record that stays within the payload. -/

namespace Watermeter.Zcl

open NorFlash TwoPass

def zclSendAttrReports : BitVec 8 := 0x00#8

/-! ### The buffers -/

/-- `BUFFER_GROUP_0` to `BUFFER_GROUP_3`. -/
def bufferGroup : Fin 4 → Nat := [24, 60, 152, 512].get

/-- `LARGE_BUFFER`; a message lies in a buffer, which has eight bytes before the data. -/
def largeBuffer : Nat := 512 - 8

/-- Whether `ev_buf_allocate` finds a buffer, with so many left in each group. -/
def evBufAllocate (availBufNum : Fin 4 → Nat) (size : Nat) : Bool :=
  size ≠ 0 && size ≤ largeBuffer && (List.finRange 4).any fun i => size ≤ bufferGroup i - 8 && availBufNum i ≠ 0

/-! The commands that are built. The structures are packed (`-fpack-struct`) and a pointer takes four bytes. -/

def zclWriteCmd : Layout := ⟨1, 7, 65536⟩

def zclReportCmd : Layout := ⟨1, 7, 65536⟩

def zclReadRspCmd : Layout := ⟨1, 8, 65536⟩

/-- The size before the data is kept in eight bits, unlike those of the others. -/
def zclCfgReportCmd : Layout := ⟨1, 14, 256⟩

def zclReadReportCfgRspCmd : Layout := ⟨1, 15, 65536⟩

/-! ### Bytes -/

def loUint16 (a : BitVec 16) : Byte := a.extractLsb' 0 8

def hiUint16 (a : BitVec 16) : Byte := a.extractLsb' 8 8

/-- The data of an attribute, with the size that its type gives it. -/
def attrData (dataType : BitVec 8) (data : Memory Byte) : List Byte := data.first (zclGetAttrSize dataType data).toNat

/-! ### Attributes and their data: the write commands and the reports -/

/-- `zclWriteRec_t` and `zclReport_t`, with the data that is copied for them. -/
structure AttrRec where
  attrID : BitVec 16
  dataType : BitVec 8
  attrData : List Byte
  deriving DecidableEq, Repr

/-- A record to send: its data is where the application has it. -/
structure AttrSource where
  attrID : BitVec 16
  dataType : BitVec 8
  attrData : Memory Byte

def AttrRec.bytes (r : AttrRec) : List Byte := loUint16 r.attrID :: hiUint16 r.attrID :: r.dataType :: r.attrData

def AttrSource.record (r : AttrSource) : AttrRec := ⟨r.attrID, r.dataType, Zcl.attrData r.dataType r.attrData⟩

/-- The payload that `zcl_writeReq` and `zcl_reportAttrs` build. -/
def attrsBuilt (attrList : List AttrSource) : List Byte := attrList.flatMap fun r => r.record.bytes

def zclWriteReq (attrList : List AttrSource) : List Byte := attrsBuilt attrList

def zclReportAttrs (attrList : List AttrSource) : List Byte := attrsBuilt attrList

def attrFormat : Format Byte AttrRec where
  least := 3
  least_pos := by decide
  skip m := 3 + (zclGetAttrSize (m 2) (m.from 3)).toNat
  least_le _ := Nat.le_add_right 3 _
  weight m := (zclGetAttrSize (m 2) (m.from 3)).toNat
  read m := (⟨u16 (m 0) (m 1), m 2, attrData (m 2) (m.from 3)⟩, 3 + (zclGetAttrSize (m 2) (m.from 3)).toNat)
  size r := r.attrData.length

def zclParseInWriteCmd (availBufNum : Fin 4 → Nat) (pData : Memory Byte) (dataLen : Nat) : Parsed AttrRec :=
  attrFormat.parse zclWriteCmd (evBufAllocate availBufNum) pData dataLen

def zclParseInReportCmd (availBufNum : Fin 4 → Nat) (pData : Memory Byte) (dataLen : Nat) : Parsed AttrRec :=
  attrFormat.parse zclReportCmd (evBufAllocate availBufNum) pData dataLen

/-! ### The answer to a read command -/

/-- `zclReadRspStatus_t`: the type and the data are there when the status is success. -/
structure ReadRspRec where
  attrID : BitVec 16
  status : BitVec 8
  value : Option (BitVec 8 × List Byte)
  deriving DecidableEq, Repr

/-- A record to send: the type and the data of the attribute are left as they are when it cannot be read. -/
structure ReadRspSource where
  attrID : BitVec 16
  status : BitVec 8
  dataType : BitVec 8
  data : Memory Byte

def ReadRspRec.bytes (r : ReadRspRec) : List Byte :=
  loUint16 r.attrID :: hiUint16 r.attrID :: r.status ::
    match r.value with
    | none => []
    | some (dataType, data) => dataType :: data

def ReadRspSource.record (r : ReadRspSource) : ReadRspRec :=
  ⟨r.attrID, r.status, if r.status = zclStaSuccess then some (r.dataType, attrData r.dataType r.data) else none⟩

/-- The payload that `zcl_readRsp` builds. -/
def zclReadRsp (attrList : List ReadRspSource) : List Byte := attrList.flatMap fun r => r.record.bytes

def ReadRspRec.size (r : ReadRspRec) : Nat :=
  match r.value with
  | none => 0
  | some (_, data) => data.length

def readRspFormat : Format Byte ReadRspRec where
  least := 3
  least_pos := by decide
  skip m := 3 + if m 2 = zclStaSuccess then 1 + (zclGetAttrSize (m 3) (m.from 4)).toNat else 0
  least_le _ := Nat.le_add_right 3 _
  weight m := if m 2 = zclStaSuccess then (zclGetAttrSize (m 3) (m.from 4)).toNat else 0
  read m :=
    (⟨u16 (m 0) (m 1), m 2, if m 2 = zclStaSuccess then some (m 3, attrData (m 3) (m.from 4)) else none⟩,
      3 + if m 2 = zclStaSuccess then 1 + (zclGetAttrSize (m 3) (m.from 4)).toNat else 0)
  size := ReadRspRec.size

def zclParseInReadRspCmd (availBufNum : Fin 4 → Nat) (pData : Memory Byte) (dataLen : Nat) : Parsed ReadRspRec :=
  readRspFormat.parse zclReadRspCmd (evBufAllocate availBufNum) pData dataLen

/-! ### The configuration of reports -/

/-- What follows the attribute of a record on reporting: for reports to be sent the type, the intervals and, of
an analog type, the change to be reported; for reports to be received the timeout. -/
inductive ReportSetting
  | send (dataType : BitVec 8) (minReportInt maxReportInt : BitVec 16) (reportableChange : List Byte)
  | receive (timeoutPeriod : BitVec 16)
  deriving DecidableEq, Repr

/-- The fields of a record to send, of which the direction says which are sent. -/
structure ReportSource where
  direction : BitVec 8
  attrID : BitVec 16
  dataType : BitVec 8
  minReportInt : BitVec 16
  maxReportInt : BitVec 16
  timeoutPeriod : BitVec 16
  reportableChange : Memory Byte

def ReportSetting.bytes : ReportSetting → List Byte
  | .send dataType minReportInt maxReportInt reportableChange =>
    dataType :: loUint16 minReportInt :: hiUint16 minReportInt :: loUint16 maxReportInt :: hiUint16 maxReportInt ::
      reportableChange
  | .receive timeoutPeriod => [loUint16 timeoutPeriod, hiUint16 timeoutPeriod]

def ReportSource.setting (r : ReportSource) : ReportSetting :=
  if r.direction = zclSendAttrReports then
    .send r.dataType r.minReportInt r.maxReportInt
      (if zclAnalogDataType r.dataType then attrData r.dataType r.reportableChange else [])
  else .receive r.timeoutPeriod

/-- The change of an analog type takes the bytes of the type. -/
def changeLen (dataType : BitVec 8) : Nat := if zclAnalogDataType dataType then (zclGetDataTypeLen dataType).toNat else 0

/-- `zcl_analogDataBuild` copies the size of the type; both readers then go on by its length. -/
def readSetting (direction : BitVec 8) (m : Memory Byte) : ReportSetting × Nat :=
  if direction = zclSendAttrReports then
    (.send (m 0) (u16 (m 1) (m 2)) (u16 (m 3) (m 4))
      (if zclAnalogDataType (m 0) then attrData (m 0) (m.from 5) else []), 5 + changeLen (m 0))
  else (.receive (u16 (m 0) (m 1)), 2)

/-- `zclCfgReportRec_t`. -/
structure CfgRec where
  direction : BitVec 8
  attrID : BitVec 16
  setting : ReportSetting
  deriving DecidableEq, Repr

def CfgRec.bytes (r : CfgRec) : List Byte :=
  r.direction :: loUint16 r.attrID :: hiUint16 r.attrID :: r.setting.bytes

def ReportSource.record (r : ReportSource) : CfgRec := ⟨r.direction, r.attrID, r.setting⟩

/-- The payload that `zcl_configReport` builds. -/
def zclConfigReport (attrList : List ReportSource) : List Byte := attrList.flatMap fun r => r.record.bytes

/-- The bytes of the change to be reported. -/
def ReportSetting.size : ReportSetting → Nat
  | .send _ _ _ reportableChange => reportableChange.length
  | .receive _ => 0

/-- The counting pass goes on by one byte more for a discrete type. -/
def cfgReportFormat : Format Byte CfgRec where
  least := 5
  least_pos := by decide
  skip m := 3 +
    if m 0 = zclSendAttrReports then 5 + if zclAnalogDataType (m 3) then (zclGetDataTypeLen (m 3)).toNat else 1
    else 2
  least_le _ := by split <;> omega
  weight m := if m 0 = zclSendAttrReports then changeLen (m 3) else 0
  read m := (⟨m 0, u16 (m 1) (m 2), (readSetting (m 0) (m.from 3)).1⟩, 3 + (readSetting (m 0) (m.from 3)).2)
  size r := r.setting.size

def zclParseInCfgReportCmd (availBufNum : Fin 4 → Nat) (pData : Memory Byte) (dataLen : Nat) : Parsed CfgRec :=
  cfgReportFormat.parse zclCfgReportCmd (evBufAllocate availBufNum) pData dataLen

/-- `zclReportCfgRspRec_t`: the setting is there when the status is success. -/
structure CfgRspRec where
  status : BitVec 8
  direction : BitVec 8
  attrID : BitVec 16
  setting : Option ReportSetting
  deriving DecidableEq, Repr

def CfgRspRec.bytes (r : CfgRspRec) : List Byte :=
  r.status :: r.direction :: loUint16 r.attrID :: hiUint16 r.attrID ::
    match r.setting with
    | none => []
    | some setting => setting.bytes

/-- The record of an answer: a status beside the fields. -/
def ReportSource.answer (status : BitVec 8) (r : ReportSource) : CfgRspRec :=
  ⟨status, r.direction, r.attrID, if status = zclStaSuccess then some r.setting else none⟩

/-- The payload that `zcl_readReportConfigRsp` builds. -/
def zclReadReportConfigRsp (attrList : List (BitVec 8 × ReportSource)) : List Byte :=
  attrList.flatMap fun r => (r.2.answer r.1).bytes

def CfgRspRec.size (r : CfgRspRec) : Nat :=
  match r.setting with
  | none => 0
  | some setting => setting.size

def readReportCfgRspFormat : Format Byte CfgRspRec where
  least := 4
  least_pos := by decide
  skip m := 4 +
    if m 0 = zclStaSuccess then if m 1 = zclSendAttrReports then 5 + changeLen (m 4) else 2
    else 0
  least_le _ := Nat.le_add_right 4 _
  weight m := if m 0 = zclStaSuccess then if m 1 = zclSendAttrReports then changeLen (m 4) else 0 else 0
  read m :=
    (⟨m 0, m 1, u16 (m 2) (m 3), if m 0 = zclStaSuccess then some (readSetting (m 1) (m.from 4)).1 else none⟩,
      4 + if m 0 = zclStaSuccess then (readSetting (m 1) (m.from 4)).2 else 0)
  size := CfgRspRec.size

def zclParseInReadReportCfgRspCmd (availBufNum : Fin 4 → Nat) (pData : Memory Byte) (dataLen : Nat) :
    Parsed CfgRspRec :=
  readReportCfgRspFormat.parse zclReadReportCfgRspCmd (evBufAllocate availBufNum) pData dataLen

/-! ### Readers that stay within the payload -/

/-- The items of a structure, as far as their types are there. -/
def structWithin (data : List Byte) : Nat → Nat → Option Nat
  | 0, dataLen => some dataLen
  | itemNum + 1, dataLen =>
    match data[dataLen]? with
    | none => none
    | some dataType => structWithin data itemNum (dataLen + ((zclGetDataTypeLen dataType).toNat + 1))

/-- The size of the data of an attribute, if the bytes that tell it are there. -/
def sizeWithin (dataType : BitVec 8) (data : List Byte) : Option Nat :=
  if dataType = zclDataTypeLongCharStr ∨ dataType = zclDataTypeLongOctetStr then
    match data with
    | lo :: hi :: _ => some (u16 lo hi + 2).toNat
    | _ => none
  else if dataType = zclDataTypeCharStr ∨ dataType = zclDataTypeOctetStr then
    match data with
    | len :: _ => some (len.toNat + 1)
    | [] => none
  else if dataType = zclDataTypeStruct then
    match data with
    | itemNum :: _ => structWithin data itemNum.toNat 2
    | [] => none
  else some (zclGetDataTypeLen dataType).toNat

/-- The data of an attribute, if it ends within the payload. -/
def dataWithin (dataType : BitVec 8) (data : List Byte) : Option (List Byte) :=
  match sizeWithin dataType data with
  | none => none
  | some size => if size ≤ data.length then some (data.take size) else none

def attrWithin : List Byte → Option (AttrRec × Nat)
  | lo :: hi :: dataType :: data =>
    (dataWithin dataType data).map fun attrData => (⟨u16 lo hi, dataType, attrData⟩, 3 + attrData.length)
  | _ => none

def readRspWithin : List Byte → Option (ReadRspRec × Nat)
  | lo :: hi :: status :: rest =>
    if status = zclStaSuccess then
      match rest with
      | dataType :: data =>
        (dataWithin dataType data).map fun value =>
          (⟨u16 lo hi, status, some (dataType, value)⟩, 3 + (1 + value.length))
      | [] => none
    else some (⟨u16 lo hi, status, none⟩, 3)
  | _ => none

def settingWithin (direction : BitVec 8) : List Byte → Option (ReportSetting × Nat)
  | b₀ :: b₁ :: rest =>
    if direction = zclSendAttrReports then
      match rest with
      | b₂ :: b₃ :: b₄ :: change =>
        if changeLen b₀ ≤ change.length then
          some (.send b₀ (u16 b₁ b₂) (u16 b₃ b₄) (change.take (changeLen b₀)), 5 + changeLen b₀)
        else none
      | _ => none
    else some (.receive (u16 b₀ b₁), 2)
  | _ => none

def cfgReportWithin : List Byte → Option (CfgRec × Nat)
  | direction :: lo :: hi :: rest =>
    (settingWithin direction rest).map fun setting => (⟨direction, u16 lo hi, setting.1⟩, 3 + setting.2)
  | _ => none

def readReportCfgRspWithin : List Byte → Option (CfgRspRec × Nat)
  | status :: direction :: lo :: hi :: rest =>
    if status = zclStaSuccess then
      (settingWithin direction rest).map fun setting =>
        (⟨status, direction, u16 lo hi, some setting.1⟩, 4 + setting.2)
    else some (⟨status, direction, u16 lo hi, none⟩, 4)
  | _ => none

end Watermeter.Zcl
