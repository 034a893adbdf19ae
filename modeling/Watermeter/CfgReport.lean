import Watermeter.ReportPass
import Watermeter.Application

/-! A configure-report command: what the stack makes of its records, and `app_zclCfgReportCmd` behind it. -/

namespace Watermeter

open NorFlash Transition

def zclStaUnsupportedAttribute : BitVec 8 := 0x86#8

def zclStaInvalidValue : BitVec 8 := 0x87#8

def zclStaInsufficientSpace : BitVec 8 := 0x89#8

def zclStaNotFound : BitVec 8 := 0x8B#8

def zclStaInvalidDataType : BitVec 8 := 0x8D#8

def zclExpectAttrReports : BitVec 8 := 0x01#8

/-- `zclCfgReportRec_t`; the reportable change is there for the analog types. -/
structure CfgReportRec where
  direction : BitVec 8
  attrID : BitVec 16
  dataType : BitVec 8
  minReportInt : BitVec 16
  maxReportInt : BitVec 16
  reportableChange : AnalogData

/-- What the stack keeps of an entry besides: its type and its first intervals. -/
structure CfgDefaults where
  dataType : BitVec 8
  minIntDft : BitVec 16
  maxIntDft : BitVec 16

/-- The reporting code with the rest of the table, and the attributes that may be reported. -/
structure CfgDevice extends Reporting where
  defaults : Slot → CfgDefaults
  reportable : BitVec 8 → BitVec 16 → BitVec 16 → Bool

namespace CfgDevice

def setCfg (d : CfgDevice) (i : Slot) (e : ReportCfgInfo) : CfgDevice :=
  { d with reportCfgInfo := Function.update d.reportCfgInfo i e }

/-- `zcl_reportCfgInfoEntryFind`. -/
def entryFind (d : CfgDevice) (endpoint : BitVec 8) (clusterId attrID : BitVec 16) : Option Slot :=
  (List.finRange zclReportingTableNum).find? fun i =>
    let e := d.reportCfgInfo i
    e.used && e.clusterID = clusterId && e.attrID = attrID && e.endPoint = endpoint

/-- `zcl_reportCfgInfoEntryFreeGet`. -/
def entryFreeGet (d : CfgDevice) : Option Slot :=
  (List.finRange zclReportingTableNum).find? fun i => !(d.reportCfgInfo i).used

/-- `zcl_reportCfgInfoEntryRst`. -/
def entryRst (d : CfgDevice) (i : Slot) : CfgDevice :=
  let e := d.reportCfgInfo i
  if e.used then
    d.setCfg i { e with
      minInterval := (d.defaults i).minIntDft
      maxInterval := (d.defaults i).maxIntDft
      reportableChange := fun _ => 0 }
  else d

/-- The bytes of the reportable change that an analog type has. -/
def changeOf (dataType : BitVec 8) (e : ReportCfgInfo) (r : CfgReportRec) : AnalogData :=
  if zclAnalogDataType dataType then
    fun k => if k.val < (zclGetDataTypeLen dataType).toNat then r.reportableChange k else e.reportableChange k
  else e.reportableChange

/-- `zcl_reportCfgInfoEntryUpdate`. -/
def entryUpdate (d : CfgDevice) (i : Slot) (endPoint : BitVec 8) (profileId clusterId : BitVec 16) (r : CfgReportRec) :
    CfgDevice :=
  let e := d.reportCfgInfo i
  if !e.used then
    { d.setCfg i { e with
        profileID := profileId
        clusterID := clusterId
        endPoint := endPoint
        attrID := r.attrID
        minInterval := r.minReportInt
        maxInterval := r.maxReportInt
        reportableChange := changeOf r.dataType e r
        used := true } with
      reportNum := d.reportNum + 1
      defaults := Function.update d.defaults i ⟨r.dataType, r.minReportInt, r.maxReportInt⟩ }
  else
    d.setCfg i { e with
      minInterval := r.minReportInt
      maxInterval := r.maxReportInt
      reportableChange := changeOf (d.defaults i).dataType e r }

/-- The end of `zcl_configureReporting`: the entry there is, or a free one, is updated. -/
def updateOrAdd (d : CfgDevice) (endpoint : BitVec 8) (profileId clusterId : BitVec 16) (r : CfgReportRec) :
    BitVec 8 × CfgDevice :=
  match d.entryFind endpoint clusterId r.attrID with
  | some i => (zclStaSuccess, d.entryUpdate i endpoint profileId clusterId r)
  | none =>
    match d.entryFreeGet with
    | none => (zclStaInsufficientSpace, d)
    | some i => (zclStaSuccess, d.entryUpdate i endpoint profileId clusterId r)

/-- `zcl_configureReporting`. -/
def zclConfigureReporting (endpoint : BitVec 8) (profileId clusterId : BitVec 16) (d : CfgDevice) (r : CfgReportRec) :
    BitVec 8 × CfgDevice :=
  match d.zclFindAttribute endpoint clusterId r.attrID with
  | none => (zclStaUnsupportedAttribute, d)
  | some attr =>
    if attr.type ≠ r.dataType then (zclStaInvalidDataType, d)
    else if !d.reportable endpoint clusterId r.attrID then (zclStaUnsupportedAttribute, d)
    else if r.direction = zclExpectAttrReports then (zclStaUnsupportedAttribute, d)
    else if r.maxReportInt = 0xFFFF#16 then
      match d.entryFind endpoint clusterId r.attrID with
      | none => (zclStaNotFound, d)
      | some _ => d.updateOrAdd endpoint profileId clusterId r
    else if r.maxReportInt = 0#16 then
      if r.minReportInt = 0xFFFF#16 then
        match d.entryFind endpoint clusterId r.attrID with
        | none => (zclStaNotFound, d)
        | some i => (zclStaSuccess, d.entryRst i)
      else d.updateOrAdd endpoint profileId clusterId r
    else if r.maxReportInt < r.minReportInt then (zclStaInvalidValue, d)
    else d.updateOrAdd endpoint profileId clusterId r

/-- The loop of `zcl_configReportHandler`: the table it leaves, and the attributes of the records it accepts. -/
def zclConfigReportHandler (endpoint : BitVec 8) (profileId clusterId : BitVec 16) (d : CfgDevice) :
    List CfgReportRec → CfgDevice × List (BitVec 16)
  | [] => (d, [])
  | r :: recs =>
    match zclConfigureReporting endpoint profileId clusterId d r with
    | (status, d) =>
      match zclConfigReportHandler endpoint profileId clusterId d recs with
      | (d, accepted) => (d, if status = zclStaSuccess then r.attrID :: accepted else accepted)

end CfgDevice

end Watermeter
