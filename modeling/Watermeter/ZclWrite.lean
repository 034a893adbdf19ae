import Watermeter.Counter

/-! Attribute writes that set the meter: `app_zclWriteReqCmd` of `zcl_appCb.c`. -/

namespace Watermeter

open NorFlash

def watermeterEndpoint3 : BitVec 8 := 0x03#8

def zclClusterSeMetering : BitVec 16 := 0x0702#16

def zclClusterGenOnOffSwitchConfig : BitVec 16 := 0x0007#16

def zclAttridSwitchAction : BitVec 16 := 0x0010#16

def zclAttridCustomHotWaterPreset : BitVec 16 := 0xF000#16

def zclAttridCustomColdWaterPreset : BitVec 16 := 0xF001#16

def zclAttridCustomWaterStepPreset : BitVec 16 := 0xF002#16

def zclDataTypeUint16 : BitVec 8 := 0x21#8

def zclDataTypeUint32 : BitVec 8 := 0x23#8

/-- `zclWriteRec_t`, with the bytes from `attrData` on. -/
structure WriteRec where
  attrID : BitVec 16
  dataType : BitVec 8
  attrData : List Byte
  deriving DecidableEq, Repr

def WriteRec.byte (attr : WriteRec) (i : Nat) : Byte := attr.attrData.getD i 0#8

def WriteRec.buildU16 (attr : WriteRec) : BitVec 16 := u16 (attr.byte 0) (attr.byte 1)

def WriteRec.buildU32 (attr : WriteRec) : BitVec 32 := u32 (attr.byte 0) (attr.byte 1) (attr.byte 2) (attr.byte 3)

/-- A preset is rounded down to a multiple of the step. -/
def roundedPreset (litersPerPulse : BitVec 8) (waterValue : BitVec 32) : BitVec 32 :=
  waterValue / litersPerPulse.setWidth 32 * litersPerPulse.setWidth 32

/-- A step is rounded down to tens and kept between 1 and 100. -/
def roundedStep (waterStep : BitVec 16) : BitVec 16 :=
  let waterStep := waterStep / 10#16 * 10#16
  let waterStep := if waterStep = 0#16 then 1#16 else waterStep
  if 100#16 < waterStep then 100#16 else waterStep

def Meter.presetHot (waterValue : BitVec 32) (s : Meter) : Meter :=
  let total := checkCounterOverflow (roundedPreset s.litersPerPulse waterValue)
  { s with
    ram := { s.ram with watermeterConfig := { s.ram.watermeterConfig with counterHotWater := total } }
    attrs := { s.attrs with hotWaterPreset := total, hotWaterCounter := total.setWidth 48 } }

def Meter.presetCold (waterValue : BitVec 32) (s : Meter) : Meter :=
  let total := checkCounterOverflow (roundedPreset s.litersPerPulse waterValue)
  { s with
    ram := { s.ram with watermeterConfig := { s.ram.watermeterConfig with counterColdWater := total } }
    attrs := { s.attrs with coldWaterPreset := total, coldWaterCounter := total.setWidth 48 } }

def Meter.presetStep (waterStep : BitVec 16) (s : Meter) : Meter :=
  let step := roundedStep waterStep
  { s with
    ram := { s.ram with watermeterConfig := { s.ram.watermeterConfig with litersPerPulse := step.setWidth 8 } }
    attrs := { s.attrs with waterStepPreset := step } }

/-- One record of a write to the settings. The value is read at the pointer to the whole list, which is the first
record's. -/
def writeMeterAttr (first : WriteRec) (s : Meter) (attr : WriteRec) : Meter :=
  if attr.attrID = zclAttridCustomHotWaterPreset ∧ attr.dataType = zclDataTypeUint32 then s.presetHot first.buildU32
  else if attr.attrID = zclAttridCustomColdWaterPreset ∧ attr.dataType = zclDataTypeUint32 then
    s.presetCold first.buildU32
  else if attr.attrID = zclAttridCustomWaterStepPreset ∧ attr.dataType = zclDataTypeUint16 then
    s.presetStep first.buildU16
  else s

def writeMeterAttrs (attrList : List WriteRec) (s : Meter) : Meter :=
  match attrList with
  | [] => s
  | first :: _ => attrList.foldl (writeMeterAttr first) s

/-- `app_zclWriteReqCmd`: the variables it leaves, and how often it calls `zcl_onOffCfgAttr_save`. -/
def appZclWriteReqCmd (endPoint : BitVec 8) (clusterId : BitVec 16) (attrList : List WriteRec) (s : Meter) :
    Meter × Nat :=
  (if clusterId = zclClusterSeMetering ∧ endPoint = watermeterEndpoint3 then writeMeterAttrs attrList s else s,
    if clusterId = zclClusterGenOnOffSwitchConfig then attrList.countP (·.attrID == zclAttridSwitchAction) else 0)

end Watermeter
