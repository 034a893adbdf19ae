import Watermeter.ZclWrite

/-! The data types of ZCL attributes, the size of an attribute's value, and the two tests of the reporting code
for a change that is worth a report. -/

namespace Watermeter

open NorFlash

def zclDataTypeData8 : BitVec 8 := 0x08#8

def zclDataTypeData16 : BitVec 8 := 0x09#8

def zclDataTypeData24 : BitVec 8 := 0x0A#8

def zclDataTypeData32 : BitVec 8 := 0x0B#8

def zclDataTypeData40 : BitVec 8 := 0x0C#8

def zclDataTypeData48 : BitVec 8 := 0x0D#8

def zclDataTypeData56 : BitVec 8 := 0x0E#8

def zclDataTypeData64 : BitVec 8 := 0x0F#8

def zclDataTypeBoolean : BitVec 8 := 0x10#8

def zclDataTypeBitmap8 : BitVec 8 := 0x18#8

def zclDataTypeBitmap16 : BitVec 8 := 0x19#8

def zclDataTypeBitmap24 : BitVec 8 := 0x1A#8

def zclDataTypeBitmap32 : BitVec 8 := 0x1B#8

def zclDataTypeBitmap40 : BitVec 8 := 0x1C#8

def zclDataTypeBitmap48 : BitVec 8 := 0x1D#8

def zclDataTypeBitmap56 : BitVec 8 := 0x1E#8

def zclDataTypeBitmap64 : BitVec 8 := 0x1F#8

def zclDataTypeUint8 : BitVec 8 := 0x20#8

def zclDataTypeUint24 : BitVec 8 := 0x22#8

def zclDataTypeUint40 : BitVec 8 := 0x24#8

def zclDataTypeUint48 : BitVec 8 := 0x25#8

def zclDataTypeUint56 : BitVec 8 := 0x26#8

def zclDataTypeUint64 : BitVec 8 := 0x27#8

def zclDataTypeInt8 : BitVec 8 := 0x28#8

def zclDataTypeInt16 : BitVec 8 := 0x29#8

def zclDataTypeInt24 : BitVec 8 := 0x2A#8

def zclDataTypeInt32 : BitVec 8 := 0x2B#8

def zclDataTypeInt40 : BitVec 8 := 0x2C#8

def zclDataTypeInt48 : BitVec 8 := 0x2D#8

def zclDataTypeInt56 : BitVec 8 := 0x2E#8

def zclDataTypeInt64 : BitVec 8 := 0x2F#8

def zclDataTypeEnum8 : BitVec 8 := 0x30#8

def zclDataTypeEnum16 : BitVec 8 := 0x31#8

def zclDataTypeSemiPrec : BitVec 8 := 0x38#8

def zclDataTypeSinglePrec : BitVec 8 := 0x39#8

def zclDataTypeDoublePrec : BitVec 8 := 0x3A#8

def zclDataTypeOctetStr : BitVec 8 := 0x41#8

def zclDataTypeCharStr : BitVec 8 := 0x42#8

def zclDataTypeLongOctetStr : BitVec 8 := 0x43#8

def zclDataTypeLongCharStr : BitVec 8 := 0x44#8

def zclDataTypeStruct : BitVec 8 := 0x4C#8

def zclDataTypeTod : BitVec 8 := 0xE0#8

def zclDataTypeDate : BitVec 8 := 0xE1#8

def zclDataTypeUtc : BitVec 8 := 0xE2#8

def zclDataTypeClusterId : BitVec 8 := 0xE8#8

def zclDataTypeAttrId : BitVec 8 := 0xE9#8

def zclDataTypeBacOid : BitVec 8 := 0xEA#8

def zclDataTypeIeeeAddr : BitVec 8 := 0xF0#8

def zclDataType128BitSecKey : BitVec 8 := 0xF1#8

def zclGetDataTypeLen (dataType : BitVec 8) : BitVec 8 :=
  if dataType ∈ [zclDataTypeBoolean, zclDataTypeData8, zclDataTypeBitmap8, zclDataTypeUint8, zclDataTypeInt8,
      zclDataTypeEnum8] then 1#8
  else if dataType ∈ [zclDataTypeData16, zclDataTypeBitmap16, zclDataTypeUint16, zclDataTypeInt16,
      zclDataTypeEnum16, zclDataTypeSemiPrec, zclDataTypeClusterId, zclDataTypeAttrId] then 2#8
  else if dataType ∈ [zclDataTypeData24, zclDataTypeBitmap24, zclDataTypeUint24, zclDataTypeInt24] then 3#8
  else if dataType ∈ [zclDataTypeData32, zclDataTypeBitmap32, zclDataTypeUint32, zclDataTypeInt32,
      zclDataTypeSinglePrec, zclDataTypeUtc, zclDataTypeDate, zclDataTypeBacOid] then 4#8
  else if dataType ∈ [zclDataTypeData40, zclDataTypeBitmap40, zclDataTypeUint40, zclDataTypeInt40] then 5#8
  else if dataType ∈ [zclDataTypeData48, zclDataTypeBitmap48, zclDataTypeUint48, zclDataTypeInt48] then 6#8
  else if dataType ∈ [zclDataTypeData56, zclDataTypeBitmap56, zclDataTypeUint56, zclDataTypeInt56] then 7#8
  else if dataType ∈ [zclDataTypeData64, zclDataTypeBitmap64, zclDataTypeUint64, zclDataTypeInt64,
      zclDataTypeDoublePrec, zclDataTypeIeeeAddr] then 8#8
  else if dataType = zclDataType128BitSecKey then 16#8
  else 0#8

def zclAnalogDataType (dataType : BitVec 8) : Bool :=
  dataType ∈ [zclDataTypeUint8, zclDataTypeUint16, zclDataTypeUint24, zclDataTypeUint32, zclDataTypeUint40,
    zclDataTypeUint48, zclDataTypeUint56, zclDataTypeUint64, zclDataTypeInt8, zclDataTypeInt16, zclDataTypeInt24,
    zclDataTypeInt32, zclDataTypeInt40, zclDataTypeInt48, zclDataTypeInt56, zclDataTypeInt64, zclDataTypeSemiPrec,
    zclDataTypeSinglePrec, zclDataTypeDoublePrec, zclDataTypeTod, zclDataTypeDate, zclDataTypeUtc]

/-- The items of a structure: each is its data type and as many bytes as that has. -/
def structSize (pData : Nat → Byte) : Nat → BitVec 16 → BitVec 16
  | 0, dataLen => dataLen
  | itemNum + 1, dataLen =>
    structSize pData itemNum (dataLen + ((zclGetDataTypeLen (pData dataLen.toNat)).setWidth 16 + 1))

def zclGetAttrSize (dataType : BitVec 8) (pData : Nat → Byte) : BitVec 16 :=
  if dataType = zclDataTypeLongCharStr ∨ dataType = zclDataTypeLongOctetStr then u16 (pData 0) (pData 1) + 2
  else if dataType = zclDataTypeCharStr ∨ dataType = zclDataTypeOctetStr then (pData 0).setWidth 16 + 1
  else if dataType = zclDataTypeStruct then structSize pData (pData 0).toNat 2#16
  else (zclGetDataTypeLen dataType).setWidth 16

/-- The bytes a reporting entry keeps of a value or of a change. -/
abbrev AnalogData := Fin 8 → Byte

def u24 (b₀ b₁ b₂ : Byte) : BitVec 32 := (b₂ ++ b₁ ++ b₀).setWidth 32

/-- `BUILD_U48`. -/
def u48 (b₀ b₁ b₂ b₃ b₄ b₅ : Byte) : BitVec 64 := (b₅ ++ b₄ ++ b₃ ++ b₂ ++ b₁ ++ b₀).setWidth 64

/-- The test of the unsigned types: the values differ, and by `R` or more. -/
def unsignedChange {w : Nat} (P C R : BitVec w) : Bool :=
  if C < P then decide (R ≤ P - C) else if P < C then decide (R ≤ C - P) else false

/-- The test of the signed types, in the 32 bits the differences are taken in. -/
def signedChange (P C R : BitVec 32) : Bool :=
  if C.slt P then R.sle (P - C) else if P.slt C then R.sle (C - P) else false

/-- `reportableChangeValueChk` of the stack. The 24-bit types are built without a sign. -/
def reportableChangeValueChk (dataType : BitVec 8) (curValue prevValue reportableChange : AnalogData) : Bool :=
  if dataType = zclDataTypeUint8 then unsignedChange (prevValue 0) (curValue 0) (reportableChange 0)
  else if dataType = zclDataTypeUint16 then
    unsignedChange (u16 (prevValue 0) (prevValue 1)) (u16 (curValue 0) (curValue 1))
      (u16 (reportableChange 0) (reportableChange 1))
  else if dataType = zclDataTypeUint24 then
    unsignedChange (u24 (prevValue 0) (prevValue 1) (prevValue 2)) (u24 (curValue 0) (curValue 1) (curValue 2))
      (u24 (reportableChange 0) (reportableChange 1) (reportableChange 2))
  else if dataType = zclDataTypeUint32 then
    unsignedChange (u32 (prevValue 0) (prevValue 1) (prevValue 2) (prevValue 3))
      (u32 (curValue 0) (curValue 1) (curValue 2) (curValue 3))
      (u32 (reportableChange 0) (reportableChange 1) (reportableChange 2) (reportableChange 3))
  else if dataType = zclDataTypeInt8 then
    signedChange ((prevValue 0).signExtend 32) ((curValue 0).signExtend 32) ((reportableChange 0).signExtend 32)
  else if dataType = zclDataTypeInt16 then
    signedChange ((u16 (prevValue 0) (prevValue 1)).signExtend 32) ((u16 (curValue 0) (curValue 1)).signExtend 32)
      ((u16 (reportableChange 0) (reportableChange 1)).signExtend 32)
  else if dataType = zclDataTypeInt24 then
    signedChange (u24 (prevValue 0) (prevValue 1) (prevValue 2)) (u24 (curValue 0) (curValue 1) (curValue 2))
      (u24 (reportableChange 0) (reportableChange 1) (reportableChange 2))
  else if dataType = zclDataTypeInt32 then
    signedChange (u32 (prevValue 0) (prevValue 1) (prevValue 2) (prevValue 3))
      (u32 (curValue 0) (curValue 1) (curValue 2) (curValue 3))
      (u32 (reportableChange 0) (reportableChange 1) (reportableChange 2) (reportableChange 3))
  else false

def appReportableChangeValueChk (dataType : BitVec 8) (curValue prevValue reportableChange : AnalogData) : Bool :=
  if dataType = zclDataTypeUint48 then
    let P := u48 (prevValue 0) (prevValue 1) (prevValue 2) (prevValue 3) (prevValue 4) (prevValue 5)
    let C := u48 (curValue 0) (curValue 1) (curValue 2) (curValue 3) (curValue 4) (curValue 5)
    let R := u48 (reportableChange 0) (reportableChange 1) (reportableChange 2) (reportableChange 3)
      (reportableChange 4) (reportableChange 5)
    if C ≤ P then decide (R < P - C) else decide (R < C - P)
  else reportableChangeValueChk dataType curValue prevValue reportableChange

end Watermeter
