import Watermeter.FlashMap

/-! The configuration store of `app_dev_config.c`. Its functions read flash and NV first and write
afterwards, so each returns the new RAM and the calls it makes to the drivers, in order. -/

namespace Watermeter

open NorFlash

def litersPerPulseDefault : BitVec 8 := 10#8

/-- What survives a power cycle: the flash and the NV item of the application, absent until it is first
written. -/
structure Nvm where
  flash : Mem
  userCfg : Option Config

/-- The variables of the module. -/
structure Ram where
  watermeterConfig : Config
  defaultConfig : Bool
  configAddrStart : BitVec 32
  configAddrEnd : BitVec 32
  deriving DecidableEq

/-- The calls the module makes to the NV and flash drivers. -/
inductive Op
  | nvFlashWriteNew (c : Config)
  | flashEraseSector (addr : Nat)
  | flashErase (addr : Nat)
  | flashWrite (addr : Nat) (buf : List Byte)

/-! ### The drivers -/

/-- The sector an address lies in is erased as a whole. -/
def flashEraseSector (m : Mem) (addr : Nat) : Mem := erase m (addr - addr % flashSectorSize) flashSectorSize

namespace Op

/-- The effect of a call that reaches the memory. -/
def apply (v : Nvm) : Op → Nvm
  | nvFlashWriteNew c => { v with userCfg := some c }
  | flashEraseSector addr => { v with flash := Watermeter.flashEraseSector v.flash addr }
  | flashErase addr => { v with flash := Watermeter.flashEraseSector v.flash addr }
  | flashWrite addr buf => { v with flash := program v.flash addr buf }

/-- The effect of a call at a supply of `mv` millivolts: `flash_erase` and `flash_write` return without
effect when the supply is low, `flash_erase_sector` and the NV driver do not look at it. -/
def perform (mv : Nat) (v : Nvm) : Op → Nvm
  | nvFlashWriteNew c => apply v (nvFlashWriteNew c)
  | flashEraseSector addr => apply v (flashEraseSector addr)
  | flashErase addr => if mv < batterySafetyThreshold then v else apply v (flashErase addr)
  | flashWrite addr buf => if mv < batterySafetyThreshold then v else apply v (flashWrite addr buf)

end Op

/-- The readings of the supply, one for each driver call. -/
abbrev Supply := Nat → Nat

/-- The supply never drops below the threshold. -/
def Powered (supply : Supply) : Prop := ∀ i, batterySafetyThreshold ≤ supply i

def applyAll (v : Nvm) (ops : List Op) : Nvm := ops.foldl Op.apply v

def performAll : Supply → Nvm → List Op → Nvm
  | _, v, [] => v
  | supply, v, op :: ops => performAll (fun i => supply (i + 1)) (op.perform (supply 0) v) ops

/-! ### `app_dev_config.c` -/

/-- The variables after power-up, before `init_config`: all zero. -/
def Ram.zero : Ram := ⟨⟨0, 0, 0, 0, 0, 0, 0, 0, 0⟩, false, 0, 0⟩

/-- `get_user_data_addr`. -/
def getUserDataAddr (m : Mem) (r : Ram) : Ram :=
  if mcuBootAddrGet m ≠ 0 then
    { r with configAddrStart := .ofNat 32 beginUserData1, configAddrEnd := .ofNat 32 endUserData1 }
  else
    { r with configAddrStart := .ofNat 32 beginUserData2, configAddrEnd := .ofNat 32 endUserData2 }

/-- `clear_user_data`: every sector of the region, from its start. -/
def clearUserData (flashAddr : BitVec 32) : List Op :=
  (List.range (userDataSize / flashSectorSize)).map fun i =>
    .flashEraseSector (flashAddr.toNat + flashSectorSize * i)

/-- `write_restore_config`. -/
def writeRestoreConfig (r : Ram) : Ram × List Op :=
  let c := r.watermeterConfig.sealed
  ({ r with watermeterConfig := c }, [.nvFlashWriteNew c])

/-- The page `write_config` turns to: the next one, or the first after the last. -/
def nextFlashAddr (r : Ram) : BitVec 32 :=
  let addr := r.watermeterConfig.flashAddrStart + .ofNat 32 flashPageSize
  if addr = r.configAddrEnd then r.configAddrStart else addr

/-- The record `write_config` appends to the ring. -/
def nextConfig (r : Ram) : Config :=
  { r.watermeterConfig with
    flashAddrStart := nextFlashAddr r
    top := (r.watermeterConfig.top + 1) &&& topMask }.sealed

/-- `write_config`. -/
def writeConfig (r : Ram) : Ram × List Op :=
  if r.defaultConfig then
    let (r, ops) := writeRestoreConfig r
    let addr := r.watermeterConfig.flashAddrStart.toNat
    ({ r with defaultConfig := false },
      ops ++ [.flashErase addr, .flashWrite addr r.watermeterConfig.toBytes])
  else if r.watermeterConfig.newOta = 0 then
    let addr := nextFlashAddr r
    let ops := if addr % .ofNat 32 flashSectorSize = 0 then [Op.flashErase addr.toNat] else []
    let c := nextConfig r
    ({ r with watermeterConfig := c }, ops ++ [.flashWrite addr.toNat c.toBytes])
  else
    writeRestoreConfig r

/-- Saving leaves the totals and the step alone. -/
theorem writeConfig_totals (r : Ram) : (writeConfig r).1.watermeterConfig.totals = r.watermeterConfig.totals := by
  have hrestore : (writeRestoreConfig r).1.watermeterConfig.totals = r.watermeterConfig.totals := Config.sealed_totals _
  have hnext : (nextConfig r).totals = r.watermeterConfig.totals := Config.sealed_totals _
  rw [writeConfig]
  split
  · exact hrestore
  · split
    · exact hnext
    · exact hrestore

/-- The record of a device that has none. -/
def defaultRecord (r : Ram) : Config :=
  { id := idConfig
    newOta := 0
    top := 0
    flashAddrStart := r.configAddrStart
    flashAddrEnd := r.configAddrEnd
    counterHotWater := 0
    counterColdWater := 0
    litersPerPulse := litersPerPulseDefault
    crc := 0 }

/-- `init_default_config`. -/
def initDefaultConfig (r : Ram) : Ram × List Op :=
  writeConfig { r with watermeterConfig := defaultRecord r, defaultConfig := true }

/-- `clear_user_data` followed by `init_default_config`, as `init_config` calls them. -/
def reinitConfig (r : Ram) : Ram × List Op :=
  let (r', ops) := initDefaultConfig r
  (r', clearUserData r.configAddrStart ++ ops)

/-- The loop of `init_config` over the pages after the first: the last record followed, the address of
the page after it, and `find_config`. -/
def scanConfig (m : Mem) (addrEnd : Nat) (configCurr : Config) (flashAddr : Nat) : Config × Nat × Bool :=
  if flashAddr < addrEnd then
    let configNext := readConfig m flashAddr
    if configNext.id = idConfig ∧ checksum configNext.toBytes = configNext.crc then
      if configCurr.top + 1 = configNext.top ∨ configCurr.top = topMask ∧ configNext.top = 0 then
        scanConfig m addrEnd configNext (flashAddr + flashPageSize)
      else (configCurr, flashAddr, true)
    else (configCurr, flashAddr, true)
  else (configCurr, flashAddr, false)
termination_by addrEnd - flashAddr
decreasing_by simp only [flashPageSize]; omega

/-- `init_config`. -/
def initConfig (v : Nvm) (r : Ram) : Ram × List Op :=
  let r := getUserDataAddr v.flash r
  match v.userCfg with
  | none => reinitConfig r
  | some configRestore =>
    if configRestore.id ≠ idConfig ∨ checksum configRestore.toBytes ≠ configRestore.crc then reinitConfig r
    else if configRestore.newOta ≠ 0 then
      writeConfig { r with
        watermeterConfig := { configRestore with
          newOta := 0
          flashAddrStart := r.configAddrStart
          flashAddrEnd := r.configAddrEnd }
        defaultConfig := true }
    else
      let flashAddr := r.configAddrStart.toNat
      let configCurr := readConfig v.flash flashAddr
      if configCurr.id ≠ idConfig then reinitConfig r
      else
        match scanConfig v.flash r.configAddrEnd.toNat configCurr (flashAddr + flashPageSize) with
        | (configCurr, flashAddr, true) =>
          ({ r with watermeterConfig :=
              { configCurr with flashAddrStart := .ofNat 32 (flashAddr - flashPageSize) } }, [])
        | (_, _, false) => reinitConfig r

end Watermeter
