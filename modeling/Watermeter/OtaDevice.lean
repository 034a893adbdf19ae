import Watermeter.OtaImage
import Watermeter.Transition

/-! The store among the events that reach the flash it uses: saves and power cycles, and what the OTA client
does in the inactive bank, which is the bank of the ring. Any order of the events is a run. -/

namespace Watermeter

open NorFlash

/-- The device, the boot address the OTA client read at power-up, and the totals last passed to
`write_config` (a history variable). -/
structure OtaDevice extends Device where
  mcuBootAddr : Nat
  passed : Totals

inductive OtaEvent
  /-- A handler changes totals or step in RAM. -/
  | set (t : Totals)
  /-- A handler calls `write_config`. -/
  | save
  /-- The device is switched off and on. -/
  | reboot
  /-- The client accepts an image of this size and erases its sectors. -/
  | accept (imageSize : Nat)
  /-- `OTA_EVT_START` is handled. -/
  | start
  /-- The client writes a block of the image. -/
  | block (offset : Nat) (data : List Byte)
  /-- `OTA_EVT_COMPLETE` is handled with a status that is not success. -/
  | abort
  /-- `OTA_EVT_COMPLETE` is handled with success. -/
  | success

/-- The bank the client downloads to. -/
def imageBase (mcuBootAddr : Nat) : Nat := if mcuBootAddr ≠ 0 then 0 else flashAddrOfOtaImage

/-- The erasures of an accepted image, one sector more than its size fills. -/
def imageSectors (mcuBootAddr imageSize : Nat) : List Op :=
  (List.range (imageSize / flashSectorSize + 1)).map fun i =>
    .flashErase (imageBase mcuBootAddr + flashSectorSize * i)

/-- The readings of the supply for the client's own calls; the store makes fewer than a hundred in a step. -/
def clientSupply (supply : Supply) : Supply := fun i => supply (i + 100)

/-- The first byte of the start-up flag is withheld until the image is complete. -/
def withheld (offset : Nat) (data : List Byte) : List Byte :=
  if offset ≤ flashTlnkFlagOffset then data.set (flashTlnkFlagOffset - offset) 0xFF#8 else data

/-- `OTA_EVT_START` sets the flag before it saves. -/
def otaStarted (r : Ram) : Ram := { r with watermeterConfig := { r.watermeterConfig with newOta := 1 } }

namespace OtaDevice

/-- Whether the MCU starts again in the step, from the memory the store finds. -/
def resets (supply : Supply) (s : OtaDevice) : OtaEvent → Bool
  | .reboot => true
  | .success => (otaMcuReboot s.mcuBootAddr (clientSupply supply) s.nvm.flash).1
  | _ => false

/-- The memory after `ota_mcuReboot`. -/
def switched (supply : Supply) (s : OtaDevice) : Nvm :=
  { s.nvm with flash := (otaMcuReboot s.mcuBootAddr (clientSupply supply) s.nvm.flash).2 }

/-- The calls the store makes to the drivers in a step, and the memory they start from. -/
def storeOps (supply : Supply) (s : OtaDevice) : OtaEvent → Nvm × Ram × List Op
  | .set t => (s.nvm, (s.setTotals t).ram, [])
  | .save => (s.nvm, Watermeter.writeConfig s.ram)
  | .reboot => (s.nvm, Watermeter.initConfig s.nvm Ram.zero)
  | .accept imageSize =>
    if imageSize ≤ flashOtaImageMaxSize then
      (performAll (clientSupply supply) s.nvm (imageSectors s.mcuBootAddr imageSize), s.ram, [])
    else (s.nvm, s.ram, [])
  | .start => (s.nvm, Watermeter.writeConfig (otaStarted s.ram))
  | .block offset data =>
    if s.ram.watermeterConfig.newOta ≠ 0 ∧ offset + data.length ≤ flashOtaImageMaxSize then
      ({ s.nvm with flash :=
          (flashWriteWithCheck (clientSupply supply 0) s.nvm.flash (imageBase s.mcuBootAddr + offset) (withheld offset data)).2 },
        s.ram, [])
    else (s.nvm, s.ram, [])
  | .abort =>
    if s.ram.watermeterConfig.newOta ≠ 0 then (s.nvm, Watermeter.initConfig s.nvm s.ram) else (s.nvm, s.ram, [])
  | .success =>
    if s.resets supply .success then
      (s.switched supply, Watermeter.initConfig (s.switched supply) Ram.zero)
    else (s.switched supply, s.ram, [])

def step (s : OtaDevice) (e : Supply × OtaEvent) : OtaDevice :=
  match s.storeOps e.1 e.2 with
  | (nvm, ram, ops) =>
    { ram := ram
      nvm := performAll e.1 nvm ops
      mcuBootAddr := if s.resets e.1 e.2 then mcuBootAddrGet nvm.flash else s.mcuBootAddr
      passed := if ops = [] then s.passed else ram.watermeterConfig.totals }

theorem writeConfig_started {r : Ram} (hd : r.defaultConfig = false) :
    Watermeter.writeConfig (otaStarted r) =
      ({ otaStarted r with watermeterConfig := (otaStarted r).watermeterConfig.sealed },
        [.nvFlashWriteNew (otaStarted r).watermeterConfig.sealed]) :=
  writeConfig_ota (r := otaStarted r) hd (by show (1 : BitVec 8) ≠ 0; decide)

theorem step_eq {s : OtaDevice} {supply : Supply} {e : OtaEvent} {nvm : Nvm} {ram : Ram} {ops : List Op}
    (h : s.storeOps supply e = (nvm, ram, ops)) :
    s.step (supply, e) =
      ⟨⟨ram, performAll supply nvm ops⟩, if s.resets supply e then mcuBootAddrGet nvm.flash else s.mcuBootAddr,
        if ops = [] then s.passed else ram.watermeterConfig.totals⟩ := by
  rw [step, h]

end OtaDevice

end Watermeter
