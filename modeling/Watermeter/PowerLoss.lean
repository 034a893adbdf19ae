import Watermeter.OtaInvariant

/-! Power that fails while the store works: between two of its driver calls, or in the middle of a page write,
of which the first bytes are then programmed. The device is off until it is started, and the start may be cut
short like any other step. -/

namespace Watermeter

open NorFlash RingLog Transition

/-- What gets through of the call in which the power fails: the first `j` bytes of a page write. -/
def Op.torn (j : Nat) : Op → List Op
  | flashWrite addr buf => [flashWrite addr (buf.take j)]
  | _ => []

/-- The calls until the power fails in call `k`, of which `j` bytes get through. -/
def cutShort : Nat → Nat → List Op → List Op
  | _, _, [] => []
  | 0, j, op :: _ => op.torn j
  | k + 1, j, op :: ops => op :: cutShort k j ops

/-- The device, and whether it is on. While it is off, `passed` are the totals from before the operation that
was cut short, and `writing` those it was about to store. -/
structure PoweredDevice extends OtaDevice where
  on : Bool
  writing : Totals

/-- An event, and the call and byte of the store at which the power fails, if it does. -/
abbrev Cut := Supply × OtaEvent × Option (Nat × Nat)

namespace PoweredDevice

/-- A device that is off can only be started. -/
def takes (s : PoweredDevice) : OtaEvent → Bool
  | .reboot => true
  | _ => s.on

/-- The step without a loss of power. -/
def finished (supply : Supply) (s : PoweredDevice) (e : OtaEvent) : PoweredDevice :=
  let s' := s.toOtaDevice.step (supply, e)
  let passed := if s.resets supply e then s'.ram.watermeterConfig.totals else s'.passed
  { ram := s'.ram, nvm := s'.nvm, mcuBootAddr := s'.mcuBootAddr, passed := passed, on := true, writing := passed }

def interrupted (supply : Supply) (s : PoweredDevice) (e : OtaEvent) (k j : Nat) : PoweredDevice :=
  match s.storeOps supply e with
  | (nvm, ram, ops) =>
    { ram := Ram.zero
      nvm := performAll supply nvm (cutShort k j ops)
      mcuBootAddr := s.mcuBootAddr
      passed := s.passed
      on := false
      writing := ram.watermeterConfig.totals }

/-- The power fails in the step, if the store makes that many calls in it. -/
def cutCall (supply : Supply) (s : PoweredDevice) (e : OtaEvent) (cut : Option (Nat × Nat)) : Option (Nat × Nat) :=
  cut.filter fun kj => kj.1 < (s.storeOps supply e).2.2.length

def step (s : PoweredDevice) (e : Cut) : PoweredDevice :=
  if s.takes e.2.1 then
    match s.cutCall e.1 e.2.1 e.2.2 with
    | some (k, j) => s.interrupted e.1 e.2.1 k j
    | none => s.finished e.1 e.2.1
  else s

/-- A start of the MCU that is not cut short gives the totals from before the last operation or, if that was cut
short, those it was writing. -/
def Atomic (s : PoweredDevice) (e : Cut) : Prop :=
  s.takes e.2.1 = true → s.cutCall e.1 e.2.1 e.2.2 = none → s.resets e.1 e.2.1 = true →
    (s.step e).ram.watermeterConfig.totals = s.passed ∨ (s.step e).ram.watermeterConfig.totals = s.writing

end PoweredDevice

/-! ### The condition -/

/-- The first page of the ring carries the identifier. -/
def Marked (m : Mem) : Prop := ∀ b : Bank, mcuBootAddrGet m = b.base → (readConfig m b.userStart).id = idConfig

/-- The bytes before the checksum are written, but for bytes of ones, which program nothing. -/
def Whole (j : Nat) (c : Config) : Prop := ∀ x ∈ c.payload.drop j, x = 0xFF#8

/-- The record of the NV item goes to the first page: the NV item is not written anew yet, or the record is there. -/
def RestoreSpared (v : Nvm) (k j : Nat) : Prop :=
  ∀ c, v.userCfg = some c → k = 0 ∨ k = 2 ∧ Whole j (restoredRecord c (getUserDataAddr v.flash Ram.zero))

/-- The first initialisation: the first page is not left with an identifier and without its record. -/
def InitSpared (v : Nvm) (k j : Nat) : Prop :=
  k = 54 → j < 4 ∨ Whole j (defaultRecord (getUserDataAddr v.flash Ram.zero))

/-- The page after the record holds no record that would be taken for the next one. -/
def Ends (m : Mem) (r : Ram) : Prop :=
  nextFlashAddr r + .ofNat 32 flashPageSize ≠ r.configAddrEnd →
    ¬ Continues Config.top (nextConfig r) (recordAt m ((nextFlashAddr r).toNat + flashPageSize))

/-- In the middle of a sector the cells have room for the record, and the ring ends with it. -/
def SaveSpared (m : Mem) (r : Ram) : Prop :=
  nextFlashAddr r % .ofNat 32 flashSectorSize ≠ 0 →
    Fits m (nextFlashAddr r).toNat (nextConfig r).toBytes ∧ Ends m r

/-- The page as a cut leaves it does not hold a valid record of the next number, other than the whole one. -/
def TornSpared (m : Mem) (r : Ram) (j : Nat) : Prop :=
  ∀ c, recordAt (program m (nextFlashAddr r).toNat ((nextConfig r).toBytes.take j)) (nextFlashAddr r).toNat = some c →
    c.top = (nextConfig r).top → c = nextConfig r ∧ Ends m r

/-- A save of the ring that is cut short. On the first page the sector is still there, or the record is; on any
other the first page is marked, and a page that is torn does not hold a record. -/
def SaveCutSpared (m : Mem) (r : Ram) (k j : Nat) : Prop :=
  if nextFlashAddr r = r.configAddrStart then k = 0 ∧ Marked m ∨ k = 1 ∧ Whole j (nextConfig r)
  else if nextFlashAddr r % .ofNat 32 flashSectorSize = 0 then
    Marked m ∧ (k = 1 → TornSpared (flashEraseSector m (nextFlashAddr r).toNat) r j)
  else Marked m ∧ TornSpared m r j

/-- The NV item says that an update is running. -/
def UpdateItem (v : Nvm) : Prop := ∃ c, v.userCfg = some c ∧ c.Valid ∧ c.newOta ≠ 0

namespace PoweredDevice

/-- A power cycle outside of an update finds the first page marked, and the records of the ring do not lead to
its last page. -/
def StartSpared (s : PoweredDevice) : Prop :=
  (s.on = true → s.ram.watermeterConfig.newOta = 0 → Marked s.nvm.flash) ∧
    (RingItem s.nvm → ∀ b : Bank, mcuBootAddrGet s.nvm.flash = b.base →
      ∀ c, ¬ Chain Config.top (ringRead s.nvm.flash b) 831 c)

def SparedAt (supply : Supply) (s : PoweredDevice) : OtaEvent → Option (Nat × Nat) → Prop
  | .reboot, none => s.StartSpared
  | .reboot, some (k, j) => s.StartSpared ∧
    (UpdateItem s.nvm → RestoreSpared s.nvm k j) ∧ (¬ UpdateItem s.nvm → InitSpared s.nvm k j)
  | .save, none => s.ram.watermeterConfig.newOta = 0 → SaveSpared s.nvm.flash s.ram
  | .save, some (k, j) => s.ram.watermeterConfig.newOta = 0 → SaveCutSpared s.nvm.flash s.ram k j
  | .start, some _ => s.ram.watermeterConfig.newOta = 0 → Marked s.nvm.flash
  | .abort, some (k, j) => RestoreSpared s.nvm k j
  | .success, some (k, j) => RestoreSpared (s.switched supply) k j
  | _, _ => True

/-- The supply is good, and the step is spared at the point where it is cut short. -/
def Spared (s : PoweredDevice) (e : Cut) : Prop :=
  s.takes e.2.1 = true → Powered e.1 ∧ s.SparedAt e.1 e.2.1 (s.cutCall e.1 e.2.1 e.2.2)

end PoweredDevice

end Watermeter
