import Watermeter.Counter

/-! `app_leak.c`: the two leak detectors and what they tell the network. The On/Off commands of the clear
branch are compiled for a debug build only and are not here. -/

namespace Watermeter

def watermeterEndpoint4 : BitVec 8 := 0x04#8

def watermeterEndpoint5 : BitVec 8 := 0x05#8

def haProfileId : BitVec 16 := 0x0104#16

def zoneStateEnrolled : BitVec 8 := 0x01#8

def zoneStatusBitAlarm1 : BitVec 16 := 0x0001#16

def zoneStatusBitRestoreNotify : BitVec 16 := 0x0020#16

def zclZoneIdInvalid : BitVec 8 := 0xFF#8

def zclSwitchActionOnOff : BitVec 8 := 0x00#8

def zclSwitchActionOffOn : BitVec 8 := 0x01#8

def zclSwitchActionToggle : BitVec 8 := 0x02#8

def zclCmdOnoffOff : BitVec 8 := 0x00#8

def zclCmdOnoffOn : BitVec 8 := 0x01#8

def zclCmdOnoffToggle : BitVec 8 := 0x02#8

inductive DstAddr
  | epNotPresent
  | short (shortAddr : BitVec 16)
  | long (extAddr : BitVec 64)
  deriving DecidableEq, Repr

/-- `epInfo_t`, as far as the module fills it. -/
structure EpInfo where
  dstEp : BitVec 8
  profileId : BitVec 16
  dstAddr : DstAddr
  deriving DecidableEq, Repr

/-- `zoneStatusChangeNoti_t`. -/
structure StatusChangeNoti where
  zoneStatus : BitVec 16
  extStatus : BitVec 8
  zoneId : BitVec 8
  delay : BitVec 16
  deriving DecidableEq, Repr

/-- What the module asks of the stack, in order. -/
inductive LeakCall
  | onOff (endpoint command : BitVec 8) (dstEpInfo : EpInfo)
  | setZoneStatus (zoneStatus : BitVec 16)
  | statusChangeNotification (endpoint : BitVec 8) (dstEpInfo : EpInfo) (noti : StatusChangeNoti)
  deriving DecidableEq, Repr

/-- The attributes of the IAS zone, and the switch actions of the endpoints 4 and 5. -/
structure LeakAttrs where
  zoneState : BitVec 8
  zoneStatus : BitVec 16
  iasCieAddr : BitVec 64
  zoneId : BitVec 8
  ep4SwitchActions : BitVec 8
  ep5SwitchActions : BitVec 8
  deriving DecidableEq, Repr

structure Leak where
  waterleakDebounce1 : BitVec 8
  waterleakDebounce2 : BitVec 8
  attrs : LeakAttrs
  deriving DecidableEq, Repr

/-- What a pass of the handler reads: the two pins, and `zb_isDeviceJoinedNwk`. -/
structure LeakInput where
  wleak1Gpio : Bool
  wleak2Gpio : Bool
  joined : Bool
  deriving DecidableEq, Repr

def cmdOnOff (endpoint command : BitVec 8) : List LeakCall :=
  if command = zclCmdOnoffOff ∨ command = zclCmdOnoffOn ∨ command = zclCmdOnoffToggle then
    [.onOff endpoint command ⟨0#8, haProfileId, .epNotPresent⟩]
  else []

def fillIASAddress (attrs : LeakAttrs) : EpInfo :=
  { dstEp := watermeterEndpoint4
    profileId := haProfileId
    dstAddr := if attrs.zoneState &&& zoneStateEnrolled ≠ 0#8 then .long attrs.iasCieAddr else .short 0x0000#16 }

/-- The command a detector sends by the switch action of the endpoint. -/
def leakCommand (endpoint switchActions : BitVec 8) : List LeakCall :=
  if switchActions = zclSwitchActionOnOff then cmdOnOff endpoint zclCmdOnoffOff
  else if switchActions = zclSwitchActionOffOn then cmdOnOff endpoint zclCmdOnoffOn
  else if switchActions = zclSwitchActionToggle then cmdOnOff endpoint zclCmdOnoffToggle
  else []

/-- The zone status is set and sent. -/
def changeStatus (attrs : LeakAttrs) (zoneStatus : BitVec 16) : LeakAttrs × List LeakCall :=
  ({ attrs with zoneStatus := zoneStatus },
    [.setZoneStatus zoneStatus,
      .statusChangeNotification watermeterEndpoint4 (fillIASAddress attrs) ⟨zoneStatus, 0#8, attrs.zoneId, 0#16⟩])

/-- The branch of a detector that becomes wet. -/
def leakDetected (joined : Bool) (attrs : LeakAttrs) : LeakAttrs × List LeakCall :=
  if joined then
    let (attrs', calls) := changeStatus attrs (attrs.zoneStatus ||| zoneStatusBitAlarm1)
    (attrs', leakCommand watermeterEndpoint4 attrs.ep4SwitchActions ++
      leakCommand watermeterEndpoint5 attrs.ep5SwitchActions ++ calls)
  else (attrs, [])

/-- The branch of a detector that becomes dry. -/
def leakCleared (joined : Bool) (attrs : LeakAttrs) : LeakAttrs × List LeakCall :=
  if joined then changeStatus attrs (attrs.zoneStatus &&& ~~~zoneStatusBitAlarm1) else (attrs, [])

/-- One detector: its debounce value, the attributes and the calls. -/
def leakChannel (gpio joined : Bool) (debounce : BitVec 8) (attrs : LeakAttrs) : BitVec 8 × LeakAttrs × List LeakCall :=
  if !gpio then
    if debounce ≠ debounceCounter then
      if debounce + 1 = debounceCounter then (debounce + 1, leakDetected joined attrs)
      else (debounce + 1, attrs, [])
    else (debounce, attrs, [])
  else if debounce ≠ 1#8 then
    if debounce - 1 = 1#8 then (debounce - 1, leakCleared joined attrs)
    else (debounce - 1, attrs, [])
  else (debounce, attrs, [])

/-- `waterleak_handler`: the first detector, then the second on the attributes the first leaves. -/
def waterleakHandler (input : LeakInput) (s : Leak) : Leak × List LeakCall :=
  match leakChannel input.wleak1Gpio input.joined s.waterleakDebounce1 s.attrs with
  | (debounce1, attrs1, calls1) =>
    match leakChannel input.wleak2Gpio input.joined s.waterleakDebounce2 attrs1 with
    | (debounce2, attrs2, calls2) => (⟨debounce1, debounce2, attrs2⟩, calls1 ++ calls2)

/-- The variables at power-up, with the switch actions restored from NV. -/
def leakStart (ep4SwitchActions ep5SwitchActions : BitVec 8) : Leak :=
  ⟨1#8, 1#8, ⟨0#8, zoneStatusBitRestoreNotify, 0#64, zclZoneIdInvalid, ep4SwitchActions, ep5SwitchActions⟩⟩

/-! ### One detector as a debounce counter -/

variable {debounce : BitVec 8}

/-- What a detector does in a pass. -/
theorem leakChannel_eq (h : DebounceInRange debounce) (gpio joined : Bool) (attrs : LeakAttrs) :
    (leakChannel gpio joined debounce attrs).1.toNat = Debounce.poll 32 (!gpio) debounce.toNat ∧
      (leakChannel gpio joined debounce attrs).2 =
        if Debounce.Reaches 32 (!gpio) debounce.toNat then leakDetected joined attrs
        else if Debounce.Clears (!gpio) debounce.toNat then leakCleared joined attrs
        else (attrs, []) := by
  unfold leakChannel Debounce.poll Debounce.Reaches Debounce.Clears
  cases gpio
  · simp only [Bool.not_false, if_true, ne_eq, DebounceInRange.eq_top, h.up_eq_top, true_and, Bool.true_eq_false,
      false_and, if_false]
    by_cases hat : debounce.toNat = 32
    · simp [hat]
    · simp only [hat, not_false_eq_true, if_true, if_false]
      split <;> exact ⟨h.toNat_up, rfl⟩
  · simp only [Bool.not_true, Bool.false_eq_true, if_false, ne_eq, DebounceInRange.eq_one, h.down_eq_one, false_and,
      true_and]
    by_cases hat : debounce.toNat = 1
    · simp [hat]
    · simp only [hat, not_false_eq_true, if_true, if_false]
      split <;> exact ⟨h.toNat_down, rfl⟩

theorem leakChannel_inRange (h : DebounceInRange debounce) (gpio joined : Bool) (attrs : LeakAttrs) :
    DebounceInRange (leakChannel gpio joined debounce attrs).1 := by
  unfold DebounceInRange
  rw [(leakChannel_eq h gpio joined attrs).1]
  exact Debounce.poll_range h

end Watermeter
