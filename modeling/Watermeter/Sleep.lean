import Watermeter.Leak
import Watermeter.Button
import Watermeter.Reporting
import Watermeter.OtaExit
import Watermeter.Dozing

/-! The passes of `app_task` and the sleep between them: `app_pm.c`, and the wake-up pins of `drv_pm.c`. A pass
that finds nothing in motion sets each contact's pin to wake the device at the level it does not have, and
enters the sleep with retention, in which no pass runs until a pin or a timer wakes the device. -/

namespace Watermeter

open NorFlash

def watermeterEndpoint1 : BitVec 8 := 0x01#8

def watermeterEndpoint2 : BitVec 8 := 0x02#8

def zclClusterSsIasZone : BitVec 16 := 0x0500#16

def zclAttridCurrentSummationDeliverd : BitVec 16 := 0x0000#16

def zclAttridZoneStatus : BitVec 16 := 0x0002#16

/-- Microseconds. -/
def timeoutTick5sec : BitVec 32 := 5000000#32

inductive PmWakeupLevel
  | low
  | high
  deriving DecidableEq, Repr

inductive BoardPin
  | hotGpio
  | coldGpio
  | wleak1Gpio
  | wleak2Gpio
  | button
  deriving DecidableEq, Repr

/-- `drv_pm_pinCfg_t`. -/
structure PmPinCfg where
  wakeupPin : BoardPin
  wakeupLevel : PmWakeupLevel
  deriving DecidableEq, Repr

/-- What `drv_gpio_read` gives for each pin. -/
abbrev Levels := BoardPin → Bool

/-- `pin_PmCfg` at power-up. -/
def pinPmCfg : List PmPinCfg :=
  [⟨.hotGpio, .low⟩, ⟨.coldGpio, .low⟩, ⟨.wleak1Gpio, .low⟩, ⟨.wleak2Gpio, .low⟩, ⟨.button, .low⟩]

/-- The two tests of one pin, which find it at one level. -/
def PmPinCfg.levelChange (read : Levels) (cfg : PmPinCfg) : PmPinCfg :=
  let cfg := if cfg.wakeupLevel = .high ∧ read cfg.wakeupPin then { cfg with wakeupLevel := .low } else cfg
  if cfg.wakeupLevel = .low ∧ !read cfg.wakeupPin then { cfg with wakeupLevel := .high } else cfg

/-- `drv_pm_wakeupPinLevelChange`. -/
def drvPmWakeupPinLevelChange (read : Levels) (pinCfg : List PmPinCfg) (pinNum : Nat) : List PmPinCfg :=
  (pinCfg.take pinNum).map (PmPinCfg.levelChange read) ++ pinCfg.drop pinNum

/-- `app_wakeupPinLevelChange`: the pin of the button keeps its level. -/
def appWakeupPinLevelChange (read : Levels) (pinCfg : List PmPinCfg) : List PmPinCfg :=
  drvPmWakeupPinLevelChange read pinCfg 4

/-- A pad that is set up wakes the device when it is at its level. -/
def PmPinCfg.wakes (read : Levels) (cfg : PmPinCfg) : Bool := read cfg.wakeupPin == decide (cfg.wakeupLevel = .high)

/-- The variables of the modules that `app_task` runs. -/
structure Polled where
  meter : Meter
  leak : Leak
  button : Button
  reporting : Reporting

/-- Of these, the ones that the commands, the timers and the stack change as well. -/
structure Shared where
  ram : Ram
  metering : Metering
  leakAttrs : LeakAttrs
  reporting : Reporting

def Polled.shared (s : Polled) : Shared := ⟨s.meter.ram, s.meter.attrs, s.leak.attrs, s.reporting⟩

def Polled.withShared (s : Polled) (v : Shared) : Polled :=
  { s with
    meter := { s.meter with ram := v.ram, attrs := v.metering }
    leak := { s.leak with attrs := v.leakAttrs }
    reporting := v.reporting }

/-- The static variables of `app_task` beside those of the modules. -/
structure AppTask where
  polled : Polled
  lastLight : BitVec 32

/-- What a pass of `app_task` reads, and what the stack decides on the sleep after it. -/
structure PassInput where
  /-- The pins when the handlers sample them. -/
  sampled : Levels
  /-- The pins when the levels of the wake-up are set, later in the pass. -/
  arming : Levels
  /-- The time, in ticks of the system timer. -/
  now : Nat
  /-- What the main loop does before the pass for the timers and for the stack, if one of them has something to do. -/
  work : Option (Shared → Shared)
  /-- `bdb_isIdle`. -/
  bdbIdle : Bool
  /-- `drv_pm_lowPowerEnter` does not return at once: the stack has nothing to do, and no timer is due. -/
  lowPower : Bool

/-- What a pass asks of the store, of the stack and of the LED, in order. -/
inductive PassCall
  | gesture (gesture : Gesture)
  | store (op : Op)
  | shortPoll
  | leak (call : LeakCall)
  | light (call : LightCall)

def PassInput.pins (input : PassInput) : Pins := ⟨input.sampled .hotGpio, input.sampled .coldGpio⟩

/-- `zb_isDeviceJoinedNwk` is the one of the reporting. -/
def PassInput.leakInput (input : PassInput) (joined : Bool) : LeakInput :=
  ⟨input.sampled .wleak1Gpio, input.sampled .wleak2Gpio, joined⟩

/-- The main loop up to the pass. -/
def Polled.worked (input : PassInput) (s : Polled) : Polled :=
  let s := { s with reporting := { s.reporting with now := input.now } }
  match input.work with
  | none => s
  | some work => s.withShared (work s.shared)

namespace Reporting

/-- `zcl_setAttrVal`: the value has as many bytes as its type says. -/
def zclSetAttrVal (s : Reporting) (endPoint : BitVec 8) (clusterID attrID : BitVec 16) (val : Nat → Byte) : Reporting :=
  match s.zclFindAttribute endPoint clusterID attrID with
  | none => s
  | some attr =>
    let len := (zclGetAttrSize attr.type val).toNat
    s.setAttribute endPoint clusterID attrID fun k => if k < len then val k else attr.data k

/-- The attributes that `counters_handler` sets for the pulses it takes. -/
def counted (s : Reporting) (pins : Pins) (m : Meter) : Reporting :=
  let attrs := (countersHandler pins m).1.attrs
  let s :=
    if (m.polled pins).hotCounter.counter ≠ 0 then
      s.zclSetAttrVal watermeterEndpoint1 zclClusterSeMetering zclAttridCurrentSummationDeliverd
        fun k => attrs.hotWaterCounter.extractLsb' (8 * k) 8
    else s
  if (m.polled pins).coldCounter.counter ≠ 0 then
    s.zclSetAttrVal watermeterEndpoint2 zclClusterSeMetering zclAttridCurrentSummationDeliverd
      fun k => attrs.coldWaterCounter.extractLsb' (8 * k) 8
  else s

/-- The attribute that `waterleak_handler` sets. -/
def alarmed (s : Reporting) : LeakCall → Reporting
  | .setZoneStatus zoneStatus =>
    s.zclSetAttrVal watermeterEndpoint4 zclClusterSsIasZone zclAttridZoneStatus
      fun k => zoneStatus.extractLsb' (8 * k) 8
  | _ => s

end Reporting

/-- `button_handler`, `counters_handler` and `waterleak_handler`. -/
def appHandlers (input : PassInput) (s : Polled) : Polled × List PassCall :=
  let (button, gesture) := Button.buttonHandler (input.sampled .button) s.reporting.clockTime s.button
  let (meter, ops, saved) := countersHandler input.pins s.meter
  let (leak, calls) := waterleakHandler (input.leakInput s.reporting.joined) s.leak
  (⟨meter, leak, button, calls.foldl Reporting.alarmed (s.reporting.counted input.pins s.meter)⟩,
    gesture.toList.map .gesture ++ ops.map .store ++ (if saved then [.shortPoll] else []) ++ calls.map .leak)

/-- The light is restarted every five seconds. -/
def appTaskLight (s : AppTask) : AppTask × List PassCall :=
  let r := s.polled.reporting
  if r.clockTimeExceed s.lastLight timeoutTick5sec then
    ({ s with lastLight := r.clockTime }, (appTaskLightCalls r.joined s.polled.meter.ram).map .light)
  else (s, [])

/-- `app_task` up to the sleep, after what the main loop does before it. -/
def appTaskPass (input : PassInput) (s : AppTask) : AppTask × List PassCall :=
  let (polled, calls) := appHandlers input (s.polled.worked input)
  let s := { s with polled := polled }
  if input.bdbIdle then
    let (s, light) := appTaskLight s
    ({ s with polled := { s.polled with reporting := s.polled.reporting.appReportHandler } }, calls ++ light)
  else (s, calls)

/-! The three tests are named for the idle state and true outside it. -/

def buttonIdle (b : Button) : Bool :=
  (b.debounce ≠ 1#8 && b.debounce ≠ Button.debounceButton) || b.pressed || b.counter ≠ 0#6

def countersIdle (s : Meter) : Bool :=
  (s.hotCounter.debounce ≠ 1#8 && s.hotCounter.debounce ≠ debounceCounter) ||
    (s.coldCounter.debounce ≠ 1#8 && s.coldCounter.debounce ≠ debounceCounter)

def waterleakIdle (s : Leak) : Bool :=
  (s.waterleakDebounce1 ≠ 1#8 && s.waterleakDebounce1 ≠ debounceCounter) ||
    (s.waterleakDebounce2 ≠ 1#8 && s.waterleakDebounce2 ≠ debounceCounter)

/-- The end of `app_task`, with `app_lowPowerEnter`: the levels of the wake-up, and whether the device sleeps. -/
def appTaskSleep (input : PassInput) (s : Polled) (pinCfg : List PmPinCfg) : List PmPinCfg × Bool :=
  if input.bdbIdle && (!buttonIdle s.button && !countersIdle s.meter && !waterleakIdle s.leak) then
    (appWakeupPinLevelChange input.arming pinCfg, input.lowPower)
  else (pinCfg, false)

/-- `app_task`, run again and again while the device is awake. -/
def appTask : Dozing.Machine PassInput AppTask PassCall (List PmPinCfg) where
  pass := appTaskPass
  arm input s := appTaskSleep input s.polled
  wakes input pinCfg := input.work.isSome || pinCfg.any (PmPinCfg.wakes input.sampled)

/-- The second input with the pins of the first, and with nothing to do for the timers and the stack. -/
def PassInput.hold (input later : PassInput) : PassInput := { later with sampled := input.sampled, work := none }

/-- The variables of the modules. The time is none of them. -/
def AppTask.view (s : AppTask) : Polled := { s.polled with reporting := { s.polled.reporting with now := 0 } }

/-- The calls but for those of the light. -/
def PassCall.shown : PassCall → Bool
  | .light _ => false
  | _ => true

/-- The debounce values are between their ends, and a button that is not pressed has not come to the upper one. -/
structure Polled.Started (s : Polled) : Prop where
  counter : ∀ ch, (s.meter.counter ch).InRange
  leak1 : DebounceInRange s.leak.waterleakDebounce1
  leak2 : DebounceInRange s.leak.waterleakDebounce2
  button : s.button.InRange
  released : s.button.released = false
  up : s.button.pressed = false → s.button.debounce.toNat ≠ 16

end Watermeter
