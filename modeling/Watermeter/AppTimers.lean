import Watermeter.Button
import Watermeter.OtaExit
import Watermeter.Reporting
import Watermeter.TimerPool

/-! The application and its timers: the button, the LED, the poll rate, the identify time, the network callbacks and
the reporting, over one pool of timer events. The calls of the SDK that a callback makes do not call back before they
return. -/

namespace Watermeter

open NorFlash Transition TimerPool

/-- The timer handles the application keeps. -/
inductive Handle
  | timerPollRateEvt
  | timerForcedReportEvt
  | timerStopReportEvt
  | timerNoJoinedEvt
  | timerLedEvt
  | identifyTimerEvt
  | appRejoinBackoffTimerEvt
  | timerReportMinEvt (i : Slot)
  | timerReportMaxEvt (i : Slot)
  deriving DecidableEq, Repr

/-- Timer events without one of these handles: those the application never cancels, and those of the stack. -/
inductive Task
  | batteryCb
  | delayedFullResetCb
  | delayedMcuResetCb
  | delayedFactoryResetCb
  | appBdbNetworkSteerStart
  | stack
  deriving DecidableEq, Repr

abbrev timerEventNum : Nat := 24

/-- The LED, and the variables of `app_ctx_t` for its blinking. -/
structure Light where
  led : Bool
  oriSta : Bool
  sta : Bool
  times : BitVec 8
  ledOnTime : BitVec 16
  ledOffTime : BitVec 16
  deriving DecidableEq, Repr

/-- The application on the device. The timers of the reporting are in the pool: the fields of `reporting` for them are
not used. `downloading` is no variable of the code: `OTA_EVT_START` has been handled with success since the start of
the MCU, and `OTA_EVT_COMPLETE` has not been handled after it. -/
structure Node where
  app : App
  button : Button
  light : Light
  identifyTime : BitVec 16
  pollRate : BitVec 32
  factoryNew : Bool
  reporting : Reporting
  timers : Timers timerEventNum Handle Task
  downloading : Bool

/-- Every entry in use names a registered attribute. -/
def Reporting.Registered (r : Reporting) : Prop := ∀ i, (r.reportCfgInfo i).used = true →
  (r.zclFindAttribute (r.reportCfgInfo i).endPoint (r.reportCfgInfo i).clusterID (r.reportCfgInfo i).attrID).isSome = true

instance (r : Reporting) : Decidable r.Registered := inferInstanceAs (Decidable (∀ _, _))

/-- What a start of the MCU finds in the SDK: the time, the poll rate, whether the device is factory new, and the
reporting table. -/
structure Boot where
  clockTime : BitVec 32
  pollRate : BitVec 32
  factoryNew : Bool
  reporting : Reporting
  registered : reporting.Registered

/-- What the timer list meets when it comes to an event: whether the stack is busy, whether the deep sleep is entered,
what a task of the stack returns, and the start of the MCU if it comes to one. -/
structure Firing where
  stackBusy : Bool
  sleeps : Bool
  returned : Int
  supply : Supply
  up : PowerUp
  boot : Boot

/-- The status of a commissioning, as far as the application tells them apart. -/
inductive BdbCommissionSta
  | success
  | noNetwork
  | tclkExFailure
  | targetFailure
  | parentLost
  | rejoinFailure
  | other
  deriving DecidableEq, Repr

namespace Node

def longPoll : BitVec 32 := 300000#32

def newOta (n : Node) : Bool := n.app.ram.watermeterConfig.newOta ≠ 0

def schedule (h : Handle) (t : BitVec 32) (n : Node) : Node := { n with timers := n.timers.schedule h t }

def start (h : Handle) (t : BitVec 32) (n : Node) : Node := { n with timers := n.timers.start h t }

def stop (h : Handle) (n : Node) : Node := { n with timers := n.timers.stop h }

def restart (h : Handle) (t : BitVec 32) (n : Node) : Node := { n with timers := n.timers.restart h t }

def forget (h : Handle) (n : Node) : Node := { n with timers := n.timers.forget h }

def post (task : Task) (t : BitVec 32) (n : Node) : Node := { n with timers := (n.timers.post (.inr task) t).1 }

def zbSetPollRate (rate : BitVec 32) (n : Node) : Node := { n with pollRate := rate }

/-! ### `app_led.c` -/

def lightBlinkStart (times : BitVec 8) (ledOnTime ledOffTime : BitVec 16) (n : Node) : Node :=
  let light := { n.light with times := times }
  if (n.timers.handle .timerLedEvt).isNone then
    let lit := !light.oriSta
    let interval := if light.oriSta then ledOffTime else ledOnTime
    { n with
      light := { light with led := lit, sta := lit, ledOnTime := ledOnTime, ledOffTime := ledOffTime }
      timers := n.timers.schedule .timerLedEvt (interval.setWidth 32) }
  else { n with light := light }

def lightBlinkStop (n : Node) : Node :=
  if (n.timers.handle .timerLedEvt).isSome then
    { n with
      timers := n.timers.cancel .timerLedEvt
      light := { n.light with times := 0, led := n.light.oriSta } }
  else n

/-- The second half of `zclLightTimerCb`. -/
def lightToggle (n : Node) : Int × Node :=
  let sta := !n.light.sta
  let interval := if sta then n.light.ledOnTime else n.light.ledOffTime
  (interval.toNat, { n with light := { n.light with sta := sta, led := sta } })

def zclLightTimerCb (n : Node) : Int × Node :=
  if n.light.sta = n.light.oriSta then
    let n := { n with light := { n.light with times := n.light.times - 1 } }
    if n.light.times ≤ 0 then (-1, n.forget .timerLedEvt) else n.lightToggle
  else n.lightToggle

/-! ### `app_utility.c`, `app_button.c` and `app_counter.c` -/

def pollRateAppCb (n : Node) : Int × Node :=
  if n.pollRate = longPoll then (30 * 1000, n.zbSetPollRate shortPoll)
  else (longPoll.toNat, n.zbSetPollRate longPoll)

/-- What `button_handler` does for a gesture. -/
def act : Gesture → Node → Node
  | .fullReset, n => (n.lightBlinkStart 3 30 250).post .delayedFullResetCb (1 * 1000)
  | .mcuReset, n => (n.lightBlinkStart 3 30 250).post .delayedMcuResetCb (1 * 1000)
  | .shortPress, n =>
    let n := (n.lightBlinkStart 1 30 30).stop .timerPollRateEvt
    let n := if !n.newOta then (n.zbSetPollRate shortPoll).schedule .timerPollRateEvt (120 * 1000) else n
    n.start .timerForcedReportEvt (5 * 1000)
  | .factoryReset, n => (n.lightBlinkStart 3 30 250).post .delayedFactoryResetCb (1 * 1000)

def buttonHandler (gpio : Bool) (clockTime : BitVec 32) (n : Node) : Node :=
  match n.button.buttonHandler gpio clockTime with
  | (button, none) => { n with button := button }
  | (button, some gesture) => { n with button := button }.act gesture

/-- Whether a pass of `counters_handler` takes a pulse and saves. -/
def saves (pins : Pins) (n : Node) : Bool := (Watermeter.countersHandler pins n.app.meter).2.2

def countersHandler (supply : Supply) (pins : Pins) (n : Node) : Node :=
  let counted := { n with app := n.app.step (supply, .countersHandler pins) }
  if n.saves pins then (counted.zbSetPollRate shortPoll).restart .timerPollRateEvt (30 * 1000) else counted

def lightCall (n : Node) : LightCall → Node
  | .lightBlinkStop => n.lightBlinkStop
  | .lightBlinkStart times ledOnTime ledOffTime => n.lightBlinkStart times ledOnTime ledOffTime

/-- The LED in `app_task`, every five seconds. -/
def appTaskLight (n : Node) : Node := (appTaskLightCalls n.reporting.joined n.app.ram).foldl lightCall n

theorem appTaskLight_eq (n : Node) : n.appTaskLight =
    if n.reporting.joined then
      let (times, ledOnTime, ledOffTime) := appTaskBlink n.app.ram
      n.lightBlinkStop.lightBlinkStart times ledOnTime ledOffTime
    else n := by
  unfold appTaskLight appTaskLightCalls
  split_ifs <;> rfl

/-! ### `zb_appCb.c` and `app_pm.c` -/

def bdbInitStatusSuccess : BitVec 8 := 0x00#8

/-- `jitter` is the random delay the function draws. -/
def zbBdbInitCb (status : BitVec 8) (joinedNetwork : Bool) (jitter : BitVec 16) (n : Node) : Node :=
  if status = bdbInitStatusSuccess then
    if joinedNetwork then
      ((n.zbSetPollRate shortPoll).restart .timerPollRateEvt (30 * 1000)).restart .timerStopReportEvt (15 * 1000)
    else n.post .appBdbNetworkSteerStart (jitter.setWidth 32)
  else if joinedNetwork then n.start .appRejoinBackoffTimerEvt (60 * 1000)
  else n

def zbBdbCommissioningCb (status : BdbCommissionSta) (jitter : BitVec 16) (n : Node) : Node :=
  match status with
  | .success =>
    let n := ((n.lightBlinkStart 2 200 200).zbSetPollRate shortPoll).restart .timerPollRateEvt (30 * 1000)
    let n := (n.stop .timerNoJoinedEvt).restart .timerStopReportEvt (15 * 1000)
    n.stop .appRejoinBackoffTimerEvt
  | .noNetwork | .tclkExFailure | .targetFailure =>
    let n := n.lightBlinkStop.lightBlinkStart 3 30 250
    (n.post .appBdbNetworkSteerStart (jitter.setWidth 32)).start .timerNoJoinedEvt (1800 * 1000)
  | .rejoinFailure =>
    let n := n.lightBlinkStop.lightBlinkStart 3 30 250
    (n.start .appRejoinBackoffTimerEvt (60 * 1000)).start .timerNoJoinedEvt (1800 * 1000)
  | .parentLost | .other => n

/-- `app_leaveCnfHandler`; 0 is `SUCCESS`. -/
def appLeaveCnfHandler (status : BitVec 8) (n : Node) : Node :=
  if status = 0 then n.stop .appRejoinBackoffTimerEvt else n

def appRejoinBacckoff (n : Node) : Int × Node :=
  if n.factoryNew then (-1, n.forget .appRejoinBackoffTimerEvt) else (0, n)

/-- `no_joinedCb`, when the stack is busy or the deep sleep is not entered; the MCU starts again after the sleep. -/
def noJoinedCb (busy : Bool) (n : Node) : Int × Node :=
  if !n.reporting.joined && busy then (60 * 1000, n) else (-1, n.forget .timerNoJoinedEvt)

/-- What a call of `app_otaProcessMsgHandler` does beyond the store. The download is on from the save of the flag until
the client is reset or queries anew. -/
def otaCall (n : Node) : OtaCall → Node
  | .zbSetPollRate rate => n.zbSetPollRate rate
  | .cancelPollRateEvt => n.stop .timerPollRateEvt
  | .schedulePollRateEvt ms => n.schedule .timerPollRateEvt ms
  | .writeConfig => { n with downloading := true }
  | .otaMcuReboot | .otaQueryStart _ => { n with downloading := false }
  | .appOtaAbort | .initConfig | .setRegDeepSleep => n

def appOtaProcessMsgHandler (adcData : Nat) (evt : OtaMsg) (status : BitVec 8) (n : Node) : Node :=
  (appOtaCalls adcData evt status n.app.ram.watermeterConfig.newOta).foldl otaCall n

/-- `OTA_EVT_COMPLETE`. -/
def otaComplete (n : Node) : Node :=
  { (n.zbSetPollRate shortPoll).restart .timerPollRateEvt (120 * 1000) with downloading := false }

/-- `OTA_EVT_START` with success. -/
def otaStart (n : Node) : Node :=
  { (n.stop .timerPollRateEvt).zbSetPollRate queuePollRate with downloading := true }

/-- Whatever the status is and the flag was, the poll rate and its timer are left alike. -/
theorem foldl_completeCalls (status newOta : BitVec 8) (n : Node) :
    (completeCalls status newOta).foldl otaCall n = n.otaComplete := by
  unfold completeCalls
  split_ifs <;> rfl

theorem appOtaProcessMsgHandler_eq (adcData : Nat) (evt : OtaMsg) (status : BitVec 8) (n : Node) :
    n.appOtaProcessMsgHandler adcData evt status =
      match evt with
      | .otaEvtStart =>
        if adcData < (maxVbatMv - 100 - minVbatMv) / 2 + minVbatMv then n.otaComplete
        else if status = zclStaSuccess then n.otaStart
        else n
      | .otaEvtComplete => n.otaComplete := by
  cases evt with
  | otaEvtStart =>
    unfold appOtaProcessMsgHandler appOtaCalls
    dsimp only
    split_ifs
    · exact foldl_completeCalls zclStaAbort _ n
    · rfl
    · rfl
  | otaEvtComplete => exact foldl_completeCalls status _ n

/-! ### `zcl_appCb.c` -/

def appZclIdentifyTimerCb (n : Node) : Int × Node :=
  if n.identifyTime ≤ 0 then (-1, n.forget .identifyTimerEvt)
  else (0, { n with identifyTime := n.identifyTime - 1 })

/-- The number of blinks is a byte. -/
def appZclIdentifyCmdHandler (identifyTime : BitVec 16) (n : Node) : Node :=
  let n := { n with identifyTime := identifyTime }
  if identifyTime = 0 then (n.stop .identifyTimerEvt).lightBlinkStop
  else if (n.timers.handle .identifyTimerEvt).isNone then
    (n.lightBlinkStart (identifyTime.setWidth 8) 500 500).schedule .identifyTimerEvt 1000
  else n

def appZcltriggerCmdHandler (effectId : BitVec 8) (n : Node) : Node :=
  if effectId = 0x00#8 then n.lightBlinkStart 1 500 500
  else if effectId = 0x01#8 then n.lightBlinkStart 15 300 700
  else if effectId = 0x02#8 then n.lightBlinkStart 2 250 250
  else if effectId = 0x0b#8 then n.lightBlinkStart 1 500 7500
  else if effectId = 0xfe#8 then n.lightBlinkStart 1 300 700
  else if effectId = 0xff#8 then n.lightBlinkStop
  else n

/-! ### `app_reporting.c` -/

def withReporting (r : Reporting) (n : Node) : Node := { n with reporting := r }

/-- The handle in the pool. -/
@[simp] def reportHandle : ReportTimer → Handle
  | .min i => .timerReportMinEvt i
  | .max i => .timerReportMaxEvt i

instance : ReportTimers Node where
  reporting n := n.reporting
  withReporting := withReporting
  stopReport n := (n.timers.handle .timerStopReportEvt).isSome
  isNull timer n := (n.timers.handle (reportHandle timer)).isNone
  schedule timer := schedule (reportHandle timer)
  stop timer := stop (reportHandle timer)
  forget timer := forget (reportHandle timer)
  follow _ n := n

@[simp] theorem reportTimers_reporting (n : Node) : ReportTimers.reporting n = n.reporting := rfl

@[simp] theorem reportTimers_withReporting (r : Reporting) (n : Node) :
    ReportTimers.withReporting r n = n.withReporting r := rfl

@[simp] theorem reportTimers_schedule (timer : ReportTimer) (t : BitVec 32) (n : Node) :
    ReportTimers.schedule timer t n = n.schedule (reportHandle timer) t := rfl

@[simp] theorem reportTimers_stop (timer : ReportTimer) (n : Node) :
    ReportTimers.stop timer n = n.stop (reportHandle timer) := rfl

@[simp] theorem reportTimers_forget (timer : ReportTimer) (n : Node) :
    ReportTimers.forget timer n = n.forget (reportHandle timer) := rfl

@[simp] theorem reportTimers_follow (i : Slot) (n : Node) : ReportTimers.follow i n = n := rfl

def appReportMinAttrTimerCb (i : Slot) (n : Node) : Int × Node := ReportTimers.appReportMinAttrTimerCb n i

def appReportMaxAttrTimerCb (i : Slot) (n : Node) : Int × Node := ReportTimers.appReportMaxAttrTimerCb n i

def appReportHandler (n : Node) : Node := ReportTimers.appReportHandler n

def appZclCfgReportCmd (endPoint : BitVec 8) (attrList : List (BitVec 16)) (n : Node) : Node :=
  ReportTimers.appZclCfgReportCmd n endPoint attrList

/-! ### The start, and the timer list -/

/-- The application after `user_init`; 15 minutes is the period of the battery timer. -/
def started (boot : Boot) (app : App) : Node :=
  { app := app
    button := Button.initButton boot.clockTime
    light := ⟨false, false, false, 0, 0, 0⟩
    identifyTime := 0
    pollRate := boot.pollRate
    factoryNew := boot.factoryNew
    reporting := boot.reporting.appReportingInit
    timers := (Timers.empty.post (.inr .batteryCb) (900 * 1000)).1
    downloading := false }

/-- The callback of a handle. The reports `forcedReportCb` sends change no variable. -/
def callback (stackBusy : Bool) : Handle → Node → Int × Node
  | .timerPollRateEvt, n => n.pollRateAppCb
  | .timerForcedReportEvt, n => (-1, n.forget .timerForcedReportEvt)
  | .timerStopReportEvt, n => (-1, n.forget .timerStopReportEvt)
  | .timerNoJoinedEvt, n => n.noJoinedCb stackBusy
  | .timerLedEvt, n => n.zclLightTimerCb
  | .identifyTimerEvt, n => n.appZclIdentifyTimerCb
  | .appRejoinBackoffTimerEvt, n => n.appRejoinBacckoff
  | .timerReportMinEvt i, n => n.appReportMinAttrTimerCb i
  | .timerReportMaxEvt i, n => n.appReportMaxAttrTimerCb i

def taskReturns (returned : Int) : Task → Int
  | .batteryCb => 0
  | .stack => returned
  | .delayedFullResetCb | .delayedMcuResetCb | .delayedFactoryResetCb | .appBdbNetworkSteerStart => -1

/-- `delayedMcuResetCb` and the deep sleep of `no_joinedCb` end in a start of the MCU. -/
def restarts (firing : Firing) (n : Node) : Handle ⊕ Task → Bool
  | .inl .timerNoJoinedEvt => !n.reporting.joined && !firing.stackBusy && firing.sleeps
  | .inr .delayedMcuResetCb => true
  | _ => false

/-- `ev_timer_executeCB` for the event at `s`. -/
def executeCB (s : Fin timerEventNum) (firing : Firing) (n : Node) : Node :=
  match n.timers.event s with
  | none => n
  | some e =>
    if n.restarts firing e.callback then started firing.boot (n.app.step (firing.supply, .userAppInit firing.up))
    else
      let entered := { n with timers := n.timers.enter s }
      match e.callback with
      | .inl h =>
        let r := callback firing.stackBusy h entered
        { r.2 with timers := r.2.timers.leave s r.1 }
      | .inr task => { entered with timers := entered.timers.leave s (taskReturns firing.returned task) }

/-- The stack cancels a timer of its own. -/
def stackCancel (s : Fin timerEventNum) (n : Node) : Node :=
  match n.timers.event s with
  | none => n
  | some e => if e.callback = .inr .stack then { n with timers := n.timers.put s none } else n

end Node

/-- What happens to the application: the events of `App`, with what a start of the MCU finds, the passes of the button,
of the LED and of the reports, the calls of the stack, and the timer list. -/
inductive NodeEvent
  | app (supply : Supply) (e : AppEvent) (boot : Boot)
  | buttonHandler (gpio : Bool) (clockTime : BitVec 32)
  | appTaskLight
  | appReportHandler
  | zbBdbInitCb (status : BitVec 8) (joinedNetwork : Bool) (jitter : BitVec 16)
  | zbBdbCommissioningCb (status : BdbCommissionSta) (jitter : BitVec 16)
  | appLeaveCnfHandler (status : BitVec 8)
  | identifyCmd (identifyTime : BitVec 16)
  | triggerEffect (effectId : BitVec 8)
  | writeIdentifyTime (identifyTime : BitVec 16)
  /-- The stack has changed the reporting table, and hands the command on. It knows the attributes of its entries. -/
  | cfgReport (reportNum : BitVec 8) (reportCfgInfo : Slot → ReportCfgInfo) (endPoint : BitVec 8)
      (attrList : List (BitVec 16))
  | setAttribute (endPoint : BitVec 8) (clusterID attrID : BitVec 16) (data : Nat → Byte)
  | network (joined factoryNew : Bool) (bindingTbl : BitVec 16 → BitVec 8 → Bool)
  | elapse (ticks : Nat)
  | stackPost (period : BitVec 32)
  | stackCancel (s : Fin timerEventNum)
  | executeCB (s : Fin timerEventNum) (firing : Firing)

namespace Node

/-- An event of `App` in which the MCU goes on. -/
def appStep (supply : Supply) (e : AppEvent) (n : Node) : Node :=
  match e with
  | .countersHandler pins => n.countersHandler supply pins
  | .otaProcessMsg adcData evt status _ =>
    { n with app := n.app.step (supply, e) }.appOtaProcessMsgHandler adcData evt status
  | _ => { n with app := n.app.step (supply, e) }

/-- The stack's new table, which names registered attributes only. -/
def stackCfgReport (reportNum : BitVec 8) (reportCfgInfo : Slot → ReportCfgInfo) (endPoint : BitVec 8)
    (attrList : List (BitVec 16)) (n : Node) : Node :=
  let r := { n.reporting with reportNum := reportNum, reportCfgInfo := reportCfgInfo }
  if r.Registered then (n.withReporting r).appZclCfgReportCmd endPoint attrList else n

def step (n : Node) : NodeEvent → Node
  | .app supply e boot =>
    if n.app.resets supply e then started boot (n.app.step (supply, e)) else n.appStep supply e
  | .buttonHandler gpio clockTime => n.buttonHandler gpio clockTime
  | .appTaskLight => n.appTaskLight
  | .appReportHandler => n.appReportHandler
  | .zbBdbInitCb status joinedNetwork jitter => n.zbBdbInitCb status joinedNetwork jitter
  | .zbBdbCommissioningCb status jitter => n.zbBdbCommissioningCb status jitter
  | .appLeaveCnfHandler status => n.appLeaveCnfHandler status
  | .identifyCmd identifyTime => n.appZclIdentifyCmdHandler identifyTime
  | .triggerEffect effectId => n.appZcltriggerCmdHandler effectId
  | .writeIdentifyTime identifyTime => { n with identifyTime := identifyTime }
  | .cfgReport reportNum reportCfgInfo endPoint attrList => n.stackCfgReport reportNum reportCfgInfo endPoint attrList
  | .setAttribute endPoint clusterID attrID data =>
    n.withReporting (n.reporting.setAttribute endPoint clusterID attrID data)
  | .network joined factoryNew bindingTbl =>
    { n with factoryNew := factoryNew }.withReporting { n.reporting with joined := joined, bindingTbl := bindingTbl }
  | .elapse ticks => n.withReporting { n.reporting with now := n.reporting.now + ticks }
  | .stackPost period => n.post .stack period
  | .stackCancel s => n.stackCancel s
  | .executeCB s firing => n.executeCB s firing

end Node

end Watermeter
