import Watermeter.OtaDevice
import Watermeter.ZclWrite

/-! The application on the device: the start of the MCU, the polling of the counters, the writes of settings
and the messages of the OTA client, in any order. What the store and the flash see of it is a run of the
events of `OtaDevice`. -/

namespace Watermeter

open NorFlash Transition

def zclStaSuccess : BitVec 8 := 0x00#8

def zclStaAbort : BitVec 8 := 0x95#8

def maxVbatMv : Nat := 3100

def minVbatMv : Nat := batterySafetyThreshold

/-- The events of the client that `app_otaProcessMsgHandler` handles. -/
inductive OtaMsg
  | otaEvtStart
  | otaEvtComplete
  deriving DecidableEq, Repr

/-- The device with the variables of the counters and the attributes of the meter. -/
structure App extends OtaDevice where
  hotCounter : WaterCounter
  coldCounter : WaterCounter
  attrs : Metering

/-- What a start of the MCU finds: the register that outlives the reset, and the pins. -/
structure PowerUp where
  regDeepSleep : BitVec 8
  pins : Pins

inductive AppEvent
  /-- The MCU starts. -/
  | userAppInit (up : PowerUp)
  /-- A pass of `counters_handler`. -/
  | countersHandler (pins : Pins)
  /-- A write command to an endpoint. -/
  | zclWriteReqCmd (endPoint : BitVec 8) (clusterId : BitVec 16) (attrList : List WriteRec)
  /-- The client accepts an image of this size and erases its sectors. -/
  | imageAccepted (imageSize : Nat)
  /-- The client writes a block of the image. -/
  | imageBlock (offset : Nat) (data : List Byte)
  /-- The client calls `app_otaProcessMsgHandler`; the reading of the supply it takes, and the start after it
  if it resets the MCU. -/
  | otaProcessMsg (adcData : Nat) (evt : OtaMsg) (status : BitVec 8) (up : PowerUp)

/-- The attributes after `user_app_init`. -/
def startAttrs (c : Config) : Metering :=
  { hotWaterCounter := c.counterHotWater.setWidth 48
    coldWaterCounter := c.counterColdWater.setWidth 48
    hotWaterPreset := 0
    coldWaterPreset := 0
    waterStepPreset := litersPerPulseDefault.setWidth 16 }

def otaPeriodicQueryInterval : BitVec 16 := 300#16

/-- `g_watermeterCtx.short_poll`. -/
def shortPoll : BitVec 32 := 3000#32

def queuePollRate : BitVec 32 := 250#32

/-- What `app_otaProcessMsgHandler` asks of the SDK, of the store and of the timer of the poll rate. `write_config` is
called with `new_ota` set. -/
inductive OtaCall
  | appOtaAbort
  | writeConfig
  | initConfig
  | setRegDeepSleep
  | otaMcuReboot
  | otaQueryStart (seconds : BitVec 16)
  | zbSetPollRate (rate : BitVec 32)
  | cancelPollRateEvt
  | schedulePollRateEvt (ms : BitVec 32)
  deriving DecidableEq, Repr

/-- The branch of `OTA_EVT_COMPLETE`. -/
def completeCalls (status : BitVec 8) (newOta : BitVec 8) : List OtaCall :=
  [.zbSetPollRate shortPoll, .cancelPollRateEvt, .schedulePollRateEvt (120 * 1000)] ++
    if status = zclStaSuccess then [.setRegDeepSleep, .otaMcuReboot]
    else .appOtaAbort :: (if newOta ≠ 0 then [.initConfig] else []) ++ [.otaQueryStart otaPeriodicQueryInterval]

/-- The calls of `app_otaProcessMsgHandler`, in order. At a low supply `ota_upgradeComplete` comes back with
`ZCL_STA_ABORT`. -/
def appOtaCalls (adcData : Nat) (evt : OtaMsg) (status newOta : BitVec 8) : List OtaCall :=
  match evt with
  | .otaEvtStart =>
    if adcData < (maxVbatMv - 100 - minVbatMv) / 2 + minVbatMv then .appOtaAbort :: completeCalls zclStaAbort newOta
    else if status = zclStaSuccess then [.writeConfig, .cancelPollRateEvt, .zbSetPollRate queuePollRate]
    else []
  | .otaEvtComplete => completeCalls status newOta

/-- What a call does to the store. -/
def OtaDevice.otaCall (supply : Supply) (s : OtaDevice) : OtaCall → OtaDevice
  | .writeConfig => s.step (supply, .start)
  | .initConfig => s.step (supply, .abort)
  | .otaMcuReboot => s.step (supply, .success)
  | _ => s

def appOtaProcessMsgHandler (supply : Supply) (adcData : Nat) (evt : OtaMsg) (status : BitVec 8) (s : OtaDevice) :
    OtaDevice :=
  (appOtaCalls adcData evt status s.ram.watermeterConfig.newOta).foldl (OtaDevice.otaCall supply) s

/-- The end of an update makes one step of the store, or none that would change it. -/
theorem foldl_completeCalls (supply : Supply) (status : BitVec 8) (s : OtaDevice) :
    (completeCalls status s.ram.watermeterConfig.newOta).foldl (OtaDevice.otaCall supply) s =
      if status = zclStaSuccess then s.step (supply, .success) else s.step (supply, .abort) := by
  unfold completeCalls
  split_ifs with hstatus hota
  · rfl
  · rfl
  · have hops : s.storeOps supply .abort = (s.nvm, s.ram, []) := if_neg hota
    exact (OtaDevice.step_eq hops).symm

theorem appOtaProcessMsgHandler_eq (supply : Supply) (adcData : Nat) (evt : OtaMsg) (status : BitVec 8) (s : OtaDevice) :
    appOtaProcessMsgHandler supply adcData evt status s =
      match evt with
      | .otaEvtStart =>
        if adcData < (maxVbatMv - 100 - minVbatMv) / 2 + minVbatMv then s.step (supply, .abort)
        else if status = zclStaSuccess then s.step (supply, .start)
        else s
      | .otaEvtComplete => if status = zclStaSuccess then s.step (supply, .success) else s.step (supply, .abort) := by
  cases evt with
  | otaEvtStart =>
    unfold appOtaProcessMsgHandler appOtaCalls
    dsimp only
    split_ifs with hlow hstatus
    · exact (foldl_completeCalls supply zclStaAbort s).trans (if_neg (by decide))
    · rfl
    · rfl
  | otaEvtComplete => exact foldl_completeCalls supply status s

namespace App

def meter (s : App) : Meter := ⟨s.hotCounter, s.coldCounter, s.ram, s.attrs⟩

/-- The device once a function has left these variables and made these calls of the store. -/
def withMeter (supply : Supply) (s : App) (m : Meter) (ops : List Op) : App :=
  { ram := m.ram
    nvm := performAll supply s.nvm ops
    mcuBootAddr := s.mcuBootAddr
    passed := if ops = [] then s.passed else m.ram.watermeterConfig.totals
    hotCounter := m.hotCounter
    coldCounter := m.coldCounter
    attrs := m.attrs }

/-- The rest of `user_app_init`, after the store: `init_counters`, and the totals as attributes. -/
def started (up : PowerUp) (s : App) : App :=
  let m := initCounters up.regDeepSleep up.pins s.meter
  { s with hotCounter := m.hotCounter, coldCounter := m.coldCounter, attrs := startAttrs s.ram.watermeterConfig }

/-- Whether the MCU starts again in the step. -/
def resets (supply : Supply) (s : App) : AppEvent → Bool
  | .userAppInit _ => true
  | .otaProcessMsg _ .otaEvtComplete status _ => status == zclStaSuccess && s.toOtaDevice.resets supply .success
  | _ => false

/-- The step but for what `user_app_init` does after the store. -/
def handled (supply : Supply) (s : App) : AppEvent → App
  | .userAppInit _ => { s with toOtaDevice := s.toOtaDevice.step (supply, .reboot) }
  | .countersHandler pins =>
    match Watermeter.countersHandler pins s.meter with
    | (m, ops, _) => s.withMeter supply m ops
  | .zclWriteReqCmd endPoint clusterId attrList =>
    s.withMeter supply (appZclWriteReqCmd endPoint clusterId attrList s.meter).1 []
  | .imageAccepted imageSize => { s with toOtaDevice := s.toOtaDevice.step (supply, .accept imageSize) }
  | .imageBlock offset data => { s with toOtaDevice := s.toOtaDevice.step (supply, .block offset data) }
  | .otaProcessMsg adcData evt status _ =>
    { s with toOtaDevice := appOtaProcessMsgHandler supply adcData evt status s.toOtaDevice }

def step (s : App) (e : Supply × AppEvent) : App :=
  if s.resets e.1 e.2 then
    match e.2 with
    | .userAppInit up => (s.handled e.1 e.2).started up
    | .otaProcessMsg _ _ _ up => (s.handled e.1 e.2).started up
    | _ => s.handled e.1 e.2
  else s.handled e.1 e.2

/-! ### What the store sees -/

/-- The events of the store in a step of the application. -/
def trace (s : App) : AppEvent → List OtaEvent
  | .userAppInit _ => [.reboot]
  | .countersHandler pins =>
    match Watermeter.countersHandler pins s.meter with
    | (m, _, true) => [.set m.ram.watermeterConfig.totals, .save]
    | (_, _, false) => []
  | .zclWriteReqCmd endPoint clusterId attrList =>
    [.set (appZclWriteReqCmd endPoint clusterId attrList s.meter).1.ram.watermeterConfig.totals]
  | .imageAccepted imageSize => [.accept imageSize]
  | .imageBlock offset data => [.block offset data]
  | .otaProcessMsg adcData .otaEvtStart status _ =>
    if adcData < (maxVbatMv - 100 - minVbatMv) / 2 + minVbatMv then [.abort]
    else if status = zclStaSuccess then [.start]
    else []
  | .otaProcessMsg _ .otaEvtComplete status _ => if status = zclStaSuccess then [.success] else [.abort]

end App

/-- A pass has pulses to add. -/
def App.Pulse (s : App) (pins : Pins) : Prop :=
  (s.meter.polled pins).hotCounter.counter ≠ 0 ∨ (s.meter.polled pins).coldCounter.counter ≠ 0

/-- The variables of the store differ in the totals only. -/
def OnlyTotals (r r' : Ram) : Prop := ∃ t, r' = { r with watermeterConfig := r.watermeterConfig.setTotals t }

theorem OnlyTotals.refl (r : Ram) : OnlyTotals r r := ⟨r.watermeterConfig.totals, rfl⟩

theorem OnlyTotals.trans {r r' r'' : Ram} (h : OnlyTotals r r') (h' : OnlyTotals r' r'') : OnlyTotals r r'' := by
  obtain ⟨t, rfl⟩ := h
  obtain ⟨t', rfl⟩ := h'
  exact ⟨t', rfl⟩

theorem OnlyTotals.eq {r r' : Ram} (h : OnlyTotals r r') :
    r' = { r with watermeterConfig := r.watermeterConfig.setTotals r'.watermeterConfig.totals } := by
  obtain ⟨t, rfl⟩ := h
  rfl

theorem takeHot_onlyTotals (m : Meter) : OnlyTotals m.ram m.takeHot.ram := by
  unfold Meter.takeHot
  split
  · exact ⟨{ m.ram.watermeterConfig.totals with counterHotWater := _ }, rfl⟩
  · exact .refl m.ram

theorem takeCold_onlyTotals (m : Meter) : OnlyTotals m.ram m.takeCold.ram := by
  unfold Meter.takeCold
  split
  · exact ⟨{ m.ram.watermeterConfig.totals with counterColdWater := _ }, rfl⟩
  · exact .refl m.ram

theorem writeMeterAttr_onlyTotals (first : WriteRec) (m : Meter) (attr : WriteRec) :
    OnlyTotals m.ram (writeMeterAttr first m attr).ram := by
  unfold writeMeterAttr
  split
  · exact ⟨{ m.ram.watermeterConfig.totals with counterHotWater := _ }, rfl⟩
  · split
    · exact ⟨{ m.ram.watermeterConfig.totals with counterColdWater := _ }, rfl⟩
    · split
      · exact ⟨{ m.ram.watermeterConfig.totals with litersPerPulse := _ }, rfl⟩
      · exact .refl m.ram

theorem foldl_onlyTotals (first : WriteRec) (attrList : List WriteRec) (m : Meter) :
    OnlyTotals m.ram (attrList.foldl (writeMeterAttr first) m).ram := by
  induction attrList generalizing m with
  | nil => exact .refl m.ram
  | cons attr attrList ih => exact (writeMeterAttr_onlyTotals first m attr).trans (ih _)

theorem appZclWriteReqCmd_onlyTotals (endPoint : BitVec 8) (clusterId : BitVec 16) (attrList : List WriteRec)
    (m : Meter) : OnlyTotals m.ram (appZclWriteReqCmd endPoint clusterId attrList m).1.ram := by
  unfold appZclWriteReqCmd
  split
  · cases attrList with
    | nil => exact .refl m.ram
    | cons first attrList => exact foldl_onlyTotals first (first :: attrList) m
  · exact .refl m.ram

theorem take_nothing {m : Meter} (hhot : m.hotCounter.counter = 0) (hcold : m.coldCounter.counter = 0) :
    m.takeHot.takeCold.ram = m.ram := by
  have htake : m.takeHot = m := if_neg (not_not.mpr hhot)
  rw [htake, Meter.takeCold, if_neg (not_not.mpr hcold)]

/-- A pass sets the totals and saves, or leaves the store alone. -/
theorem handled_counters (supply : Supply) (s : App) (pins : Pins) :
    (s.handled supply (.countersHandler pins)).toOtaDevice =
      run OtaDevice.step s.toOtaDevice ((s.trace (.countersHandler pins)).map (Prod.mk supply)) := by
  have hpolled : (s.meter.polled pins).ram = s.ram := rfl
  simp only [App.handled, App.trace, countersHandler]
  split
  · have htaken := ((takeHot_onlyTotals (s.meter.polled pins)).trans (takeCold_onlyTotals _)).eq
    rw [hpolled] at htaken
    simp only [writeConfig_totals, List.map_cons, List.map_nil, run_cons, run_nil]
    rw [App.withMeter]
    simp only
    rw [htaken]
    rfl
  · next hnone =>
    obtain ⟨hhot, hcold⟩ := not_or.mp hnone
    have hram := take_nothing (not_not.mp hhot) (not_not.mp hcold)
    rw [hpolled] at hram
    rw [App.withMeter]
    simp only [hram]
    rfl

theorem App.trace_pulse {s : App} {pins : Pins} (h : s.Pulse pins) :
    s.trace (.countersHandler pins) =
      [.set (s.meter.polled pins).takeHot.takeCold.ram.watermeterConfig.totals, .save] := by
  unfold App.Pulse at h
  simp only [App.trace, countersHandler, if_pos h, writeConfig_totals]

theorem App.trace_no_pulse {s : App} {pins : Pins} (h : ¬ s.Pulse pins) : s.trace (.countersHandler pins) = [] := by
  unfold App.Pulse at h
  simp only [App.trace, countersHandler, if_neg h]

theorem step_store (s : App) (supply : Supply) (e : AppEvent) :
    (s.step (supply, e)).toOtaDevice = (s.handled supply e).toOtaDevice := by
  unfold App.step
  split
  · cases e <;> rfl
  · rfl

/-- What a step of the application makes of the store and the flash is a run of the store's own events. -/
theorem App.step_trace (s : App) (supply : Supply) (e : AppEvent) :
    (s.step (supply, e)).toOtaDevice = run OtaDevice.step s.toOtaDevice ((s.trace e).map (Prod.mk supply)) := by
  rw [step_store]
  cases e with
  | userAppInit up => rfl
  | countersHandler pins => exact handled_counters supply s pins
  | zclWriteReqCmd endPoint clusterId attrList =>
      have hwrite := (appZclWriteReqCmd_onlyTotals endPoint clusterId attrList s.meter).eq
      simp only [App.handled, App.withMeter, App.trace, List.map_cons, List.map_nil, run_cons, run_nil]
      rw [hwrite]
      rfl
  | imageAccepted imageSize => rfl
  | imageBlock offset data => rfl
  | otaProcessMsg adcData evt status up =>
      cases evt with
      | otaEvtStart =>
          simp only [App.handled, App.trace, appOtaProcessMsgHandler_eq]
          split_ifs <;> rfl
      | otaEvtComplete =>
          simp only [App.handled, App.trace, appOtaProcessMsgHandler_eq]
          split_ifs <;> rfl

/-! ### Runs -/

/-- The events of the store in a run of the application. -/
def App.traces (s : App) : List (Supply × AppEvent) → List (Supply × OtaEvent)
  | [] => []
  | e :: events => (s.trace e.2).map (Prod.mk e.1) ++ (s.step e).traces events

theorem App.run_traces (s : App) (events : List (Supply × AppEvent)) :
    (run App.step s events).toOtaDevice = run OtaDevice.step s.toOtaDevice (s.traces events) := by
  induction events generalizing s with
  | nil => rfl
  | cons e events ih =>
      rw [run_cons, ih, traces, run_append, App.step_trace s e.1 e.2]

/-- A condition holds of every event of the store in the step. -/
def App.Each (P : OtaDevice → Supply × OtaEvent → Prop) (s : App) (e : Supply × AppEvent) : Prop :=
  Along OtaDevice.step P s.toOtaDevice ((s.trace e.2).map (Prod.mk e.1))

/-- The runs of the application are runs of the store. -/
theorem App.along_traces {P : OtaDevice → Supply × OtaEvent → Prop} {s : App} {events : List (Supply × AppEvent)} :
    Along App.step (App.Each P) s events ↔ Along OtaDevice.step P s.toOtaDevice (s.traces events) := by
  induction events generalizing s with
  | nil => exact Iff.rfl
  | cons e events ih =>
      rw [along_cons, ih, traces, along_append, App.Each, ← App.step_trace s e.1 e.2]

end Watermeter
