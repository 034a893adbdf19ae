import Watermeter.FlashConfinement
import Watermeter.ImageSpared
import Watermeter.ReportSpacing
import Watermeter.TimerHandles

/-! The poll rate during a download. The button keeps off it while `new_ota` is set; a pulse and the network callbacks
set it all the same. -/

namespace Watermeter

open NorFlash Transition TimerPool

namespace Node

/-- While an update is being downloaded the device polls at the queue rate, and no timer will change that. -/
def PollStays (n : Node) : Prop := n.downloading = true → n.newOta = true →
  n.pollRate = queuePollRate ∧ n.timers.handle .timerPollRateEvt = none

instance (n : Node) : Decidable n.PollStays := inferInstanceAs (Decidable (_ → _))

/-- During a download no pulse is taken, and the network is neither initialised on a joined device nor commissioned. -/
def SparesPoll (n : Node) : NodeEvent → Prop
  | .app _ (.countersHandler pins) _ => n.downloading = true → ¬ n.app.Pulse pins
  | .zbBdbInitCb status joinedNetwork _ =>
    n.downloading = true → ¬ (status = bdbInitStatusSuccess ∧ joinedNetwork = true)
  | .zbBdbCommissioningCb status _ => n.downloading = true → status ≠ .success
  | _ => True

/-- The flags of the download. -/
def mode (n : Node) : Bool × Bool := (n.downloading, n.newOta)

/-- The poll rate and its timer. -/
def polling (n : Node) : BitVec 32 × Option (Fin timerEventNum) := (n.pollRate, n.timers.handle .timerPollRateEvt)

/-- The function leaves the flags and the poll rate as they are. -/
def Spares (f : Node → Node) : Prop := ∀ n, (f n).mode = n.mode ∧ (f n).polling = n.polling

variable {n : Node} {h : Handle} {t : BitVec 32}

/-! ### Functions that leave the poll rate alone -/

section Frame

variable (n : Node)

@[simp] theorem mode_start : (n.start h t).mode = n.mode := rfl

@[simp] theorem mode_stop : (n.stop h).mode = n.mode := rfl

@[simp] theorem mode_restart : (n.restart h t).mode = n.mode := rfl

@[simp] theorem mode_schedule : (n.schedule h t).mode = n.mode := rfl

@[simp] theorem mode_forget : (n.forget h).mode = n.mode := rfl

@[simp] theorem mode_post (task : Task) : (n.post task t).mode = n.mode := rfl

@[simp] theorem mode_zbSetPollRate : (n.zbSetPollRate t).mode = n.mode := rfl

@[simp] theorem mode_withReporting (r : Reporting) : (n.withReporting r).mode = n.mode := rfl

@[simp] theorem mode_lightBlinkStart (times : BitVec 8) (ledOnTime ledOffTime : BitVec 16) :
    (n.lightBlinkStart times ledOnTime ledOffTime).mode = n.mode := by
  unfold lightBlinkStart
  dsimp only
  split_ifs <;> rfl

@[simp] theorem mode_lightBlinkStop : n.lightBlinkStop.mode = n.mode := by
  unfold lightBlinkStop
  split_ifs <;> rfl

@[simp] theorem polling_start (hne : .timerPollRateEvt ≠ h) : (n.start h t).polling = n.polling :=
  congrArg (Prod.mk n.pollRate) (start_handle_ne _ _ hne)

@[simp] theorem polling_stop (hne : .timerPollRateEvt ≠ h) : (n.stop h).polling = n.polling :=
  congrArg (Prod.mk n.pollRate) (stop_handle_ne _ hne)

@[simp] theorem polling_schedule (hne : .timerPollRateEvt ≠ h) : (n.schedule h t).polling = n.polling :=
  congrArg (Prod.mk n.pollRate) (schedule_handle_ne _ _ hne)

@[simp] theorem polling_restart (hne : .timerPollRateEvt ≠ h) : (n.restart h t).polling = n.polling :=
  congrArg (Prod.mk n.pollRate) ((schedule_handle_ne _ _ hne).trans (stop_handle_ne _ hne))

@[simp] theorem polling_forget (hne : .timerPollRateEvt ≠ h) : (n.forget h).polling = n.polling :=
  congrArg (Prod.mk n.pollRate) (Function.update_of_ne hne _ _)

@[simp] theorem polling_post (task : Task) : (n.post task t).polling = n.polling :=
  congrArg (Prod.mk n.pollRate) (by rw [post, post_handle])

@[simp] theorem polling_withReporting (r : Reporting) : (n.withReporting r).polling = n.polling := rfl

@[simp] theorem polling_lightBlinkStart (times : BitVec 8) (ledOnTime ledOffTime : BitVec 16) :
    (n.lightBlinkStart times ledOnTime ledOffTime).polling = n.polling := by
  have hrate : (n.lightBlinkStart times ledOnTime ledOffTime).pollRate = n.pollRate := by
    unfold lightBlinkStart
    dsimp only
    split_ifs <;> rfl
  obtain ⟨t, ht⟩ := lightBlinkStart_timers times ledOnTime ledOffTime n
  rw [polling, hrate, ht, start_handle_ne _ _ Handle.noConfusion]
  rfl

@[simp] theorem polling_lightBlinkStop : n.lightBlinkStop.polling = n.polling := by
  have hrate : n.lightBlinkStop.pollRate = n.pollRate := by
    unfold lightBlinkStop
    split_ifs <;> rfl
  rw [polling, hrate, lightBlinkStop_timers, stop_handle_ne _ Handle.noConfusion]
  rfl

end Frame

/-! ### The button, the LED and the network -/

theorem stop_of_null (hnull : n.timers.handle h = none) : n.stop h = n := by
  simp [stop, Timers.stop, hnull]

theorem mode_act (gesture : Gesture) (n : Node) : (n.act gesture).mode = n.mode := by
  cases gesture with
  | shortPress =>
    unfold act
    dsimp only
    split_ifs <;> simp
  | fullReset => simp [act]
  | mcuReset => simp [act]
  | factoryReset => simp [act]

/-- While an update runs a short press has no timer to cancel and sets no rate. -/
theorem polling_act (gesture : Gesture) (hmode : n.newOta = true) (hnull : n.timers.handle .timerPollRateEvt = none) :
    (n.act gesture).polling = n.polling := by
  cases gesture with
  | shortPress =>
    have hpolling : (n.lightBlinkStart 1 30 30).polling = n.polling := polling_lightBlinkStart _ _ _ _
    have hblink : (n.lightBlinkStart 1 30 30).timers.handle .timerPollRateEvt = none :=
      (congrArg Prod.snd hpolling).trans hnull
    have hota : (n.lightBlinkStart 1 30 30).newOta = true :=
      (congrArg Prod.snd (mode_lightBlinkStart n 1 30 30)).trans hmode
    simp only [act, stop_of_null hblink, hota, Bool.not_true, Bool.false_eq_true, if_false]
    exact (polling_start _ Handle.noConfusion).trans hpolling
  | fullReset => simp [act]
  | mcuReset => simp [act]
  | factoryReset => simp [act]

theorem spares_appTaskLight : Spares appTaskLight := by
  intro n
  rw [appTaskLight_eq]
  split_ifs <;> simp

theorem mode_zbBdbInitCb (status : BitVec 8) (joinedNetwork : Bool) (jitter : BitVec 16) (n : Node) :
    (n.zbBdbInitCb status joinedNetwork jitter).mode = n.mode := by
  unfold zbBdbInitCb
  split_ifs <;> simp

theorem polling_zbBdbInitCb {status : BitVec 8} {joinedNetwork : Bool}
    (hspares : ¬ (status = bdbInitStatusSuccess ∧ joinedNetwork = true)) (jitter : BitVec 16) (n : Node) :
    (n.zbBdbInitCb status joinedNetwork jitter).polling = n.polling := by
  unfold zbBdbInitCb
  split_ifs with hstatus hjoined
  · exact absurd ⟨hstatus, hjoined⟩ hspares
  all_goals simp

theorem mode_zbBdbCommissioningCb (status : BdbCommissionSta) (jitter : BitVec 16) (n : Node) :
    (n.zbBdbCommissioningCb status jitter).mode = n.mode := by
  cases status <;> simp [zbBdbCommissioningCb]

theorem polling_zbBdbCommissioningCb {status : BdbCommissionSta} (hspares : status ≠ .success) (jitter : BitVec 16)
    (n : Node) : (n.zbBdbCommissioningCb status jitter).polling = n.polling := by
  cases status with
  | success => exact absurd rfl hspares
  | noNetwork => simp [zbBdbCommissioningCb]
  | tclkExFailure => simp [zbBdbCommissioningCb]
  | targetFailure => simp [zbBdbCommissioningCb]
  | rejoinFailure => simp [zbBdbCommissioningCb]
  | parentLost => rfl
  | other => rfl

theorem spares_appLeaveCnfHandler (status : BitVec 8) : Spares (appLeaveCnfHandler status) := by
  intro n
  unfold appLeaveCnfHandler
  split_ifs <;> simp

theorem spares_appZclIdentifyCmdHandler (identifyTime : BitVec 16) : Spares (appZclIdentifyCmdHandler identifyTime) := by
  intro n
  have hmode : ({ n with identifyTime := identifyTime } : Node).mode = n.mode := rfl
  have hpolling : ({ n with identifyTime := identifyTime } : Node).polling = n.polling := rfl
  unfold appZclIdentifyCmdHandler
  dsimp only
  split_ifs
  · simp [hmode, hpolling]
  · simp [hmode, hpolling]
  · exact ⟨hmode, hpolling⟩

theorem spares_appZcltriggerCmdHandler (effectId : BitVec 8) : Spares (appZcltriggerCmdHandler effectId) := by
  intro n
  unfold appZcltriggerCmdHandler
  split_ifs <;> simp

/-! ### The reports -/

theorem spares_appZclCfgReportCmd (endPoint : BitVec 8) (attrList : List (BitVec 16)) :
    Spares (appZclCfgReportCmd endPoint attrList) := by
  intro n
  rw [appZclCfgReportCmd, ReportTimers.appZclCfgReportCmd_eq reportTimers_follow]
  split <;> simp

theorem spares_minCallback (i : Slot) : Spares fun n => (n.appReportMinAttrTimerCb i).2 := by
  intro n
  dsimp only
  unfold appReportMinAttrTimerCb ReportTimers.appReportMinAttrTimerCb
  dsimp only
  split
  · simp
  · split_ifs <;> simp

theorem spares_startTimers (i : Slot) : Spares fun n => ReportTimers.startTimers n i := by
  have hmin : Spares fun n => ReportTimers.startMinTimer n i := by
    intro n
    unfold ReportTimers.startMinTimer
    dsimp only
    split_ifs <;> simp
  have hmax : Spares fun n => ReportTimers.startMaxTimer n i := by
    intro n
    unfold ReportTimers.startMaxTimer
    dsimp only
    split_ifs
    · simp
    · simp
    · exact spares_minCallback i n
    · simp
  intro n
  unfold ReportTimers.startTimers
  dsimp only
  split_ifs
  · exact ⟨(hmax _).1.trans (hmin _).1, (hmax _).2.trans (hmin _).2⟩
  · exact ⟨rfl, rfl⟩

theorem spares_appReportAttrTimerStart : Spares ReportTimers.appReportAttrTimerStart := by
  intro n
  have hstep (n' : Node) (i : Slot) (h : n'.mode = n.mode ∧ n'.polling = n.polling) :
      (ReportTimers.startTimers n' i).mode = n.mode ∧ (ReportTimers.startTimers n' i).polling = n.polling := by
    obtain ⟨hmode, hpolling⟩ := spares_startTimers i n'
    exact ⟨hmode.trans h.1, hpolling.trans h.2⟩
  unfold ReportTimers.appReportAttrTimerStart
  split_ifs
  · exact run_invariant hstep ⟨rfl, rfl⟩ _
  · exact ⟨rfl, rfl⟩

theorem spares_noMinLimitLoop (slots : List Slot) : Spares fun n => ReportTimers.noMinLimitLoop n slots := by
  have hentry (i : Slot) (attr : ZclAttrInfo) : Spares fun n => ReportTimers.reportNoMinLimit n i attr := by
    intro n
    unfold ReportTimers.reportNoMinLimit
    dsimp only
    split_ifs <;> simp
  induction slots with
  | nil => exact fun n => ⟨rfl, rfl⟩
  | cons i slots ih =>
    intro n
    dsimp only
    unfold ReportTimers.noMinLimitLoop
    dsimp only
    split_ifs
    · split
      · exact ⟨rfl, rfl⟩
      · rename_i attr _
        have hfirst := hentry i attr n
        have hrest := ih (ReportTimers.reportNoMinLimit n i attr)
        exact ⟨hrest.1.trans hfirst.1, hrest.2.trans hfirst.2⟩
    · exact ih n

theorem spares_appReportHandler : Spares appReportHandler := by
  intro n
  have hlimit : (ReportTimers.appReportNoMinLimit n).mode = n.mode ∧ (ReportTimers.appReportNoMinLimit n).polling = n.polling := by
    unfold ReportTimers.appReportNoMinLimit
    split_ifs
    · exact spares_noMinLimitLoop _ n
    · exact ⟨rfl, rfl⟩
  have hstart := spares_appReportAttrTimerStart (ReportTimers.appReportNoMinLimit n)
  unfold appReportHandler ReportTimers.appReportHandler
  split_ifs
  · exact ⟨rfl, rfl⟩
  · exact ⟨hstart.1.trans hlimit.1, hstart.2.trans hlimit.2⟩
  · exact ⟨rfl, rfl⟩
  · exact ⟨rfl, rfl⟩

theorem spares_stackCfgReport (reportNum : BitVec 8) (reportCfgInfo : Slot → ReportCfgInfo) (endPoint : BitVec 8)
    (attrList : List (BitVec 16)) : Spares (stackCfgReport reportNum reportCfgInfo endPoint attrList) := by
  intro n
  unfold stackCfgReport
  dsimp only
  split_ifs
  · exact spares_appZclCfgReportCmd endPoint attrList (n.withReporting _)
  · exact ⟨rfl, rfl⟩

theorem spares_stackCancel (s : Fin timerEventNum) : Spares (stackCancel s) := by
  intro n
  unfold stackCancel
  cases n.timers.event s with
  | none => exact ⟨rfl, rfl⟩
  | some e =>
    dsimp only
    split_ifs <;> exact ⟨rfl, rfl⟩

/-! ### The timer list -/

/-- The callbacks of the other timers. -/
theorem spares_callback (stackBusy : Bool) (hne : .timerPollRateEvt ≠ h) : Spares fun n => (callback stackBusy h n).2 := by
  intro n
  dsimp only
  cases h with
  | timerPollRateEvt => exact absurd rfl hne
  | timerForcedReportEvt => exact ⟨rfl, polling_forget _ hne⟩
  | timerStopReportEvt => exact ⟨rfl, polling_forget _ hne⟩
  | timerNoJoinedEvt =>
    simp only [callback, noJoinedCb]
    split_ifs <;> simp
  | timerLedEvt =>
    have hled (light : Light) : ({ n with light := light } : Node).polling = n.polling := rfl
    simp only [callback, zclLightTimerCb]
    split_ifs
    · exact ⟨rfl, (polling_forget _ hne).trans (hled _)⟩
    · exact ⟨rfl, hled _⟩
    · exact ⟨rfl, hled _⟩
  | identifyTimerEvt =>
    simp only [callback, appZclIdentifyTimerCb]
    split_ifs
    · exact ⟨rfl, polling_forget _ hne⟩
    · exact ⟨rfl, rfl⟩
  | appRejoinBackoffTimerEvt =>
    simp only [callback, appRejoinBacckoff]
    split_ifs <;> simp
  | timerReportMinEvt i => exact spares_minCallback i n
  | timerReportMaxEvt i =>
    simp only [callback, appReportMaxAttrTimerCb, ReportTimers.appReportMaxAttrTimerCb]
    split_ifs <;> simp

theorem mode_callback (stackBusy : Bool) (h : Handle) (n : Node) : (callback stackBusy h n).2.mode = n.mode := by
  by_cases hne : .timerPollRateEvt = h
  · subst hne
    simp only [callback, pollRateAppCb]
    split_ifs <;> rfl
  · exact (spares_callback stackBusy hne n).1

/-- An event fires and the MCU goes on, or it starts again. -/
theorem mode_executeCB (s : Fin timerEventNum) (firing : Firing) (n : Node) :
    (n.executeCB s firing).mode = n.mode ∨ (n.executeCB s firing).downloading = false := by
  unfold executeCB
  cases n.timers.event s with
  | none => exact .inl rfl
  | some e =>
    dsimp only
    split_ifs
    · exact .inr rfl
    · cases e.callback with
      | inl h => exact .inl (mode_callback firing.stackBusy h { n with timers := n.timers.enter s })
      | inr task => exact .inl rfl

/-- Without a timer of its own the poll rate is left alone by the timer list. -/
theorem polling_executeCB (hn : Kept n) (hnull : n.timers.handle .timerPollRateEvt = none) (s : Fin timerEventNum)
    (firing : Firing) : (n.executeCB s firing).polling = n.polling ∨ (n.executeCB s firing).downloading = false := by
  unfold executeCB
  cases he : n.timers.event s with
  | none => exact .inl rfl
  | some e =>
    have henter : ({ n with timers := n.timers.enter s } : Node).polling = n.polling :=
      congrArg (Prod.mk n.pollRate) (congrFun (enter_handle _ _) _)
    dsimp only
    split_ifs
    · exact .inr rfl
    left
    cases hcallback : e.callback with
    | inl h =>
      have hne : .timerPollRateEvt ≠ h := by
        rintro rfl
        have hpending := hn.inOrder.coherent.refers_iff.mpr ⟨e, he, hcallback⟩
        rw [hnull] at hpending
        exact absurd hpending (Option.some_ne_none s).symm
      have hcall := (spares_callback firing.stackBusy hne { n with timers := n.timers.enter s }).2.trans henter
      rw [← hcall]
      exact congrArg (Prod.mk _) (congrFun (leave_handle _ _ _) _)
    | inr task =>
      rw [← henter]
      exact congrArg (Prod.mk _) (congrFun (leave_handle _ _ _) _)

/-! ### The flag of the update -/

theorem countersHandler_newOta (pins : Pins) (m : Meter) :
    (Watermeter.countersHandler pins m).1.ram.watermeterConfig.newOta = m.ram.watermeterConfig.newOta := by
  obtain ⟨t, ht⟩ := (takeHot_onlyTotals (m.polled pins)).trans (takeCold_onlyTotals (m.polled pins).takeHot)
  have htaken : (m.polled pins).takeHot.takeCold.ram.watermeterConfig.newOta = m.ram.watermeterConfig.newOta := by
    rw [ht]
    rfl
  simp only [Watermeter.countersHandler]
  split
  · exact (writeConfig_newOta _).trans htaken
  · exact htaken

theorem write_newOta (endPoint : BitVec 8) (clusterId : BitVec 16) (attrList : List WriteRec) (m : Meter) :
    (appZclWriteReqCmd endPoint clusterId attrList m).1.ram.watermeterConfig.newOta = m.ram.watermeterConfig.newOta := by
  obtain ⟨t, ht⟩ := appZclWriteReqCmd_onlyTotals endPoint clusterId attrList m
  rw [ht]
  rfl

theorem started_newOta (r : Ram) : (writeConfig (otaStarted r)).1.watermeterConfig.newOta ≠ 0 := by
  rw [writeConfig_newOta]
  exact (by decide : (1 : BitVec 8) ≠ 0)

/-- `OTA_EVT_START` with success at a sufficient supply. -/
theorem otaStart_newOta {s : App} {supply : Supply} {adcData : Nat} {up : PowerUp}
    (hhigh : ¬ adcData < (maxVbatMv - 100 - minVbatMv) / 2 + minVbatMv) :
    (s.step (supply, .otaProcessMsg adcData .otaEvtStart zclStaSuccess up)).ram.watermeterConfig.newOta ≠ 0 := by
  have hreset : s.resets supply (.otaProcessMsg adcData .otaEvtStart zclStaSuccess up) = false := rfl
  rw [App.step, hreset, if_neg Bool.false_ne_true]
  simp only [App.handled, Watermeter.appOtaProcessMsgHandler_eq, if_neg hhigh]
  exact started_newOta s.ram

/-- A message of the client that the handler passes over. -/
theorem otaStart_failed {s : App} {supply : Supply} {adcData : Nat} {status : BitVec 8} {up : PowerUp}
    (hhigh : ¬ adcData < (maxVbatMv - 100 - minVbatMv) / 2 + minVbatMv) (hstatus : status ≠ zclStaSuccess) :
    s.step (supply, .otaProcessMsg adcData .otaEvtStart status up) = s := by
  have hreset : s.resets supply (.otaProcessMsg adcData .otaEvtStart status up) = false := rfl
  rw [App.step, hreset, if_neg Bool.false_ne_true]
  simp only [App.handled, Watermeter.appOtaProcessMsgHandler_eq, if_neg hhigh, if_neg hstatus]

/-- The other events of `App` in which the MCU goes on leave the flag. -/
theorem app_newOta {s : App} {supply : Supply} {e : AppEvent} (hreset : s.resets supply e = false)
    (hother : ∀ adcData evt status up, e ≠ .otaProcessMsg adcData evt status up) :
    (s.step (supply, e)).ram.watermeterConfig.newOta = s.ram.watermeterConfig.newOta := by
  rw [App.step, hreset, if_neg Bool.false_ne_true]
  cases e with
  | userAppInit up => exact absurd hreset (by simp [App.resets])
  | countersHandler pins => exact countersHandler_newOta pins s.meter
  | zclWriteReqCmd endPoint clusterId attrList => exact write_newOta endPoint clusterId attrList s.meter
  | imageAccepted imageSize =>
    simp only [App.handled, OtaDevice.step, OtaDevice.storeOps]
    split_ifs <;> rfl
  | imageBlock offset data =>
    simp only [App.handled, OtaDevice.step, OtaDevice.storeOps]
    split_ifs <;> rfl
  | otaProcessMsg adcData evt status up => exact absurd rfl (hother adcData evt status up)

theorem mode_app {supply : Supply} {e : AppEvent} (hreset : n.app.resets supply e = false)
    (hother : ∀ adcData evt status up, e ≠ .otaProcessMsg adcData evt status up) :
    ({ n with app := n.app.step (supply, e) } : Node).mode = n.mode := by
  have hota : ({ n with app := n.app.step (supply, e) } : Node).newOta = n.newOta := by
    rw [newOta, app_newOta hreset hother]
    rfl
  exact congrArg (Prod.mk n.downloading) hota

theorem mode_countersHandler (supply : Supply) (pins : Pins) (n : Node) :
    (n.countersHandler supply pins).mode = n.mode := by
  have happ : ({ n with app := n.app.step (supply, .countersHandler pins) } : Node).mode = n.mode :=
    mode_app rfl fun _ _ _ _ => AppEvent.noConfusion
  unfold countersHandler
  dsimp only
  split_ifs
  · rw [mode_restart, mode_zbSetPollRate, happ]
  · exact happ

theorem saves_iff (pins : Pins) (n : Node) : n.saves pins = true ↔ n.app.Pulse pins := by
  unfold saves Watermeter.countersHandler App.Pulse
  dsimp only
  split_ifs with hpulse
  · exact iff_of_true rfl hpulse
  · exact iff_of_false id hpulse

/-! ### Steps and runs -/

/-- During a download the flag of the update is set. -/
def Updating (n : Node) : Prop := n.downloading = true → n.newOta = true

theorem Updating.of_mode {n' : Node} (hn : n.Updating) (hmode : n'.mode = n.mode) : n'.Updating := by
  obtain ⟨hdownloading, hota⟩ := Prod.mk.inj hmode
  intro hd
  rw [hota]
  exact hn (hdownloading.symm.trans hd)

theorem PollStays.of_same {n' : Node} (hn : n.PollStays) (hmode : n'.mode = n.mode) (hpolling : n'.polling = n.polling) :
    n'.PollStays := by
  obtain ⟨hdownloading, hota⟩ := Prod.mk.inj hmode
  obtain ⟨hrate, hhandle⟩ := Prod.mk.inj hpolling
  intro hd ho
  rw [hrate, hhandle]
  exact hn (hdownloading.symm.trans hd) (hota.symm.trans ho)

theorem pollStays_of_done (hn : n.downloading = false) : n.PollStays :=
  fun hd => absurd (hn.symm.trans hd) Bool.false_ne_true

/-- A function that sets the rate for ordinary use leaves it there during a download. -/
theorem not_pollStays_of_short {n' : Node} (hn : n.Updating) (hd : n.downloading = true) (hmode : n'.mode = n.mode)
    (hrate : n'.pollRate = shortPoll) : ¬ n'.PollStays := by
  obtain ⟨hdownloading, hota⟩ := Prod.mk.inj hmode
  intro hstays
  have hqueue := (hstays (hdownloading.trans hd) (hota.trans (hn hd))).1
  rw [hrate] at hqueue
  exact absurd hqueue (by decide)

theorem pollStays_countersHandler_iff (hn : n.PollStays) (hup : n.Updating) (supply : Supply) (pins : Pins) :
    (n.countersHandler supply pins).PollStays ↔ (n.downloading = true → ¬ n.app.Pulse pins) := by
  have hmode := mode_countersHandler supply pins n
  rw [← saves_iff]
  by_cases hsaves : n.saves pins = true
  · have hrate : (n.countersHandler supply pins).pollRate = shortPoll := by
      simp only [countersHandler, if_pos hsaves]
      rfl
    constructor
    · intro hstays hd
      exact absurd hstays (not_pollStays_of_short hup hd hmode hrate)
    · intro hspares hd
      have hd' : n.downloading = true := (Prod.mk.inj hmode).1.symm.trans hd
      exact absurd hsaves (hspares hd')
  · refine iff_of_true (hn.of_same hmode ?_) fun _ => hsaves
    simp only [countersHandler, if_neg hsaves]
    rfl

theorem pollStays_otaProcessMsg (hn : Kept n) (hstays : n.PollStays) (supply : Supply) (adcData : Nat) (evt : OtaMsg)
    (status : BitVec 8) (up : PowerUp) :
    (n.appStep supply (.otaProcessMsg adcData evt status up)).PollStays := by
  rw [appStep, appOtaProcessMsgHandler_eq]
  cases evt with
  | otaEvtComplete => exact pollStays_of_done rfl
  | otaEvtStart =>
    dsimp only
    split_ifs with hlow hstatus
    · exact pollStays_of_done rfl
    · exact fun _ _ => ⟨rfl, stop_null (n := { n with app := n.app.step _ }) hn _⟩
    · rw [otaStart_failed hlow hstatus]
      exact hstays

theorem updating_appStep (hup : n.Updating) {supply : Supply} {e : AppEvent} (hreset : n.app.resets supply e = false) :
    (n.appStep supply e).Updating := by
  cases e with
  | userAppInit up => exact absurd hreset (by simp [App.resets])
  | countersHandler pins => exact hup.of_mode (mode_countersHandler supply pins n)
  | zclWriteReqCmd endPoint clusterId attrList => exact hup.of_mode (mode_app hreset fun _ _ _ _ => AppEvent.noConfusion)
  | imageAccepted imageSize => exact hup.of_mode (mode_app hreset fun _ _ _ _ => AppEvent.noConfusion)
  | imageBlock offset data => exact hup.of_mode (mode_app hreset fun _ _ _ _ => AppEvent.noConfusion)
  | otaProcessMsg adcData evt status up =>
    rw [appStep, appOtaProcessMsgHandler_eq]
    cases evt with
    | otaEvtComplete => exact fun hd => absurd hd Bool.false_ne_true
    | otaEvtStart =>
      dsimp only
      split_ifs with hlow hstatus
      · exact fun hd => absurd hd Bool.false_ne_true
      · subst hstatus
        exact fun _ => decide_eq_true (otaStart_newOta hlow)
      · rw [otaStart_failed hlow hstatus]
        exact hup

theorem updating_step (hup : n.Updating) (e : NodeEvent) : (n.step e).Updating := by
  cases e with
  | app supply e boot =>
    unfold step
    dsimp only
    split_ifs with hreset
    · exact fun hd => absurd hd Bool.false_ne_true
    · exact updating_appStep hup (Bool.eq_false_of_not_eq_true hreset)
  | buttonHandler gpio clockTime =>
    change (n.buttonHandler gpio clockTime).Updating
    unfold buttonHandler
    split
    · exact hup
    · exact hup.of_mode (mode_act _ _)
  | appTaskLight => exact hup.of_mode (spares_appTaskLight n).1
  | appReportHandler => exact hup.of_mode (spares_appReportHandler n).1
  | zbBdbInitCb status joinedNetwork jitter => exact hup.of_mode (mode_zbBdbInitCb status joinedNetwork jitter n)
  | zbBdbCommissioningCb status jitter => exact hup.of_mode (mode_zbBdbCommissioningCb status jitter n)
  | appLeaveCnfHandler status => exact hup.of_mode (spares_appLeaveCnfHandler status n).1
  | identifyCmd identifyTime => exact hup.of_mode (spares_appZclIdentifyCmdHandler identifyTime n).1
  | triggerEffect effectId => exact hup.of_mode (spares_appZcltriggerCmdHandler effectId n).1
  | writeIdentifyTime identifyTime => exact hup
  | cfgReport reportNum reportCfgInfo endPoint attrList =>
    exact hup.of_mode (spares_stackCfgReport reportNum reportCfgInfo endPoint attrList n).1
  | setAttribute endPoint clusterID attrID data => exact hup
  | network joined factoryNew bindingTbl => exact hup
  | elapse ticks => exact hup
  | stackPost period => exact hup
  | stackCancel s => exact hup.of_mode (spares_stackCancel s n).1
  | executeCB s firing =>
    rcases mode_executeCB s firing n with hmode | hdone
    · exact hup.of_mode hmode
    · exact fun hd => absurd (hdone.symm.trans hd) Bool.false_ne_true

/-- What every state of a run whose download is undisturbed so far has. -/
structure Undisturbed (n : Node) : Prop where
  kept : Kept n
  updating : n.Updating
  stays : n.PollStays

theorem Undisturbed.spares (hn : n.Undisturbed) {f : Node → Node} (hf : Spares f) : (f n).PollStays :=
  hn.stays.of_same (hf n).1 (hf n).2

theorem Undisturbed.buttonHandler (hn : n.Undisturbed) (gpio : Bool) (clockTime : BitVec 32) :
    (n.buttonHandler gpio clockTime).PollStays := by
  unfold Node.buttonHandler
  split
  · exact hn.stays
  · rename_i button gesture _
    have hbutton : ({ n with button := button } : Node).PollStays := hn.stays
    by_cases hd : n.downloading = true
    · have hota : n.newOta = true := hn.updating hd
      have hpolling := polling_act (n := { n with button := button }) gesture hota (hn.stays hd hota).2
      exact hbutton.of_same (mode_act _ _) hpolling
    · have hdone : ({ n with button := button }.act gesture).downloading = n.downloading :=
        congrArg Prod.fst (mode_act gesture { n with button := button })
      exact pollStays_of_done (hdone.trans (Bool.eq_false_of_not_eq_true hd))

theorem Undisturbed.executeCB (hn : n.Undisturbed) (s : Fin timerEventNum) (firing : Firing) :
    (n.executeCB s firing).PollStays := by
  rcases mode_executeCB s firing n with hmode | hdone
  · by_cases hd : n.downloading = true
    · rcases polling_executeCB hn.kept (hn.stays hd (hn.updating hd)).2 s firing with hpolling | hdone
      · exact hn.stays.of_same hmode hpolling
      · exact pollStays_of_done hdone
    · exact pollStays_of_done ((congrArg Prod.fst hmode).trans (Bool.eq_false_of_not_eq_true hd))
  · exact pollStays_of_done hdone

/-- A network callback that disturbs the download, or does not. -/
theorem Undisturbed.callback_iff (hn : n.Undisturbed) {f : Node → Node} {P : Prop} (hmode : (f n).mode = n.mode)
    (hshort : ¬ P → (f n).pollRate = shortPoll) (hspares : P → (f n).polling = n.polling) :
    (f n).PollStays ↔ (n.downloading = true → P) := by
  constructor
  · intro hstays hd
    by_contra hP
    exact not_pollStays_of_short hn.updating hd hmode (hshort hP) hstays
  · intro hP
    by_cases hd : n.downloading = true
    · exact hn.stays.of_same hmode (hspares (hP hd))
    · exact pollStays_of_done ((congrArg Prod.fst hmode).trans (Bool.eq_false_of_not_eq_true hd))

theorem Undisturbed.zbBdbInitCb_iff (hn : n.Undisturbed) (status : BitVec 8) (joinedNetwork : Bool)
    (jitter : BitVec 16) : (n.zbBdbInitCb status joinedNetwork jitter).PollStays ↔
      (n.downloading = true → ¬ (status = bdbInitStatusSuccess ∧ joinedNetwork = true)) := by
  apply hn.callback_iff (mode_zbBdbInitCb status joinedNetwork jitter n)
  · intro hnot
    obtain ⟨hstatus, hjoined⟩ := not_not.mp hnot
    simp only [zbBdbInitCb, if_pos hstatus, if_pos hjoined]
    rfl
  · exact fun hspares => polling_zbBdbInitCb hspares jitter n

theorem Undisturbed.zbBdbCommissioningCb_iff (hn : n.Undisturbed) (status : BdbCommissionSta) (jitter : BitVec 16) :
    (n.zbBdbCommissioningCb status jitter).PollStays ↔ (n.downloading = true → status ≠ .success) := by
  apply hn.callback_iff (mode_zbBdbCommissioningCb status jitter n)
  · intro hnot
    rw [not_not.mp hnot]
    rfl
  · exact fun hspares => polling_zbBdbCommissioningCb hspares jitter n

/-- Among the events of `App` only a pulse disturbs the download. -/
theorem Undisturbed.app_iff (hn : n.Undisturbed) (supply : Supply) (e : AppEvent) (boot : Boot) :
    (n.step (.app supply e boot)).PollStays ↔ n.SparesPoll (.app supply e boot) := by
  cases hreset : n.app.resets supply e with
  | true =>
    have hstays : (n.step (.app supply e boot)).PollStays := by
      simp only [step, if_pos hreset]
      exact pollStays_of_done rfl
    cases e with
    | countersHandler pins => exact absurd hreset (by simp [App.resets])
    | userAppInit up => exact iff_of_true hstays trivial
    | zclWriteReqCmd endPoint clusterId attrList => exact iff_of_true hstays trivial
    | imageAccepted imageSize => exact iff_of_true hstays trivial
    | imageBlock offset data => exact iff_of_true hstays trivial
    | otaProcessMsg adcData evt status up => exact iff_of_true hstays trivial
  | false =>
    have hstep : n.step (.app supply e boot) = n.appStep supply e := by
      simp only [step, hreset, Bool.false_eq_true, if_false]
    rw [hstep]
    cases e with
    | countersHandler pins => exact pollStays_countersHandler_iff hn.stays hn.updating supply pins
    | userAppInit up => exact absurd hreset (by simp [App.resets])
    | zclWriteReqCmd endPoint clusterId attrList =>
      exact iff_of_true (hn.stays.of_same (mode_app hreset fun _ _ _ _ => AppEvent.noConfusion) rfl) trivial
    | imageAccepted imageSize =>
      exact iff_of_true (hn.stays.of_same (mode_app hreset fun _ _ _ _ => AppEvent.noConfusion) rfl) trivial
    | imageBlock offset data =>
      exact iff_of_true (hn.stays.of_same (mode_app hreset fun _ _ _ _ => AppEvent.noConfusion) rfl) trivial
    | otaProcessMsg adcData evt status up =>
      exact iff_of_true (pollStays_otaProcessMsg hn.kept hn.stays supply adcData evt status up) trivial

theorem Undisturbed.step_iff (hn : n.Undisturbed) (e : NodeEvent) : (n.step e).PollStays ↔ n.SparesPoll e := by
  cases e with
  | app supply e boot => exact hn.app_iff supply e boot
  | zbBdbInitCb status joinedNetwork jitter => exact hn.zbBdbInitCb_iff status joinedNetwork jitter
  | zbBdbCommissioningCb status jitter => exact hn.zbBdbCommissioningCb_iff status jitter
  | buttonHandler gpio clockTime => exact iff_of_true (hn.buttonHandler gpio clockTime) trivial
  | appTaskLight => exact iff_of_true (hn.spares spares_appTaskLight) trivial
  | appReportHandler => exact iff_of_true (hn.spares spares_appReportHandler) trivial
  | appLeaveCnfHandler status => exact iff_of_true (hn.spares (spares_appLeaveCnfHandler status)) trivial
  | identifyCmd identifyTime => exact iff_of_true (hn.spares (spares_appZclIdentifyCmdHandler identifyTime)) trivial
  | triggerEffect effectId => exact iff_of_true (hn.spares (spares_appZcltriggerCmdHandler effectId)) trivial
  | writeIdentifyTime identifyTime => exact iff_of_true hn.stays trivial
  | cfgReport reportNum reportCfgInfo endPoint attrList =>
    exact iff_of_true (hn.spares (spares_stackCfgReport reportNum reportCfgInfo endPoint attrList)) trivial
  | setAttribute endPoint clusterID attrID data => exact iff_of_true hn.stays trivial
  | network joined factoryNew bindingTbl => exact iff_of_true hn.stays trivial
  | elapse ticks => exact iff_of_true hn.stays trivial
  | stackPost period =>
    exact iff_of_true (hn.stays.of_same (mode_post n .stack) (polling_post n .stack)) trivial
  | stackCancel s => exact iff_of_true (hn.spares (spares_stackCancel s)) trivial
  | executeCB s firing => exact iff_of_true (hn.executeCB s firing) trivial

theorem Undisturbed.step (hn : n.Undisturbed) {e : NodeEvent} (hstays : (n.step e).PollStays) :
    (n.step e).Undisturbed :=
  ⟨kept_step hn.kept e, updating_step hn.updating e, hstays⟩

theorem undisturbed_started (boot : Boot) (app : App) : (started boot app).Undisturbed where
  kept := kept_started boot app
  updating := fun hd => absurd hd Bool.false_ne_true
  stays := pollStays_of_done rfl

/-- Through a run the fast poll rate stays during every download if and only if no pulse and no network callback comes
in between. -/
theorem poll_stays_iff (boot : Boot) (app : App) (events : List NodeEvent) :
    Along step (fun n e => (n.step e).PollStays) (started boot app) events ↔
      Along step SparesPoll (started boot app) events :=
  along_iff (fun _ _ hn hstays => hn.step hstays) (fun _ e hn => hn.step_iff e) (undisturbed_started boot app)

/-- A start with an empty reporting table. -/
def emptyBoot : Boot where
  clockTime := 0#32
  pollRate := shortPoll
  factoryNew := false
  reporting := { oneEntryDevice 0 0 with reportNum := 0, reportCfgInfo := fun _ => blankEntry }
  registered := fun _ hused => absurd hused Bool.false_ne_true

/-- A download begins, and then the hot water contact closes for 31 passes of `counters_handler`. -/
def pulseDuringDownload : List NodeEvent :=
  .app (fun _ => 3000) (.otaProcessMsg 3000 .otaEvtStart zclStaSuccess openStart) emptyBoot ::
    List.replicate 31 (.app (fun _ => 2000) (.countersHandler ⟨false, true⟩) emptyBoot)

/-- The pulse sets the rate for ordinary use, and the timer that is to slow it down further. -/
theorem pulse_slows_poll : ¬ ∀ (boot : Boot) (app : App) (events : List NodeEvent),
    (run step (started boot app) events).PollStays := by
  intro hstays
  have hpulse := hstays emptyBoot emptyApp pulseDuringDownload
  revert hpulse
  decide +kernel

end Node

end Watermeter
