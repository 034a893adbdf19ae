import Watermeter.AppTimers

/-! The timer handles of the application are coherent in every state between two events. Each function schedules a
handle that is null or has just been cancelled, and each callback that ends its event has nulled its handle. -/

namespace Watermeter

open NorFlash Transition TimerPool

/-- A handle is set exactly while one event scheduled for it is pending, refers to that event, and has no other. -/
structure HandlesRight {n : Nat} {Handle Task : Type*} (T : Timers n Handle Task) : Prop where
  set_iff : ∀ h, T.handle h ≠ none ↔ ∃! s, Pending T h s
  live : ∀ h s, T.handle h = some s → Pending T h s
  single : ∀ h s s', Pending T h s → Pending T h s' → s = s'

theorem handlesRight_of_coherent {n : Nat} {Handle Task : Type*} {T : Timers n Handle Task} (hT : Coherent T) :
    HandlesRight T where
  set_iff h := by rw [← hT.isSome_iff, Option.ne_none_iff_isSome]
  live _ _ hs := hT.refers_iff.mp hs
  single _ _ _ hs hs' := hT.single hs hs'

namespace Reporting

variable {r r' : Reporting}

/-- What is registered depends on the attributes and on what the entries name. -/
theorem Registered.congr (hr : r.Registered) (hattr : r'.attrTable = r.attrTable)
    (hentry : ∀ i, (r'.reportCfgInfo i).used = (r.reportCfgInfo i).used ∧
      (r'.reportCfgInfo i).endPoint = (r.reportCfgInfo i).endPoint ∧
      (r'.reportCfgInfo i).clusterID = (r.reportCfgInfo i).clusterID ∧
      (r'.reportCfgInfo i).attrID = (r.reportCfgInfo i).attrID) : r'.Registered := by
  intro i hused
  obtain ⟨hu, hep, hcluster, hid⟩ := hentry i
  rw [zclFindAttribute, hattr, hep, hcluster, hid]
  exact hr i (hu.symm.trans hused)

theorem Registered.reportAttr (hr : r.Registered) (pEntry : Option Slot) : (r.reportAttr pEntry).Registered := by
  unfold Reporting.reportAttr
  dsimp only
  split_ifs
  · split
    · exact hr
    · cases pEntry with
      | none => exact hr
      | some k =>
        refine hr.congr rfl fun i => ?_
        by_cases hi : i = k
        · subst hi
          simp [setEntry, entry]
        · simp [setEntry, Function.update_of_ne hi]
  · exact hr

theorem Registered.setAttribute (hr : r.Registered) (endPoint : BitVec 8) (clusterID attrID : BitVec 16)
    (data : Nat → Byte) : (r.setAttribute endPoint clusterID attrID data).Registered := by
  intro i hused
  have hsome := hr i hused
  unfold Reporting.setAttribute zclFindAttribute
  dsimp only
  split_ifs
  · rw [Option.isSome_map]
    exact hsome
  · exact hsome

end Reporting

namespace Node

variable {n : Node} {busy : Option (Fin timerEventNum)} {s : Fin timerEventNum} {h : Handle}

/-- The timers are in order between two events, and the reporting table is registered. -/
def Kept (n : Node) : Prop := InOrder none n.timers ∧ n.reporting.Registered

theorem Kept.inOrder (hn : Kept n) : InOrder none n.timers := hn.1

theorem Kept.registered (hn : Kept n) : n.reporting.Registered := hn.2

/-! ### What the functions do to the pool -/

theorem lightBlinkStart_timers (times : BitVec 8) (ledOnTime ledOffTime : BitVec 16) (n : Node) :
    ∃ t, (n.lightBlinkStart times ledOnTime ledOffTime).timers = n.timers.start .timerLedEvt t := by
  refine ⟨(if n.light.oriSta then ledOffTime else ledOnTime).setWidth 32, ?_⟩
  by_cases hnull : (n.timers.handle .timerLedEvt).isNone = true
  · rw [lightBlinkStart, Timers.start, if_pos hnull, if_pos hnull]
  · rw [lightBlinkStart, Timers.start, if_neg hnull, if_neg hnull]

theorem lightBlinkStop_timers (n : Node) : n.lightBlinkStop.timers = n.timers.stop .timerLedEvt := by
  unfold lightBlinkStop Timers.stop
  split_ifs <;> rfl

theorem lightBlinkStart_reporting (times : BitVec 8) (ledOnTime ledOffTime : BitVec 16) (n : Node) :
    (n.lightBlinkStart times ledOnTime ledOffTime).reporting = n.reporting := by
  unfold lightBlinkStart
  dsimp only
  split_ifs <;> rfl

theorem lightBlinkStop_reporting (n : Node) : n.lightBlinkStop.reporting = n.reporting := by
  unfold lightBlinkStop
  split_ifs <;> rfl

theorem kept_lightBlinkStart (hn : Kept n) (times : BitVec 8) (ledOnTime ledOffTime : BitVec 16) :
    Kept (n.lightBlinkStart times ledOnTime ledOffTime) := by
  obtain ⟨t, ht⟩ := lightBlinkStart_timers times ledOnTime ledOffTime n
  refine ⟨?_, ?_⟩
  · rw [ht]
    exact hn.inOrder.start _ t
  · rw [lightBlinkStart_reporting]
    exact hn.registered

theorem kept_lightBlinkStop (hn : Kept n) : Kept n.lightBlinkStop := by
  refine ⟨?_, ?_⟩
  · rw [lightBlinkStop_timers]
    exact (hn.inOrder.stop (outside_none _ _)).1
  · rw [lightBlinkStop_reporting]
    exact hn.registered

theorem kept_stop (hn : Kept n) (h : Handle) : Kept (n.stop h) :=
  ⟨(hn.inOrder.stop (outside_none _ _)).1, hn.registered⟩

theorem stop_null (hn : Kept n) (h : Handle) : (n.stop h).timers.handle h = none :=
  (hn.inOrder.stop (outside_none _ _)).2

theorem kept_schedule (hn : Kept n) (hnull : n.timers.handle h = none) (t : BitVec 32) : Kept (n.schedule h t) :=
  ⟨hn.inOrder.schedule hnull t, hn.registered⟩

theorem kept_restart (hn : Kept n) (h : Handle) (t : BitVec 32) : Kept (n.restart h t) :=
  ⟨hn.inOrder.restart (outside_none _ _) t, hn.registered⟩

theorem kept_start (hn : Kept n) (h : Handle) (t : BitVec 32) : Kept (n.start h t) := ⟨hn.inOrder.start h t, hn.registered⟩

theorem kept_post (hn : Kept n) (task : Task) (t : BitVec 32) : Kept (n.post task t) :=
  ⟨hn.inOrder.post task t, hn.registered⟩

theorem kept_zbSetPollRate (hn : Kept n) (rate : BitVec 32) : Kept (n.zbSetPollRate rate) := ⟨hn.inOrder, hn.registered⟩

/-! ### The functions of the application -/

theorem kept_act (hn : Kept n) (gesture : Gesture) : Kept (n.act gesture) := by
  cases gesture with
  | fullReset => exact kept_post (kept_lightBlinkStart hn _ _ _) _ _
  | mcuReset => exact kept_post (kept_lightBlinkStart hn _ _ _) _ _
  | factoryReset => exact kept_post (kept_lightBlinkStart hn _ _ _) _ _
  | shortPress =>
    refine kept_start ?_ _ _
    have hblink := kept_lightBlinkStart hn 1 30 30
    have hstop := kept_stop hblink .timerPollRateEvt
    split_ifs
    · exact kept_schedule (kept_zbSetPollRate hstop shortPoll) (stop_null hblink _) _
    · exact hstop

theorem kept_buttonHandler (hn : Kept n) (gpio : Bool) (clockTime : BitVec 32) :
    Kept (n.buttonHandler gpio clockTime) := by
  unfold buttonHandler
  split
  · exact hn
  · rename_i button gesture _
    have hbutton : Kept ({ n with button := button } : Node) := hn
    exact kept_act hbutton gesture

theorem kept_countersHandler (hn : Kept n) (supply : Supply) (pins : Pins) :
    Kept (n.countersHandler supply pins) := by
  unfold countersHandler
  split_ifs
  · exact kept_restart hn _ _
  · exact hn

theorem kept_appTaskLight (hn : Kept n) : Kept n.appTaskLight := by
  rw [appTaskLight_eq]
  split_ifs
  · exact kept_lightBlinkStart (kept_lightBlinkStop hn) _ _ _
  · exact hn

theorem kept_zbBdbInitCb (hn : Kept n) (status : BitVec 8) (joinedNetwork : Bool) (jitter : BitVec 16) :
    Kept (n.zbBdbInitCb status joinedNetwork jitter) := by
  unfold zbBdbInitCb
  split_ifs
  · exact kept_restart (kept_restart hn _ _) _ _
  · exact kept_post hn _ _
  · exact kept_start hn _ _
  · exact hn

theorem kept_zbBdbCommissioningCb (hn : Kept n) (status : BdbCommissionSta) (jitter : BitVec 16) :
    Kept (n.zbBdbCommissioningCb status jitter) := by
  have hblink : Kept (n.lightBlinkStop.lightBlinkStart 3 30 250) :=
    kept_lightBlinkStart (kept_lightBlinkStop hn) _ _ _
  cases status with
  | success =>
    have hpoll := kept_restart (kept_lightBlinkStart hn 2 200 200) .timerPollRateEvt (30 * 1000)
    exact kept_stop (kept_restart (kept_stop hpoll _) _ _) _
  | noNetwork => exact kept_start (kept_post hblink _ _) _ _
  | tclkExFailure => exact kept_start (kept_post hblink _ _) _ _
  | targetFailure => exact kept_start (kept_post hblink _ _) _ _
  | rejoinFailure => exact kept_start (kept_start hblink _ _) _ _
  | parentLost => exact hn
  | other => exact hn

theorem kept_appLeaveCnfHandler (hn : Kept n) (status : BitVec 8) :
    Kept (n.appLeaveCnfHandler status) := by
  unfold appLeaveCnfHandler
  split_ifs
  · exact kept_stop hn _
  · exact hn

theorem kept_otaComplete (hn : Kept n) : Kept n.otaComplete := kept_restart hn _ _

theorem kept_appOtaProcessMsgHandler (hn : Kept n) (adcData : Nat) (evt : OtaMsg) (status : BitVec 8) :
    Kept (n.appOtaProcessMsgHandler adcData evt status) := by
  rw [appOtaProcessMsgHandler_eq]
  cases evt with
  | otaEvtStart =>
    dsimp only
    split_ifs
    · exact kept_otaComplete hn
    · exact kept_stop hn _
    · exact hn
  | otaEvtComplete => exact kept_otaComplete hn

theorem kept_appZclIdentifyCmdHandler (hn : Kept n) (identifyTime : BitVec 16) :
    Kept (n.appZclIdentifyCmdHandler identifyTime) := by
  have hset : Kept ({ n with identifyTime := identifyTime } : Node) := hn
  by_cases hzero : identifyTime = 0
  · simp only [appZclIdentifyCmdHandler, if_pos hzero]
    exact kept_lightBlinkStop (kept_stop hset _)
  by_cases hnull : (n.timers.handle .identifyTimerEvt).isNone = true
  · simp only [appZclIdentifyCmdHandler, if_neg hzero, if_pos hnull]
    refine kept_schedule (kept_lightBlinkStart hset _ 500 500) ?_ 1000
    obtain ⟨t, ht⟩ := lightBlinkStart_timers (identifyTime.setWidth 8) 500 500 { n with identifyTime := identifyTime }
    rw [ht, start_handle_ne _ _ Handle.noConfusion]
    exact Option.isNone_iff_eq_none.mp hnull
  · simp only [appZclIdentifyCmdHandler, if_neg hzero, if_neg hnull]
    exact hn

theorem kept_appZcltriggerCmdHandler (hn : Kept n) (effectId : BitVec 8) :
    Kept (n.appZcltriggerCmdHandler effectId) := by
  unfold appZcltriggerCmdHandler
  split_ifs
  · exact kept_lightBlinkStart hn _ _ _
  · exact kept_lightBlinkStart hn _ _ _
  · exact kept_lightBlinkStart hn _ _ _
  · exact kept_lightBlinkStart hn _ _ _
  · exact kept_lightBlinkStart hn _ _ _
  · exact kept_lightBlinkStop hn
  · exact hn

theorem kept_appZclCfgReportCmd (hn : Kept n) (endPoint : BitVec 8) (attrList : List (BitVec 16)) :
    Kept (n.appZclCfgReportCmd endPoint attrList) := by
  rw [appZclCfgReportCmd, ReportTimers.appZclCfgReportCmd_eq reportTimers_follow]
  split
  · exact hn
  · exact kept_stop (kept_stop hn _) _

/-! ### The reports -/

/-- The minimum callback of an entry whose attribute is registered leaves the timers alone. -/
theorem minCallback_timers (i : Slot) (hfound : (n.reporting.zclFindAttribute
    (n.reporting.entry (n.reporting.appReporting i).pEntry).endPoint
    (n.reporting.entry (n.reporting.appReporting i).pEntry).clusterID
    (n.reporting.entry (n.reporting.appReporting i).pEntry).attrID).isSome = true) :
    (n.appReportMinAttrTimerCb i).2.timers = n.timers := by
  obtain ⟨attr, hattr⟩ := Option.isSome_iff_exists.mp hfound
  simp only [appReportMinAttrTimerCb, ReportTimers.appReportMinAttrTimerCb, reportTimers_follow, reportTimers_reporting, hattr]
  split_ifs <;> rfl

theorem minCallback_registered (hr : n.reporting.Registered) (i : Slot) :
    (n.appReportMinAttrTimerCb i).2.reporting.Registered := by
  unfold appReportMinAttrTimerCb ReportTimers.appReportMinAttrTimerCb
  dsimp only
  split
  · exact hr
  · split_ifs
    · exact hr.reportAttr _
    · exact hr.reportAttr _
    · exact hr

theorem kept_startMinTimer (hn : Kept n) (i : Slot) : Kept (ReportTimers.startMinTimer n i) := by
  unfold ReportTimers.startMinTimer
  dsimp only
  split_ifs with hstart
  · exact ⟨hn.inOrder.schedule (Option.isNone_iff_eq_none.mp hstart.1) _, hn.registered⟩
  · exact hn

theorem startMinTimer_reporting (i : Slot) (n : Node) : (ReportTimers.startMinTimer n i).reporting = n.reporting := by
  unfold ReportTimers.startMinTimer
  dsimp only
  split_ifs <;> rfl

theorem kept_startMaxTimer (hn : Kept n) {i : Slot} (hentry : (n.reporting.appReporting i).pEntry = some i)
    (hused : (n.reporting.reportCfgInfo i).used = true) : Kept (ReportTimers.startMaxTimer n i) := by
  unfold ReportTimers.startMaxTimer
  dsimp only
  split_ifs with hnull
  · exact ⟨hn.inOrder.schedule (Option.isNone_iff_eq_none.mp hnull) _, hn.registered⟩
  · exact hn
  · have htimers : (n.appReportMinAttrTimerCb i).2.timers = n.timers := by
      apply minCallback_timers
      rw [hentry]
      exact hn.registered i hused
    refine ⟨?_, minCallback_registered hn.registered i⟩
    change InOrder none (n.appReportMinAttrTimerCb i).2.timers
    rw [htimers]
    exact hn.inOrder
  · exact hn

theorem kept_startTimers (hn : Kept n) (i : Slot) : Kept (ReportTimers.startTimers n i) := by
  have hset : Kept
      (n.withReporting (n.reporting.setApp i { n.reporting.appReporting i with pEntry := some i })) :=
    ⟨hn.inOrder, hn.registered⟩
  unfold ReportTimers.startTimers
  dsimp only
  split_ifs with hentry
  · refine kept_startMaxTimer (kept_startMinTimer hset i) ?_ ?_
    · rw [startMinTimer_reporting]
      simp [withReporting, Reporting.setApp]
    · rw [startMinTimer_reporting]
      exact hentry.1
  · exact hset

theorem kept_appReportAttrTimerStart (hn : Kept n) : Kept (ReportTimers.appReportAttrTimerStart n) := by
  unfold ReportTimers.appReportAttrTimerStart
  split_ifs
  · exact run_invariant (P := Kept) (fun _ i hk => kept_startTimers hk i) hn _
  · exact hn

theorem kept_reportNoMinLimit (hn : Kept n) (i : Slot) (attr : ZclAttrInfo) :
    Kept (ReportTimers.reportNoMinLimit n i attr) := by
  have hposted : ((n.reporting.reportAttr (some i)).post i).Registered := hn.registered.reportAttr _
  unfold ReportTimers.reportNoMinLimit
  dsimp only
  split_ifs
  · exact ⟨hn.inOrder.restart (outside_none _ _) _, hposted⟩
  · exact ⟨hn.inOrder, hposted⟩
  · exact hn

theorem kept_noMinLimitLoop (slots : List Slot) (hn : Kept n) : Kept (ReportTimers.noMinLimitLoop n slots) := by
  induction slots generalizing n with
  | nil => exact hn
  | cons i slots ih =>
    unfold ReportTimers.noMinLimitLoop
    dsimp only
    split_ifs
    · split
      · exact hn
      · exact ih (kept_reportNoMinLimit hn i _)
    · exact ih hn

theorem kept_appReportHandler (hn : Kept n) : Kept n.appReportHandler := by
  have hlimit : Kept (ReportTimers.appReportNoMinLimit n) := by
    unfold ReportTimers.appReportNoMinLimit
    split_ifs
    · exact kept_noMinLimitLoop _ hn
    · exact hn
  unfold appReportHandler ReportTimers.appReportHandler
  split_ifs
  · exact hn
  · exact kept_appReportAttrTimerStart hlimit
  · exact hn
  · exact hn

/-! ### The callbacks -/

/-- A callback that nulls its handle and ends. -/
theorem returned_forget (hn : InOrder (some s) n.timers) (hs : n.timers.handle h = some s) :
    Returned h s (-1, (n.forget h).timers) := .ended (by decide) hn hs

theorem returned_pollRateAppCb (hn : InOrder (some s) n.timers) :
    Returned .timerPollRateEvt s (n.pollRateAppCb.1, n.pollRateAppCb.2.timers) := by
  unfold pollRateAppCb
  split_ifs
  · exact .again (by decide : (0 : Int) ≤ 30 * 1000) hn
  · exact .again (Int.natCast_nonneg _) hn

theorem returned_noJoinedCb (stackBusy : Bool) (hn : InOrder (some s) n.timers)
    (hs : n.timers.handle .timerNoJoinedEvt = some s) :
    Returned .timerNoJoinedEvt s ((n.noJoinedCb stackBusy).1, (n.noJoinedCb stackBusy).2.timers) := by
  unfold noJoinedCb
  split_ifs
  · exact .again (by decide : (0 : Int) ≤ 60 * 1000) hn
  · exact returned_forget hn hs

theorem returned_zclLightTimerCb (hn : InOrder (some s) n.timers) (hs : n.timers.handle .timerLedEvt = some s) :
    Returned .timerLedEvt s (n.zclLightTimerCb.1, n.zclLightTimerCb.2.timers) := by
  unfold zclLightTimerCb
  dsimp only
  split_ifs
  · exact .ended (by decide : (-1 : Int) < 0) hn hs
  · exact .again (Int.natCast_nonneg _) hn
  · exact .again (Int.natCast_nonneg _) hn

theorem returned_appZclIdentifyTimerCb (hn : InOrder (some s) n.timers)
    (hs : n.timers.handle .identifyTimerEvt = some s) :
    Returned .identifyTimerEvt s (n.appZclIdentifyTimerCb.1, n.appZclIdentifyTimerCb.2.timers) := by
  unfold appZclIdentifyTimerCb
  split_ifs
  · exact returned_forget hn hs
  · exact .again (le_refl 0) hn

theorem returned_appRejoinBacckoff (hn : InOrder (some s) n.timers)
    (hs : n.timers.handle .appRejoinBackoffTimerEvt = some s) :
    Returned .appRejoinBackoffTimerEvt s (n.appRejoinBacckoff.1, n.appRejoinBacckoff.2.timers) := by
  unfold appRejoinBacckoff
  split_ifs
  · exact returned_forget hn hs
  · exact .again (le_refl 0) hn

theorem returned_minCallback (i : Slot) (hn : InOrder (some s) n.timers)
    (hs : n.timers.handle (.timerReportMinEvt i) = some s) :
    Returned (.timerReportMinEvt i) s ((n.appReportMinAttrTimerCb i).1, (n.appReportMinAttrTimerCb i).2.timers) := by
  unfold appReportMinAttrTimerCb ReportTimers.appReportMinAttrTimerCb
  dsimp only
  split
  · exact returned_forget hn hs
  · split_ifs
    · exact .again (le_refl 0) hn
    · exact .again (le_refl 0) hn
    · exact .again (le_refl 0) hn

/-- The maximum callback cancels the minimum timer, which is another event. -/
theorem returned_maxCallback (i : Slot) (hn : InOrder (some s) n.timers)
    (hs : n.timers.handle (.timerReportMaxEvt i) = some s) :
    Returned (.timerReportMaxEvt i) s ((n.appReportMaxAttrTimerCb i).1, (n.appReportMaxAttrTimerCb i).2.timers) := by
  unfold appReportMaxAttrTimerCb ReportTimers.appReportMaxAttrTimerCb
  dsimp only
  split_ifs
  · exact .again (le_refl 0) (hn.stop (hn.outside hs Handle.noConfusion)).1
  · exact .again (le_refl 0) hn

theorem returned_callback (stackBusy : Bool) (hn : InOrder (some s) n.timers) (hs : n.timers.handle h = some s) :
    Returned h s ((callback stackBusy h n).1, (callback stackBusy h n).2.timers) := by
  cases h with
  | timerPollRateEvt => exact returned_pollRateAppCb hn
  | timerForcedReportEvt => exact returned_forget hn hs
  | timerStopReportEvt => exact returned_forget hn hs
  | timerNoJoinedEvt => exact returned_noJoinedCb stackBusy hn hs
  | timerLedEvt => exact returned_zclLightTimerCb hn hs
  | identifyTimerEvt => exact returned_appZclIdentifyTimerCb hn hs
  | appRejoinBackoffTimerEvt => exact returned_appRejoinBacckoff hn hs
  | timerReportMinEvt i => exact returned_minCallback i hn hs
  | timerReportMaxEvt i => exact returned_maxCallback i hn hs

theorem callback_registered (stackBusy : Bool) (h : Handle) (hr : n.reporting.Registered) :
    (callback stackBusy h n).2.reporting.Registered := by
  cases h with
  | timerPollRateEvt =>
    change n.pollRateAppCb.2.reporting.Registered
    unfold pollRateAppCb
    split_ifs <;> exact hr
  | timerForcedReportEvt => exact hr
  | timerStopReportEvt => exact hr
  | timerNoJoinedEvt =>
    change (n.noJoinedCb stackBusy).2.reporting.Registered
    unfold noJoinedCb
    split_ifs <;> exact hr
  | timerLedEvt =>
    change n.zclLightTimerCb.2.reporting.Registered
    unfold zclLightTimerCb
    dsimp only
    split_ifs <;> exact hr
  | identifyTimerEvt =>
    change n.appZclIdentifyTimerCb.2.reporting.Registered
    unfold appZclIdentifyTimerCb
    split_ifs <;> exact hr
  | appRejoinBackoffTimerEvt =>
    change n.appRejoinBacckoff.2.reporting.Registered
    unfold appRejoinBacckoff
    split_ifs <;> exact hr
  | timerReportMinEvt i => exact minCallback_registered hr i
  | timerReportMaxEvt i =>
    change (n.appReportMaxAttrTimerCb i).2.reporting.Registered
    unfold appReportMaxAttrTimerCb ReportTimers.appReportMaxAttrTimerCb
    dsimp only
    split_ifs
    · exact hr.reportAttr _
    · exact hr

/-! ### Whole runs -/

theorem kept_started (boot : Boot) (app : App) : Kept (started boot app) := by
  have hempty : InOrder none (Timers.empty : Timers timerEventNum Handle Task) :=
    ⟨fun h s => by simp [Timers.empty, Timers.caller], fun s e he => absurd he (Option.some_ne_none e).symm⟩
  exact ⟨hempty.post _ _, boot.registered⟩

theorem kept_executeCB (hn : Kept n) (s : Fin timerEventNum) (firing : Firing) : Kept (n.executeCB s firing) := by
  unfold executeCB
  cases he : n.timers.event s with
  | none => exact hn
  | some e =>
    dsimp only
    split_ifs
    · exact kept_started _ _
    have henter := hn.inOrder.enter s
    cases hcallback : e.callback with
    | inl h =>
      have hs : (n.timers.enter s).handle h = some s := by
        rw [enter_handle]
        exact hn.inOrder.coherent.refers_iff.mpr ⟨e, he, hcallback⟩
      have hreturned := returned_callback (n := { n with timers := n.timers.enter s }) firing.stackBusy henter hs
      exact ⟨hreturned.inOrder, callback_registered _ _ hn.registered⟩
    | inr task =>
      have hcaller : (n.timers.enter s).caller s = none := by
        rw [enter_caller, Timers.caller, he, Option.bind_some, hcallback]
        rfl
      exact ⟨henter.leave_task hcaller _, hn.registered⟩

theorem kept_stackCancel (hn : Kept n) (s : Fin timerEventNum) : Kept (n.stackCancel s) := by
  unfold stackCancel
  cases he : n.timers.event s with
  | none => exact hn
  | some e =>
    dsimp only
    split_ifs with hstack
    · refine ⟨hn.inOrder.drop ?_, hn.registered⟩
      rw [Timers.caller, he, Option.bind_some, hstack]
      rfl
    · exact hn

theorem kept_appStep (hn : Kept n) (supply : Supply) (e : AppEvent) : Kept (n.appStep supply e) := by
  have happ : Kept { n with app := n.app.step (supply, e) } := hn
  cases e with
  | countersHandler pins => exact kept_countersHandler hn supply pins
  | otaProcessMsg adcData evt status up => exact kept_appOtaProcessMsgHandler happ adcData evt status
  | userAppInit up => exact happ
  | zclWriteReqCmd endPoint clusterId attrList => exact happ
  | imageAccepted imageSize => exact happ
  | imageBlock offset data => exact happ

theorem kept_step (hn : Kept n) (e : NodeEvent) : Kept (n.step e) := by
  cases e with
  | app supply e boot =>
    unfold step
    dsimp only
    split_ifs
    · exact kept_started _ _
    · exact kept_appStep hn supply e
  | buttonHandler gpio clockTime => exact kept_buttonHandler hn gpio clockTime
  | appTaskLight => exact kept_appTaskLight hn
  | appReportHandler => exact kept_appReportHandler hn
  | zbBdbInitCb status joinedNetwork jitter => exact kept_zbBdbInitCb hn status joinedNetwork jitter
  | zbBdbCommissioningCb status jitter => exact kept_zbBdbCommissioningCb hn status jitter
  | appLeaveCnfHandler status => exact kept_appLeaveCnfHandler hn status
  | identifyCmd identifyTime => exact kept_appZclIdentifyCmdHandler hn identifyTime
  | triggerEffect effectId => exact kept_appZcltriggerCmdHandler hn effectId
  | writeIdentifyTime identifyTime => exact hn
  | cfgReport reportNum reportCfgInfo endPoint attrList =>
    change Kept (n.stackCfgReport reportNum reportCfgInfo endPoint attrList)
    unfold stackCfgReport
    dsimp only
    split_ifs with hregistered
    · have htable : Kept (n.withReporting { n.reporting with reportNum := reportNum, reportCfgInfo := reportCfgInfo }) :=
        ⟨hn.inOrder, hregistered⟩
      exact kept_appZclCfgReportCmd htable endPoint attrList
    · exact hn
  | setAttribute endPoint clusterID attrID data => exact ⟨hn.inOrder, hn.registered.setAttribute _ _ _ _⟩
  | network joined factoryNew bindingTbl => exact hn
  | elapse ticks => exact hn
  | stackPost period => exact kept_post hn _ _
  | stackCancel s => exact kept_stackCancel hn s
  | executeCB s firing => exact kept_executeCB hn s firing

theorem kept_run (hn : Kept n) (events : List NodeEvent) : Kept (run step n events) :=
  run_invariant (P := Kept) (fun _ e hk => kept_step hk e) hn events

/-- After the start of the MCU and in any order of events and timer firings the handles are right. -/
theorem handles_right (boot : Boot) (app : App) (events : List NodeEvent) :
    HandlesRight (run step (started boot app) events).timers :=
  handlesRight_of_coherent (kept_run (kept_started boot app) events).inOrder.coherent

end Node

end Watermeter
