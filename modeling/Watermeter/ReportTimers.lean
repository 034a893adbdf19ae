import Watermeter.ReportSlot

/-! What the two timers of a slot and its time stamp say about the reports sent so far, as long as the entry is not
configured: no report is later than the start of the minimum timer's period, and a report later than the start of the
maximum timer's period is no later than the stamp. -/

namespace Watermeter

open NorFlash Transition

theorem due_seconds {since now : Nat} {seconds : BitVec 16} :
    (⟨since, seconds.setWidth 32 * 1000⟩ : EvTimer).Due now ↔ since + seconds.toNat * ticksPerSecond ≤ now := by
  have hperiod : (seconds.setWidth 32 * 1000).toNat = seconds.toNat * 1000 := by
    have hseconds := seconds.isLt
    rw [BitVec.toNat_mul, BitVec.toNat_setWidth]
    change seconds.toNat % 2 ^ 32 * 1000 % 2 ^ 32 = _
    omega
  rw [EvTimer.Due, hperiod, Nat.mul_assoc]
  rfl

theorem EvTimer.Due.seconds {evt : EvTimer} {now : Nat} {seconds : BitVec 16} (hdue : evt.Due now)
    (hperiod : evt.period = seconds.setWidth 32 * 1000) : evt.since + seconds.toNat * ticksPerSecond ≤ now := by
  rw [← due_seconds, ← hperiod]
  exact hdue

namespace SlotView

/-- The invariant of a slot whose entry keeps its intervals and stays bound. -/
structure Sound (minInterval maxInterval : BitVec 16) (v : SlotView) : Prop where
  bound : v.bound = true
  minInterval_eq : v.entry.minInterval = minInterval
  maxInterval_eq : v.entry.maxInterval = maxInterval
  past : ∀ t ∈ v.times, t ≤ v.now
  minTimer : ∀ evt, v.app.timerReportMinEvt = some evt → minInterval ≠ 0 ∧
    evt.period = minInterval.setWidth 32 * 1000 ∧ ∀ t ∈ v.times, t ≤ evt.since
  maxTimer : ∀ evt, v.app.timerReportMaxEvt = some evt → minInterval < maxInterval ∧
    evt.period = maxInterval.setWidth 32 * 1000 ∧ ∀ t ∈ v.times, t ≤ evt.since ∨ ∃ p ∈ v.app.postedAt, t ≤ p
  stamp : v.app.timePosted = TickClock.reading 32 (v.app.postedAt.getD 0)
  posted : ∀ p ∈ v.app.postedAt, p ∈ v.times
  registered : v.times ≠ [] → v.attr.isSome

/-- The callbacks of the slot's timers will follow its own pointer. -/
def Pointed (i : Slot) (v : SlotView) : Prop :=
  v.app.pEntry = some i ∨ v.app.timerReportMinEvt = none ∧ v.app.timerReportMaxEvt = none

variable {minInterval maxInterval : BitVec 16} {v : SlotView} (h : v.Sound minInterval maxInterval)

include h

theorem Sound.setPEntry (pEntry : Option Slot) : (v.setPEntry pEntry).Sound minInterval maxInterval := { h with }

theorem Sound.clearMin : (v.setMin none).Sound minInterval maxInterval := { h with minTimer := nofun }

theorem Sound.clearMax : (v.setMax none).Sound minInterval maxInterval := { h with maxTimer := nofun }

theorem Sound.startMin (hmin : minInterval ≠ 0) :
    (v.setMin (some ⟨v.now, minInterval.setWidth 32 * 1000⟩)).Sound minInterval maxInterval :=
  { h with
    minTimer := by
      rintro evt ⟨⟩
      exact ⟨hmin, rfl, h.past⟩ }

theorem Sound.startMax (hlt : minInterval < maxInterval) :
    (v.setMax (some ⟨v.now, maxInterval.setWidth 32 * 1000⟩)).Sound minInterval maxInterval :=
  { h with
    maxTimer := by
      rintro evt ⟨⟩
      exact ⟨hlt, rfl, fun t ht => .inl (h.past t ht)⟩ }

theorem Sound.elapse (ticks : Nat) : SlotView.Sound minInterval maxInterval { v with now := v.now + ticks } :=
  { h with past := fun t ht => (h.past t ht).trans (Nat.le_add_right ..) }

theorem Sound.past_reported (prevData : AnalogData) : ∀ t ∈ (v.reported prevData).times, t ≤ v.now := by
  intro t ht
  rcases List.mem_cons.mp ht with rfl | ht
  · exact Nat.le_refl _
  · exact h.past t ht

/-- A report with a stamp, while the minimum timer does not run. -/
theorem Sound.post (hidle : v.app.timerReportMinEvt = none) (hattr : v.attr.isSome) (prevData : AnalogData) :
    (v.reported prevData).posted.Sound minInterval maxInterval where
  bound := h.bound
  minInterval_eq := h.minInterval_eq
  maxInterval_eq := h.maxInterval_eq
  past := h.past_reported prevData
  minTimer := by
    intro evt hevt
    rw [show (v.reported prevData).posted.app.timerReportMinEvt = v.app.timerReportMinEvt from rfl, hidle] at hevt
    cases hevt
  maxTimer := by
    intro evt hevt
    obtain ⟨hlt, hperiod, -⟩ := h.maxTimer evt hevt
    exact ⟨hlt, hperiod, fun t ht => .inr ⟨v.now, rfl, h.past_reported prevData t ht⟩⟩
  stamp := rfl
  posted := by
    rintro p ⟨⟩
    exact List.mem_cons_self
  registered := fun _ => hattr

/-- A report without one, while neither timer runs. -/
theorem Sound.report (hmin : v.app.timerReportMinEvt = none) (hmax : v.app.timerReportMaxEvt = none)
    (hattr : v.attr.isSome) (prevData : AnalogData) : (v.reported prevData).Sound minInterval maxInterval where
  bound := h.bound
  minInterval_eq := h.minInterval_eq
  maxInterval_eq := h.maxInterval_eq
  past := h.past_reported prevData
  minTimer := by
    intro evt hevt
    rw [show (v.reported prevData).app.timerReportMinEvt = v.app.timerReportMinEvt from rfl, hmin] at hevt
    cases hevt
  maxTimer := by
    intro evt hevt
    rw [show (v.reported prevData).app.timerReportMaxEvt = v.app.timerReportMaxEvt from rfl, hmax] at hevt
    cases hevt
  stamp := h.stamp
  posted := fun p hp => List.mem_cons_of_mem _ (h.posted p hp)
  registered := fun _ => hattr

theorem Sound.startedMin : v.startedMin.Sound minInterval maxInterval := by
  rw [SlotView.startedMin]
  split
  · rename_i hstart
    rw [h.minInterval_eq] at hstart ⊢
    exact h.startMin hstart.2.1
  · exact h

theorem Sound.startedMax : v.startedMax.Sound minInterval maxInterval := by
  rw [SlotView.startedMax]
  split
  · rename_i hstart
    rw [h.minInterval_eq, h.maxInterval_eq] at hstart
    rw [h.maxInterval_eq]
    exact h.startMax hstart.2
  · exact h

theorem Sound.started (i : Slot) : (v.started i).Sound minInterval maxInterval := by
  rw [SlotView.started]
  split
  · exact (h.setPEntry (some i)).startedMin.startedMax
  · exact h.setPEntry (some i)

/-- Without a minimum interval the minimum timer never runs. -/
theorem Sound.minTimer_eq_none (hmin : minInterval = 0) : v.app.timerReportMinEvt = none := by
  cases hevt : v.app.timerReportMinEvt with
  | none => rfl
  | some evt => exact absurd hmin (h.minTimer evt hevt).1

omit h

theorem pointed_started (i : Slot) (v : SlotView) : (v.started i).Pointed i := by
  left
  simp only [SlotView.started, SlotView.startedMin, SlotView.startedMax]
  split
  · split <;> split <;> rfl
  · rfl

theorem times_started (i : Slot) (v : SlotView) : (v.started i).times = v.times := by
  simp only [SlotView.started, SlotView.startedMin, SlotView.startedMax]
  split
  · split <;> split <;> rfl
  · rfl

end SlotView

namespace Reporting

/-- The invariant of the reporting code for one slot. -/
structure Tracks (i : Slot) (minInterval maxInterval : BitVec 16) (s : Reporting) : Prop where
  linked : s.Linked
  pointed : (s.view i).Pointed i
  sound : (s.view i).Sound minInterval maxInterval

/-- A configure command leaves the entry as it is. -/
def Keeps (i : Slot) (s : Reporting) : ReportEvent → Prop
  | .cfgReport _ reportCfgInfo _ _ => reportCfgInfo i = s.reportCfgInfo i
  | _ => True

variable {i : Slot} {minInterval maxInterval : BitVec 16} {s : Reporting}

theorem Tracks.pEntry_of_min (h : s.Tracks i minInterval maxInterval) {evt : EvTimer}
    (hevt : (s.view i).app.timerReportMinEvt = some evt) : (s.appReporting i).pEntry = some i := by
  apply h.pointed.resolve_right
  intro hnone
  rw [hnone.1] at hevt
  cases hevt

theorem Tracks.pEntry_of_max (h : s.Tracks i minInterval maxInterval) {evt : EvTimer}
    (hevt : (s.view i).app.timerReportMaxEvt = some evt) : (s.appReporting i).pEntry = some i := by
  apply h.pointed.resolve_right
  intro hnone
  rw [hnone.2] at hevt
  cases hevt

theorem tracks_of_eq {v : SlotView} (hlinked : s.Linked) (hview : s.view i = v) (hpointed : v.Pointed i)
    (hsound : v.Sound minInterval maxInterval) : s.Tracks i minInterval maxInterval := by
  subst hview
  exact ⟨hlinked, hpointed, hsound⟩

/-- A step that leaves the slot alone keeps the invariant. -/
theorem Tracks.of_view {s' : Reporting} (h : s.Tracks i minInterval maxInterval) (hlinked : s'.Linked)
    (hview : s'.view i = s.view i) : s'.Tracks i minInterval maxInterval :=
  tracks_of_eq hlinked hview h.pointed h.sound

theorem Tracks.minTimer (h : s.Tracks i minInterval maxInterval) (j : Slot) :
    (s.minTimer j).Tracks i minInterval maxInterval := by
  have htouch : Touches j s (s.minTimer j) := touches_minTimer h.linked
  have hlinked := h.linked.of_touches htouch
  by_cases hij : i = j
  · subst hij
    rcases view_minTimer (h.pointed.imp id And.left) h.sound.bound with
      hview | hview | ⟨evt, hevt, hdue, hview | ⟨hattr, prevData, hview⟩⟩
    · exact h.of_view hlinked hview
    · exact tracks_of_eq hlinked hview (h.pointed.imp id fun hnone => ⟨rfl, hnone.2⟩) h.sound.clearMin
    · have hp := h.pEntry_of_min hevt
      obtain ⟨hmin, hperiod, -⟩ := h.sound.minTimer evt hevt
      rw [hperiod] at hview
      exact tracks_of_eq hlinked hview (.inl hp) (h.sound.startMin hmin)
    · have hp := h.pEntry_of_min hevt
      obtain ⟨hmin, hperiod, -⟩ := h.sound.minTimer evt hevt
      rw [hperiod] at hview
      exact tracks_of_eq hlinked hview (.inl hp) ((h.sound.clearMin.post rfl hattr prevData).startMin hmin)
  · exact h.of_view hlinked (htouch.others i hij)

theorem Tracks.maxTimer (h : s.Tracks i minInterval maxInterval) (j : Slot) :
    (s.maxTimer j).Tracks i minInterval maxInterval := by
  have htouch : Touches j s (s.maxTimer j) := touches_maxTimer h.linked
  have hlinked := h.linked.of_touches htouch
  by_cases hij : i = j
  · subst hij
    rcases maxTimer_cases s i with hidle | ⟨evt, hevt, hdue⟩
    · rw [hidle]
      exact h
    · have hp := h.pEntry_of_max hevt
      obtain ⟨hlt, hperiod, -⟩ := h.sound.maxTimer evt hevt
      have hview := view_maxTimer hevt hdue hp h.sound.bound
      rw [hperiod] at hview
      split at hview
      · rcases hview with ⟨-, hview⟩ | ⟨hattr, prevData, hview⟩
        · exact tracks_of_eq hlinked hview (.inl hp) (h.sound.clearMin.startMax hlt)
        · have hsound := h.sound.clearMin.clearMax.report rfl rfl hattr prevData
          exact tracks_of_eq hlinked hview (.inl hp) (hsound.startMax hlt)
      · exact tracks_of_eq hlinked hview (.inl hp) (h.sound.startMax hlt)
  · exact h.of_view hlinked (htouch.others i hij)

/-- The first loop may start the maximum timer of a slot before its pointer is set. -/
theorem sound_appReportNoMinLimit (h : (s.view i).Sound minInterval maxInterval) (hmax : maxInterval ≠ 0) :
    (s.appReportNoMinLimit.view i).Sound minInterval maxInterval := by
  simp only [appReportNoMinLimit_eq]
  split
  · refine noMinLimitLoop_induction (P := fun s => (s.view i).Sound minInterval maxInterval) ?_ _ h
    intro s j attr h hno hattr
    by_cases hij : i = j
    · subst hij
      have hmaxInterval : (s.reportCfgInfo i).maxInterval = maxInterval := h.maxInterval_eq
      have hmin : minInterval = 0 := by
        rw [← h.minInterval_eq]
        exact (hno.2.resolve_left fun h => hmax (hmaxInterval.symm.trans h)).2
      rcases view_reportNoMinLimit hattr (hmaxInterval ▸ hmax) with hview | ⟨prevData, hview⟩
      · rw [hview]
        exact h
      · rw [hview, hmaxInterval]
        apply (h.post (h.minTimer_eq_none hmin) (by rw [hattr]; rfl) prevData).startMax
        rw [hmin]
        bv_omega
    · rw [view_reportNoMinLimit_ne hij]
      exact h
  · exact h

theorem Tracks.appReportHandler (h : s.Tracks i minInterval maxInterval) (hmax : maxInterval ≠ 0) :
    s.appReportHandler.Tracks i minInterval maxInterval := by
  have hsound := sound_appReportNoMinLimit h.sound hmax
  have hmaxInterval : (s.appReportNoMinLimit.reportCfgInfo i).maxInterval = maxInterval := hsound.maxInterval_eq
  rcases view_appReportHandler h.linked (hmaxInterval ▸ hmax) with hidle | hview
  · rw [hidle]
    exact h
  · exact tracks_of_eq (linked_appReportHandler h.linked) hview (SlotView.pointed_started i _) (hsound.started i)

theorem Tracks.appZclCfgReportCmd (h : s.Tracks i minInterval maxInterval) (endPoint : BitVec 8)
    (attrList : List (BitVec 16)) : (s.appZclCfgReportCmd endPoint attrList).Tracks i minInterval maxInterval := by
  simp only [Reporting.appZclCfgReportCmd_eq]
  split
  · exact h
  · rename_i ii _
    have htouch : Touches ii s (s.setApp ii
        { s.appReporting ii with timerReportMinEvt := none, timerReportMaxEvt := none }) := touches_setApp (.inl rfl)
    by_cases hii : i = ii
    · subst hii
      exact tracks_of_eq (h.linked.of_touches htouch) (view_setApp_self _ _) (.inr ⟨rfl, rfl⟩) h.sound.clearMin.clearMax
    · exact h.of_view (h.linked.of_touches htouch) (htouch.others i hii)

theorem sound_setAttribute (h : (s.view i).Sound minInterval maxInterval) (endPoint : BitVec 8)
    (clusterID attrID : BitVec 16) (data : Nat → Byte) :
    ((s.setAttribute endPoint clusterID attrID data).view i).Sound minInterval maxInterval :=
  { h with
    registered := by
      intro ht
      have hattr := h.registered ht
      simp only [SlotView.attr, Reporting.view, setAttribute] at hattr ⊢
      split
      · rw [Option.isSome_map]
        exact hattr
      · exact hattr }

theorem Tracks.step (h : s.Tracks i minInterval maxInterval) (hmax : maxInterval ≠ 0) {e : ReportEvent}
    (hkeeps : s.Keeps i e) : (s.step e).Tracks i minInterval maxInterval := by
  cases e with
  | elapse ticks => exact ⟨h.linked, h.pointed, h.sound.elapse ticks⟩
  | setAttribute endPoint clusterID attrID data =>
    exact ⟨h.linked, h.pointed, sound_setAttribute h.sound endPoint clusterID attrID data⟩
  | stopReport pending => exact h.of_view h.linked rfl
  | appReportHandler => exact h.appReportHandler hmax
  | minTimer j => exact h.minTimer j
  | maxTimer j => exact h.maxTimer j
  | cfgReport reportNum reportCfgInfo endPoint attrList =>
    have hentry : reportCfgInfo i = s.reportCfgInfo i := hkeeps
    have hview : ({ s with reportNum := reportNum, reportCfgInfo := reportCfgInfo } : Reporting).view i = s.view i := by
      simp only [view, hentry]
      rfl
    have htable : ({ s with reportNum := reportNum, reportCfgInfo := reportCfgInfo } : Reporting).Tracks i
        minInterval maxInterval := h.of_view h.linked hview
    exact htable.appZclCfgReportCmd endPoint attrList

/-- After `app_reporting_init` no timer runs and nothing has been reported. -/
theorem tracks_appReportingInit (hsent : s.sent = []) (hbound : (s.view i).bound = true) :
    s.appReportingInit.Tracks i (s.reportCfgInfo i).minInterval (s.reportCfgInfo i).maxInterval where
  linked := linked_appReportingInit s
  pointed := .inr ⟨rfl, rfl⟩
  sound :=
    { bound := hbound
      minInterval_eq := rfl
      maxInterval_eq := rfl
      past := by simp [view, times, appReportingInit, hsent]
      minTimer := nofun
      maxTimer := nofun
      stamp := rfl
      posted := nofun
      registered := by simp [view, times, appReportingInit, hsent] }

end Reporting

end Watermeter
