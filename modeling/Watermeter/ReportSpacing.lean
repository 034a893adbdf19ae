import Watermeter.ReportTimers
import Mathlib.Data.List.Chain

/-! How far apart the reports of one entry are. The maximum callback compares times modulo a turn of the system timer,
which is a little more than 268 seconds. -/

namespace Watermeter

open NorFlash Transition

/-- Successive times, the newest first, are `gap` apart. -/
def Spaced (gap : Nat) (times : List Nat) : Prop := times.IsChain fun later earlier => earlier + gap ≤ later

instance (gap : Nat) (times : List Nat) : Decidable (Spaced gap times) := inferInstanceAs (Decidable (List.IsChain _ _))

/-- In every run after `app_reporting_init` on a device that is joined, an entry in use that is bound and keeps the two
intervals has its reports a minimum interval apart. -/
def AlwaysSpaced (minInterval maxInterval : BitVec 16) : Prop :=
  ∀ (s : Reporting) (i : Slot) (events : List ReportEvent),
    s.sent = [] → s.joined = true → (s.reportCfgInfo i).used = true →
    (s.reportCfgInfo i).minInterval = minInterval → (s.reportCfgInfo i).maxInterval = maxInterval →
    s.bindingTbl (s.reportCfgInfo i).clusterID (s.reportCfgInfo i).endPoint = true →
    Along Reporting.step (Reporting.Keeps i) s.appReportingInit events →
    Spaced (minInterval.toNat * ticksPerSecond) ((run Reporting.step s.appReportingInit events).times i)

variable {gap now : Nat} {times : List Nat}

theorem Spaced.cons (h : Spaced gap times) (hnow : ∀ t ∈ times, t + gap ≤ now) : Spaced gap (now :: times) :=
  List.IsChain.cons h fun t ht => hnow t (List.mem_of_mem_head? ht)

/-- The minimum intervals for which the span of the maximum callback does not wrap. -/
theorem span_lt_turn {minInterval : BitVec 16} :
    minInterval ≤ 268#16 ↔ minInterval.toNat * ticksPerSecond < 2 ^ 32 := by
  rw [BitVec.le_def]
  change minInterval.toNat ≤ 268 ↔ minInterval.toNat * 16000000 < 2 ^ 32
  omega

namespace Reporting

variable {i : Slot} {minInterval maxInterval : BitVec 16} {s : Reporting}

theorem times_minTimer (h : s.Tracks i minInterval maxInterval) :
    (s.minTimer i).times i = s.times i ∨
      (s.minTimer i).times i = s.now :: s.times i ∧ ∀ t ∈ s.times i, t + minInterval.toNat * ticksPerSecond ≤ s.now := by
  rcases view_minTimer (h.pointed.imp id And.left) h.sound.bound with
    hview | hview | ⟨evt, hevt, hdue, hview | ⟨-, prevData, hview⟩⟩
  · exact .inl (congrArg SlotView.times hview)
  · exact .inl (congrArg SlotView.times hview)
  · exact .inl (congrArg SlotView.times hview)
  · refine .inr ⟨congrArg SlotView.times hview, fun t ht => ?_⟩
    obtain ⟨-, hperiod, hsince⟩ := h.sound.minTimer evt hevt
    exact (Nat.add_le_add_right (hsince t ht) _).trans (hdue.seconds hperiod)

/-- Where the span does not wrap, the counter is right about the time since the stamp. -/
theorem times_maxTimer (h : s.Tracks i minInterval maxInterval)
    (hspan : minInterval = maxInterval ∨ minInterval.toNat * ticksPerSecond < 2 ^ 32) :
    (s.maxTimer i).times i = s.times i ∨
      (s.maxTimer i).times i = s.now :: s.times i ∧ ∀ t ∈ s.times i, t + minInterval.toNat * ticksPerSecond ≤ s.now := by
  rcases maxTimer_cases s i with hidle | ⟨evt, hevt, hdue⟩
  · exact .inl (by rw [hidle])
  obtain ⟨hlt, hperiod, hcovered⟩ := h.sound.maxTimer evt hevt
  have hview := view_maxTimer hevt hdue (h.pEntry_of_max hevt) h.sound.bound
  split at hview
  · rename_i hexceeds
    rcases hview with ⟨-, hview⟩ | ⟨-, prevData, hview⟩
    · exact .inl (congrArg SlotView.times hview)
    · refine .inr ⟨congrArg SlotView.times hview, fun t ht => ?_⟩
      rcases hcovered t ht with hsince | ⟨p, hp, htp⟩
      · have hlate := hdue.seconds hperiod
        have hinterval : minInterval.toNat * ticksPerSecond ≤ maxInterval.toNat * ticksPerSecond :=
          Nat.mul_le_mul_right _ (BitVec.lt_def.mp hlt).le
        omega
      · have hpast : p ≤ s.now := h.sound.past p (h.sound.posted p hp)
        have hposted : (s.view i).app.postedAt = some p := hp
        rw [h.sound.stamp, hposted, h.sound.minInterval_eq] at hexceeds
        have hspan := hspan.resolve_left fun heq => absurd hlt (heq ▸ BitVec.lt_irrefl _)
        have helapsed := hexceeds.elapsed hpast hspan
        omega
  · exact .inl (congrArg SlotView.times hview)

theorem times_appReportHandler (h : s.Tracks i minInterval maxInterval) (hmin : minInterval ≠ 0) (hmax : maxInterval ≠ 0) :
    s.appReportHandler.times i = s.times i := by
  have hlimit : ¬ NoMinLimit (s.reportCfgInfo i) := by
    have hminInterval : (s.reportCfgInfo i).minInterval = minInterval := h.sound.minInterval_eq
    have hmaxInterval : (s.reportCfgInfo i).maxInterval = maxInterval := h.sound.maxInterval_eq
    rw [NoMinLimit, hminInterval, hmaxInterval]
    rintro ⟨-, hzero | ⟨-, hzero⟩⟩
    · exact hmax hzero
    · exact hmin hzero
  have hview := view_appReportNoMinLimit hlimit
  have hentry : s.appReportNoMinLimit.reportCfgInfo i = s.reportCfgInfo i := congrArg SlotView.entry hview
  have hmaxInterval : (s.appReportNoMinLimit.reportCfgInfo i).maxInterval = maxInterval := by
    rw [hentry]
    exact h.sound.maxInterval_eq
  rcases view_appReportHandler h.linked (hmaxInterval ▸ hmax) with hidle | hstarted
  · rw [hidle]
  · calc s.appReportHandler.times i
        = ((s.appReportNoMinLimit.view i).started i).times := congrArg SlotView.times hstarted
      _ = (s.appReportNoMinLimit.view i).times := SlotView.times_started i _
      _ = s.times i := congrArg SlotView.times hview

theorem times_appZclCfgReportCmd (s : Reporting) (i : Slot) (endPoint : BitVec 8) (attrList : List (BitVec 16)) :
    (s.appZclCfgReportCmd endPoint attrList).times i = s.times i := by
  simp only [appZclCfgReportCmd_eq]
  split <;> rfl

/-- A report comes a minimum interval after the last one, or the step sends none. -/
theorem times_step (h : s.Tracks i minInterval maxInterval) (hmin : minInterval ≠ 0) (hmax : maxInterval ≠ 0)
    (hspan : minInterval = maxInterval ∨ minInterval.toNat * ticksPerSecond < 2 ^ 32) (e : ReportEvent) :
    (s.step e).times i = s.times i ∨
      (s.step e).times i = s.now :: s.times i ∧ ∀ t ∈ s.times i, t + minInterval.toNat * ticksPerSecond ≤ s.now := by
  cases e with
  | elapse ticks => exact .inl rfl
  | setAttribute endPoint clusterID attrID data => exact .inl rfl
  | stopReport pending => exact .inl rfl
  | appReportHandler => exact .inl (times_appReportHandler h hmin hmax)
  | minTimer j =>
    by_cases hij : i = j
    · subst hij
      exact times_minTimer h
    · exact .inl (congrArg SlotView.times ((touches_minTimer h.linked).others i hij))
  | maxTimer j =>
    by_cases hij : i = j
    · subst hij
      exact times_maxTimer h hspan
    · exact .inl (congrArg SlotView.times ((touches_maxTimer h.linked).others i hij))
  | cfgReport reportNum reportCfgInfo endPoint attrList => exact .inl (times_appZclCfgReportCmd _ i endPoint attrList)

theorem spaced_run (h : s.Tracks i minInterval maxInterval) (hmin : minInterval ≠ 0) (hmax : maxInterval ≠ 0)
    (hspan : minInterval = maxInterval ∨ minInterval.toNat * ticksPerSecond < 2 ^ 32) {events : List ReportEvent}
    (hspaced : Spaced (minInterval.toNat * ticksPerSecond) (s.times i)) (hkeeps : Along step (Keeps i) s events) :
    Spaced (minInterval.toNat * ticksPerSecond) ((run step s events).times i) := by
  have hstep : ∀ s e, s.Tracks i minInterval maxInterval ∧ Spaced (minInterval.toNat * ticksPerSecond) (s.times i) →
      Keeps i s e → (s.step e).Tracks i minInterval maxInterval ∧
        Spaced (minInterval.toNat * ticksPerSecond) ((s.step e).times i) := by
    rintro s e ⟨h, hspaced⟩ hkeeps
    refine ⟨h.step hmax hkeeps, ?_⟩
    rcases times_step h hmin hmax hspan e with htimes | ⟨htimes, hnow⟩
    · rw [htimes]
      exact hspaced
    · rw [htimes]
      exact hspaced.cons hnow
  exact (Along.invariant hstep ⟨h, hspaced⟩ hkeeps).2

end Reporting

/-! The other intervals: a device with one entry, whose attribute has changed since the last report. -/

def blankEntry : ReportCfgInfo := ⟨0, 0, 0, 0, 0, 0, fun _ => 0, fun _ => 0, false⟩

def oneEntryDevice (minInterval maxInterval : BitVec 16) : Reporting where
  now := 0
  joined := true
  timerStopReportEvt := false
  bindingTbl := fun _ _ => true
  attrTable := fun _ _ _ => some ⟨zclDataTypeBoolean, fun _ => 1#8⟩
  reportNum := 1#8
  reportCfgInfo := fun i =>
    if i = 0 then { blankEntry with minInterval := minInterval, maxInterval := maxInterval, used := true } else blankEntry
  appReporting := fun _ => ⟨none, none, none, 0, none⟩
  atNull := blankEntry
  sent := []

/-- The minimum timer reports when the maximum interval is over, and the maximum timer is served one tick before the
counter has turned once more. -/
def earlyReport (maxInterval : BitVec 16) : List ReportEvent :=
  [.appReportHandler, .elapse (maxInterval.toNat * ticksPerSecond), .minTimer 0, .elapse (2 ^ 32 - 1), .maxTimer 0]

theorem Reporting.view_elapsed (s : Reporting) (i : Slot) (ticks : Nat) :
    ({ s with now := s.now + ticks } : Reporting).view i = { s.view i with now := s.now + ticks } := rfl

section OneEntry

variable {minInterval maxInterval : BitVec 16}

/-- The slot when the handler has started both timers. -/
def armedView (minInterval maxInterval : BitVec 16) : SlotView :=
  ((((oneEntryDevice minInterval maxInterval).appReportingInit.view 0).setPEntry (some 0)).setMin
    (some ⟨0, minInterval.setWidth 32 * 1000⟩)).setMax (some ⟨0, maxInterval.setWidth 32 * 1000⟩)

theorem view_oneEntryDevice_pass (hmin : minInterval ≠ 0) (hlt : minInterval < maxInterval) (hmax : maxInterval < 0xFFFF#16) :
    (oneEntryDevice minInterval maxInterval).appReportingInit.appReportHandler.view 0 = armedView minInterval maxInterval := by
  have hne : maxInterval ≠ 0xFFFF#16 := fun h => absurd hmax (h ▸ BitVec.lt_irrefl _)
  have hpos : maxInterval ≠ 0 := by bv_omega
  have hlimit : ¬ Reporting.NoMinLimit ((oneEntryDevice minInterval maxInterval).appReportingInit.reportCfgInfo 0) := by
    rintro ⟨-, hzero | ⟨-, hzero⟩⟩
    · exact hpos hzero
    · exact hmin hzero
  have hview := Reporting.view_appReportNoMinLimit hlimit
  have hactive : (oneEntryDevice minInterval maxInterval).appReportingInit.zclReportingEntryActiveNumGet ≠ 0 := by
    refine Nat.pos_iff_ne_zero.mp (List.countP_pos_iff.mpr ⟨0, List.mem_finRange 0, ?_⟩)
    exact decide_eq_true hne
  have hentry : ((oneEntryDevice minInterval maxInterval).appReportingInit.appReportNoMinLimit.reportCfgInfo 0).maxInterval =
      maxInterval := congrArg (fun v => v.entry.maxInterval) hview
  rw [Reporting.view_pass (Reporting.linked_appReportingInit _) (by rw [hentry]; exact hpos) ⟨rfl, rfl, hactive⟩, hview,
    SlotView.started, if_pos ⟨rfl, hne, rfl⟩, SlotView.startedMin, if_pos ⟨rfl, hmin, hpos, BitVec.le_of_lt hlt⟩,
    SlotView.startedMax, if_pos ⟨rfl, hlt⟩]
  rfl

/-- The slot when the minimum timer has reported the change. -/
def reportedView (minInterval maxInterval : BitVec 16) (now : Nat) (prevData : AnalogData) : SlotView :=
  (SlotView.reported { armedView minInterval maxInterval with now := now } prevData).posted.setMin
    (some ⟨now, minInterval.setWidth 32 * 1000⟩)

theorem view_minTimer_armed {s : Reporting} {now : Nat}
    (hview : s.view 0 = { armedView minInterval maxInterval with now := now })
    (hlate : minInterval.toNat * ticksPerSecond ≤ now) :
    ∃ prevData, (s.minTimer 0).view 0 = reportedView minInterval maxInterval now prevData := by
  have hnow : s.now = now := congrArg SlotView.now hview
  have hentry : s.reportCfgInfo 0 =
      { blankEntry with minInterval := minInterval, maxInterval := maxInterval, used := true } :=
    congrArg SlotView.entry hview
  have hdue : EvTimer.Due ⟨0, minInterval.setWidth 32 * 1000⟩ s.now := by
    rw [due_seconds, hnow, Nat.zero_add]
    exact hlate
  have hattr : (s.view 0).attr = some ⟨zclDataTypeBoolean, fun _ => 1#8⟩ := by
    rw [hview]
    rfl
  obtain ⟨prevData, hreported⟩ := Reporting.view_minTimer_changed (by rw [hview]; rfl) hdue
    (congrArg (fun v => v.app.pEntry) hview) (by rw [hview]; rfl) hattr (by rw [hentry]; rfl)
  rw [hview, hnow] at hreported
  exact ⟨prevData, hreported⟩

/-- One tick short of a turn later the maximum timer compares a small span with nearly a turn. -/
theorem times_maxTimer_reported {s : Reporting} {now : Nat} {prevData : AnalogData}
    (hview : s.view 0 = { reportedView minInterval maxInterval now prevData with now := now + (2 ^ 32 - 1) })
    (hlate : maxInterval.toNat * ticksPerSecond ≤ now)
    (hspan : minInterval.toNat * ticksPerSecond % 2 ^ 32 < 2 ^ 32 - 1) :
    (s.maxTimer 0).times 0 = [now + (2 ^ 32 - 1), now] := by
  have hnow : s.now = now + (2 ^ 32 - 1) := congrArg SlotView.now hview
  have hdue : EvTimer.Due ⟨0, maxInterval.setWidth 32 * 1000⟩ s.now := by
    rw [due_seconds, hnow, Nat.zero_add]
    exact hlate.trans (Nat.le_add_right _ _)
  have hfired := Reporting.view_maxTimer (by rw [hview]; rfl) hdue (congrArg (fun v => v.app.pEntry) hview)
    (by rw [hview]; rfl)
  have hexceeds : TickClock.Exceeds s.now (s.view 0).app.timePosted
      (BitVec.ofNat 32 ((s.view 0).entry.minInterval.toNat * ticksPerSecond)) := by
    rw [hnow, hview]
    exact TickClock.exceeds_before_turn _ hspan
  rw [if_pos hexceeds] at hfired
  rcases hfired with ⟨hnone, -⟩ | ⟨-, prevData', hfired⟩
  · rw [hview] at hnone
    cases hnone
  · calc (s.maxTimer 0).times 0
        = s.now :: (s.view 0).times := congrArg SlotView.times hfired
      _ = [now + (2 ^ 32 - 1), now] := by
        rw [hnow, hview]
        rfl

/-- A change that the minimum timer reports, and the report of the maximum timer nearly a turn later. -/
theorem times_earlyReport (hmin : minInterval ≠ 0) (hlt : minInterval < maxInterval) (hmax : maxInterval < 0xFFFF#16)
    (hspan : minInterval.toNat * ticksPerSecond % 2 ^ 32 < 2 ^ 32 - 1) :
    (run Reporting.step (oneEntryDevice minInterval maxInterval).appReportingInit (earlyReport maxInterval)).times 0 =
      [maxInterval.toNat * ticksPerSecond + (2 ^ 32 - 1), maxInterval.toNat * ticksPerSecond] := by
  have hview := view_oneEntryDevice_pass hmin hlt hmax
  simp only [earlyReport, run_cons, run_nil, Reporting.step]
  generalize (oneEntryDevice minInterval maxInterval).appReportingInit.appReportHandler = armed at hview ⊢
  have hzero : armed.now = 0 := congrArg SlotView.now hview
  have hlate : ({ armed with now := armed.now + maxInterval.toNat * ticksPerSecond } : Reporting).view 0 =
      { armedView minInterval maxInterval with now := maxInterval.toNat * ticksPerSecond } := by
    rw [Reporting.view_elapsed, hview, hzero, Nat.zero_add]
  generalize ({ armed with now := armed.now + maxInterval.toNat * ticksPerSecond } : Reporting) = late at hlate ⊢
  obtain ⟨prevData, hreported⟩ := view_minTimer_armed hlate (Nat.mul_le_mul_right _ (BitVec.lt_def.mp hlt).le)
  have hnow : (late.minTimer 0).now = maxInterval.toNat * ticksPerSecond := congrArg SlotView.now hreported
  apply times_maxTimer_reported _ (Nat.le_refl _) hspan
  · exact prevData
  · rw [Reporting.view_elapsed, hreported, hnow]

end OneEntry

/-- The reports of an entry stay a minimum interval apart exactly when its maximum timer never runs or the minimum
interval is less than a turn of the system timer. -/
theorem alwaysSpaced_iff {minInterval maxInterval : BitVec 16} (hmin : 0 < minInterval) (hle : minInterval ≤ maxInterval)
    (hmax : maxInterval < 0xFFFF#16) :
    AlwaysSpaced minInterval maxInterval ↔ minInterval = maxInterval ∨ minInterval ≤ 268#16 := by
  have hminNe : minInterval ≠ 0 := by bv_omega
  have hmaxNe : maxInterval ≠ 0 := by bv_omega
  constructor
  · intro hspaced
    by_contra hlong
    obtain ⟨hne, hlong⟩ := not_or.mp hlong
    have hlt : minInterval < maxInterval := by bv_omega
    have hspan : minInterval.toNat * ticksPerSecond % 2 ^ 32 < 2 ^ 32 - 1 := by
      change minInterval.toNat * 16000000 % 2 ^ 32 < 2 ^ 32 - 1
      omega
    have hearly := hspaced (oneEntryDevice minInterval maxInterval) 0 (earlyReport maxInterval) rfl rfl rfl rfl rfl rfl
      (by simp [earlyReport, Reporting.Keeps])
    rw [times_earlyReport hminNe hlt hmax hspan, Spaced, List.isChain_pair] at hearly
    rw [span_lt_turn] at hlong
    omega
  · rintro hspan s i events hsent - - rfl rfl hbound hkeeps
    refine Reporting.spaced_run (Reporting.tracks_appReportingInit hsent hbound) hminNe hmaxNe
      (hspan.imp_right span_lt_turn.mp) ?_ hkeeps
    simp [Reporting.times, Reporting.appReportingInit, hsent, Spaced]

theorem alwaysSpaced_minute : AlwaysSpaced 60#16 300#16 :=
  (alwaysSpaced_iff (by decide) (by decide) (by decide)).mpr (.inr (by decide))

/-- With 300 and 400 seconds, and every timer on time, the maximum timer reports 100 seconds after the minimum timer. -/
theorem reports_too_close : ¬ ∀ minInterval maxInterval : BitVec 16, 0 < minInterval → minInterval ≤ maxInterval →
    maxInterval < 0xFFFF#16 → AlwaysSpaced minInterval maxInterval := by
  intro hspaced
  have hearly := hspaced 300#16 400#16 (by decide) (by decide) (by decide) (oneEntryDevice 300#16 400#16) 0
    [.appReportHandler, .elapse (300 * ticksPerSecond), .minTimer 0, .elapse (100 * ticksPerSecond), .maxTimer 0]
    rfl rfl rfl rfl rfl rfl (by simp [Reporting.Keeps])
  revert hearly
  decide +kernel

end Watermeter
