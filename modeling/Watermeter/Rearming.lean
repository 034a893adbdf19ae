import Watermeter.CfgReport

/-! Which entries `app_zclCfgReportCmd` takes the timers from, which it should take them from, and what becomes of an
entry without its timers. -/

namespace Watermeter

open NorFlash Transition

namespace Reporting

/-- No timer of the slot is pending. -/
def Idle (s : Reporting) (i : Slot) : Prop :=
  (s.appReporting i).timerReportMinEvt = none ∧ (s.appReporting i).timerReportMaxEvt = none

theorem Idle.cancelled {s : Reporting} {i : Slot} (h : s.Idle i) :
    { s.appReporting i with timerReportMinEvt := none, timerReportMaxEvt := none } = s.appReporting i := by
  obtain ⟨hmin, hmax⟩ := h
  rcases happ : s.appReporting i with ⟨minEvt, maxEvt, pEntry, timePosted, postedAt⟩
  rw [happ] at hmin hmax
  obtain rfl : minEvt = none := hmin
  obtain rfl : maxEvt = none := hmax
  rfl

instance (s : Reporting) (i : Slot) : Decidable (s.Idle i) := inferInstanceAs (Decidable (_ ∧ _))

/-- The slot passes the test of `app_zclCfgReportCmd` for the attribute id of a record. -/
def Named (s : Reporting) (endPoint : BitVec 8) (attrID : BitVec 16) (k : Slot) : Prop :=
  let e := s.entry (s.appReporting k).pEntry
  e.used = true ∧ e.endPoint = endPoint ∧ e.attrID = attrID

/-- The first slot that passes it for the first record that any slot passes it for. -/
def FirstNamed (s : Reporting) (endPoint : BitVec 8) (attrList : List (BitVec 16)) (k : Slot) : Prop :=
  ∃ xs attrID ys, attrList = xs ++ attrID :: ys ∧ (∀ a ∈ xs, ∀ j, ¬ s.Named endPoint a j) ∧
    s.Named endPoint attrID k ∧ ∀ j < k, ¬ s.Named endPoint attrID j

/-- A pass that comes to nothing, or another event that leaves the entry as it is. -/
def Waits (i : Slot) (s : Reporting) : ReportEvent → Prop
  | .appReportHandler => s.joined = false ∨ s.timerStopReportEvt = true
  | e => s.Keeps i e

/-- The timers a pass starts for an entry, from none. -/
def StartsTimers (s : Reporting) (e : ReportCfgInfo) (i : Slot) : Prop :=
  (s.appReportHandler.appReporting i).timerReportMinEvt =
      (if e.minInterval ≠ 0 ∧ e.minInterval ≤ e.maxInterval then
        some (s.schedule (e.minInterval.setWidth 32 * 1000)) else none) ∧
    (s.appReportHandler.appReporting i).timerReportMaxEvt =
      if e.minInterval < e.maxInterval then some (s.schedule (e.maxInterval.setWidth 32 * 1000)) else none

/-- What it means for an entry to be armed again: its timers are cancelled, the next pass that comes to anything starts
them with the intervals that the entry has now, and a disabled entry is not reported. An entry with no maximum interval
has no timers to start. -/
structure Rearmed (s : Reporting) (i : Slot) : Prop where
  idle : s.Idle i
  starts : ∀ events, Along step (Waits i) s events → (run step s events).joined = true →
    (run step s events).timerStopReportEvt = false → (run step s events).zclReportingEntryActiveNumGet ≠ 0 →
    ((run step s events).view i).bound = true → (s.reportCfgInfo i).used = true →
    (s.reportCfgInfo i).maxInterval ≠ 0 → (s.reportCfgInfo i).maxInterval ≠ 0xFFFF#16 →
      (run step s events).StartsTimers (s.reportCfgInfo i) i
  silent : (s.reportCfgInfo i).maxInterval = 0xFFFF#16 → ∀ events, Along step (Keeps i) s events →
    (run step s events).times i = s.times i

/-- An entry in use that one of the accepted attributes of a command is for. -/
def Accepted (s : Reporting) (endPoint : BitVec 8) (clusterId : BitVec 16) (accepted : List (BitVec 16)) (i : Slot) : Prop :=
  let e := s.reportCfgInfo i
  e.used = true ∧ e.endPoint = endPoint ∧ e.clusterID = clusterId ∧ e.attrID ∈ accepted

instance (s : Reporting) (endPoint : BitVec 8) (clusterId : BitVec 16) (accepted : List (BitVec 16)) (i : Slot) :
    Decidable (s.Accepted endPoint clusterId accepted i) := inferInstanceAs (Decidable (_ ∧ _))

variable {s s' : Reporting} {i j k : Slot}

/-! ### The search -/

theorem finRange_find?_eq_some {n : Nat} {p : Fin n → Bool} {k : Fin n} :
    (List.finRange n).find? p = some k ↔ p k = true ∧ ∀ j < k, p j = false := by
  rw [List.find?_eq_some_iff_getElem]
  apply and_congr_right
  intro _
  constructor
  · rintro ⟨i, hi, hik, hbefore⟩ j hj
    have hlt : j.val < i := by
      rw [← hik, List.getElem_finRange] at hj
      exact hj
    have := hbefore j.val hlt
    rw [List.getElem_finRange] at this
    exact (Bool.not_eq_true' _).mp this
  · intro hbefore
    refine ⟨k.val, by rw [List.length_finRange]; exact k.isLt, by rw [List.getElem_finRange]; rfl, fun j hj => ?_⟩
    rw [List.getElem_finRange, Bool.not_eq_true']
    exact hbefore _ hj

/-- The two loops of `app_zclCfgReportCmd`, as far as they search. -/
def search (s : Reporting) (endPoint : BitVec 8) (attrList : List (BitVec 16)) : Option Slot :=
  attrList.findSome? fun attrID => (List.finRange zclReportingTableNum).find? fun ii =>
    let e := s.entry (s.appReporting ii).pEntry
    e.used && e.endPoint = endPoint && e.attrID = attrID

theorem appZclCfgReportCmd_search (s : Reporting) (endPoint : BitVec 8) (attrList : List (BitVec 16)) :
    s.appZclCfgReportCmd endPoint attrList = match s.search endPoint attrList with
      | none => s
      | some ii => s.setApp ii { s.appReporting ii with timerReportMinEvt := none, timerReportMaxEvt := none } :=
  appZclCfgReportCmd_eq s endPoint attrList

/-- The test of the search. -/
theorem named_iff {endPoint : BitVec 8} {attrID : BitVec 16} {j : Slot} :
    ((s.entry (s.appReporting j).pEntry).used && (s.entry (s.appReporting j).pEntry).endPoint = endPoint &&
      (s.entry (s.appReporting j).pEntry).attrID = attrID) = true ↔ s.Named endPoint attrID j := by
  simp only [Named, Bool.and_eq_true, decide_eq_true_iff, and_assoc]

theorem search_eq_some {endPoint : BitVec 8} {attrList : List (BitVec 16)} :
    s.search endPoint attrList = some k ↔ s.FirstNamed endPoint attrList k := by
  rw [search, List.findSome?_eq_some_iff]
  simp only [finRange_find?_eq_some, List.find?_eq_none, named_iff, ← Bool.not_eq_true]
  constructor
  · rintro ⟨xs, attrID, ys, hsplit, ⟨hk, hbefore⟩, hxs⟩
    exact ⟨xs, attrID, ys, hsplit, fun a ha j => hxs a ha j (List.mem_finRange j), hk, hbefore⟩
  · rintro ⟨xs, attrID, ys, hsplit, hxs, hk, hbefore⟩
    exact ⟨xs, attrID, ys, hsplit, ⟨hk, hbefore⟩, fun a ha j _ => hxs a ha j⟩

instance (s : Reporting) (endPoint : BitVec 8) (attrList : List (BitVec 16)) (k : Slot) :
    Decidable (s.FirstNamed endPoint attrList k) := decidable_of_iff _ search_eq_some

/-- The slot at which the search stops loses its timers, and no other does. -/
theorem appReporting_appZclCfgReportCmd (s : Reporting) (endPoint : BitVec 8) (attrList : List (BitVec 16)) (i : Slot) :
    s.FirstNamed endPoint attrList i ∧ (s.appZclCfgReportCmd endPoint attrList).appReporting i =
      { s.appReporting i with timerReportMinEvt := none, timerReportMaxEvt := none } ∨
    ¬ s.FirstNamed endPoint attrList i ∧
      (s.appZclCfgReportCmd endPoint attrList).appReporting i = s.appReporting i := by
  rw [appZclCfgReportCmd_search, ← search_eq_some]
  rcases s.search endPoint attrList with _ | k
  · exact .inr ⟨by simp, rfl⟩
  · by_cases hik : k = i
    · subst hik
      exact .inl ⟨rfl, Function.update_self ..⟩
    · exact .inr ⟨fun h => hik (Option.some.inj h), Function.update_of_ne (Ne.symm hik) ..⟩

/-! ### An entry without its timers -/

theorem linked_appZclCfgReportCmd (hlinked : s.Linked) (endPoint : BitVec 8) (attrList : List (BitVec 16)) :
    (s.appZclCfgReportCmd endPoint attrList).Linked := by
  intro i p hp
  rcases appReporting_appZclCfgReportCmd s endPoint attrList i with ⟨-, happ⟩ | ⟨-, happ⟩
  · rw [happ] at hp
    exact hlinked i p hp
  · rw [happ] at hp
    exact hlinked i p hp

theorem linked_step (hlinked : s.Linked) (e : ReportEvent) : (s.step e).Linked := by
  cases e with
  | elapse ticks => exact hlinked
  | setAttribute endPoint clusterID attrID data => exact hlinked
  | stopReport pending => exact hlinked
  | appReportHandler => exact linked_appReportHandler hlinked
  | minTimer j => exact hlinked.of_touches (touches_minTimer hlinked)
  | maxTimer j => exact hlinked.of_touches (touches_maxTimer hlinked)
  | cfgReport reportNum reportCfgInfo endPoint attrList =>
    have htable : ({ s with reportNum := reportNum, reportCfgInfo := reportCfgInfo } : Reporting).Linked := hlinked
    exact linked_appZclCfgReportCmd htable endPoint attrList

theorem linked_run (hlinked : s.Linked) (events : List ReportEvent) : (run step s events).Linked :=
  run_invariant (P := Linked) (fun _ e hs => linked_step hs e) hlinked events

/-- The entry is as it was, no timer of its slot is pending, and it has not been reported. -/
structure Still (i : Slot) (s s' : Reporting) : Prop where
  idle : s'.Idle i
  entry : s'.reportCfgInfo i = s.reportCfgInfo i
  times : s'.times i = s.times i

theorem Still.refl (hidle : s.Idle i) : Still i s s := ⟨hidle, rfl, rfl⟩

theorem Still.trans {s'' : Reporting} (h : Still i s s') (h' : Still i s' s'') : Still i s s'' :=
  ⟨h'.idle, h'.entry.trans h.entry, h'.times.trans h.times⟩

theorem Still.of_view (hidle : s.Idle i) (hview : s'.view i = s.view i) : Still i s s' where
  idle := by
    have happ : s'.appReporting i = s.appReporting i := congrArg SlotView.app hview
    rw [Idle, happ]
    exact hidle
  entry := congrArg SlotView.entry hview
  times := congrArg SlotView.times hview

theorem still_minTimer (hlinked : s.Linked) (hidle : s.Idle i) (j : Slot) : Still i s (s.minTimer j) := by
  by_cases hij : i = j
  · subst hij
    rw [minTimer, hidle.1]
    exact .refl hidle
  · exact .of_view hidle ((touches_minTimer hlinked).others i hij)

theorem still_maxTimer (hlinked : s.Linked) (hidle : s.Idle i) (j : Slot) : Still i s (s.maxTimer j) := by
  by_cases hij : i = j
  · subst hij
    rw [maxTimer, hidle.2]
    exact .refl hidle
  · exact .of_view hidle ((touches_maxTimer hlinked).others i hij)

theorem still_appZclCfgReportCmd (hidle : s.Idle i) (endPoint : BitVec 8) (attrList : List (BitVec 16)) :
    Still i s (s.appZclCfgReportCmd endPoint attrList) where
  idle := by
    rcases appReporting_appZclCfgReportCmd s endPoint attrList i with ⟨-, happ⟩ | ⟨-, happ⟩
    · rw [Idle, happ]
      exact ⟨rfl, rfl⟩
    · rw [Idle, happ]
      exact hidle
  entry := by
    rw [appZclCfgReportCmd_search]
    split <;> rfl
  times := times_appZclCfgReportCmd s i endPoint attrList

/-- An event other than a pass of the handler. -/
theorem still_step (hlinked : s.Linked) (hidle : s.Idle i) {e : ReportEvent} (hkeeps : s.Keeps i e)
    (hpass : e = .appReportHandler → Still i s s.appReportHandler) : Still i s (s.step e) := by
  cases e with
  | elapse ticks => exact ⟨hidle, rfl, rfl⟩
  | setAttribute endPoint clusterID attrID data => exact ⟨hidle, rfl, rfl⟩
  | stopReport pending => exact ⟨hidle, rfl, rfl⟩
  | appReportHandler => exact hpass rfl
  | minTimer j => exact still_minTimer hlinked hidle j
  | maxTimer j => exact still_maxTimer hlinked hidle j
  | cfgReport reportNum reportCfgInfo endPoint attrList =>
    have htable : Still i s { s with reportNum := reportNum, reportCfgInfo := reportCfgInfo } := ⟨hidle, hkeeps, rfl⟩
    exact htable.trans (still_appZclCfgReportCmd htable.idle endPoint attrList)

theorem still_run {P : Reporting → ReportEvent → Prop} (hlinked : s.Linked) (hidle : s.Idle i)
    (hstep : ∀ s' e, s'.Linked → Still i s s' → P s' e → Still i s' (s'.step e)) {events : List ReportEvent}
    (h : Along step P s events) : Still i s (run step s events) := by
  have hinv : ∀ s' e, s'.Linked ∧ Still i s s' → P s' e → (s'.step e).Linked ∧ Still i s (s'.step e) := by
    rintro s' e ⟨hlinked', hstill⟩ hP
    exact ⟨linked_step hlinked' e, hstill.trans (hstep s' e hlinked' hstill hP)⟩
  exact (Along.invariant hinv ⟨hlinked, .refl hidle⟩ h).2

/-- No pass does anything for a disabled entry. -/
theorem still_appReportHandler (hlinked : s.Linked) (hidle : s.Idle i)
    (hmax : (s.reportCfgInfo i).maxInterval = 0xFFFF#16) : Still i s s.appReportHandler := by
  have hlimit : ¬ NoMinLimit (s.reportCfgInfo i) := by
    rintro ⟨-, hzero | ⟨hne, -⟩⟩
    · rw [hmax] at hzero
      exact absurd hzero (by decide)
    · exact hne hmax
  have hview := view_appReportNoMinLimit hlimit
  have hentry : s.appReportNoMinLimit.reportCfgInfo i = s.reportCfgInfo i := congrArg SlotView.entry hview
  have hmax₀ : (s.appReportNoMinLimit.reportCfgInfo i).maxInterval ≠ 0 := by
    rw [hentry, hmax]
    decide
  rcases view_appReportHandler hlinked hmax₀ with hheld | hstarted
  · rw [hheld]
    exact .refl hidle
  · have hpEntry : s.appReportHandler.view i = (s.view i).setPEntry (some i) := by
      rw [hstarted, hview, SlotView.started, if_neg fun h => h.2.1 hmax]
    have happ : s.appReportHandler.appReporting i = { s.appReporting i with pEntry := some i } :=
      congrArg SlotView.app hpEntry
    refine ⟨?_, congrArg SlotView.entry hpEntry, congrArg SlotView.times hpEntry⟩
    rw [Idle, happ]
    exact hidle

/-- What the first loop of a pass may leave of an entry that had no timers. -/
structure Fresh (e : ReportCfgInfo) (now : Nat) (v : SlotView) : Prop where
  now_eq : v.now = now
  entry : ∃ prevData, v.entry = { e with prevData := prevData }
  bound : v.bound = true
  minTimer : v.app.timerReportMinEvt = none
  maxTimer : v.app.timerReportMaxEvt = none ∨ e.minInterval < e.maxInterval ∧
    v.app.timerReportMaxEvt = some ⟨now, e.maxInterval.setWidth 32 * 1000⟩

/-- A report that the first loop sends keeps the entry fresh. -/
theorem Fresh.reportNoMinLimit {e : ReportCfgInfo} {attr : ZclAttrInfo} (h : Fresh e s.now (s'.view i))
    (hmax : e.maxInterval ≠ 0) (hno : NoMinLimit (s'.reportCfgInfo i))
    (hattr : s'.zclFindAttribute (s'.reportCfgInfo i).endPoint (s'.reportCfgInfo i).clusterID (s'.reportCfgInfo i).attrID =
      some attr) : Fresh e s.now ((s'.reportNoMinLimit i attr).view i) := by
  obtain ⟨prevData₀, hentry⟩ := h.entry
  have hentry : s'.reportCfgInfo i = { e with prevData := prevData₀ } := hentry
  have hmax' : (s'.reportCfgInfo i).maxInterval ≠ 0 := by
    rw [hentry]
    exact hmax
  have hmin : e.minInterval = 0 := by
    rw [hentry] at hno
    exact (hno.2.resolve_left hmax).2
  have hnow : s'.now = s.now := h.now_eq
  rcases view_reportNoMinLimit hattr hmax' with hview | ⟨prevData, hview⟩
  · rw [hview]
    exact h
  · rw [hview, hnow]
    refine ⟨h.now_eq, ⟨prevData, ?_⟩, h.bound, h.minTimer, .inr ⟨?_, ?_⟩⟩
    · change { s'.reportCfgInfo i with prevData := prevData } = _
      rw [hentry]
    · rw [hmin]
      bv_omega
    · change some _ = some _
      rw [hentry]

theorem fresh_appReportNoMinLimit (hidle : s.Idle i) (hbound : (s.view i).bound = true)
    (hmax : (s.reportCfgInfo i).maxInterval ≠ 0) :
    Fresh (s.reportCfgInfo i) s.now (s.appReportNoMinLimit.view i) := by
  have hfresh : Fresh (s.reportCfgInfo i) s.now (s.view i) :=
    ⟨rfl, ⟨_, rfl⟩, hbound, hidle.1, .inl hidle.2⟩
  simp only [appReportNoMinLimit_eq]
  split
  · refine noMinLimitLoop_induction (P := fun s' => Fresh (s.reportCfgInfo i) s.now (s'.view i)) ?_ _ hfresh
    intro s' j attr h hno hattr
    by_cases hij : i = j
    · subst hij
      exact h.reportNoMinLimit hmax hno hattr
    · rw [view_reportNoMinLimit_ne hij]
      exact h
  · exact hfresh

section Started

variable {e : ReportCfgInfo} {now : Nat} {v : SlotView}

theorem Fresh.started_min (h : Fresh e now v) (hused : e.used = true) (hmax : e.maxInterval ≠ 0)
    (hmaxOn : e.maxInterval ≠ 0xFFFF#16) :
    (v.started i).app.timerReportMinEvt =
      if e.minInterval ≠ 0 ∧ e.minInterval ≤ e.maxInterval then some ⟨now, e.minInterval.setWidth 32 * 1000⟩ else none := by
  obtain ⟨hnow, ⟨prevData, hentry⟩, hbound, hmin, -⟩ := h
  have hcancel : ∀ w : SlotView, w.startedMax.app.timerReportMinEvt = w.app.timerReportMinEvt := by
    intro w
    rw [SlotView.startedMax]
    split <;> rfl
  rw [SlotView.started, hentry, if_pos ⟨hused, hmaxOn, hbound⟩, hcancel, SlotView.startedMin]
  simp only [SlotView.setPEntry, hentry, hmin, hnow, Option.isNone_none, true_and, hmax, ne_eq, not_false_eq_true]
  split <;> rfl

theorem Fresh.started_max (h : Fresh e now v) (hused : e.used = true) (hmaxOn : e.maxInterval ≠ 0xFFFF#16) :
    (v.started i).app.timerReportMaxEvt =
      if e.minInterval < e.maxInterval then some ⟨now, e.maxInterval.setWidth 32 * 1000⟩ else none := by
  obtain ⟨hnow, ⟨prevData, hentry⟩, hbound, -, hmax⟩ := h
  have hkept : (v.setPEntry (some i)).startedMin.app.timerReportMaxEvt = v.app.timerReportMaxEvt := by
    rw [SlotView.startedMin]
    split <;> rfl
  have hentry' : (v.setPEntry (some i)).startedMin.entry = { e with prevData := prevData } := by
    rw [SlotView.startedMin]
    split <;> exact hentry
  have hnow' : (v.setPEntry (some i)).startedMin.now = now := by
    rw [SlotView.startedMin]
    split <;> exact hnow
  rw [SlotView.started, hentry, if_pos ⟨hused, hmaxOn, hbound⟩, SlotView.startedMax, hkept, hentry', hnow']
  rcases hmax with hnone | ⟨hlt, hsome⟩
  · rw [hnone]
    by_cases hlt : e.minInterval < e.maxInterval
    · rw [if_pos ⟨rfl, hlt⟩, if_pos hlt]
      rfl
    · rw [if_neg fun h => hlt h.2, if_neg hlt, hkept, hnone]
  · have hruns : ¬ v.app.timerReportMaxEvt.isNone = true := by simp [hsome]
    rw [if_neg fun h => hruns h.1, if_pos hlt, hkept, hsome]

end Started

/-- The second loop then starts both timers that the intervals call for. -/
theorem startsTimers_of_idle (hlinked : s.Linked) (hidle : s.Idle i) (hjoined : s.joined = true)
    (hstop : s.timerStopReportEvt = false) (hactive : s.zclReportingEntryActiveNumGet ≠ 0)
    (hbound : (s.view i).bound = true) (hused : (s.reportCfgInfo i).used = true)
    (hmax : (s.reportCfgInfo i).maxInterval ≠ 0) (hmaxOn : (s.reportCfgInfo i).maxInterval ≠ 0xFFFF#16) :
    s.StartsTimers (s.reportCfgInfo i) i := by
  have hfresh := fresh_appReportNoMinLimit hidle hbound hmax
  obtain ⟨prevData, hentry⟩ := hfresh.entry
  have hentry : s.appReportNoMinLimit.reportCfgInfo i = { s.reportCfgInfo i with prevData := prevData } := hentry
  have hmax' : (s.appReportNoMinLimit.reportCfgInfo i).maxInterval ≠ 0 := by
    rw [hentry]
    exact hmax
  have hpass := view_pass hlinked hmax' ⟨hjoined, hstop, hactive⟩
  have happ : s.appReportHandler.appReporting i = ((s.appReportNoMinLimit.view i).started i).app :=
    congrArg SlotView.app hpass
  rw [StartsTimers, happ]
  exact ⟨hfresh.started_min hused hmax hmaxOn, hfresh.started_max hused hmaxOn⟩

theorem rearmed_of_idle (hlinked : s.Linked) (hidle : s.Idle i) : s.Rearmed i where
  idle := hidle
  starts := by
    intro events hwaits hjoined hstop hactive hbound hused hmax hmaxOn
    have hstill : Still i s (run step s events) := by
      refine still_run hlinked hidle (fun s' e hlinked' h hwait => ?_) hwaits
      cases e with
      | appReportHandler =>
        have hheld : ¬ s'.Passes := by
          rintro ⟨hjoined', hstop', -⟩
          rcases hwait with hleft | hstopped
          · exact Bool.false_ne_true (hleft.symm.trans hjoined')
          · exact Bool.false_ne_true (hstop'.symm.trans hstopped)
        rw [step, appReportHandler_held hheld]
        exact .refl h.idle
      | elapse ticks => exact ⟨h.idle, rfl, rfl⟩
      | setAttribute endPoint clusterID attrID data => exact ⟨h.idle, rfl, rfl⟩
      | stopReport pending => exact ⟨h.idle, rfl, rfl⟩
      | minTimer j => exact still_minTimer hlinked' h.idle j
      | maxTimer j => exact still_maxTimer hlinked' h.idle j
      | cfgReport reportNum reportCfgInfo endPoint attrList =>
        exact still_step hlinked' h.idle (e := .cfgReport reportNum reportCfgInfo endPoint attrList) hwait (by simp)
    have hentry := hstill.entry
    rw [← hentry] at hused hmax hmaxOn ⊢
    exact startsTimers_of_idle (linked_run hlinked events) hstill.idle hjoined hstop hactive hbound hused hmax hmaxOn
  silent := by
    intro hmax events hkeeps
    refine (still_run hlinked hidle (fun s' e hlinked' h hkeep => ?_) hkeeps).times
    apply still_step hlinked' h.idle hkeep
    intro _
    apply still_appReportHandler hlinked' h.idle
    rw [h.entry]
    exact hmax

end Reporting

namespace CfgDevice

variable {d : CfgDevice} {endpoint : BitVec 8} {profileId clusterId : BitVec 16}

/-- The stack changes the table and not the timers. -/
theorem appReporting_zclConfigureReporting (d : CfgDevice) (r : CfgReportRec) :
    (zclConfigureReporting endpoint profileId clusterId d r).2.appReporting = d.appReporting := by
  have hupdate (i : Slot) : (d.entryUpdate i endpoint profileId clusterId r).appReporting = d.appReporting := by
    rw [entryUpdate]
    split <;> rfl
  have hrst (i : Slot) : (d.entryRst i).appReporting = d.appReporting := by
    rw [entryRst]
    split <;> rfl
  have hadd : (d.updateOrAdd endpoint profileId clusterId r).2.appReporting = d.appReporting := by
    rw [updateOrAdd]
    split
    · exact hupdate _
    · split
      · rfl
      · exact hupdate _
  unfold zclConfigureReporting
  split
  · rfl
  · split_ifs
    · rfl
    · rfl
    · rfl
    · split
      · rfl
      · exact hadd
    · split
      · rfl
      · exact hrst _
    · exact hadd
    · rfl
    · exact hadd

theorem appReporting_zclConfigReportHandler (d : CfgDevice) (recs : List CfgReportRec) :
    (zclConfigReportHandler endpoint profileId clusterId d recs).1.appReporting = d.appReporting := by
  induction recs generalizing d with
  | nil => rfl
  | cons r recs ih =>
    rw [zclConfigReportHandler, ih]
    exact appReporting_zclConfigureReporting d r

/-- A configure-report command: the stack has changed the table when `app_zclCfgReportCmd` gets the records. -/
def cfgReportCmd (d : CfgDevice) (endpoint : BitVec 8) (profileId clusterId : BitVec 16) (recs : List CfgReportRec) :
    Reporting :=
  (zclConfigReportHandler endpoint profileId clusterId d recs).1.appZclCfgReportCmd endpoint
    (recs.map CfgReportRec.attrID)

/-- The entries of the accepted records are armed again, and the timers of the others left alone. -/
def RearmsExactly (d : CfgDevice) (endpoint : BitVec 8) (profileId clusterId : BitVec 16) (recs : List CfgReportRec) :
    Prop :=
  ∀ i,
    let handled := zclConfigReportHandler endpoint profileId clusterId d recs
    (handled.1.Accepted endpoint clusterId handled.2 i → (d.cfgReportCmd endpoint profileId clusterId recs).Rearmed i) ∧
    (¬ handled.1.Accepted endpoint clusterId handled.2 i →
      (d.cfgReportCmd endpoint profileId clusterId recs).appReporting i = d.appReporting i)

theorem linked_cfgReportCmd (hlinked : d.Linked) (recs : List CfgReportRec) :
    (d.cfgReportCmd endpoint profileId clusterId recs).Linked := by
  apply Reporting.linked_appZclCfgReportCmd
  intro i p hp
  rw [appReporting_zclConfigReportHandler] at hp
  exact hlinked i p hp

/-- The slot of the table in which the search of the code stops is the only one that it arms again, and it does so
whether the record was accepted or not, and whatever cluster the entry is of. -/
theorem cfgReportCmd_rearms_iff (d : CfgDevice) (hlinked : d.Linked) (endpoint : BitVec 8)
    (profileId clusterId : BitVec 16) (recs : List CfgReportRec) :
    d.RearmsExactly endpoint profileId clusterId recs ↔
      let handled := zclConfigReportHandler endpoint profileId clusterId d recs
      (∀ i, handled.1.Accepted endpoint clusterId handled.2 i →
        handled.1.FirstNamed endpoint (recs.map CfgReportRec.attrID) i ∨ d.Idle i) ∧
      ∀ k, handled.1.FirstNamed endpoint (recs.map CfgReportRec.attrID) k →
        handled.1.Accepted endpoint clusterId handled.2 k ∨ d.Idle k := by
  set handled := zclConfigReportHandler endpoint profileId clusterId d recs with hhandled
  have happ : handled.1.appReporting = d.appReporting := appReporting_zclConfigReportHandler d recs
  have hcmd (i : Slot) := Reporting.appReporting_appZclCfgReportCmd handled.1.toReporting endpoint
    (recs.map CfgReportRec.attrID) i
  rw [happ] at hcmd
  have hlinked' : (d.cfgReportCmd endpoint profileId clusterId recs).Linked := linked_cfgReportCmd hlinked recs
  simp only [RearmsExactly, ← hhandled, cfgReportCmd] at hlinked' ⊢
  constructor
  · refine fun h => ⟨fun i haccepted => ?_, fun k hfirst => ?_⟩
    · rcases hcmd i with ⟨hfirst, -⟩ | ⟨-, hsame⟩
      · exact .inl hfirst
      · have hidle := ((h i).1 haccepted).idle
        rw [Reporting.Idle, hsame] at hidle
        exact .inr hidle
    · by_cases haccepted : handled.1.Accepted endpoint clusterId handled.2 k
      · exact .inl haccepted
      · rcases hcmd k with ⟨-, hcancelled⟩ | ⟨hnot, -⟩
        · rw [(h k).2 haccepted] at hcancelled
          exact .inr ⟨congrArg AppReporting.timerReportMinEvt hcancelled, congrArg AppReporting.timerReportMaxEvt hcancelled⟩
        · exact absurd hfirst hnot
  · rintro ⟨hfound, hmeant⟩ i
    refine ⟨fun haccepted => Reporting.rearmed_of_idle hlinked' ?_, fun hnot => ?_⟩
    · rcases hcmd i with ⟨-, hcancelled⟩ | ⟨hunnamed, hsame⟩
      · rw [Reporting.Idle, hcancelled]
        exact ⟨rfl, rfl⟩
      · rw [Reporting.Idle, hsame]
        exact (hfound i haccepted).resolve_left hunnamed
    · rcases hcmd i with ⟨hfirst, hcancelled⟩ | ⟨-, hsame⟩
      · have hidle : d.Idle i := (hmeant i hfirst).resolve_left hnot
        rw [hcancelled, hidle.cancelled]
      · exact hsame

/-- A device with both battery attributes in its table, and all their timers pending. -/
def batteryDevice : CfgDevice where
  now := 0
  joined := true
  timerStopReportEvt := false
  bindingTbl := fun _ _ => true
  attrTable := fun _ _ _ => some ⟨zclDataTypeUint8, fun _ => 0#8⟩
  reportNum := 2#8
  reportCfgInfo := fun i =>
    { blankEntry with
      profileID := 0x0104#16
      clusterID := 0x0001#16
      attrID := if i = 0 then 0x0020#16 else 0x0021#16
      minInterval := 60#16
      maxInterval := 300#16
      endPoint := 1#8
      used := decide (i.val < 2) }
  appReporting := fun i =>
    if i.val < 2 then ⟨some ⟨0, 60000#32⟩, some ⟨0, 300000#32⟩, some i, 0, none⟩ else ⟨none, none, some i, 0, none⟩
  atNull := blankEntry
  sent := []
  defaults := fun _ => ⟨zclDataTypeUint8, 60#16, 300#16⟩
  reportable := fun _ _ _ => true

/-- A record for one of them. -/
def batteryRecord (attrID : BitVec 16) : CfgReportRec := ⟨0, attrID, zclDataTypeUint8, 300#16, 3600#16, fun _ => 0⟩

theorem linked_batteryDevice : batteryDevice.Linked := by
  intro i p hp
  have hpEntry : (batteryDevice.appReporting i).pEntry = some i := by
    simp only [batteryDevice]
    split <;> rfl
  rw [hpEntry] at hp
  exact (Option.some.inj hp).symm

/-- One record, and the search stops at its entry. -/
theorem batteryDevice_rearms : batteryDevice.RearmsExactly 1 0x0104 0x0001 [batteryRecord 0x0020] :=
  (cfgReportCmd_rearms_iff batteryDevice linked_batteryDevice 1 0x0104 0x0001 [batteryRecord 0x0020]).mpr
    (by decide +kernel)

/-- Two accepted records: the timers of the second entry go on. -/
theorem second_record_not_rearmed : ¬ ∀ (d : CfgDevice), d.Linked → ∀ (endpoint : BitVec 8)
    (profileId clusterId : BitVec 16) (recs : List CfgReportRec), d.RearmsExactly endpoint profileId clusterId recs := by
  intro h
  have hrearms := (h batteryDevice linked_batteryDevice 1 0x0104 0x0001 [batteryRecord 0x0020, batteryRecord 0x0021] 1).1
  exact absurd (hrearms (by decide +kernel)).idle (by decide +kernel)

end CfgDevice

end Watermeter
