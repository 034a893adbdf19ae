import Watermeter.Rearming

/-! The pointers `app_reporting[i].pEntry`: where they are filled, and where they are followed. -/

namespace Watermeter

open NorFlash Transition

/-! ### What is followed -/

/-- The reporting code, with the slots whose `pEntry` it has followed and what stood there. -/
structure Followed where
  reporting : Reporting
  followed : List (Slot × Option Slot)

namespace Followed

instance : ReportTimers Followed where
  reporting s := s.reporting
  withReporting r s := { s with reporting := r }
  stopReport s := s.reporting.timerStopReportEvt
  isNull timer s := ReportTimers.isNull timer s.reporting
  schedule timer period s := { s with reporting := ReportTimers.schedule timer period s.reporting }
  stop timer s := { s with reporting := ReportTimers.stop timer s.reporting }
  forget timer s := { s with reporting := ReportTimers.forget timer s.reporting }
  follow i s := { s with followed := s.followed ++ [(i, (s.reporting.appReporting i).pEntry)] }

end Followed

namespace Reporting

/-- The slots whose `pEntry` a callback or `app_zclCfgReportCmd` follows in a step, with what stands there. -/
def follows (s : Reporting) : ReportEvent → List (Slot × Option Slot)
  | .appReportHandler => (ReportTimers.appReportHandler (⟨s, []⟩ : Followed)).followed
  | .minTimer i =>
    match (s.appReporting i).timerReportMinEvt with
    | none => []
    | some evt => if evt.Due s.now then (ReportTimers.appReportMinAttrTimerCb (⟨s, []⟩ : Followed) i).2.followed else []
  | .maxTimer i =>
    match (s.appReporting i).timerReportMaxEvt with
    | none => []
    | some evt => if evt.Due s.now then (ReportTimers.appReportMaxAttrTimerCb (⟨s, []⟩ : Followed) i).2.followed else []
  | .cfgReport reportNum reportCfgInfo endPoint attrList =>
    (ReportTimers.appZclCfgReportCmd
      (⟨{ s with reportNum := reportNum, reportCfgInfo := reportCfgInfo }, []⟩ : Followed) endPoint attrList).followed
  | _ => []

/-- Every pointer that is followed points at the entry of its slot. -/
def FollowsOwn (s : Reporting) (e : ReportEvent) : Prop := ∀ p ∈ s.follows e, p.2 = some p.1

/-! ### The functions one by one -/

/-- The slots that one pass of the inner loop of `app_zclCfgReportCmd` looks at. -/
def visits (p : Slot → Bool) : List Slot → List Slot
  | [] => []
  | ii :: slots => ii :: if p ii then [] else visits p slots

/-- Those that the command looks at. -/
def cfgVisits (s : Reporting) (endPoint : BitVec 8) : List (BitVec 16) → List Slot
  | [] => []
  | attrID :: attrList =>
    let matching := ReportTimers.named s endPoint attrID
    visits matching (List.finRange zclReportingTableNum) ++
      if (List.finRange zclReportingTableNum).any matching then [] else s.cfgVisits endPoint attrList

/-- The minimum callback that `app_reportAttrTimerStart` calls for a slot, if it does. -/
def maxTimerFollows (s : Reporting) (i : Slot) : List (Slot × Option Slot) :=
  if (s.appReporting i).timerReportMaxEvt.isNone ∧ (s.reportCfgInfo i).maxInterval = 0 then
    [(i, (s.appReporting i).pEntry)]
  else []

def startTimersFollows (s : Reporting) (i : Slot) : List (Slot × Option Slot) :=
  let s := s.setApp i { s.appReporting i with pEntry := some i }
  let e := s.reportCfgInfo i
  if e.used ∧ e.maxInterval ≠ 0xFFFF#16 ∧ (e.minInterval ≠ 0 ∨ e.maxInterval ≠ 0) ∧
      s.zbBindingTblSearched e.clusterID e.endPoint then
    (s.startMinTimer i).maxTimerFollows i
  else []

def loopFollows (s : Reporting) : List Slot → List (Slot × Option Slot)
  | [] => []
  | i :: slots => s.startTimersFollows i ++ loopFollows (s.startTimers i) slots

def timerStartFollows (s : Reporting) : List (Slot × Option Slot) :=
  if s.zclReportingEntryActiveNumGet ≠ 0 then s.loopFollows (List.finRange zclReportingTableNum) else []

end Reporting

namespace Followed

open Reporting

variable (r : Reporting) (l : List (Slot × Option Slot)) (i : Slot)

@[simp] theorem reporting_mk : ReportTimers.reporting (⟨r, l⟩ : Followed) = r := rfl

@[simp] theorem withReporting_mk (r' : Reporting) : ReportTimers.withReporting r' (⟨r, l⟩ : Followed) = ⟨r', l⟩ := rfl

@[simp] theorem stopReport_mk : ReportTimers.stopReport (⟨r, l⟩ : Followed) = ReportTimers.stopReport r := rfl

@[simp] theorem isNull_mk (timer : ReportTimer) :
    ReportTimers.isNull timer (⟨r, l⟩ : Followed) = ReportTimers.isNull timer r := rfl

@[simp] theorem schedule_mk (timer : ReportTimer) (period : BitVec 32) :
    ReportTimers.schedule timer period (⟨r, l⟩ : Followed) = ⟨ReportTimers.schedule timer period r, l⟩ := rfl

@[simp] theorem stop_mk (timer : ReportTimer) :
    ReportTimers.stop timer (⟨r, l⟩ : Followed) = ⟨ReportTimers.stop timer r, l⟩ := rfl

@[simp] theorem forget_mk (timer : ReportTimer) :
    ReportTimers.forget timer (⟨r, l⟩ : Followed) = ⟨ReportTimers.forget timer r, l⟩ := rfl

@[simp] theorem follow_mk : ReportTimers.follow i (⟨r, l⟩ : Followed) = ⟨r, l ++ [(i, (r.appReporting i).pEntry)]⟩ := rfl

theorem reporting_self : ReportTimers.reporting r = r := rfl

theorem withReporting_self (r' : Reporting) : ReportTimers.withReporting r' r = r' := rfl

theorem appReportMinAttrTimerCb_mk : ReportTimers.appReportMinAttrTimerCb (⟨r, l⟩ : Followed) i =
    ((r.appReportMinAttrTimerCb i).1, ⟨(r.appReportMinAttrTimerCb i).2, l ++ [(i, (r.appReporting i).pEntry)]⟩) := by
  rw [appReportMinAttrTimerCb_eq]
  unfold ReportTimers.appReportMinAttrTimerCb
  simp only [follow_mk, reporting_mk, withReporting_mk, forget_mk]
  set e := r.entry (r.appReporting i).pEntry
  cases r.zclFindAttribute e.endPoint e.clusterID e.attrID with
  | none => rfl
  | some attr =>
    dsimp only
    split_ifs <;> rfl

theorem appReportMaxAttrTimerCb_mk : ReportTimers.appReportMaxAttrTimerCb (⟨r, l⟩ : Followed) i =
    ((r.appReportMaxAttrTimerCb i).1, ⟨(r.appReportMaxAttrTimerCb i).2, l ++ [(i, (r.appReporting i).pEntry)]⟩) := by
  rw [appReportMaxAttrTimerCb_eq]
  unfold ReportTimers.appReportMaxAttrTimerCb
  simp only [follow_mk, reporting_mk, withReporting_mk, stop_mk]
  split_ifs <;> rfl

theorem startMinTimer_mk : ReportTimers.startMinTimer (⟨r, l⟩ : Followed) i = ⟨r.startMinTimer i, l⟩ := by
  unfold Reporting.startMinTimer ReportTimers.startMinTimer
  simp only [reporting_mk, isNull_mk, schedule_mk, reporting_self]
  split_ifs <;> rfl

theorem startMaxTimer_mk :
    ReportTimers.startMaxTimer (⟨r, l⟩ : Followed) i = ⟨r.startMaxTimer i, l ++ r.maxTimerFollows i⟩ := by
  have hnull : ReportTimers.isNull (.max i) r = (r.appReporting i).timerReportMaxEvt.isNone := rfl
  unfold Reporting.startMaxTimer ReportTimers.startMaxTimer maxTimerFollows
  simp only [reporting_mk, isNull_mk, schedule_mk, appReportMinAttrTimerCb_mk, reporting_self, hnull]
  by_cases hnone : (r.appReporting i).timerReportMaxEvt.isNone
  · by_cases hmax : (r.reportCfgInfo i).maxInterval = 0
    · simp only [hnone, hmax, ne_eq, not_true_eq_false, if_true, if_false, and_self]
      rfl
    · simp only [hnone, hmax, ne_eq, not_false_eq_true, if_true, and_false, if_false, List.append_nil]
      split_ifs <;> rfl
  · simp only [hnone, Bool.false_eq_true, if_false, false_and, List.append_nil]

theorem startTimers_mk : ReportTimers.startTimers (⟨r, l⟩ : Followed) i =
    ⟨r.startTimers i, l ++ r.startTimersFollows i⟩ := by
  unfold Reporting.startTimers ReportTimers.startTimers startTimersFollows
  simp only [reporting_mk, withReporting_mk, startMinTimer_mk, startMaxTimer_mk, reporting_self, withReporting_self]
  split_ifs
  · rfl
  · rw [List.append_nil]

theorem run_startTimers_mk (slots : List Slot) : run ReportTimers.startTimers (⟨r, l⟩ : Followed) slots =
    ⟨run startTimers r slots, l ++ r.loopFollows slots⟩ := by
  induction slots generalizing r l with
  | nil => rw [run_nil, run_nil, loopFollows, List.append_nil]
  | cons i slots ih => rw [run_cons, run_cons, startTimers_mk, ih, loopFollows, List.append_assoc]

theorem reportNoMinLimit_mk (attr : ZclAttrInfo) : ReportTimers.reportNoMinLimit (⟨r, l⟩ : Followed) i attr =
    ⟨r.reportNoMinLimit i attr, l⟩ := by
  unfold Reporting.reportNoMinLimit ReportTimers.reportNoMinLimit
  simp only [reporting_mk, withReporting_mk, schedule_mk, stop_mk, reporting_self, withReporting_self]
  split_ifs <;> rfl

theorem noMinLimitLoop_mk (slots : List Slot) : ReportTimers.noMinLimitLoop (⟨r, l⟩ : Followed) slots =
    ⟨r.noMinLimitLoop slots, l⟩ := by
  induction slots generalizing r with
  | nil => rfl
  | cons i slots ih =>
    rw [noMinLimitLoop_cons]
    unfold ReportTimers.noMinLimitLoop
    simp only [reporting_mk, reportNoMinLimit_mk, ih]
    split_ifs
    · cases r.zclFindAttribute _ _ _ <;> rfl
    · rfl

theorem appReportNoMinLimit_mk :
    ReportTimers.appReportNoMinLimit (⟨r, l⟩ : Followed) = ⟨r.appReportNoMinLimit, l⟩ := by
  unfold Reporting.appReportNoMinLimit ReportTimers.appReportNoMinLimit
  simp only [reporting_mk, noMinLimitLoop_mk, reporting_self]
  split_ifs <;> rfl

theorem appReportAttrTimerStart_mk :
    ReportTimers.appReportAttrTimerStart (⟨r, l⟩ : Followed) = ⟨r.appReportAttrTimerStart, l ++ r.timerStartFollows⟩ := by
  unfold Reporting.appReportAttrTimerStart ReportTimers.appReportAttrTimerStart timerStartFollows
  simp only [reporting_mk, run_startTimers_mk, reporting_self]
  split_ifs
  · rfl
  · rw [List.append_nil]

theorem appReportHandler_mk : ReportTimers.appReportHandler (⟨r, l⟩ : Followed) =
    ⟨r.appReportHandler, l ++ if r.Passes then r.appReportNoMinLimit.timerStartFollows else []⟩ := by
  have hstop : ReportTimers.stopReport r = r.timerStopReportEvt := rfl
  unfold ReportTimers.appReportHandler
  simp only [reporting_mk, stopReport_mk, appReportNoMinLimit_mk, appReportAttrTimerStart_mk, hstop]
  by_cases hpasses : r.Passes
  · rw [if_pos hpasses, appReportHandler_passes hpasses]
    obtain ⟨hjoined, hrunning, hactive⟩ := hpasses
    rw [if_pos hjoined, hrunning, if_neg Bool.false_ne_true, if_pos hactive]
  · rw [if_neg hpasses, appReportHandler_held hpasses, List.append_nil]
    split_ifs with hjoined hstopped hactive
    · rfl
    · exact absurd ⟨hjoined, Bool.eq_false_of_not_eq_true hstopped, hactive⟩ hpasses
    · rfl
    · rfl

theorem cfgReportLoop_mk (endPoint : BitVec 8) (attrID : BitVec 16) (slots : List Slot) :
    ReportTimers.cfgReportLoop endPoint attrID (⟨r, l⟩ : Followed) slots =
      (slots.find? (ReportTimers.named r endPoint attrID),
        ⟨r, l ++ (visits (ReportTimers.named r endPoint attrID) slots).map fun ii => (ii, (r.appReporting ii).pEntry)⟩) := by
  induction slots generalizing l with
  | nil => rw [ReportTimers.cfgReportLoop, visits, List.map_nil, List.append_nil, List.find?_nil]
  | cons ii slots ih =>
    rw [ReportTimers.cfgReportLoop, visits, List.find?_cons, List.map_cons]
    simp only [follow_mk, reporting_mk, ih]
    cases ReportTimers.named r endPoint attrID ii
    · simp
    · simp

theorem appZclCfgReportCmd_mk (endPoint : BitVec 8) (attrList : List (BitVec 16)) :
    ReportTimers.appZclCfgReportCmd (⟨r, l⟩ : Followed) endPoint attrList =
      ⟨r.appZclCfgReportCmd endPoint attrList,
        l ++ (r.cfgVisits endPoint attrList).map fun ii => (ii, (r.appReporting ii).pEntry)⟩ := by
  induction attrList generalizing l with
  | nil => rw [cfgVisits, List.map_nil, List.append_nil]; rfl
  | cons attrID attrList ih =>
    have hsearch := ReportTimers.cfgReportLoop_eq (fun _ _ => rfl) endPoint attrID r (List.finRange zclReportingTableNum)
    unfold Reporting.appZclCfgReportCmd at ih ⊢
    rw [ReportTimers.appZclCfgReportCmd, ReportTimers.appZclCfgReportCmd, cfgVisits, hsearch, cfgReportLoop_mk,
      reporting_self, List.map_append, ← List.append_assoc]
    cases hfound : (List.finRange zclReportingTableNum).find? (ReportTimers.named r endPoint attrID) with
    | none =>
      have hnone : ¬ (List.finRange zclReportingTableNum).any (ReportTimers.named r endPoint attrID) := by
        simpa using hfound
      dsimp only
      rw [ih, if_neg hnone]
    | some ii =>
      have hany : (List.finRange zclReportingTableNum).any (ReportTimers.named r endPoint attrID) :=
        List.any_eq_true.mpr ⟨ii, List.mem_of_find?_eq_some hfound, List.find?_some hfound⟩
      dsimp only
      rw [if_pos hany, List.map_nil, List.append_nil, stop_mk, stop_mk]

end Followed

namespace Reporting

variable {s : Reporting} {i j : Slot}

/-! ### The loops that follow pointers -/

/-- The slots that are looked at are those with none before them that passes the test. -/
theorem mem_visits_split {p : Slot → Bool} {ii : Slot} {slots : List Slot} :
    ii ∈ visits p slots ↔ ∃ xs ys, slots = xs ++ ii :: ys ∧ ∀ k ∈ xs, p k = false := by
  induction slots with
  | nil => simp [visits]
  | cons j slots ih =>
    rw [visits, List.mem_cons]
    constructor
    · rintro (rfl | hmem)
      · exact ⟨[], slots, rfl, by simp⟩
      · split at hmem
        · cases hmem
        · next hj =>
          obtain ⟨xs, ys, rfl, hxs⟩ := ih.mp hmem
          exact ⟨j :: xs, ys, rfl, List.forall_mem_cons.mpr ⟨Bool.eq_false_iff.mpr hj, hxs⟩⟩
    · rintro ⟨xs, ys, heq, hxs⟩
      cases xs with
      | nil => exact .inl (List.cons.inj heq).1.symm
      | cons x xs =>
        obtain ⟨rfl, rfl⟩ := List.cons.inj heq
        obtain ⟨hx, hxs⟩ := List.forall_mem_cons.mp hxs
        right
        rw [if_neg (Bool.eq_false_iff.mp hx)]
        exact ih.mpr ⟨xs, ys, rfl, hxs⟩

theorem mem_visits {p : Slot → Bool} {ii : Slot} :
    ii ∈ visits p (List.finRange zclReportingTableNum) ↔ ∀ k < ii, p k = false := by
  rw [mem_visits_split]
  have hsorted := List.pairwise_lt_finRange zclReportingTableNum
  constructor
  · rintro ⟨xs, ys, heq, hxs⟩ k hk
    rw [heq, List.pairwise_append, List.pairwise_cons] at hsorted
    have hmem : k ∈ xs ++ ii :: ys := heq ▸ List.mem_finRange k
    rcases List.mem_append.mp hmem with hbefore | hafter
    · exact hxs k hbefore
    · rcases List.mem_cons.mp hafter with rfl | hafter
      · exact absurd hk (lt_irrefl k)
      · exact absurd (hsorted.2.1.1 k hafter) (lt_asymm hk)
  · intro hbefore
    obtain ⟨xs, ys, heq⟩ := List.append_of_mem (List.mem_finRange ii)
    rw [heq, List.pairwise_append] at hsorted
    exact ⟨xs, ys, heq, fun k hk => hbefore k (hsorted.2.2 k hk ii List.mem_cons_self)⟩

theorem test_false_iff {endPoint : BitVec 8} {attrID : BitVec 16} :
    ReportTimers.named s endPoint attrID i = false ↔ ¬ s.Named endPoint attrID i := by
  rw [ReportTimers.named, ← Bool.not_eq_true, named_iff]

theorem named_own {endPoint : BitVec 8} {attrID : BitVec 16} (hi : (s.appReporting i).pEntry = some i) :
    s.Named endPoint attrID i ↔ (s.reportCfgInfo i).used = true ∧ (s.reportCfgInfo i).endPoint = endPoint ∧
      (s.reportCfgInfo i).attrID = attrID := by
  rw [Named, hi]
  rfl

/-- A slot that is looked at has none before it that passes the test for the first record. -/
theorem not_named_of_mem_cfgVisits {endPoint : BitVec 8} {attrID : BitVec 16} {attrList : List (BitVec 16)}
    (hi : i ∈ s.cfgVisits endPoint (attrID :: attrList)) (hj : j < i) : ¬ s.Named endPoint attrID j := by
  rw [cfgVisits, List.mem_append] at hi
  rcases hi with hi | hi
  · exact test_false_iff.mp (mem_visits.mp hi j hj)
  · split at hi
    · cases hi
    · next hany =>
      rw [List.any_eq_true] at hany
      apply test_false_iff.mp
      apply Bool.eq_false_iff.mpr
      exact fun htest => hany ⟨j, List.mem_finRange j, htest⟩

/-- The command looks at all slots before one that passes the test for the first record. Where each of these points at
its own entry, it is the entries that decide. -/
theorem cfgVisits_own_iff (s : Reporting) (endPoint : BitVec 8) (attrID : BitVec 16) (attrList : List (BitVec 16)) :
    (∀ ii ∈ s.cfgVisits endPoint (attrID :: attrList), (s.appReporting ii).pEntry = some ii) ↔
      ∀ j, (∀ k < j, ¬ ((s.reportCfgInfo k).used = true ∧ (s.reportCfgInfo k).endPoint = endPoint ∧
        (s.reportCfgInfo k).attrID = attrID)) → (s.appReporting j).pEntry = some j := by
  constructor
  · intro h j
    induction j using WellFoundedLT.induction with
    | ind j ih =>
      intro hbefore
      apply h
      rw [cfgVisits, List.mem_append]
      left
      apply mem_visits.mpr
      intro k hk
      apply test_false_iff.mpr
      rw [named_own (ih k hk fun k' hk' => hbefore k' (hk'.trans hk))]
      exact hbefore k hk
  · intro h
    have hpassed (j : Slot) (hbefore : ∀ k < j, ¬ s.Named endPoint attrID k) :
        (s.appReporting j).pEntry = some j := by
      induction j using WellFoundedLT.induction with
      | ind j ih =>
        apply h
        intro k hk
        rw [← named_own (ih k hk fun k' hk' => hbefore k' (hk'.trans hk))]
        exact hbefore k hk
    intro ii hii
    apply hpassed
    exact fun k hk => not_named_of_mem_cfgVisits hii hk

/-- The minimum callback that a pass calls follows a pointer that the pass has just set. -/
theorem loopFollows_own (s : Reporting) (slots : List Slot) : ∀ p ∈ s.loopFollows slots, p.2 = some p.1 := by
  induction slots generalizing s with
  | nil => simp [loopFollows]
  | cons i slots ih =>
    intro p hp
    rw [loopFollows, List.mem_append] at hp
    rcases hp with hp | hp
    · set s₁ := s.setApp i { s.appReporting i with pEntry := some i } with hs₁
      have hpEntry : ((s₁.startMinTimer i).appReporting i).pEntry = some i := by
        simp only [startMinTimer_eq]
        split <;> simp [hs₁]
      simp only [startTimersFollows, maxTimerFollows, ← hs₁, hpEntry] at hp
      split at hp
      · split at hp
        · rw [List.mem_singleton.mp hp]
        · cases hp
      · cases hp
    · exact ih _ p hp

/-! ### Where pointers are filled -/

theorem own_of_touches {s' : Reporting} (h : Touches j s s') (hi : (s.appReporting i).pEntry = some i) :
    (s'.appReporting i).pEntry = some i := by
  by_cases hij : i = j
  · subst hij
    exact h.pEntry.elim (fun hsame => hsame.trans hi) id
  · have happ : s'.appReporting i = s.appReporting i := congrArg SlotView.app (h.others i hij)
    rw [happ, hi]

theorem own_startTimers (hlinked : s.Linked) (i : Slot) : ((s.startTimers i).appReporting i).pEntry = some i := by
  set s₁ := s.setApp i { s.appReporting i with pEntry := some i } with hs₁
  have hpointed : Touches i s s₁ := touches_setApp (.inr rfl)
  have hi : (s₁.appReporting i).pEntry = some i := by simp [hs₁]
  have hmin : Touches i s₁ (s₁.startMinTimer i) := touches_startMinTimer
  have hmax : Touches i (s₁.startMinTimer i) ((s₁.startMinTimer i).startMaxTimer i) :=
    touches_startMaxTimer ((hlinked.of_touches hpointed).of_touches hmin)
  simp only [startTimers_eq, ← hs₁]
  split
  · exact own_of_touches hmax (own_of_touches hmin hi)
  · exact hi

theorem own_run_startTimers (hlinked : s.Linked) {slots : List Slot} (hi : i ∈ slots ∨ (s.appReporting i).pEntry = some i) :
    ((run startTimers s slots).appReporting i).pEntry = some i := by
  induction slots generalizing s with
  | nil => exact hi.resolve_left List.not_mem_nil
  | cons j slots ih =>
    have htouch : Touches j s (s.startTimers j) := touches_startTimers hlinked
    rw [run_cons]
    apply ih (hlinked.of_touches htouch)
    rcases hi with hi | hi
    · rcases List.mem_cons.mp hi with rfl | hi
      · exact .inr (own_startTimers hlinked i)
      · exact .inl hi
    · exact .inr (own_of_touches htouch hi)

/-- A pass that comes to its loops fills every pointer, any other pass does nothing. -/
theorem appReportHandler_cases (hlinked : s.Linked) :
    s.Passes ∧ (∀ i, (s.appReportHandler.appReporting i).pEntry = some i) ∨ ¬ s.Passes ∧ s.appReportHandler = s := by
  by_cases hpasses : s.Passes
  · refine .inl ⟨hpasses, fun i => ?_⟩
    rw [appReportHandler_run hpasses]
    exact own_run_startTimers (linked_appReportNoMinLimit hlinked) (.inl (List.mem_finRange i))
  · exact .inr ⟨hpasses, appReportHandler_held hpasses⟩

theorem pEntry_setApp (s : Reporting) (i j : Slot) (a : AppReporting) (ha : a.pEntry = (s.appReporting j).pEntry) :
    ((s.setApp j a).appReporting i).pEntry = (s.appReporting i).pEntry := by
  by_cases hij : i = j
  · subst hij
    rw [appReporting_setApp_self, ha]
  · exact congrArg AppReporting.pEntry (Function.update_of_ne hij ..)

theorem pEntry_minCb (s : Reporting) (j i : Slot) :
    ((s.appReportMinAttrTimerCb j).2.appReporting i).pEntry = (s.appReporting i).pEntry := by
  rcases minCb_cases s j with h | h | ⟨-, h⟩ <;> rw [h]
  · exact pEntry_setApp s i j _ rfl
  · refine (pEntry_setApp _ i j _ ?_).trans ?_
    · rfl
    · rw [appReporting_reportAttr]

theorem pEntry_maxCb (s : Reporting) (j i : Slot) :
    ((s.appReportMaxAttrTimerCb j).2.appReporting i).pEntry = (s.appReporting i).pEntry := by
  simp only [appReportMaxAttrTimerCb_eq]
  split
  · rw [appReporting_reportAttr]
    exact pEntry_setApp s i j _ rfl
  · rfl

/-- Outside of a pass no pointer is written. -/
theorem pEntry_step {e : ReportEvent} (he : e ≠ .appReportHandler) (i : Slot) :
    ((s.step e).appReporting i).pEntry = (s.appReporting i).pEntry := by
  cases e with
  | elapse ticks => rfl
  | setAttribute endPoint clusterID attrID data => rfl
  | stopReport pending => rfl
  | appReportHandler => exact absurd rfl he
  | minTimer j =>
    simp only [step, minTimer]
    split
    · rfl
    · split
      · split
        · exact pEntry_minCb s j i
        · refine (pEntry_setApp _ i j _ ?_).trans (pEntry_minCb s j i)
          rfl
      · rfl
  | maxTimer j =>
    simp only [step, maxTimer]
    split
    · rfl
    · split
      · split
        · exact pEntry_maxCb s j i
        · refine (pEntry_setApp _ i j _ ?_).trans (pEntry_maxCb s j i)
          rfl
      · rfl
  | cfgReport reportNum reportCfgInfo endPoint attrList =>
    rw [step]
    rcases appReporting_appZclCfgReportCmd
      { s with reportNum := reportNum, reportCfgInfo := reportCfgInfo } endPoint attrList i with ⟨-, happ⟩ | ⟨-, happ⟩
    · rw [happ]
    · rw [happ]

/-- Outside of a pass no timer is started for a slot that has none. -/
theorem idle_step (hlinked : s.Linked) {e : ReportEvent} (he : e ≠ .appReportHandler) (hidle : s.Idle i) :
    (s.step e).Idle i := by
  cases e with
  | elapse ticks => exact hidle
  | setAttribute endPoint clusterID attrID data => exact hidle
  | stopReport pending => exact hidle
  | appReportHandler => exact absurd rfl he
  | minTimer j => exact (still_minTimer hlinked hidle j).idle
  | maxTimer j => exact (still_maxTimer hlinked hidle j).idle
  | cfgReport reportNum reportCfgInfo endPoint attrList =>
    have htable : ({ s with reportNum := reportNum, reportCfgInfo := reportCfgInfo } : Reporting).Idle i := hidle
    exact (still_appZclCfgReportCmd htable endPoint attrList).idle

end Reporting

/-- The device with what it had in its table at `app_reporting_init`, and whether a pass has come to
`app_reportAttrTimerStart` since. -/
structure ReportBoot extends Reporting where
  usedAtBoot : Slot → Bool
  started : Bool

/-- What happens to it: a start with any table, a change of the network state, and what happens to the reporting code. -/
inductive ReportBootEvent
  | boot (reportNum : BitVec 8) (reportCfgInfo : Slot → ReportCfgInfo)
  | network (joined : Bool)
  | report (e : ReportEvent)

namespace ReportBoot

def boot (s : ReportBoot) (reportNum : BitVec 8) (reportCfgInfo : Slot → ReportCfgInfo) : ReportBoot where
  toReporting :=
    { s.toReporting with
      now := 0
      joined := false
      timerStopReportEvt := false
      reportNum := reportNum
      reportCfgInfo := reportCfgInfo }.appReportingInit
  usedAtBoot := fun i => (reportCfgInfo i).used
  started := false

def step (s : ReportBoot) : ReportBootEvent → ReportBoot
  | .boot reportNum reportCfgInfo => s.boot reportNum reportCfgInfo
  | .network joined => { s with joined := joined }
  | .report e =>
    { s with
      toReporting := s.toReporting.step e
      started := s.started || match e with
        | .appReportHandler => decide s.Passes
        | _ => false }

/-- No null pointer, and no other entry. -/
def FollowsOwn (s : ReportBoot) : ReportBootEvent → Prop
  | .report e => s.toReporting.FollowsOwn e
  | _ => True

/-- A configure command comes after a pass that started timers, or the first record finds its entry among the slots
that were in use at the start, every slot before it being one of them. -/
def Prepared (s : ReportBoot) : ReportBootEvent → Prop
  | .report (.cfgReport _ reportCfgInfo endPoint (attrID :: _)) =>
    s.started = true ∨ ∀ j, (∀ k < j, ¬ ((reportCfgInfo k).used = true ∧ (reportCfgInfo k).endPoint = endPoint ∧
      (reportCfgInfo k).attrID = attrID)) → s.usedAtBoot j = true
  | _ => True

/-- Every slot points at its own entry after a pass that came to its loops; before, just those that were in use at the
start do. A slot with a timer points at its entry. -/
structure Sound (s : ReportBoot) : Prop where
  linked : s.Linked
  timed : ∀ i, s.Idle i ∨ (s.appReporting i).pEntry = some i
  own : ∀ i, (s.appReporting i).pEntry = some i ↔ s.started = true ∨ s.usedAtBoot i = true

variable {s : ReportBoot}

theorem sound_boot (s : ReportBoot) (reportNum : BitVec 8) (reportCfgInfo : Slot → ReportCfgInfo) :
    (s.boot reportNum reportCfgInfo).Sound where
  linked := Reporting.linked_appReportingInit _
  timed i := .inl ⟨rfl, rfl⟩
  own i := by
    simp only [boot, Reporting.appReportingInit, Bool.false_eq_true, false_or]
    split
    · next hused => exact ⟨fun _ => hused, fun _ => rfl⟩
    · next hused => exact ⟨by simp, fun h => absurd h hused⟩

theorem Sound.report (h : s.Sound) (e : ReportEvent) : (s.step (.report e)).Sound := by
  by_cases he : e = .appReportHandler
  · subst he
    rcases Reporting.appReportHandler_cases h.linked with ⟨hpasses, hown⟩ | ⟨hheld, hsame⟩
    · refine ⟨Reporting.linked_step h.linked _, fun i => .inr (hown i), fun i => ?_⟩
      have hstarted : (s.step (.report .appReportHandler)).started = true := by simp [step, hpasses]
      exact ⟨fun _ => .inl hstarted, fun _ => hown i⟩
    · have hstep : s.step (.report .appReportHandler) = s := by
        simp only [step, Reporting.step, hsame, decide_eq_false hheld, Bool.or_false]
      rw [hstep]
      exact h
  · have hstarted : (s.step (.report e)).started = s.started := by
      cases e with
      | appReportHandler => exact absurd rfl he
      | _ => exact Bool.or_false _
    have hpEntry (i : Slot) : ((s.step (.report e)).appReporting i).pEntry = (s.appReporting i).pEntry :=
      Reporting.pEntry_step he i
    refine ⟨Reporting.linked_step h.linked _, fun i => ?_, fun i => ?_⟩
    · rw [hpEntry]
      exact (h.timed i).imp_left (Reporting.idle_step h.linked he)
    · rw [hpEntry, hstarted]
      exact h.own i

theorem Sound.step (h : s.Sound) (e : ReportBootEvent) : (s.step e).Sound := by
  cases e with
  | boot reportNum reportCfgInfo => exact sound_boot s reportNum reportCfgInfo
  | network joined => exact ⟨h.linked, h.timed, h.own⟩
  | report e => exact h.report e

/-- A slot whose timer is there points at its own entry. -/
theorem Sound.of_timer (h : s.Sound) {i : Slot} {p : Slot × Option Slot} (hidle : ¬ s.Idle i)
    (hp : p = (i, (s.appReporting i).pEntry)) : p.2 = some p.1 := by
  subst hp
  exact (h.timed i).resolve_left hidle

theorem Sound.minTimer_followsOwn (h : s.Sound) (i : Slot) : s.toReporting.FollowsOwn (.minTimer i) := by
  intro p hp
  simp only [Reporting.follows, Followed.appReportMinAttrTimerCb_mk, List.nil_append] at hp
  split at hp
  · cases hp
  · next evt hevt =>
    split at hp
    · apply h.of_timer _ (List.mem_singleton.mp hp)
      exact fun hidle => absurd (hidle.1.symm.trans hevt) (by simp)
    · cases hp

theorem Sound.maxTimer_followsOwn (h : s.Sound) (i : Slot) : s.toReporting.FollowsOwn (.maxTimer i) := by
  intro p hp
  simp only [Reporting.follows, Followed.appReportMaxAttrTimerCb_mk, List.nil_append] at hp
  split at hp
  · cases hp
  · next evt hevt =>
    split at hp
    · apply h.of_timer _ (List.mem_singleton.mp hp)
      exact fun hidle => absurd (hidle.2.symm.trans hevt) (by simp)
    · cases hp

theorem handler_followsOwn (s : Reporting) : s.FollowsOwn .appReportHandler := by
  intro p hp
  simp only [Reporting.follows, Followed.appReportHandler_mk, List.nil_append, Reporting.timerStartFollows] at hp
  split at hp
  · split at hp
    · exact Reporting.loopFollows_own _ _ p hp
    · cases hp
  · cases hp

theorem Sound.cfgReport_iff (h : s.Sound) (reportNum : BitVec 8) (reportCfgInfo : Slot → ReportCfgInfo)
    (endPoint : BitVec 8) (attrList : List (BitVec 16)) :
    s.FollowsOwn (.report (.cfgReport reportNum reportCfgInfo endPoint attrList)) ↔
      s.Prepared (.report (.cfgReport reportNum reportCfgInfo endPoint attrList)) := by
  cases attrList with
  | nil =>
    simp [FollowsOwn, Reporting.FollowsOwn, Reporting.follows, Followed.appZclCfgReportCmd_mk, Reporting.cfgVisits, Prepared]
  | cons attrID attrList =>
    have hvisits := Reporting.cfgVisits_own_iff
      { s.toReporting with reportNum := reportNum, reportCfgInfo := reportCfgInfo } endPoint attrID attrList
    have hfollows : s.FollowsOwn (.report (.cfgReport reportNum reportCfgInfo endPoint (attrID :: attrList))) ↔
        ∀ ii ∈ ({ s.toReporting with reportNum := reportNum, reportCfgInfo := reportCfgInfo } : Reporting).cfgVisits
          endPoint (attrID :: attrList), (s.appReporting ii).pEntry = some ii := by
      rw [FollowsOwn, Reporting.FollowsOwn, Reporting.follows, Followed.appZclCfgReportCmd_mk, List.nil_append]
      exact List.forall_mem_map
    rw [hfollows, hvisits, Prepared]
    simp only [h.own]
    cases hstarted : s.started with
    | true => simp
    | false => simp

/-- Only a configure command can follow a pointer that is not set. -/
theorem Sound.followsOwn_iff (h : s.Sound) (e : ReportBootEvent) : s.FollowsOwn e ↔ s.Prepared e := by
  have hnone : ∀ p ∈ ([] : List (Slot × Option Slot)), p.2 = some p.1 := fun _ hp => absurd hp List.not_mem_nil
  cases e with
  | boot reportNum reportCfgInfo => exact Iff.rfl
  | network joined => exact Iff.rfl
  | report e =>
    cases e with
    | elapse ticks => exact iff_of_true hnone trivial
    | setAttribute endPoint clusterID attrID data => exact iff_of_true hnone trivial
    | stopReport pending => exact iff_of_true hnone trivial
    | appReportHandler => exact iff_of_true (handler_followsOwn s.toReporting) trivial
    | minTimer i => exact iff_of_true (h.minTimer_followsOwn i) trivial
    | maxTimer i => exact iff_of_true (h.maxTimer_followsOwn i) trivial
    | cfgReport reportNum reportCfgInfo endPoint attrList => exact h.cfgReport_iff reportNum reportCfgInfo endPoint attrList

/-- From a start on, a run follows no pointer that is null or at another entry exactly when every configure command in
it is prepared for. -/
theorem follows_own_iff (s : ReportBoot) (reportNum : BitVec 8) (reportCfgInfo : Slot → ReportCfgInfo)
    (events : List ReportBootEvent) :
    Along step FollowsOwn (s.boot reportNum reportCfgInfo) events ↔
      Along step Prepared (s.boot reportNum reportCfgInfo) events :=
  along_iff (fun _ e h _ => Sound.step h e) (fun _ e h => Sound.followsOwn_iff h e) (sound_boot s reportNum reportCfgInfo)

/-- The table that `user_init` sets up: four of the entries are in use. -/
def defaultTable (i : Slot) : ReportCfgInfo :=
  { blankEntry with
    profileID := 0x0104#16
    clusterID := if i.val < 2 then 0x0001#16 else 0x0702#16
    attrID := if i = 0 then 0x0020#16 else if i = 1 then 0x0021#16 else 0x0000#16
    maxInterval := 300#16
    endPoint := if i = 3 then 2#8 else 1#8
    used := decide (i.val < 4) }

/-- The device joins, which holds the handler up, and a command with an attribute that is not in the table comes: the
search goes on to the slots that were not in use. -/
theorem command_before_first_pass : ¬ ∀ (s : ReportBoot) (reportNum : BitVec 8) (reportCfgInfo : Slot → ReportCfgInfo)
    (events : List ReportBootEvent), Along step FollowsOwn (s.boot reportNum reportCfgInfo) events := by
  intro h
  have hrun := h ⟨oneEntryDevice 60 300, fun _ => false, false⟩ 4#8 defaultTable [.network true,
    .report (.stopReport true), .report (.cfgReport 4#8 defaultTable 1#8 [0x0300#16])]
  exact absurd (hrun.2.2.1 (4, none) (by decide +kernel)) (by simp)

end ReportBoot

end Watermeter
