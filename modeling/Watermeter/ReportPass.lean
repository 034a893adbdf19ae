import Watermeter.ReportSpacing
import Watermeter.ReportAgain

/-! One pass of `app_report_handler` on a device that may report: each entry without a minimum limit whose value has
changed is reported once, no other entry is, and a second pass finds nothing to do. -/

namespace Watermeter

open NorFlash Transition

namespace Reporting

/-! ### What a pass owes -/

/-- The attribute of an entry without a minimum limit, if its value passes the change test. -/
def due (s : Reporting) (i : Slot) : Option ZclAttrInfo :=
  let e := s.reportCfgInfo i
  if NoMinLimit e then
    (s.zclFindAttribute e.endPoint e.clusterID e.attrID).filter fun attr => hasChanged e attr (attrSize attr)
  else none

/-- Nothing holds a pass up: the device is joined, no stop-report timer is pending, and every entry in use is bound and
names an attribute of at most 8 bytes. -/
structure Ready (s : Reporting) : Prop where
  joined : s.joined = true
  running : s.timerStopReportEvt = false
  reportNum : ∀ i, (s.reportCfgInfo i).used = true → s.reportNum ≠ 0
  registered : ∀ i, (s.reportCfgInfo i).used = true → ∃ attr,
    s.zclFindAttribute (s.reportCfgInfo i).endPoint (s.reportCfgInfo i).clusterID (s.reportCfgInfo i).attrID = some attr ∧
      attrSize attr ≤ 8
  bound : ∀ i, (s.reportCfgInfo i).used = true →
    s.zbBindingTblSearched (s.reportCfgInfo i).clusterID (s.reportCfgInfo i).endPoint = true

/-! ### The pass without its timers -/

/-- The device but for its timers. -/
def untimed (s : Reporting) : Reporting := { s with appReporting := fun _ => ⟨none, none, none, 0, none⟩ }

/-- What is due at a slot is reported, and the value kept. -/
def reportDue (s : Reporting) (i : Slot) : Reporting :=
  match s.due i with
  | none => s
  | some attr =>
    { s with
      reportCfgInfo := Function.update s.reportCfgInfo i (keeping (s.reportCfgInfo i) attr)
      sent := s.reportOf i attr :: s.sent }

variable {s s' : Reporting} {i j : Slot} {attr : ZclAttrInfo}

@[simp] theorem untimed_setApp (a : AppReporting) : (s.setApp i a).untimed = s.untimed := rfl

@[simp] theorem untimed_post : (s.post i).untimed = s.untimed := rfl

@[simp] theorem due_untimed : s.untimed.due i = s.due i := rfl

theorem due_eq_some : s.due i = some attr ↔ NoMinLimit (s.reportCfgInfo i) ∧
    s.zclFindAttribute (s.reportCfgInfo i).endPoint (s.reportCfgInfo i).clusterID (s.reportCfgInfo i).attrID = some attr ∧
      hasChanged (s.reportCfgInfo i) attr (attrSize attr) = true := by
  simp only [due, Option.ite_none_right_eq_some, Option.filter_eq_some_iff]

theorem due_eq_none (hno : NoMinLimit (s.reportCfgInfo i))
    (hattr : s.zclFindAttribute (s.reportCfgInfo i).endPoint (s.reportCfgInfo i).clusterID (s.reportCfgInfo i).attrID =
      some attr) : s.due i = none ↔ hasChanged (s.reportCfgInfo i) attr (attrSize attr) = false := by
  rw [← Option.not_isSome_iff_eq_none, Option.isSome_iff_exists, Bool.eq_false_iff, not_iff_not]
  simp only [due_eq_some]
  constructor
  · rintro ⟨attr', -, hattr', hchanged⟩
    obtain rfl : attr = attr' := Option.some.inj (hattr.symm.trans hattr')
    exact hchanged
  · exact fun hchanged => ⟨attr, hno, hattr, hchanged⟩

theorem untimed_same (h : s'.untimed = s.untimed) : s'.reportCfgInfo = s.reportCfgInfo ∧ s'.attrTable = s.attrTable :=
  ⟨(congrArg reportCfgInfo h :), (congrArg attrTable h :)⟩

/-- The first loop at a slot without a minimum limit. -/
theorem reportNoMinLimit_untimed (h : s.Ready) (hno : NoMinLimit (s.reportCfgInfo i))
    (hattr : s.zclFindAttribute (s.reportCfgInfo i).endPoint (s.reportCfgInfo i).clusterID (s.reportCfgInfo i).attrID =
      some attr) : (s.reportNoMinLimit i attr).untimed = s.untimed.reportDue i := by
  have hbound := h.bound i hno.1
  simp only [reportNoMinLimit_eq, hasChanged_keptLen, hbound, and_true]
  by_cases hchanged : hasChanged (s.reportCfgInfo i) attr (attrSize attr) = true
  · have hdue : s.untimed.due i = some attr := due_eq_some.mpr ⟨hno, hattr, hchanged⟩
    rw [if_pos hchanged, reportDue, hdue, reportAttr_bound hbound hattr]
    split
    · rfl
    · rfl
  · have hdue : s.untimed.due i = none := (due_eq_none hno hattr).mpr (Bool.eq_false_iff.mpr hchanged)
    rw [if_neg hchanged, reportDue, hdue]

/-- The second loop reports nothing where nothing is due. -/
theorem startTimers_untimed (h : s.Ready) (hdue : s.due i = none) : (s.startTimers i).untimed = s.untimed := by
  set s₁ := s.setApp i { s.appReporting i with pEntry := some i } with hs₁
  have hmin : (s₁.startMinTimer i).untimed = s.untimed := by
    simp only [startMinTimer_eq]
    split <;> rfl
  have hpEntry : ((s₁.startMinTimer i).appReporting i).pEntry = some i := by
    simp only [startMinTimer_eq]
    split <;> simp [hs₁]
  have hsame := untimed_same hmin
  simp only [startTimers_eq, ← hs₁]
  split
  · next hstart =>
    obtain ⟨hused, -, hinterval, -⟩ := hstart
    simp only [startMaxTimer_eq]
    split
    · split
      · split
        · exact hmin
        · exact hmin
      · next hmax =>
        -- No maximum: the minimum callback looks at the entry once more.
        rw [hsame.1] at hmax
        have hmax : (s.reportCfgInfo i).maxInterval = 0 := not_not.mp hmax
        have hmin₀ : (s.reportCfgInfo i).minInterval ≠ 0 := hinterval.resolve_right (not_not.mpr hmax)
        obtain ⟨attr, hattr, -⟩ := h.registered i hused
        have hchanged : hasChanged (s.reportCfgInfo i) attr (byteLen attr).toNat = false :=
          hasChanged_byteLen ((due_eq_none ⟨hused, .inl hmax⟩ hattr).mp hdue)
        unfold byteLen at hchanged
        have hentry : (s₁.startMinTimer i).entry (some i) = s.reportCfgInfo i := congrFun hsame.1 i
        have hfind : (s₁.startMinTimer i).zclFindAttribute (s.reportCfgInfo i).endPoint (s.reportCfgInfo i).clusterID
            (s.reportCfgInfo i).attrID = some attr := by
          rw [zclFindAttribute, hsame.2]
          exact hattr
        simp only [appReportMinAttrTimerCb_eq, hpEntry, hentry, hfind]
        rw [if_neg fun heq => hmin₀ (heq.trans hmax), hchanged, if_neg Bool.false_ne_true]
        exact hmin
    · exact hmin
  · rfl

theorem ready_untimed_iff : s.untimed.Ready ↔ s.Ready :=
  ⟨fun h => ⟨h.joined, h.running, h.reportNum, h.registered, h.bound⟩,
    fun h => ⟨h.joined, h.running, h.reportNum, h.registered, h.bound⟩⟩

theorem Ready.congr (h : s.Ready) (heq : s'.untimed = s.untimed) : s'.Ready := by
  rw [← ready_untimed_iff, heq, ready_untimed_iff]
  exact h

/-- A report leaves what a pass reads of the table alone, but for the value kept. -/
theorem reportDue_cases (s : Reporting) (i : Slot) :
    s.due i = none ∧ s.reportDue i = s ∨ ∃ attr, s.due i = some attr ∧ s.reportDue i =
      { s with
        reportCfgInfo := Function.update s.reportCfgInfo i (keeping (s.reportCfgInfo i) attr)
        sent := s.reportOf i attr :: s.sent } := by
  rcases hdue : s.due i with _ | attr
  · exact .inl ⟨rfl, by rw [reportDue, hdue]⟩
  · exact .inr ⟨attr, rfl, by rw [reportDue, hdue]⟩

theorem reportDue_untimed (s : Reporting) (i : Slot) : (s.untimed.reportDue i).untimed = s.untimed.reportDue i := by
  rcases reportDue_cases s.untimed i with ⟨-, h⟩ | ⟨attr, -, h⟩
  · rw [h]
    rfl
  · rw [h]
    rfl

theorem reportCfgInfo_reportDue_ne (hij : j ≠ i) : (s.reportDue i).reportCfgInfo j = s.reportCfgInfo j := by
  rcases reportDue_cases s i with ⟨-, h⟩ | ⟨attr, -, h⟩
  · rw [h]
  · rw [h]
    exact Function.update_of_ne hij ..

theorem due_reportDue_ne (hij : j ≠ i) : (s.reportDue i).due j = s.due j := by
  have hentry := reportCfgInfo_reportDue_ne (s := s) hij
  have hattrs : (s.reportDue i).attrTable = s.attrTable := by
    rcases reportDue_cases s i with ⟨-, h⟩ | ⟨attr, -, h⟩ <;> rw [h]
  simp only [due, zclFindAttribute, hentry, hattrs]

theorem due_reportDue_self : (s.reportDue i).due i = none := by
  rcases reportDue_cases s i with ⟨hdue, h⟩ | ⟨attr, hdue, h⟩
  · rw [h, hdue]
  · obtain ⟨hno, hattr, -⟩ := due_eq_some.mp hdue
    have hentry : (s.reportDue i).reportCfgInfo i = keeping (s.reportCfgInfo i) attr := by
      rw [h]
      exact Function.update_self ..
    have hfound : (s.reportDue i).zclFindAttribute ((s.reportDue i).reportCfgInfo i).endPoint
        ((s.reportDue i).reportCfgInfo i).clusterID ((s.reportDue i).reportCfgInfo i).attrID = some attr := by
      rw [hentry, h]
      exact hattr
    refine (due_eq_none ?_ hfound).mpr ?_
    · rw [hentry]
      exact hno
    · rw [hentry]
      exact hasChanged_keeping _ _

theorem Ready.reportDue (h : s.Ready) (i : Slot) : (s.reportDue i).Ready := by
  rcases reportDue_cases s i with ⟨-, hcase⟩ | ⟨attr, -, hcase⟩
  · rw [hcase]
    exact h
  have hentry (j : Slot) : ∃ prevData, (s.reportDue i).reportCfgInfo j = { s.reportCfgInfo j with prevData := prevData } := by
    by_cases hij : j = i
    · subst hij
      rw [hcase]
      exact ⟨_, Function.update_self ..⟩
    · exact ⟨_, reportCfgInfo_reportDue_ne hij⟩
  rw [hcase] at hentry ⊢
  refine ⟨h.joined, h.running, fun j hused => ?_, fun j hused => ?_, fun j hused => ?_⟩
  · obtain ⟨prevData, heq⟩ := hentry j
    rw [heq] at hused
    exact h.reportNum j hused
  · obtain ⟨prevData, heq⟩ := hentry j
    rw [heq] at hused ⊢
    exact h.registered j hused
  · obtain ⟨prevData, heq⟩ := hentry j
    rw [heq] at hused ⊢
    exact h.bound j hused

/-! ### The loops of a pass -/

theorem noMinLimitLoop_untimed (h : s.Ready) (slots : List Slot) :
    (s.noMinLimitLoop slots).untimed = run reportDue s.untimed slots := by
  induction slots generalizing s with
  | nil => rfl
  | cons i slots ih =>
    simp only [noMinLimitLoop_cons, run_cons]
    split
    · next hno =>
      obtain ⟨attr, hattr, -⟩ := h.registered i hno.1
      have hstep := reportNoMinLimit_untimed h hno hattr
      have hready := Ready.reportDue (ready_untimed_iff.mpr h) i
      simp only [hattr]
      rw [ih (hready.congr (hstep.trans (reportDue_untimed s i).symm)), hstep]
    · next hno =>
      have hdue : s.untimed.due i = none := if_neg hno
      rw [ih h, reportDue, hdue]

theorem startTimers_run_untimed (h : s.Ready) (hdue : ∀ i, s.due i = none) (slots : List Slot) :
    (run startTimers s slots).untimed = s.untimed := by
  induction slots generalizing s with
  | nil => rfl
  | cons i slots ih =>
    have hstep := startTimers_untimed h (hdue i)
    have hnothing (j : Slot) : (s.startTimers i).due j = none := by
      rw [← due_untimed, hstep]
      exact hdue j
    rw [run_cons, ih (h.congr hstep) hnothing, hstep]

theorem due_run_reportDue (slots : List Slot) (s : Reporting) (i : Slot) :
    (run reportDue s slots).due i = if i ∈ slots then none else s.due i := by
  induction slots generalizing s with
  | nil => rfl
  | cons j slots ih =>
    rw [run_cons, ih]
    by_cases hij : i = j
    · subst hij
      rw [if_pos List.mem_cons_self, due_reportDue_self, ite_self]
    · simp only [List.mem_cons, hij, false_or, due_reportDue_ne hij]

/-- The report that a pass owes for a slot. -/
def dueReport (s : Reporting) (i : Slot) : Option Report := (s.due i).map (s.reportOf i)

/-- The entry that a pass leaves of a slot. -/
def passed (s : Reporting) (i : Slot) : ReportCfgInfo := (s.due i).elim (s.reportCfgInfo i) (keeping (s.reportCfgInfo i))

theorem reportDue_eq (s : Reporting) (i : Slot) : (s.reportDue i).reportCfgInfo i = s.passed i ∧
    (s.reportDue i).sent = (s.dueReport i).toList ++ s.sent ∧ (s.reportDue i).now = s.now := by
  rcases reportDue_cases s i with ⟨hdue, h⟩ | ⟨attr, hdue, h⟩
  · rw [h, passed, dueReport, hdue]
    exact ⟨rfl, rfl, rfl⟩
  · rw [h, passed, dueReport, hdue]
    exact ⟨Function.update_self .., rfl, rfl⟩

theorem dueReport_reportDue_ne (hij : j ≠ i) : (s.reportDue i).dueReport j = s.dueReport j := by
  have hreport : (s.reportDue i).reportOf j = s.reportOf j := by
    funext attr
    simp only [reportOf, reportCfgInfo_reportDue_ne hij, (reportDue_eq s i).2.2]
  rw [dueReport, dueReport, due_reportDue_ne hij, hreport]

theorem passed_reportDue_ne (hij : j ≠ i) : (s.reportDue i).passed j = s.passed j := by
  rw [passed, passed, due_reportDue_ne hij, reportCfgInfo_reportDue_ne hij]

/-- Slot by slot, what is due is sent once and kept. -/
theorem run_reportDue {slots : List Slot} (hnodup : slots.Nodup) (s : Reporting) :
    (run reportDue s slots).sent = (slots.filterMap s.dueReport).reverse ++ s.sent ∧
      ∀ i, (run reportDue s slots).reportCfgInfo i = if i ∈ slots then s.passed i else s.reportCfgInfo i := by
  induction slots generalizing s with
  | nil => exact ⟨rfl, fun i => rfl⟩
  | cons j slots ih =>
    obtain ⟨hj, hnodup⟩ := List.nodup_cons.mp hnodup
    obtain ⟨hsent, hentry⟩ := ih hnodup (s.reportDue j)
    obtain ⟨hself, hone, -⟩ := reportDue_eq s j
    have hlater : slots.filterMap (s.reportDue j).dueReport = slots.filterMap s.dueReport := by
      apply List.filterMap_congr
      intro i hi
      exact dueReport_reportDue_ne fun hij => hj (hij ▸ hi)
    rw [run_cons]
    refine ⟨?_, fun i => ?_⟩
    · rw [hsent, hlater, hone]
      cases hdue : s.dueReport j with
      | none => rw [List.filterMap_cons_none hdue]; rfl
      | some r => rw [List.filterMap_cons_some hdue, List.reverse_cons, List.append_assoc]; rfl
    · rw [hentry i]
      by_cases hij : i = j
      · subst hij
        rw [if_neg hj, if_pos List.mem_cons_self, hself]
      · simp only [List.mem_cons, hij, false_or, passed_reportDue_ne hij, reportCfgInfo_reportDue_ne hij]

theorem Ready.run_reportDue (h : s.Ready) (slots : List Slot) : (run Reporting.reportDue s slots).Ready :=
  run_invariant (P := Ready) (fun _ i hs => hs.reportDue i) h slots

/-- An entry that is due is active. -/
theorem Ready.active (h : s.Ready) (hdue : s.due i = some attr) : s.zclReportingEntryActiveNumGet ≠ 0 := by
  obtain ⟨⟨hused, hmax⟩, -⟩ := due_eq_some.mp hdue
  have hlimited : (s.reportCfgInfo i).maxInterval ≠ 0xFFFF#16 := by
    rcases hmax with hzero | ⟨hne, -⟩
    · rw [hzero]
      decide
    · exact hne
  rw [zclReportingEntryActiveNumGet, if_pos (h.reportNum i hused)]
  apply Nat.ne_of_gt
  rw [List.countP_pos_iff]
  exact ⟨i, List.mem_finRange i, by simp [hused, hlimited]⟩

/-- A pass is its first loop, as far as reports go. -/
theorem appReportHandler_untimed (h : s.Ready) :
    s.appReportHandler.untimed = run reportDue s.untimed (List.finRange zclReportingTableNum) := by
  have hloop := noMinLimitLoop_untimed h (List.finRange zclReportingTableNum)
  rw [appReportHandler_eq, if_pos h.joined, h.running, if_neg Bool.false_ne_true]
  by_cases hactive : s.zclReportingEntryActiveNumGet ≠ 0
  · rw [if_pos hactive, appReportNoMinLimit_eq, if_pos hactive, ← hloop]
    rw [appReportAttrTimerStart_eq]
    split
    · apply startTimers_run_untimed
      · rw [← ready_untimed_iff, hloop]
        exact (ready_untimed_iff.mpr h).run_reportDue _
      · intro i
        rw [← due_untimed, hloop, due_run_reportDue, if_pos (List.mem_finRange i)]
    · rfl
  · -- No entry is active, so none is due.
    rw [if_neg hactive, run_fixed]
    intro i _
    rcases hdue : s.due i with _ | attr
    · rw [reportDue, due_untimed, hdue]
    · exact absurd (h.active hdue) hactive

end Reporting

/-- One pass sends, in the order of the table, one report for each entry without a minimum limit whose value passes the
change test, and nothing else; the entries reported keep the value, the others stay as they are; and a pass that
follows, with the values unchanged, sends nothing. -/
theorem report_pass {s : Reporting} (h : s.Ready) :
    s.appReportHandler.sent = ((List.finRange zclReportingTableNum).filterMap s.dueReport).reverse ++ s.sent ∧
      (∀ i attr, s.due i = some attr → ∀ k : Fin 8, k.val < Reporting.attrSize attr →
        (s.appReportHandler.reportCfgInfo i).prevData k = attr.data k) ∧
      (∀ i, s.due i = none → s.appReportHandler.reportCfgInfo i = s.reportCfgInfo i) ∧
      ∀ ticks, (run Reporting.step s [.appReportHandler, .elapse ticks, .appReportHandler]).sent =
        s.appReportHandler.sent := by
  have hpass := Reporting.appReportHandler_untimed h
  obtain ⟨hsent, hentry⟩ := Reporting.run_reportDue (List.nodup_finRange zclReportingTableNum) s.untimed
  rw [← hpass] at hsent hentry
  refine ⟨hsent, fun i attr hdue k hk => ?_, fun i hdue => ?_, fun ticks => ?_⟩
  · have heq := (hentry i).trans (if_pos (List.mem_finRange i))
    rw [Reporting.passed, Reporting.due_untimed, hdue] at heq
    exact (congrArg (fun e => e.prevData k) heq).trans (if_pos hk)
  · have heq := (hentry i).trans (if_pos (List.mem_finRange i))
    rw [Reporting.passed, Reporting.due_untimed, hdue] at heq
    exact heq
  · have hagain := s.appReportHandler_again (s.appReportHandler.now + ticks)
    exact (congrArg Reporting.sent hagain :)

/-- A changed value without a minimum limit, and a second later a value that has not changed. -/
theorem changed_once_reported :
    (oneEntryDevice 0#16 300#16).appReportHandler.sent.map Report.pEntry = [some 0] ∧
      (run Reporting.step (oneEntryDevice 0#16 300#16) [.appReportHandler, .elapse ticksPerSecond, .appReportHandler]).sent =
        (oneEntryDevice 0#16 300#16).appReportHandler.sent := by
  have hready : (oneEntryDevice 0#16 300#16).Ready :=
    ⟨rfl, rfl, fun _ _ => by decide, fun _ _ => ⟨_, rfl, by decide⟩, fun _ _ => rfl⟩
  obtain ⟨hsent, -, -, hagain⟩ := report_pass hready
  refine ⟨?_, hagain ticksPerSecond⟩
  rw [hsent]
  decide

end Watermeter
