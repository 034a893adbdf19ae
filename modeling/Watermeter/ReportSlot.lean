import Watermeter.Reporting

/-! One slot of the reporting table: what the handler, the callbacks and the timer list do to it, and that they leave
the others alone. -/

namespace Watermeter

open NorFlash Transition

/-- What the reporting code knows of one slot, and the times of its reports. -/
structure SlotView where
  now : Nat
  bindingTbl : BitVec 16 → BitVec 8 → Bool
  attrTable : BitVec 8 → BitVec 16 → BitVec 16 → Option ZclAttrInfo
  entry : ReportCfgInfo
  app : AppReporting
  times : List Nat

namespace SlotView

def bound (v : SlotView) : Bool := v.bindingTbl v.entry.clusterID v.entry.endPoint

def attr (v : SlotView) : Option ZclAttrInfo := v.attrTable v.entry.endPoint v.entry.clusterID v.entry.attrID

/-- A report sent now, after which the entry keeps other data to compare with. -/
def reported (v : SlotView) (prevData : AnalogData) : SlotView :=
  { v with entry := { v.entry with prevData := prevData }, times := v.now :: v.times }

def posted (v : SlotView) : SlotView :=
  { v with app := { v.app with timePosted := TickClock.reading 32 v.now, postedAt := some v.now } }

def setMin (v : SlotView) (evt : Option EvTimer) : SlotView :=
  { v with app := { v.app with timerReportMinEvt := evt } }

def setMax (v : SlotView) (evt : Option EvTimer) : SlotView :=
  { v with app := { v.app with timerReportMaxEvt := evt } }

def setPEntry (v : SlotView) (pEntry : Option Slot) : SlotView := { v with app := { v.app with pEntry := pEntry } }

/-- The minimum timer is started unless it runs. -/
def startedMin (v : SlotView) : SlotView :=
  if v.app.timerReportMinEvt.isNone ∧ v.entry.minInterval ≠ 0 ∧ v.entry.maxInterval ≠ 0 ∧
      v.entry.minInterval ≤ v.entry.maxInterval then
    v.setMin (some ⟨v.now, v.entry.minInterval.setWidth 32 * 1000⟩)
  else v

def startedMax (v : SlotView) : SlotView :=
  if v.app.timerReportMaxEvt.isNone ∧ v.entry.minInterval < v.entry.maxInterval then
    v.setMax (some ⟨v.now, v.entry.maxInterval.setWidth 32 * 1000⟩)
  else v

/-- What a pass of `app_reportAttrTimerStart` leaves of a slot with a maximum interval. -/
def started (i : Slot) (v : SlotView) : SlotView :=
  if v.entry.used ∧ v.entry.maxInterval ≠ 0xFFFF#16 ∧ v.bound then (v.setPEntry (some i)).startedMin.startedMax
  else v.setPEntry (some i)

end SlotView

namespace Reporting

def view (s : Reporting) (i : Slot) : SlotView :=
  ⟨s.now, s.bindingTbl, s.attrTable, s.reportCfgInfo i, s.appReporting i, s.times i⟩

variable (s : Reporting) {i j : Slot}

@[simp] theorem appReporting_setApp_self (a : AppReporting) : (s.setApp i a).appReporting i = a :=
  Function.update_self ..

@[simp] theorem view_setApp_self (a : AppReporting) : (s.setApp i a).view i = { s.view i with app := a } := by
  simp [view, setApp, times]

theorem view_setMin (evt : Option EvTimer) :
    (s.setApp i { s.appReporting i with timerReportMinEvt := evt }).view i = (s.view i).setMin evt :=
  view_setApp_self s _

theorem view_setMax (evt : Option EvTimer) :
    (s.setApp i { s.appReporting i with timerReportMaxEvt := evt }).view i = (s.view i).setMax evt :=
  view_setApp_self s _

theorem view_setApp_ne (a : AppReporting) (hij : i ≠ j) : (s.setApp j a).view i = s.view i := by
  simp [view, setApp, times, Function.update_of_ne hij]

@[simp] theorem view_post_self : (s.post i).view i = (s.view i).posted := by
  rw [post, view_setApp_self]
  rfl

/-- A call of `reportAttr` does nothing, or it keeps other data to compare with and sends one report. -/
theorem reportAttr_cases (pEntry : Option Slot) :
    s.reportAttr pEntry = s ∨ ∃ prevData r, r.pEntry = pEntry ∧ r.sentAt = s.now ∧
      s.reportAttr pEntry =
        { s.setEntry pEntry { s.entry pEntry with prevData := prevData } with sent := r :: s.sent } := by
  simp only [reportAttr]
  split
  · split
    · exact .inl rfl
    · right
      cases pEntry with
      | none => refine ⟨_, _, ?_, ?_, rfl⟩ <;> rfl
      | some i => refine ⟨_, _, ?_, ?_, rfl⟩ <;> rfl
  · exact .inl rfl

/-- A report through another pointer is no report of the slot. -/
theorem view_reportAttr_ne {pEntry : Option Slot} (hp : pEntry ≠ some i) : (s.reportAttr pEntry).view i = s.view i := by
  rcases reportAttr_cases s pEntry with h | ⟨prevData, r, hr, -, h⟩
  · rw [h]
  · rw [h]
    cases pEntry with
    | none => simp [view, times, setEntry, hr]
    | some j =>
      have hij : i ≠ j := fun h => hp (by rw [h])
      simp [view, times, setEntry, hr, Function.update_of_ne hij, hij.symm]

/-- A report of a bound slot is sent when its attribute is there. -/
theorem view_reportAttr_self {attr : ZclAttrInfo} (hbound : (s.view i).bound = true) (hattr : (s.view i).attr = some attr) :
    ∃ prevData, (s.reportAttr (some i)).view i = (s.view i).reported prevData := by
  have hsearched : s.zbBindingTblSearched (s.entry (some i)).clusterID (s.entry (some i)).endPoint = true := hbound
  have hfound : s.zclFindAttribute (s.entry (some i)).endPoint (s.entry (some i)).clusterID
      (s.entry (some i)).attrID = some attr := hattr
  refine ⟨fun k => if k.val < (keptLen (zclGetAttrSize attr.type attr.data)).toNat then attr.data k
    else (s.reportCfgInfo i).prevData k, ?_⟩
  simp only [reportAttr, hsearched, hfound, if_true]
  simp [view, times, setEntry, SlotView.reported, entry]

theorem view_reportAttr_unregistered (hattr : (s.view i).attr = none) : (s.reportAttr (some i)).view i = s.view i := by
  have hfound : s.zclFindAttribute (s.entry (some i)).endPoint (s.entry (some i)).clusterID
      (s.entry (some i)).attrID = none := hattr
  simp only [reportAttr]
  simp only [hfound]
  split <;> rfl

@[simp] theorem appReporting_reportAttr (pEntry : Option Slot) : (s.reportAttr pEntry).appReporting = s.appReporting := by
  rcases reportAttr_cases s pEntry with h | ⟨prevData, r, -, -, h⟩
  · rw [h]
  · rw [h]
    cases pEntry <;> rfl

@[simp] theorem now_reportAttr (pEntry : Option Slot) : (s.reportAttr pEntry).now = s.now := by
  rcases reportAttr_cases s pEntry with h | ⟨prevData, r, -, -, h⟩
  · rw [h]
  · rw [h]
    cases pEntry <;> rfl

/-- Every slot points at its own entry, or at none yet. -/
def Linked (s : Reporting) : Prop := ∀ i p, (s.appReporting i).pEntry = some p → p = i

theorem linked_appReportingInit : s.appReportingInit.Linked := by
  intro i p hp
  simp only [appReportingInit] at hp
  split at hp
  · exact (Option.some.inj hp).symm
  · cases hp

/-- Between two states only slot `j` differs: its entry in `prevData` at most, and it has not been made to point at
another entry. -/
structure Touches (j : Slot) (s s' : Reporting) : Prop where
  reportNum : s'.reportNum = s.reportNum
  others : ∀ i, i ≠ j → s'.view i = s.view i
  entry : ∃ prevData, s'.reportCfgInfo j = { s.reportCfgInfo j with prevData := prevData }
  pEntry : (s'.appReporting j).pEntry = (s.appReporting j).pEntry ∨ (s'.appReporting j).pEntry = some j

variable {s} {s' s'' : Reporting}

theorem Touches.refl (j : Slot) (s : Reporting) : Touches j s s := ⟨rfl, fun _ _ => rfl, ⟨_, rfl⟩, .inl rfl⟩

theorem Touches.trans (h : Touches j s s') (h' : Touches j s' s'') : Touches j s s'' where
  reportNum := h'.reportNum.trans h.reportNum
  entry := by
    obtain ⟨prevData, hentry⟩ := h.entry
    obtain ⟨prevData', hentry'⟩ := h'.entry
    exact ⟨prevData', by rw [hentry', hentry]⟩
  others i hi := (h'.others i hi).trans (h.others i hi)
  pEntry := by
    rcases h'.pEntry with h' | h'
    · rw [h']
      exact h.pEntry
    · exact .inr h'

theorem touches_setApp {a : AppReporting} (ha : a.pEntry = (s.appReporting j).pEntry ∨ a.pEntry = some j) :
    Touches j s (s.setApp j a) where
  reportNum := rfl
  entry := ⟨_, rfl⟩
  others i hi := view_setApp_ne s a hi
  pEntry := by
    rw [appReporting_setApp_self]
    exact ha

theorem touches_post : Touches j s (s.post j) := touches_setApp (.inl rfl)

theorem touches_reportAttr {pEntry : Option Slot} (hp : ∀ p, pEntry = some p → p = j) :
    Touches j s (s.reportAttr pEntry) where
  reportNum := by
    rcases reportAttr_cases s pEntry with h | ⟨prevData, r, -, -, h⟩
    · rw [h]
    · rw [h]
      cases pEntry <;> rfl
  entry := by
    rcases reportAttr_cases s pEntry with h | ⟨prevData, r, -, -, h⟩
    · exact ⟨_, by rw [h]⟩
    · cases pEntry with
      | none => exact ⟨_, by rw [h]; rfl⟩
      | some p =>
        obtain rfl : p = j := hp p rfl
        exact ⟨prevData, by rw [h]; exact Function.update_self ..⟩
  others i hi := view_reportAttr_ne s fun h => hi (hp i h)
  pEntry := by simp

theorem Linked.of_touches (hlinked : s.Linked) (h : Touches j s s') : s'.Linked := by
  intro i p hp
  by_cases hij : i = j
  · subst hij
    rcases h.pEntry with h | h
    · exact hlinked i p (h ▸ hp)
    · exact (Option.some.inj (h ▸ hp)).symm
  · have happ : s'.appReporting i = s.appReporting i := congrArg SlotView.app (h.others i hij)
    exact hlinked i p (happ ▸ hp)

/-! What the callbacks return and leave. -/

theorem minCb_cases (s : Reporting) (j : Slot) :
    s.appReportMinAttrTimerCb j = (-1, s.setApp j { s.appReporting j with timerReportMinEvt := none }) ∨
      s.appReportMinAttrTimerCb j = (0, s) ∨
      (s.zclFindAttribute (s.entry (s.appReporting j).pEntry).endPoint (s.entry (s.appReporting j).pEntry).clusterID
          (s.entry (s.appReporting j).pEntry).attrID).isSome ∧
        s.appReportMinAttrTimerCb j = (0, (s.reportAttr (s.appReporting j).pEntry).post j) := by
  simp only [appReportMinAttrTimerCb_eq]
  split
  · exact .inl rfl
  · rename_i hfound
    split
    · exact .inr (.inr ⟨by rw [hfound]; rfl, rfl⟩)
    · split
      · exact .inr (.inr ⟨by rw [hfound]; rfl, rfl⟩)
      · exact .inr (.inl rfl)

theorem touches_minCb (hlinked : s.Linked) : Touches j s (s.appReportMinAttrTimerCb j).2 := by
  rcases minCb_cases s j with h | h | ⟨-, h⟩ <;> rw [h]
  · exact touches_setApp (.inl rfl)
  · exact .refl j s
  · exact (touches_reportAttr (hlinked j)).trans touches_post

theorem touches_maxCb (hlinked : s.Linked) : Touches j s (s.appReportMaxAttrTimerCb j).2 := by
  simp only [appReportMaxAttrTimerCb_eq]
  split
  · have hcancel : Touches j s (s.setApp j { s.appReporting j with timerReportMinEvt := none }) :=
      touches_setApp (.inl rfl)
    exact hcancel.trans (touches_reportAttr (hlinked j))
  · exact .refl j s

theorem touches_minTimer (hlinked : s.Linked) : Touches j s (s.minTimer j) := by
  simp only [minTimer]
  split
  · exact .refl j s
  · split
    · split
      · exact touches_minCb hlinked
      · exact (touches_minCb hlinked).trans (touches_setApp (.inl rfl))
    · exact .refl j s

theorem touches_maxTimer (hlinked : s.Linked) : Touches j s (s.maxTimer j) := by
  simp only [maxTimer]
  split
  · exact .refl j s
  · split
    · split
      · exact touches_maxCb hlinked
      · exact (touches_maxCb hlinked).trans (touches_setApp (.inl rfl))
    · exact .refl j s

theorem touches_startMinTimer : Touches j s (s.startMinTimer j) := by
  simp only [startMinTimer_eq]
  split
  · exact touches_setApp (.inl rfl)
  · exact .refl j s

theorem touches_startMaxTimer (hlinked : s.Linked) : Touches j s (s.startMaxTimer j) := by
  simp only [startMaxTimer_eq]
  split
  · split
    · split
      · exact touches_setApp (.inl rfl)
      · exact .refl j s
    · exact touches_minCb hlinked
  · exact .refl j s

theorem touches_startTimers (hlinked : s.Linked) : Touches j s (s.startTimers j) := by
  have hpointed : Touches j s (s.setApp j { s.appReporting j with pEntry := some j }) := touches_setApp (.inr rfl)
  simp only [startTimers_eq]
  split
  · have hmin := hpointed.trans touches_startMinTimer
    exact hmin.trans (touches_startMaxTimer (hlinked.of_touches hmin))
  · exact hpointed

theorem touches_reportNoMinLimit (s : Reporting) (j : Slot) (attr : ZclAttrInfo) :
    Touches j s (s.reportNoMinLimit j attr) := by
  have hreport : Touches j s ((s.reportAttr (some j)).post j) :=
    (touches_reportAttr fun p hp => (Option.some.inj hp).symm).trans touches_post
  simp only [reportNoMinLimit_eq]
  split
  · split
    · exact hreport.trans (touches_setApp (.inl rfl))
    · exact hreport
  · exact .refl j s

/-! The slot itself, after each of them. -/

theorem view_startMinTimer : (s.startMinTimer i).view i = (s.view i).startedMin := by
  simp only [startMinTimer_eq, SlotView.startedMin]
  split
  · rename_i hstart
    rw [if_pos (by exact hstart), view_setApp_self]
    rfl
  · rename_i hstart
    rw [if_neg (by exact hstart)]

theorem view_startMaxTimer (hmax : (s.reportCfgInfo i).maxInterval ≠ 0) :
    (s.startMaxTimer i).view i = (s.view i).startedMax := by
  have hentry : (s.view i).entry = s.reportCfgInfo i := rfl
  have happ : (s.view i).app = s.appReporting i := rfl
  simp only [startMaxTimer_eq, SlotView.startedMax, hentry, happ, if_pos hmax]
  by_cases hnone : (s.appReporting i).timerReportMaxEvt.isNone
  · by_cases hlt : (s.reportCfgInfo i).minInterval < (s.reportCfgInfo i).maxInterval
    · rw [if_pos hnone, if_pos hlt, if_pos ⟨hnone, hlt⟩, view_setApp_self]
      rfl
    · rw [if_pos hnone, if_neg hlt, if_neg fun h => hlt h.2]
  · rw [if_neg hnone, if_neg fun h => hnone h.1]

theorem view_startTimers (hmax : (s.reportCfgInfo i).maxInterval ≠ 0) :
    (s.startTimers i).view i = (s.view i).started i := by
  have hpointed : (s.setApp i { s.appReporting i with pEntry := some i }).view i = (s.view i).setPEntry (some i) :=
    view_setApp_self s _
  simp only [startTimers_eq, SlotView.started]
  split
  · rename_i hstart
    rw [if_pos ⟨hstart.1, hstart.2.1, hstart.2.2.2⟩, view_startMaxTimer, view_startMinTimer, hpointed]
    obtain ⟨prevData, hentry⟩ :=
      (touches_startMinTimer (s := s.setApp i { s.appReporting i with pEntry := some i }) (j := i)).entry
    rw [hentry]
    exact hmax
  · rename_i hstart
    rw [if_neg fun h => hstart ⟨h.1, h.2.1, .inr hmax, h.2.2⟩, hpointed]

/-- The loop of `app_reportAttrTimerStart` starts the timers of every slot it comes to. -/
theorem view_run_startTimers (hlinked : s.Linked) {slots : List Slot} (hnodup : slots.Nodup) (hi : i ∈ slots)
    (hmax : (s.reportCfgInfo i).maxInterval ≠ 0) : (run startTimers s slots).view i = (s.view i).started i := by
  have hrest : ∀ (slots : List Slot) (s : Reporting), s.Linked → i ∉ slots → (run startTimers s slots).view i = s.view i := by
    intro slots
    induction slots with
    | nil => exact fun s _ _ => rfl
    | cons j slots ih =>
      intro s hlinked hi
      have htouch : Touches j s (s.startTimers j) := touches_startTimers hlinked
      rw [run_cons, ih _ (hlinked.of_touches htouch) fun h => hi (List.mem_cons_of_mem j h)]
      exact htouch.others i fun h => hi (h ▸ List.mem_cons_self)
  induction slots generalizing s with
  | nil => cases hi
  | cons j slots ih =>
    have htouch : Touches j s (s.startTimers j) := touches_startTimers hlinked
    obtain ⟨hj, hnodup⟩ := List.nodup_cons.mp hnodup
    rw [run_cons]
    rcases List.mem_cons.mp hi with rfl | hi
    · rw [hrest slots _ (hlinked.of_touches htouch) hj, view_startTimers hmax]
    · have hview : (s.startTimers j).view i = s.view i := htouch.others i fun h => hj (h ▸ hi)
      have hentry : (s.startTimers j).reportCfgInfo i = s.reportCfgInfo i := congrArg SlotView.entry hview
      rw [ih (hlinked.of_touches htouch) hnodup hi (hentry ▸ hmax), hview]

theorem view_reportNoMinLimit_ne {attr : ZclAttrInfo} (hij : i ≠ j) : (s.reportNoMinLimit j attr).view i = s.view i :=
  (touches_reportNoMinLimit s j attr).others i hij

/-- The span of the maximum callback: the minimum interval in ticks, in the 32 bits of the counter. -/
theorem clockTimeExceed_iff {ref : BitVec 32} {seconds : BitVec 16} :
    s.clockTimeExceed ref (seconds.setWidth 32 * 1000 * 1000) = true ↔
      TickClock.Exceeds s.now ref (BitVec.ofNat 32 (seconds.toNat * ticksPerSecond)) := by
  have hspan : seconds.setWidth 32 * 1000 * 1000 * 16 = BitVec.ofNat 32 (seconds.toNat * ticksPerSecond) := by
    apply BitVec.eq_of_toNat_eq
    rw [BitVec.toNat_mul, BitVec.toNat_mul, BitVec.toNat_mul, BitVec.toNat_setWidth, BitVec.toNat_ofNat]
    change seconds.toNat % 2 ^ 32 * 1000 % 2 ^ 32 * 1000 % 2 ^ 32 * 16 % 2 ^ 32 = seconds.toNat * 16000000 % 2 ^ 32
    omega
  rw [clockTimeExceed, decide_eq_true_iff, hspan]
  rfl

/-- The minimum timer of a slot that points at its own entry: it is not due, or it ends, or it goes on with a report
or without one. -/
theorem view_minTimer (hp : (s.appReporting i).pEntry = some i ∨ (s.appReporting i).timerReportMinEvt = none)
    (hbound : (s.view i).bound = true) :
    (s.minTimer i).view i = s.view i ∨ (s.minTimer i).view i = (s.view i).setMin none ∨
      ∃ evt, (s.view i).app.timerReportMinEvt = some evt ∧ evt.Due s.now ∧
        ((s.minTimer i).view i = (s.view i).setMin (some ⟨s.now, evt.period⟩) ∨
          (s.view i).attr.isSome ∧ ∃ prevData,
            (s.minTimer i).view i = ((s.view i).reported prevData).posted.setMin (some ⟨s.now, evt.period⟩)) := by
  simp only [minTimer]
  split
  · exact .inl rfl
  · rename_i evt hevt
    have hp : (s.appReporting i).pEntry = some i := hp.resolve_right fun h => by rw [h] at hevt; cases hevt
    split
    · rename_i hdue
      rcases minCb_cases s i with h | h | ⟨hfound, h⟩
      · rw [h]
        exact .inr (.inl (view_setMin s none))
      · rw [h]
        exact .inr (.inr ⟨evt, hevt, hdue, .inl (view_setMin s _)⟩)
      · rw [hp] at hfound
        obtain ⟨attr, hattr⟩ := Option.isSome_iff_exists.mp hfound
        obtain ⟨prevData, hview⟩ := view_reportAttr_self s hbound hattr
        rw [h, hp]
        refine .inr (.inr ⟨evt, hevt, hdue, .inr ⟨hfound, prevData, ?_⟩⟩)
        have hpost : ((s.reportAttr (some i)).post i).view i = ((s.view i).reported prevData).posted := by
          rw [view_post_self, hview]
        exact (view_setMin _ _).trans (congrArg (SlotView.setMin · (some ⟨s.now, evt.period⟩)) hpost)
    · exact .inl rfl

/-- A minimum timer that is due reports a value that has changed. -/
theorem view_minTimer_changed {evt : EvTimer} {attr : ZclAttrInfo} (hevt : (s.view i).app.timerReportMinEvt = some evt)
    (hdue : evt.Due s.now) (hp : (s.appReporting i).pEntry = some i) (hbound : (s.view i).bound = true)
    (hattr : (s.view i).attr = some attr)
    (hchanged : hasChanged (s.reportCfgInfo i) attr
      (keptLen ((zclGetAttrSize attr.type attr.data).setWidth 8 |>.setWidth 16)).toNat = true) :
    ∃ prevData, (s.minTimer i).view i = ((s.view i).reported prevData).posted.setMin (some ⟨s.now, evt.period⟩) := by
  have hcb : s.appReportMinAttrTimerCb i = (0, (s.reportAttr (some i)).post i) := by
    have hfound : s.zclFindAttribute (s.entry (some i)).endPoint (s.entry (some i)).clusterID
      (s.entry (some i)).attrID = some attr := hattr
    simp only [appReportMinAttrTimerCb_eq, hp, hfound]
    split
    · rfl
    · exact if_pos hchanged
  obtain ⟨prevData, hview⟩ := view_reportAttr_self s hbound hattr
  have hpost : ((s.reportAttr (some i)).post i).view i = ((s.view i).reported prevData).posted := by
    rw [view_post_self, hview]
  refine ⟨prevData, ?_⟩
  have hevt : (s.appReporting i).timerReportMinEvt = some evt := hevt
  simp only [minTimer, hevt, if_pos hdue, hcb]
  exact (view_setMin _ _).trans (congrArg (SlotView.setMin · (some ⟨s.now, evt.period⟩)) hpost)

theorem maxTimer_cases (s : Reporting) (i : Slot) :
    s.maxTimer i = s ∨ ∃ evt, (s.view i).app.timerReportMaxEvt = some evt ∧ evt.Due s.now := by
  simp only [maxTimer]
  split
  · exact .inl rfl
  · rename_i evt hevt
    split
    · rename_i hdue
      exact .inr ⟨evt, hevt, hdue⟩
    · exact .inl rfl

/-- The maximum timer of such a slot. It reports when the counter finds more than the minimum interval since the stamp. -/
theorem view_maxTimer {evt : EvTimer} (hevt : (s.view i).app.timerReportMaxEvt = some evt) (hdue : evt.Due s.now)
    (hp : (s.appReporting i).pEntry = some i) (hbound : (s.view i).bound = true) :
    if TickClock.Exceeds s.now (s.view i).app.timePosted
        (BitVec.ofNat 32 ((s.view i).entry.minInterval.toNat * ticksPerSecond)) then
      (s.view i).attr = none ∧ (s.maxTimer i).view i = ((s.view i).setMin none).setMax (some ⟨s.now, evt.period⟩) ∨
        (s.view i).attr.isSome ∧ ∃ prevData,
          (s.maxTimer i).view i = (((s.view i).setMin none).reported prevData).setMax (some ⟨s.now, evt.period⟩)
    else (s.maxTimer i).view i = (s.view i).setMax (some ⟨s.now, evt.period⟩) := by
  have hfire : s.maxTimer i = if (s.appReportMaxAttrTimerCb i).1 < 0 then (s.appReportMaxAttrTimerCb i).2
      else (s.appReportMaxAttrTimerCb i).2.setApp i
        { (s.appReportMaxAttrTimerCb i).2.appReporting i with timerReportMaxEvt := some (s.schedule evt.period) } := by
    have hevt : (s.appReporting i).timerReportMaxEvt = some evt := hevt
    simp only [maxTimer, hevt, if_pos hdue]
  by_cases hexceeds : TickClock.Exceeds s.now (s.view i).app.timePosted
      (BitVec.ofNat 32 ((s.view i).entry.minInterval.toNat * ticksPerSecond))
  · rw [if_pos hexceeds]
    have hcb : s.appReportMaxAttrTimerCb i =
        (0, (s.setApp i { s.appReporting i with timerReportMinEvt := none }).reportAttr (some i)) := by
      simp only [appReportMaxAttrTimerCb_eq, hp]
      exact if_pos (clockTimeExceed_iff.mpr hexceeds)
    have hcancel : (s.setApp i { s.appReporting i with timerReportMinEvt := none }).view i = (s.view i).setMin none :=
      view_setMin s none
    rw [hfire, hcb]
    cases hattr : (s.view i).attr with
    | none =>
      have hreport := view_reportAttr_unregistered (s.setApp i { s.appReporting i with timerReportMinEvt := none })
        (by rw [hcancel]; exact hattr)
      refine .inl ⟨rfl, (view_setMax _ _).trans ?_⟩
      exact congrArg (SlotView.setMax · (some ⟨s.now, evt.period⟩)) (hreport.trans hcancel)
    | some attr =>
      have hbound' := (congrArg SlotView.bound hcancel).trans hbound
      have hattr' := (congrArg SlotView.attr hcancel).trans hattr
      obtain ⟨prevData, hreport⟩ := view_reportAttr_self _ hbound' hattr'
      rw [hcancel] at hreport
      refine .inr ⟨rfl, prevData, (view_setMax _ _).trans ?_⟩
      exact congrArg (SlotView.setMax · (some ⟨s.now, evt.period⟩)) hreport
  · rw [if_neg hexceeds]
    have hcb : s.appReportMaxAttrTimerCb i = (0, s) := by
      simp only [appReportMaxAttrTimerCb_eq, hp]
      exact if_neg fun h => hexceeds (clockTimeExceed_iff.mp h)
    rw [hfire, hcb]
    exact view_setMax s _

/-- A slot without a minimum limit reports a change with a stamp and starts its maximum timer again. -/
theorem view_reportNoMinLimit {attr : ZclAttrInfo} (hattr : (s.view i).attr = some attr)
    (hmax : (s.reportCfgInfo i).maxInterval ≠ 0) :
    (s.reportNoMinLimit i attr).view i = s.view i ∨ ∃ prevData,
      (s.reportNoMinLimit i attr).view i = ((s.view i).reported prevData).posted.setMax
        (some ⟨s.now, (s.reportCfgInfo i).maxInterval.setWidth 32 * 1000⟩) := by
  simp only [reportNoMinLimit_eq, if_pos hmax]
  split
  · rename_i hchanged
    obtain ⟨prevData, hview⟩ := view_reportAttr_self s hchanged.2 hattr
    have hpost : ((s.reportAttr (some i)).post i).view i = ((s.view i).reported prevData).posted := by
      rw [view_post_self, hview]
    have hnow : ((s.reportAttr (some i)).post i).now = s.now := now_reportAttr s _
    refine .inr ⟨prevData, (view_setMax _ _).trans ?_⟩
    rw [hpost, schedule, hnow]
  · exact .inl rfl

theorem Touches.activeNum (h : Touches j s s') :
    s'.zclReportingEntryActiveNumGet = s.zclReportingEntryActiveNumGet := by
  have hentry : ∀ i, (s'.reportCfgInfo i).used = (s.reportCfgInfo i).used ∧
      (s'.reportCfgInfo i).maxInterval = (s.reportCfgInfo i).maxInterval := by
    intro i
    by_cases hij : i = j
    · subst hij
      obtain ⟨prevData, hentry⟩ := h.entry
      rw [hentry]
      exact ⟨rfl, rfl⟩
    · have hentry : s'.reportCfgInfo i = s.reportCfgInfo i := congrArg SlotView.entry (h.others i hij)
      rw [hentry]
      exact ⟨rfl, rfl⟩
  simp only [zclReportingEntryActiveNumGet, h.reportNum, hentry]

/-- What every step of the loop of `app_reportNoMinLimit` keeps, the loop keeps. -/
theorem noMinLimitLoop_induction {P : Reporting → Prop}
    (hstep : ∀ s j attr, P s → NoMinLimit (s.reportCfgInfo j) → (s.view j).attr = some attr → P (s.reportNoMinLimit j attr))
    (slots : List Slot) (hs : P s) : P (s.noMinLimitLoop slots) := by
  induction slots generalizing s with
  | nil => exact hs
  | cons j slots ih =>
    simp only [noMinLimitLoop_cons]
    split
    · rename_i hno
      split
      · exact hs
      · rename_i attr hattr
        exact ih (hstep s j attr hs hno hattr)
    · exact ih hs

theorem linked_appReportNoMinLimit (hlinked : s.Linked) : s.appReportNoMinLimit.Linked := by
  simp only [appReportNoMinLimit_eq]
  split
  · exact noMinLimitLoop_induction (fun s j attr h _ _ => h.of_touches (touches_reportNoMinLimit s j attr)) _ hlinked
  · exact hlinked

theorem activeNum_appReportNoMinLimit (s : Reporting) :
    s.appReportNoMinLimit.zclReportingEntryActiveNumGet = s.zclReportingEntryActiveNumGet := by
  simp only [appReportNoMinLimit_eq]
  split
  · refine noMinLimitLoop_induction
      (P := fun s' => s'.zclReportingEntryActiveNumGet = s.zclReportingEntryActiveNumGet) ?_ _ rfl
    intro s' j attr h _ _
    exact (touches_reportNoMinLimit s' j attr).activeNum.trans h
  · rfl

/-- The first loop leaves a slot with a minimum limit as it is. -/
theorem view_appReportNoMinLimit (hlimit : ¬ NoMinLimit (s.reportCfgInfo i)) : s.appReportNoMinLimit.view i = s.view i := by
  simp only [appReportNoMinLimit_eq]
  split
  · refine noMinLimitLoop_induction (P := fun s' => s'.view i = s.view i) ?_ _ rfl
    intro s' j attr h hno _
    by_cases hij : i = j
    · subst hij
      have hentry : s'.reportCfgInfo i = s.reportCfgInfo i := congrArg SlotView.entry h
      rw [hentry] at hno
      exact absurd hno hlimit
    · rw [view_reportNoMinLimit_ne hij, h]
  · rfl

/-- A pass that is not held up runs over all slots after the first loop. -/
theorem appReportHandler_run (h : s.Passes) :
    s.appReportHandler = run startTimers s.appReportNoMinLimit (List.finRange zclReportingTableNum) := by
  have hactive := h.2.2
  rw [← activeNum_appReportNoMinLimit] at hactive
  rw [appReportHandler_passes h, appReportAttrTimerStart_eq, if_pos hactive]

theorem view_pass (hlinked : s.Linked) (hmax : (s.appReportNoMinLimit.reportCfgInfo i).maxInterval ≠ 0) (h : s.Passes) :
    s.appReportHandler.view i = (s.appReportNoMinLimit.view i).started i := by
  rw [appReportHandler_run h]
  exact view_run_startTimers (linked_appReportNoMinLimit hlinked) (List.nodup_finRange _) (List.mem_finRange i) hmax

theorem view_appReportHandler (hlinked : s.Linked) (hmax : (s.appReportNoMinLimit.reportCfgInfo i).maxInterval ≠ 0) :
    s.appReportHandler = s ∨ s.appReportHandler.view i = (s.appReportNoMinLimit.view i).started i := by
  by_cases hpasses : s.Passes
  · exact .inr (view_pass hlinked hmax hpasses)
  · exact .inl (appReportHandler_held hpasses)

theorem linked_appReportHandler (hlinked : s.Linked) : s.appReportHandler.Linked := by
  have hloop (s : Reporting) (j : Slot) (h : s.Linked) : (s.startTimers j).Linked := h.of_touches (touches_startTimers h)
  by_cases hpasses : s.Passes
  · rw [appReportHandler_run hpasses]
    exact run_invariant hloop (linked_appReportNoMinLimit hlinked) _
  · rw [appReportHandler_held hpasses]
    exact hlinked

end Reporting

end Watermeter
