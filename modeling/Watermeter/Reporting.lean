import Watermeter.ReportableChange
import Watermeter.TickClock
import Watermeter.Transition
import Mathlib.Data.List.FinRange

/-! `app_reporting.c`: the reporting table, the two timers of each of its entries and the reports they send. Time is
counted in ticks of the 16 MHz system timer from the start of that timer, without end; the code reads its low 32 bits. -/

namespace Watermeter

open NorFlash Transition

abbrev zclReportingTableNum : Nat := 8

instance : NeZero zclReportingTableNum := ⟨by decide⟩

/-- A slot of the reporting table. -/
abbrev Slot := Fin zclReportingTableNum

/-- `zclAttrInfo_t` as a report needs it: the type, and the memory from `data` on. -/
structure ZclAttrInfo where
  type : BitVec 8
  data : Nat → Byte

/-- `reportCfgInfo_t`, as far as the application uses it. -/
structure ReportCfgInfo where
  profileID : BitVec 16
  clusterID : BitVec 16
  attrID : BitVec 16
  minInterval : BitVec 16
  maxInterval : BitVec 16
  endPoint : BitVec 8
  reportableChange : AnalogData
  prevData : AnalogData
  used : Bool

/-- An event in the timer list: when its present period began, and the period in milliseconds. -/
structure EvTimer where
  since : Nat
  period : BitVec 32
  deriving DecidableEq, Repr

def ticksPerMs : Nat := 16000

def ticksPerSecond : Nat := 16000000

/-- The period is over. The timer list may come to an event later than that, but not before. -/
def EvTimer.Due (evt : EvTimer) (now : Nat) : Prop := evt.since + evt.period.toNat * ticksPerMs ≤ now

instance (evt : EvTimer) (now : Nat) : Decidable (evt.Due now) := inferInstanceAs (Decidable (_ ≤ _))

/-- `app_reporting_t`. The code keeps no more of the time of a report than `time_posted`; `postedAt` is that time in
full, and `none` until `time_posted` is first written. -/
structure AppReporting where
  timerReportMinEvt : Option EvTimer
  timerReportMaxEvt : Option EvTimer
  pEntry : Option Slot
  timePosted : BitVec 32
  postedAt : Option Nat

/-- A call of `zcl_sendReportCmd` by `reportAttr`, with the entry it is for and the time of the call. -/
structure Report where
  pEntry : Option Slot
  sentAt : Nat
  profileId : BitVec 16
  endPoint : BitVec 8
  clusterID : BitVec 16
  attrID : BitVec 16
  type : BitVec 8
  data : Nat → Byte

/-- The device as the reporting code sees it. `atNull` is what a null `pEntry` points at, and `sent` has the newest
report first. -/
structure Reporting where
  now : Nat
  joined : Bool
  timerStopReportEvt : Bool
  bindingTbl : BitVec 16 → BitVec 8 → Bool
  attrTable : BitVec 8 → BitVec 16 → BitVec 16 → Option ZclAttrInfo
  reportNum : BitVec 8
  reportCfgInfo : Slot → ReportCfgInfo
  appReporting : Slot → AppReporting
  atNull : ReportCfgInfo
  sent : List Report

namespace Reporting

def clockTime (s : Reporting) : BitVec 32 := TickClock.reading 32 s.now

def clockTimeExceed (s : Reporting) (ref us : BitVec 32) : Bool := decide (us * 16 < s.clockTime - ref)

def zbBindingTblSearched (s : Reporting) (clusterID : BitVec 16) (endPoint : BitVec 8) : Bool :=
  s.bindingTbl clusterID endPoint

def zclFindAttribute (s : Reporting) (endPoint : BitVec 8) (clusterID attrID : BitVec 16) : Option ZclAttrInfo :=
  s.attrTable endPoint clusterID attrID

/-- `*pEntry`. -/
def entry (s : Reporting) : Option Slot → ReportCfgInfo
  | some i => s.reportCfgInfo i
  | none => s.atNull

/-- A write through `pEntry`; address 0 is in the flash, where a write does nothing. -/
def setEntry (s : Reporting) (pEntry : Option Slot) (e : ReportCfgInfo) : Reporting :=
  match pEntry with
  | some i => { s with reportCfgInfo := Function.update s.reportCfgInfo i e }
  | none => s

def setApp (s : Reporting) (i : Slot) (a : AppReporting) : Reporting :=
  { s with appReporting := Function.update s.appReporting i a }

/-- `TL_ZB_TIMER_SCHEDULE`. -/
def schedule (s : Reporting) (period : BitVec 32) : EvTimer := ⟨s.now, period⟩

/-- `time_posted = clock_time()`. -/
def post (s : Reporting) (i : Slot) : Reporting :=
  s.setApp i { s.appReporting i with timePosted := s.clockTime, postedAt := some s.now }

/-- The bytes of a value that an entry keeps and compares. -/
def keptLen (len : BitVec 16) : BitVec 16 := if 8#16 < len then 8#16 else len

def reportAttr (s : Reporting) (pEntry : Option Slot) : Reporting :=
  let e := s.entry pEntry
  if s.zbBindingTblSearched e.clusterID e.endPoint then
    match s.zclFindAttribute e.endPoint e.clusterID e.attrID with
    | none => s
    | some attr =>
      let len := keptLen (zclGetAttrSize attr.type attr.data)
      let s := s.setEntry pEntry { e with prevData := fun k => if k.val < len.toNat then attr.data k else e.prevData k }
      { s with sent := ⟨pEntry, s.now, e.profileID, e.endPoint, e.clusterID, e.attrID, attr.type, attr.data⟩ :: s.sent }
  else s

/-- The condition of the two `if`s that look for a change, for the first `len` bytes of the value. -/
def hasChanged (e : ReportCfgInfo) (attr : ZclAttrInfo) (len : Nat) : Bool :=
  !zclAnalogDataType attr.type && decide (∃ k : Fin 8, k.val < len ∧ e.prevData k ≠ attr.data k) ||
    zclAnalogDataType attr.type &&
      appReportableChangeValueChk attr.type (fun k => attr.data k) e.prevData e.reportableChange

def zclReportingEntryActiveNumGet (s : Reporting) : Nat :=
  if s.reportNum ≠ 0 then
    (List.finRange zclReportingTableNum).countP fun i =>
      (s.reportCfgInfo i).used && (s.reportCfgInfo i).maxInterval ≠ 0xFFFF#16
  else 0

/-- The entries `app_reportNoMinLimit` looks at. -/
def NoMinLimit (e : ReportCfgInfo) : Prop :=
  e.used ∧ (e.maxInterval = 0 ∨ e.maxInterval ≠ 0xFFFF#16 ∧ e.minInterval = 0)

instance (e : ReportCfgInfo) : Decidable (NoMinLimit e) := inferInstanceAs (Decidable (_ ∧ _))

end Reporting

/-- The handles of the timers of a slot. -/
inductive ReportTimer
  | min (i : Slot)
  | max (i : Slot)
  deriving DecidableEq, Repr

/-- What `app_reporting.c` runs on: its variables, and its timers by their handles. -/
class ReportTimers (σ : Type) where
  reporting : σ → Reporting
  withReporting : Reporting → σ → σ
  /-- `timerStopReportEvt` is not null. -/
  stopReport : σ → Bool
  isNull : ReportTimer → σ → Bool
  schedule : ReportTimer → BitVec 32 → σ → σ
  /-- What is pending is cancelled. -/
  stop : ReportTimer → σ → σ
  /-- The handle is set to null. -/
  forget : ReportTimer → σ → σ
  /-- `pEntry` of the slot is about to be followed. -/
  follow : Slot → σ → σ

namespace ReportTimers

open Reporting

variable {σ : Type} [ReportTimers σ]

/-- The callback gives the value it returns to the timer list as well. Its `len` is a byte. -/
def appReportMinAttrTimerCb (s : σ) (i : Slot) : Int × σ :=
  let s := follow i s
  let r := reporting s
  let pEntry := (r.appReporting i).pEntry
  let e := r.entry pEntry
  match r.zclFindAttribute e.endPoint e.clusterID e.attrID with
  | none => (-1, forget (.min i) s)
  | some attr =>
    if e.minInterval = e.maxInterval then (0, withReporting ((r.reportAttr pEntry).post i) s)
    else
      let len := keptLen ((zclGetAttrSize attr.type attr.data).setWidth 8 |>.setWidth 16)
      if hasChanged e attr len.toNat then (0, withReporting ((r.reportAttr pEntry).post i) s) else (0, s)

def appReportMaxAttrTimerCb (s : σ) (i : Slot) : Int × σ :=
  let s := follow i s
  let r := reporting s
  let a := r.appReporting i
  let e := r.entry a.pEntry
  if r.clockTimeExceed a.timePosted (e.minInterval.setWidth 32 * 1000 * 1000) then
    let s := stop (.min i) s
    (0, withReporting ((reporting s).reportAttr a.pEntry) s)
  else (0, s)

/-- The first part of the body of the loop: the minimum timer. -/
def startMinTimer (s : σ) (i : Slot) : σ :=
  let e := (reporting s).reportCfgInfo i
  if isNull (.min i) s ∧ e.minInterval ≠ 0 ∧ e.maxInterval ≠ 0 ∧ e.minInterval ≤ e.maxInterval then
    schedule (.min i) (e.minInterval.setWidth 32 * 1000) s
  else s

/-- The second part: the maximum timer, or the minimum callback where there is no maximum. -/
def startMaxTimer (s : σ) (i : Slot) : σ :=
  let e := (reporting s).reportCfgInfo i
  if isNull (.max i) s then
    if e.maxInterval ≠ 0 then
      if e.minInterval < e.maxInterval then schedule (.max i) (e.maxInterval.setWidth 32 * 1000) s else s
    else (appReportMinAttrTimerCb s i).2
  else s

/-- The body of the loop of `app_reportAttrTimerStart`. -/
def startTimers (s : σ) (i : Slot) : σ :=
  let r := reporting s
  let s := withReporting (r.setApp i { r.appReporting i with pEntry := some i }) s
  let e := (reporting s).reportCfgInfo i
  if e.used ∧ e.maxInterval ≠ 0xFFFF#16 ∧ (e.minInterval ≠ 0 ∨ e.maxInterval ≠ 0) ∧
      (reporting s).zbBindingTblSearched e.clusterID e.endPoint then
    startMaxTimer (startMinTimer s i) i
  else s

def appReportAttrTimerStart (s : σ) : σ :=
  if (reporting s).zclReportingEntryActiveNumGet ≠ 0 then run startTimers s (List.finRange zclReportingTableNum) else s

/-- What the body of the loop of `app_reportNoMinLimit` does for an entry whose attribute is there. -/
def reportNoMinLimit (s : σ) (i : Slot) (attr : ZclAttrInfo) : σ :=
  let r := reporting s
  let e := r.reportCfgInfo i
  let len := keptLen (zclGetAttrSize attr.type attr.data)
  if hasChanged e attr len.toNat ∧ r.zbBindingTblSearched e.clusterID e.endPoint then
    let s := withReporting ((r.reportAttr (some i)).post i) s
    if e.maxInterval ≠ 0 then schedule (.max i) (e.maxInterval.setWidth 32 * 1000) (stop (.max i) s) else s
  else s

/-- The loop ends at the first entry whose attribute is not found. -/
def noMinLimitLoop (s : σ) : List Slot → σ
  | [] => s
  | i :: slots =>
    let e := (reporting s).reportCfgInfo i
    if NoMinLimit e then
      match (reporting s).zclFindAttribute e.endPoint e.clusterID e.attrID with
      | none => s
      | some attr => noMinLimitLoop (reportNoMinLimit s i attr) slots
    else noMinLimitLoop s slots

def appReportNoMinLimit (s : σ) : σ :=
  if (reporting s).zclReportingEntryActiveNumGet ≠ 0 then noMinLimitLoop s (List.finRange zclReportingTableNum) else s

def appReportHandler (s : σ) : σ :=
  if (reporting s).joined then
    if stopReport s then s
    else if (reporting s).zclReportingEntryActiveNumGet ≠ 0 then appReportAttrTimerStart (appReportNoMinLimit s)
    else s
  else s

/-- The test of `app_zclCfgReportCmd` at a slot. -/
def named (r : Reporting) (endPoint : BitVec 8) (attrID : BitVec 16) (ii : Slot) : Bool :=
  let e := r.entry (r.appReporting ii).pEntry
  e.used && e.endPoint = endPoint && e.attrID = attrID

/-- The inner loop of `app_zclCfgReportCmd`, up to the first slot that passes the test. -/
def cfgReportLoop (endPoint : BitVec 8) (attrID : BitVec 16) (s : σ) : List Slot → Option Slot × σ
  | [] => (none, s)
  | ii :: slots =>
    let s := follow ii s
    if named (reporting s) endPoint attrID ii then (some ii, s) else cfgReportLoop endPoint attrID s slots

/-- `app_zclCfgReportCmd`, for the attributes of the records in their order: the first entry in use that has the
endpoint and the attribute id of a record loses its timers. -/
def appZclCfgReportCmd (s : σ) (endPoint : BitVec 8) : List (BitVec 16) → σ
  | [] => s
  | attrID :: attrList =>
    match cfgReportLoop endPoint attrID s (List.finRange zclReportingTableNum) with
    | (some ii, s) => stop (.max ii) (stop (.min ii) s)
    | (none, s) => appZclCfgReportCmd s endPoint attrList

section Unfollowed

variable (hfollow : ∀ (i : Slot) (s : σ), follow i s = s)
include hfollow

theorem cfgReportLoop_eq (endPoint : BitVec 8) (attrID : BitVec 16) (s : σ) (slots : List Slot) :
    cfgReportLoop endPoint attrID s slots = (slots.find? (named (reporting s) endPoint attrID), s) := by
  induction slots with
  | nil => rfl
  | cons ii slots ih =>
    rw [cfgReportLoop, hfollow, List.find?_cons, ih]
    cases named (reporting s) endPoint attrID ii <;> rfl

/-- Where it does not matter which pointers are followed, the two loops are one search. -/
theorem appZclCfgReportCmd_eq (s : σ) (endPoint : BitVec 8) (attrList : List (BitVec 16)) :
    appZclCfgReportCmd s endPoint attrList =
      match attrList.findSome? fun attrID =>
        (List.finRange zclReportingTableNum).find? (named (reporting s) endPoint attrID) with
      | none => s
      | some ii => stop (.max ii) (stop (.min ii) s) := by
  induction attrList with
  | nil => rfl
  | cons attrID attrList ih =>
    rw [appZclCfgReportCmd, cfgReportLoop_eq hfollow, List.findSome?_cons]
    cases (List.finRange zclReportingTableNum).find? (named (reporting s) endPoint attrID) with
    | none => exact ih
    | some ii => rfl

end Unfollowed

end ReportTimers

namespace Reporting

/-- The timer of a handle. -/
def setTimer (s : Reporting) (evt : Option EvTimer) : ReportTimer → Reporting
  | .min i => s.setApp i { s.appReporting i with timerReportMinEvt := evt }
  | .max i => s.setApp i { s.appReporting i with timerReportMaxEvt := evt }

instance : ReportTimers Reporting where
  reporting s := s
  withReporting r _ := r
  stopReport s := s.timerStopReportEvt
  isNull
    | .min i, s => (s.appReporting i).timerReportMinEvt.isNone
    | .max i, s => (s.appReporting i).timerReportMaxEvt.isNone
  schedule timer period s := s.setTimer (some (s.schedule period)) timer
  stop timer s := s.setTimer none timer
  forget timer s := s.setTimer none timer
  follow _ s := s

def appReportMinAttrTimerCb (s : Reporting) (i : Slot) : Int × Reporting := ReportTimers.appReportMinAttrTimerCb s i

def appReportMaxAttrTimerCb (s : Reporting) (i : Slot) : Int × Reporting := ReportTimers.appReportMaxAttrTimerCb s i

def startMinTimer (s : Reporting) (i : Slot) : Reporting := ReportTimers.startMinTimer s i

def startMaxTimer (s : Reporting) (i : Slot) : Reporting := ReportTimers.startMaxTimer s i

def startTimers (s : Reporting) (i : Slot) : Reporting := ReportTimers.startTimers s i

def appReportAttrTimerStart (s : Reporting) : Reporting := ReportTimers.appReportAttrTimerStart s

def reportNoMinLimit (s : Reporting) (i : Slot) (attr : ZclAttrInfo) : Reporting :=
  ReportTimers.reportNoMinLimit s i attr

def noMinLimitLoop (s : Reporting) (slots : List Slot) : Reporting := ReportTimers.noMinLimitLoop s slots

def appReportNoMinLimit (s : Reporting) : Reporting := ReportTimers.appReportNoMinLimit s

def appReportHandler (s : Reporting) : Reporting := ReportTimers.appReportHandler s

def appZclCfgReportCmd (s : Reporting) (endPoint : BitVec 8) (attrList : List (BitVec 16)) : Reporting :=
  ReportTimers.appZclCfgReportCmd s endPoint attrList

/-! The code at this device, spelled out. -/

theorem appReportMinAttrTimerCb_eq (s : Reporting) (i : Slot) : s.appReportMinAttrTimerCb i =
    let pEntry := (s.appReporting i).pEntry
    let e := s.entry pEntry
    match s.zclFindAttribute e.endPoint e.clusterID e.attrID with
    | none => (-1, s.setApp i { s.appReporting i with timerReportMinEvt := none })
    | some attr =>
      if e.minInterval = e.maxInterval then (0, (s.reportAttr pEntry).post i)
      else
        let len := keptLen ((zclGetAttrSize attr.type attr.data).setWidth 8 |>.setWidth 16)
        if hasChanged e attr len.toNat then (0, (s.reportAttr pEntry).post i) else (0, s) := rfl

theorem appReportMaxAttrTimerCb_eq (s : Reporting) (i : Slot) : s.appReportMaxAttrTimerCb i =
    let a := s.appReporting i
    let e := s.entry a.pEntry
    if s.clockTimeExceed a.timePosted (e.minInterval.setWidth 32 * 1000 * 1000) then
      (0, (s.setApp i { a with timerReportMinEvt := none }).reportAttr a.pEntry)
    else (0, s) := rfl

theorem startMinTimer_eq (s : Reporting) (i : Slot) : s.startMinTimer i =
    let e := s.reportCfgInfo i
    let a := s.appReporting i
    if a.timerReportMinEvt.isNone ∧ e.minInterval ≠ 0 ∧ e.maxInterval ≠ 0 ∧ e.minInterval ≤ e.maxInterval then
      s.setApp i { a with timerReportMinEvt := some (s.schedule (e.minInterval.setWidth 32 * 1000)) }
    else s := rfl

theorem startMaxTimer_eq (s : Reporting) (i : Slot) : s.startMaxTimer i =
    let e := s.reportCfgInfo i
    let a := s.appReporting i
    if a.timerReportMaxEvt.isNone then
      if e.maxInterval ≠ 0 then
        if e.minInterval < e.maxInterval then
          s.setApp i { a with timerReportMaxEvt := some (s.schedule (e.maxInterval.setWidth 32 * 1000)) }
        else s
      else (s.appReportMinAttrTimerCb i).2
    else s := rfl

theorem startTimers_eq (s : Reporting) (i : Slot) : s.startTimers i =
    let s := s.setApp i { s.appReporting i with pEntry := some i }
    let e := s.reportCfgInfo i
    if e.used ∧ e.maxInterval ≠ 0xFFFF#16 ∧ (e.minInterval ≠ 0 ∨ e.maxInterval ≠ 0) ∧
        s.zbBindingTblSearched e.clusterID e.endPoint then
      (s.startMinTimer i).startMaxTimer i
    else s := rfl

theorem appReportAttrTimerStart_eq (s : Reporting) : s.appReportAttrTimerStart =
    if s.zclReportingEntryActiveNumGet ≠ 0 then run startTimers s (List.finRange zclReportingTableNum) else s := rfl

theorem reportNoMinLimit_eq (s : Reporting) (i : Slot) (attr : ZclAttrInfo) : s.reportNoMinLimit i attr =
    let e := s.reportCfgInfo i
    let len := keptLen (zclGetAttrSize attr.type attr.data)
    if hasChanged e attr len.toNat ∧ s.zbBindingTblSearched e.clusterID e.endPoint then
      let s := (s.reportAttr (some i)).post i
      if e.maxInterval ≠ 0 then
        s.setApp i { s.appReporting i with
          timerReportMaxEvt := some (s.schedule (e.maxInterval.setWidth 32 * 1000)) }
      else s
    else s := by
  have hstop : ∀ (r : Reporting) (evt : EvTimer), (r.setTimer none (.max i)).setTimer (some evt) (.max i) =
      r.setApp i { r.appReporting i with timerReportMaxEvt := some evt } := by
    intro r evt
    simp only [setTimer, setApp, Function.update_idem, Function.update_self]
  simp only [← hstop]
  rfl

theorem noMinLimitLoop_cons (s : Reporting) (i : Slot) (slots : List Slot) : s.noMinLimitLoop (i :: slots) =
    let e := s.reportCfgInfo i
    if NoMinLimit e then
      match s.zclFindAttribute e.endPoint e.clusterID e.attrID with
      | none => s
      | some attr => (s.reportNoMinLimit i attr).noMinLimitLoop slots
    else s.noMinLimitLoop slots := rfl

theorem appReportNoMinLimit_eq (s : Reporting) : s.appReportNoMinLimit =
    if s.zclReportingEntryActiveNumGet ≠ 0 then s.noMinLimitLoop (List.finRange zclReportingTableNum) else s := rfl

theorem appReportHandler_eq (s : Reporting) : s.appReportHandler =
    if s.joined then
      if s.timerStopReportEvt then s
      else if s.zclReportingEntryActiveNumGet ≠ 0 then s.appReportNoMinLimit.appReportAttrTimerStart
      else s
    else s := rfl

/-- A pass comes to the loops of the handler. -/
def Passes (s : Reporting) : Prop :=
  s.joined = true ∧ s.timerStopReportEvt = false ∧ s.zclReportingEntryActiveNumGet ≠ 0

instance (s : Reporting) : Decidable s.Passes := inferInstanceAs (Decidable (_ ∧ _))

theorem appReportHandler_passes {s : Reporting} (h : s.Passes) :
    s.appReportHandler = s.appReportNoMinLimit.appReportAttrTimerStart := by
  obtain ⟨hjoined, hstop, hactive⟩ := h
  rw [appReportHandler_eq, if_pos hjoined, hstop, if_neg Bool.false_ne_true, if_pos hactive]

theorem appReportHandler_held {s : Reporting} (h : ¬ s.Passes) : s.appReportHandler = s := by
  rw [appReportHandler_eq]
  split_ifs with hjoined hstop hactive
  · rfl
  · exact absurd ⟨hjoined, Bool.eq_false_iff.mpr hstop, hactive⟩ h
  · rfl
  · rfl

theorem appZclCfgReportCmd_eq (s : Reporting) (endPoint : BitVec 8) (attrList : List (BitVec 16)) :
    s.appZclCfgReportCmd endPoint attrList =
      let found := attrList.findSome? fun attrID =>
        (List.finRange zclReportingTableNum).find? fun ii =>
          let e := s.entry (s.appReporting ii).pEntry
          e.used && e.endPoint = endPoint && e.attrID = attrID
      match found with
      | none => s
      | some ii => s.setApp ii { s.appReporting ii with timerReportMinEvt := none, timerReportMaxEvt := none } := by
  have hstop : ∀ ii, (s.setTimer none (.min ii)).setTimer none (.max ii) =
      s.setApp ii { s.appReporting ii with timerReportMinEvt := none, timerReportMaxEvt := none } := by
    intro ii
    simp only [setTimer, setApp, Function.update_idem, Function.update_self]
  simp only [← hstop]
  exact ReportTimers.appZclCfgReportCmd_eq (fun _ _ => rfl) s endPoint attrList

def appReportingInit (s : Reporting) : Reporting :=
  { s with
    appReporting := fun i => ⟨none, none, if (s.reportCfgInfo i).used then some i else none, 0, none⟩ }

/-- `ev_timer_executeCB` for the minimum timer of a slot: an event that is due runs its callback, and ends if that
returns a negative value, else begins its period again. -/
def minTimer (s : Reporting) (i : Slot) : Reporting :=
  match (s.appReporting i).timerReportMinEvt with
  | none => s
  | some evt =>
    if evt.Due s.now then
      let r := s.appReportMinAttrTimerCb i
      if r.1 < 0 then r.2
      else r.2.setApp i { r.2.appReporting i with timerReportMinEvt := some (s.schedule evt.period) }
    else s

/-- The same for the maximum timer. -/
def maxTimer (s : Reporting) (i : Slot) : Reporting :=
  match (s.appReporting i).timerReportMaxEvt with
  | none => s
  | some evt =>
    if evt.Due s.now then
      let r := s.appReportMaxAttrTimerCb i
      if r.1 < 0 then r.2
      else r.2.setApp i { r.2.appReporting i with timerReportMaxEvt := some (s.schedule evt.period) }
    else s

/-- A new value for an attribute that is registered. -/
def setAttribute (s : Reporting) (endPoint : BitVec 8) (clusterID attrID : BitVec 16) (data : Nat → Byte) : Reporting :=
  { s with
    attrTable := fun ep cluster attr =>
      if ep = endPoint ∧ cluster = clusterID ∧ attr = attrID then
        (s.attrTable ep cluster attr).map fun info => { info with data := data }
      else s.attrTable ep cluster attr }

end Reporting

/-- What happens to the reporting code: time passes, an attribute gets a value, the join timer starts or ends, the
handler runs, the timer list comes to one of the timers, or the stack has changed the table for a configure command
and hands that on. -/
inductive ReportEvent
  | elapse (ticks : Nat)
  | setAttribute (endPoint : BitVec 8) (clusterID attrID : BitVec 16) (data : Nat → Byte)
  | stopReport (pending : Bool)
  | appReportHandler
  | minTimer (i : Slot)
  | maxTimer (i : Slot)
  | cfgReport (reportNum : BitVec 8) (reportCfgInfo : Slot → ReportCfgInfo) (endPoint : BitVec 8)
      (attrList : List (BitVec 16))

namespace Reporting

def step (s : Reporting) : ReportEvent → Reporting
  | .elapse ticks => { s with now := s.now + ticks }
  | .setAttribute endPoint clusterID attrID data => s.setAttribute endPoint clusterID attrID data
  | .stopReport pending => { s with timerStopReportEvt := pending }
  | .appReportHandler => s.appReportHandler
  | .minTimer i => s.minTimer i
  | .maxTimer i => s.maxTimer i
  | .cfgReport reportNum reportCfgInfo endPoint attrList =>
    { s with reportNum := reportNum, reportCfgInfo := reportCfgInfo }.appZclCfgReportCmd endPoint attrList

/-- The times of the reports of an entry, the newest first. -/
def times (s : Reporting) (i : Slot) : List Nat :=
  s.sent.filterMap fun r => if r.pEntry = some i then some r.sentAt else none

end Reporting

end Watermeter
