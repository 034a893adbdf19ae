import Watermeter.Reporting

/-! What a pass of `app_report_handler` leaves: no value that a second pass would report, and no timer that it would
start. Whatever the table and the timers are, a pass that follows does nothing while only time goes by. -/

namespace Watermeter

open NorFlash Transition

namespace Reporting

/-! ### A report -/

def attrSize (attr : ZclAttrInfo) : Nat := (zclGetAttrSize attr.type attr.data).toNat

def reportOf (s : Reporting) (i : Slot) (attr : ZclAttrInfo) : Report :=
  let e := s.reportCfgInfo i
  ⟨some i, s.now, e.profileID, e.endPoint, e.clusterID, e.attrID, attr.type, attr.data⟩

/-- The entry after a report: it keeps the value to compare with. -/
def keeping (e : ReportCfgInfo) (attr : ZclAttrInfo) : ReportCfgInfo :=
  { e with prevData := fun k => if k.val < attrSize attr then attr.data k else e.prevData k }

variable {s s' s'' : Reporting} {i j : Slot} {attr : ZclAttrInfo} {e : ReportCfgInfo}

/-! ### The change test after a report -/

theorem unsignedChange_self {w : Nat} (P R : BitVec w) : unsignedChange P P R = false := by
  simp [unsignedChange]

theorem signedChange_self (P R : BitVec 32) : signedChange P P R = false := by
  simp [signedChange, BitVec.slt]

/-- A value that is equal in the bytes of its type has not changed. -/
theorem appReportableChangeValueChk_same {dataType : BitVec 8} {curValue prevValue : AnalogData}
    (reportableChange : AnalogData) (h : ∀ k : Fin 8, k.val < (zclGetDataTypeLen dataType).toNat → prevValue k = curValue k) :
    appReportableChangeValueChk dataType curValue prevValue reportableChange = false := by
  unfold appReportableChangeValueChk reportableChangeValueChk
  split_ifs with htype htype htype htype htype htype htype htype htype
  · subst htype
    simp [h 0 (by decide), h 1 (by decide), h 2 (by decide), h 3 (by decide), h 4 (by decide), h 5 (by decide)]
  · subst htype
    rw [h 0 (by decide), unsignedChange_self]
  · subst htype
    rw [h 0 (by decide), h 1 (by decide), unsignedChange_self]
  · subst htype
    rw [h 0 (by decide), h 1 (by decide), h 2 (by decide), unsignedChange_self]
  · subst htype
    rw [h 0 (by decide), h 1 (by decide), h 2 (by decide), h 3 (by decide), unsignedChange_self]
  · subst htype
    rw [h 0 (by decide), signedChange_self]
  · subst htype
    rw [h 0 (by decide), h 1 (by decide), signedChange_self]
  · subst htype
    rw [h 0 (by decide), h 1 (by decide), h 2 (by decide), signedChange_self]
  · subst htype
    rw [h 0 (by decide), h 1 (by decide), h 2 (by decide), h 3 (by decide), signedChange_self]
  · rfl

/-- An analog value has the size of its type. -/
theorem attrSize_analog {attr : ZclAttrInfo} (h : zclAnalogDataType attr.type = true) :
    attrSize attr = (zclGetDataTypeLen attr.type).toNat := by
  have hstring : attr.type ≠ zclDataTypeLongCharStr ∧ attr.type ≠ zclDataTypeLongOctetStr ∧
      attr.type ≠ zclDataTypeCharStr ∧ attr.type ≠ zclDataTypeOctetStr ∧ attr.type ≠ zclDataTypeStruct := by
    refine ⟨?_, ?_, ?_, ?_, ?_⟩ <;> exact fun heq => absurd (heq ▸ h) (by decide)
  obtain ⟨h₁, h₂, h₃, h₄, h₅⟩ := hstring
  rw [attrSize, zclGetAttrSize, if_neg (not_or.mpr ⟨h₁, h₂⟩), if_neg (not_or.mpr ⟨h₃, h₄⟩), if_neg h₅]
  exact BitVec.toNat_setWidth_of_le (by decide)

/-- What has just been reported has not changed. -/
theorem hasChanged_keeping (e : ReportCfgInfo) (attr : ZclAttrInfo) :
    hasChanged (keeping e attr) attr (attrSize attr) = false := by
  rw [hasChanged, Bool.or_eq_false_iff]
  constructor
  · rw [Bool.and_eq_false_iff]
    right
    rw [decide_eq_false_iff_not]
    rintro ⟨k, hk, hne⟩
    exact hne (if_pos hk)
  · rw [Bool.and_eq_false_iff]
    rcases hanalog : zclAnalogDataType attr.type with _ | _
    · exact .inl rfl
    · right
      apply appReportableChangeValueChk_same
      intro k hk
      rw [← attrSize_analog hanalog] at hk
      exact if_pos hk

/-! ### The bytes that are compared -/

theorem lt_keptLen (len : BitVec 16) (k : Fin 8) : k.val < (keptLen len).toNat ↔ k.val < len.toNat := by
  have hk := k.isLt
  unfold keptLen
  split
  · next hlong =>
    have hlen : 8 < len.toNat := BitVec.lt_def.mp hlong
    exact iff_of_true hk (by omega)
  · rfl

/-- The size as the minimum callback keeps it, in a byte. -/
def byteLen (attr : ZclAttrInfo) : BitVec 16 := keptLen ((zclGetAttrSize attr.type attr.data).setWidth 8 |>.setWidth 16)

theorem lt_byteLen {k : Fin 8} (h : k.val < (byteLen attr).toNat) : k.val < attrSize attr := by
  have hbyte := (lt_keptLen _ k).mp h
  rw [BitVec.toNat_setWidth, BitVec.toNat_setWidth] at hbyte
  unfold attrSize
  omega

theorem hasChanged_keptLen (e : ReportCfgInfo) (attr : ZclAttrInfo) :
    hasChanged e attr (keptLen (zclGetAttrSize attr.type attr.data)).toNat = hasChanged e attr (attrSize attr) := by
  unfold hasChanged attrSize
  simp only [lt_keptLen]

/-- A value that has not changed has not in its first bytes either. -/
theorem hasChanged_byteLen (h : hasChanged e attr (attrSize attr) = false) :
    hasChanged e attr (byteLen attr).toNat = false := by
  unfold hasChanged at h ⊢
  rw [Bool.or_eq_false_iff] at h ⊢
  refine ⟨?_, h.2⟩
  have hsame := h.1
  rw [Bool.and_eq_false_iff] at hsame ⊢
  apply hsame.imp_right
  intro hnone
  rw [decide_eq_false_iff_not] at hnone ⊢
  exact fun ⟨k, hk, hne⟩ => hnone ⟨k, lt_byteLen hk, hne⟩

theorem keeping_keeping (e : ReportCfgInfo) (attr : ZclAttrInfo) : keeping (keeping e attr) attr = keeping e attr := by
  unfold keeping
  congr 1
  funext k
  simp only
  split <;> rfl

/-- A report of a bound entry whose attribute is there. -/
theorem reportAttr_bound (hbound : s.zbBindingTblSearched (s.reportCfgInfo i).clusterID (s.reportCfgInfo i).endPoint = true)
    (hattr : s.zclFindAttribute (s.reportCfgInfo i).endPoint (s.reportCfgInfo i).clusterID (s.reportCfgInfo i).attrID =
      some attr) : s.reportAttr (some i) =
        { s with
          reportCfgInfo := Function.update s.reportCfgInfo i (keeping (s.reportCfgInfo i) attr)
          sent := s.reportOf i attr :: s.sent } := by
  simp only [reportAttr, entry, hbound, hattr, if_true, lt_keptLen]
  rfl

/-! ### What reports change -/

/-- Of what a pass reads only the values kept are changed, and those are the values of the attributes. -/
structure Reported (s s' : Reporting) : Prop where
  joined : s'.joined = s.joined
  timerStopReportEvt : s'.timerStopReportEvt = s.timerStopReportEvt
  bindingTbl : s'.bindingTbl = s.bindingTbl
  attrTable : s'.attrTable = s.attrTable
  reportNum : s'.reportNum = s.reportNum
  entries : ∀ i, s'.reportCfgInfo i = s.reportCfgInfo i ∨ ∃ attr,
    s.zclFindAttribute (s.reportCfgInfo i).endPoint (s.reportCfgInfo i).clusterID (s.reportCfgInfo i).attrID = some attr ∧
      s'.reportCfgInfo i = keeping (s.reportCfgInfo i) attr

theorem reported_of_same (hcfg : s'.reportCfgInfo = s.reportCfgInfo) (hjoined : s'.joined = s.joined)
    (hstop : s'.timerStopReportEvt = s.timerStopReportEvt) (hbinding : s'.bindingTbl = s.bindingTbl)
    (hattrs : s'.attrTable = s.attrTable) (hnum : s'.reportNum = s.reportNum) : Reported s s' :=
  ⟨hjoined, hstop, hbinding, hattrs, hnum, fun i => Or.inl (congrFun hcfg i)⟩

theorem Reported.refl (s : Reporting) : Reported s s := reported_of_same rfl rfl rfl rfl rfl rfl

theorem reported_setApp (s : Reporting) (i : Slot) (a : AppReporting) : Reported s (s.setApp i a) :=
  reported_of_same rfl rfl rfl rfl rfl rfl

theorem Reported.trans (h : Reported s s') (h' : Reported s' s'') : Reported s s'' where
  joined := h'.joined.trans h.joined
  timerStopReportEvt := h'.timerStopReportEvt.trans h.timerStopReportEvt
  bindingTbl := h'.bindingTbl.trans h.bindingTbl
  attrTable := h'.attrTable.trans h.attrTable
  reportNum := h'.reportNum.trans h.reportNum
  entries i := by
    rcases h.entries i with hsame | ⟨attr, hattr, hkept⟩
    · have hlast := h'.entries i
      rw [hsame, zclFindAttribute, h.attrTable] at hlast
      exact hlast
    · rcases h'.entries i with hsame | ⟨attr', hattr', hkept'⟩
      · exact Or.inr ⟨attr, hattr, hsame.trans hkept⟩
      · rw [hkept, zclFindAttribute, h.attrTable] at hattr'
        obtain rfl : attr = attr' := Option.some.inj (hattr.symm.trans hattr')
        rw [hkept, keeping_keeping] at hkept'
        exact Or.inr ⟨attr, hattr, hkept'⟩

theorem reported_reportAttr
    (hbound : s.zbBindingTblSearched (s.reportCfgInfo i).clusterID (s.reportCfgInfo i).endPoint = true)
    (hattr : s.zclFindAttribute (s.reportCfgInfo i).endPoint (s.reportCfgInfo i).clusterID (s.reportCfgInfo i).attrID =
      some attr) : Reported s (s.reportAttr (some i)) := by
  rw [reportAttr_bound hbound hattr]
  refine ⟨rfl, rfl, rfl, rfl, rfl, fun j => ?_⟩
  by_cases hji : j = i
  · subst hji
    exact Or.inr ⟨attr, hattr, Function.update_self ..⟩
  · exact Or.inl (Function.update_of_ne hji ..)

variable (h : Reported s s')
include h

/-- The fields of an entry but for the value kept. -/
theorem Reported.entry_eq (i : Slot) : ∃ prevData, s'.reportCfgInfo i = { s.reportCfgInfo i with prevData := prevData } := by
  rcases h.entries i with hsame | ⟨attr, -, hkept⟩
  · exact ⟨_, hsame⟩
  · exact ⟨_, hkept⟩

theorem Reported.find_eq (i : Slot) :
    s'.zclFindAttribute (s'.reportCfgInfo i).endPoint (s'.reportCfgInfo i).clusterID (s'.reportCfgInfo i).attrID =
      s.zclFindAttribute (s.reportCfgInfo i).endPoint (s.reportCfgInfo i).clusterID (s.reportCfgInfo i).attrID := by
  obtain ⟨prevData, hentry⟩ := h.entry_eq i
  rw [hentry, zclFindAttribute, h.attrTable]
  rfl

theorem Reported.bound_eq (i : Slot) :
    s'.zbBindingTblSearched (s'.reportCfgInfo i).clusterID (s'.reportCfgInfo i).endPoint =
      s.zbBindingTblSearched (s.reportCfgInfo i).clusterID (s.reportCfgInfo i).endPoint := by
  obtain ⟨prevData, hentry⟩ := h.entry_eq i
  rw [hentry, zbBindingTblSearched, h.bindingTbl]
  rfl

theorem Reported.noMinLimit_iff (i : Slot) : NoMinLimit (s'.reportCfgInfo i) ↔ NoMinLimit (s.reportCfgInfo i) := by
  obtain ⟨prevData, hentry⟩ := h.entry_eq i
  rw [hentry]
  exact Iff.rfl

theorem Reported.active_eq : s'.zclReportingEntryActiveNumGet = s.zclReportingEntryActiveNumGet := by
  unfold zclReportingEntryActiveNumGet
  rw [h.reportNum]
  have hentry : ∀ i, (s'.reportCfgInfo i).used = (s.reportCfgInfo i).used ∧
      (s'.reportCfgInfo i).maxInterval = (s.reportCfgInfo i).maxInterval := by
    intro i
    obtain ⟨prevData, hentry⟩ := h.entry_eq i
    rw [hentry]
    exact ⟨rfl, rfl⟩
  simp only [hentry]

/-- A value that has not changed is not changed by the reports of others. -/
theorem Reported.unchanged (hattr : s.zclFindAttribute (s.reportCfgInfo i).endPoint (s.reportCfgInfo i).clusterID
    (s.reportCfgInfo i).attrID = some attr) (hsame : hasChanged (s.reportCfgInfo i) attr (attrSize attr) = false) :
    hasChanged (s'.reportCfgInfo i) attr (attrSize attr) = false := by
  rcases h.entries i with heq | ⟨attr', hattr', hkept⟩
  · rw [heq]
    exact hsame
  · obtain rfl : attr = attr' := Option.some.inj (hattr.symm.trans hattr')
    rw [hkept]
    exact hasChanged_keeping _ _

omit h

/-! ### The loop over the entries without a minimum limit -/

/-- A bound entry keeps the value its attribute has, up to its reportable change. -/
def Unowed (s : Reporting) (i : Slot) (attr : ZclAttrInfo) : Prop :=
  s.zbBindingTblSearched (s.reportCfgInfo i).clusterID (s.reportCfgInfo i).endPoint = true →
    hasChanged (s.reportCfgInfo i) attr (attrSize attr) = false

/-- The loop reports nothing up to its end, which is the first entry whose attribute is not there. -/
def Silent (s : Reporting) : List Slot → Prop
  | [] => True
  | i :: slots =>
    let e := s.reportCfgInfo i
    (NoMinLimit e → ∀ attr, s.zclFindAttribute e.endPoint e.clusterID e.attrID = some attr →
      s.Unowed i attr ∧ s.Silent slots) ∧ (¬ NoMinLimit e → s.Silent slots)

theorem Reported.unowed (h : Reported s s') (hattr : s.zclFindAttribute (s.reportCfgInfo i).endPoint
    (s.reportCfgInfo i).clusterID (s.reportCfgInfo i).attrID = some attr) (hunowed : s.Unowed i attr) :
    s'.Unowed i attr := by
  intro hbound
  rw [h.bound_eq i] at hbound
  exact h.unchanged hattr (hunowed hbound)

theorem Reported.silent (h : Reported s s') {slots : List Slot} (hsilent : s.Silent slots) : s'.Silent slots := by
  induction slots with
  | nil => trivial
  | cons i slots ih =>
    refine ⟨fun hno attr hattr => ?_, fun hlimit => ?_⟩
    · rw [h.noMinLimit_iff i] at hno
      rw [h.find_eq i] at hattr
      obtain ⟨hunowed, hrest⟩ := hsilent.1 hno attr hattr
      exact ⟨h.unowed hattr hunowed, ih hrest⟩
    · rw [h.noMinLimit_iff i] at hlimit
      exact ih (hsilent.2 hlimit)

theorem reportNoMinLimit_unowed (h : s.Unowed i attr) : s.reportNoMinLimit i attr = s := by
  refine (reportNoMinLimit_eq s i attr).trans (if_neg fun hboth => ?_)
  rw [hasChanged_keptLen, h hboth.2] at hboth
  exact Bool.false_ne_true hboth.1

theorem noMinLimitLoop_silent {slots : List Slot} (h : s.Silent slots) : s.noMinLimitLoop slots = s := by
  induction slots with
  | nil => rfl
  | cons i slots ih =>
    simp only [noMinLimitLoop_cons]
    split
    · next hno =>
      cases hattr : s.zclFindAttribute (s.reportCfgInfo i).endPoint (s.reportCfgInfo i).clusterID
          (s.reportCfgInfo i).attrID with
      | none => rfl
      | some attr =>
        obtain ⟨hunowed, hrest⟩ := h.1 hno attr hattr
        simp only [reportNoMinLimit_unowed hunowed]
        exact ih hrest
    · next hlimit => exact ih (h.2 hlimit)

/-- What the loop does for one entry: afterwards it owes no report. -/
theorem reportNoMinLimit_reported (hattr : s.zclFindAttribute (s.reportCfgInfo i).endPoint (s.reportCfgInfo i).clusterID
    (s.reportCfgInfo i).attrID = some attr) :
    Reported s (s.reportNoMinLimit i attr) ∧ (s.reportNoMinLimit i attr).Unowed i attr := by
  by_cases howed : hasChanged (s.reportCfgInfo i) attr (attrSize attr) = true ∧
      s.zbBindingTblSearched (s.reportCfgInfo i).clusterID (s.reportCfgInfo i).endPoint = true
  · obtain ⟨hchanged, hbound⟩ := howed
    have hreport := reported_reportAttr hbound hattr
    have hkept : (s.reportAttr (some i)).reportCfgInfo i = keeping (s.reportCfgInfo i) attr := by
      rw [reportAttr_bound hbound hattr]
      exact Function.update_self ..
    have hlast : Reported (s.reportAttr (some i)) (s.reportNoMinLimit i attr) ∧
        (s.reportNoMinLimit i attr).reportCfgInfo = (s.reportAttr (some i)).reportCfgInfo := by
      simp only [reportNoMinLimit_eq, hasChanged_keptLen, hchanged, hbound, and_self, if_true]
      split
      · exact ⟨reported_of_same rfl rfl rfl rfl rfl rfl, rfl⟩
      · exact ⟨reported_of_same rfl rfl rfl rfl rfl rfl, rfl⟩
    refine ⟨hreport.trans hlast.1, fun _ => ?_⟩
    rw [hlast.2, hkept]
    exact hasChanged_keeping _ _
  · have hunowed : s.Unowed i attr := fun hbound => Bool.eq_false_iff.mpr fun hchanged => howed ⟨hchanged, hbound⟩
    rw [reportNoMinLimit_unowed hunowed]
    exact ⟨.refl s, hunowed⟩

theorem noMinLimitLoop_reported (s : Reporting) (slots : List Slot) :
    Reported s (s.noMinLimitLoop slots) ∧ (s.noMinLimitLoop slots).Silent slots := by
  induction slots generalizing s with
  | nil => exact ⟨.refl s, trivial⟩
  | cons i slots ih =>
    simp only [noMinLimitLoop_cons]
    split
    · next hno =>
      cases hattr : s.zclFindAttribute (s.reportCfgInfo i).endPoint (s.reportCfgInfo i).clusterID
          (s.reportCfgInfo i).attrID with
      | none =>
        refine ⟨.refl s, fun _ attr' hattr' => ?_, fun hlimit => absurd hno hlimit⟩
        cases hattr.symm.trans hattr'
      | some attr =>
        obtain ⟨hone, hunowed⟩ := reportNoMinLimit_reported hattr
        obtain ⟨hrest, hsilent⟩ := ih (s.reportNoMinLimit i attr)
        refine ⟨hone.trans hrest, fun _ attr' hattr' => ?_, fun hlimit => ?_⟩
        · rw [(hone.trans hrest).find_eq i, hattr] at hattr'
          obtain rfl := Option.some.inj hattr'
          exact ⟨hrest.unowed ((hone.find_eq i).trans hattr) hunowed, hsilent⟩
        · exact absurd hno (((hone.trans hrest).noMinLimit_iff i).not.mp hlimit)
    · next hlimit =>
      obtain ⟨hrest, hsilent⟩ := ih s
      exact ⟨hrest, fun hno => absurd ((hrest.noMinLimit_iff i).mp hno) hlimit, fun _ => hsilent⟩

/-! ### The timers -/

/-- The entry of a slot is one that has timers. -/
def HasTimers (s : Reporting) (i : Slot) : Prop :=
  let e := s.reportCfgInfo i
  e.used ∧ e.maxInterval ≠ 0xFFFF#16 ∧ (e.minInterval ≠ 0 ∨ e.maxInterval ≠ 0) ∧
    s.zbBindingTblSearched e.clusterID e.endPoint

/-- The second loop finds nothing to do at a slot: the timers that are called for are there, and without a maximum
interval the minimum callback reports nothing. -/
structure Rests (e : ReportCfgInfo) (a : AppReporting) (found : Option ZclAttrInfo) : Prop where
  minTimer : e.minInterval ≠ 0 → e.maxInterval ≠ 0 → e.minInterval ≤ e.maxInterval → a.timerReportMinEvt ≠ none
  maxTimer : a.timerReportMaxEvt = none → e.maxInterval ≠ 0 → ¬ e.minInterval < e.maxInterval
  unregistered : a.timerReportMaxEvt = none → e.maxInterval = 0 → found = none → a.timerReportMinEvt = none
  unchanged : a.timerReportMaxEvt = none → e.maxInterval = 0 →
    ∀ attr, found = some attr → hasChanged e attr (byteLen attr).toNat = false

def AtRest (s : Reporting) (i : Slot) : Prop :=
  let e := s.reportCfgInfo i
  (s.appReporting i).pEntry = some i ∧
    (s.HasTimers i → Rests e (s.appReporting i) (s.zclFindAttribute e.endPoint e.clusterID e.attrID))

theorem setApp_self {a : AppReporting} (h : a = s.appReporting i) : s.setApp i a = s := by
  rw [setApp, h, Function.update_eq_self]

theorem AtRest.startTimers_same (h : s.AtRest i) : s.startTimers i = s := by
  obtain ⟨hpEntry, hrests⟩ := h
  have hentry : s.setApp i { s.appReporting i with pEntry := some i } = s := setApp_self (by rw [← hpEntry])
  simp only [startTimers_eq, hentry]
  split
  · next htimers =>
    have hrests := hrests htimers
    have hmin : s.startMinTimer i = s :=
      if_neg fun hall => hrests.minTimer hall.2.1 hall.2.2.1 hall.2.2.2 (Option.isNone_iff_eq_none.mp hall.1)
    rw [hmin]
    simp only [startMaxTimer_eq]
    split
    · next hnone =>
      have hnone := Option.isNone_iff_eq_none.mp hnone
      split
      · next hmax => exact if_neg (hrests.maxTimer hnone hmax)
      · next hmax =>
        have hmax : (s.reportCfgInfo i).maxInterval = 0 := not_not.mp hmax
        have hmin₀ : (s.reportCfgInfo i).minInterval ≠ 0 := htimers.2.2.1.resolve_right (not_not.mpr hmax)
        simp only [appReportMinAttrTimerCb_eq, hpEntry, entry]
        cases hattr : s.zclFindAttribute (s.reportCfgInfo i).endPoint (s.reportCfgInfo i).clusterID
            (s.reportCfgInfo i).attrID with
        | none => exact setApp_self (by rw [← hrests.unregistered hnone hmax hattr, ← hpEntry])
        | some attr =>
          have hsame := hrests.unchanged hnone hmax attr hattr
          unfold byteLen at hsame
          simp only [hsame]
          rw [if_neg fun heq => hmin₀ (heq.trans hmax), if_neg Bool.false_ne_true]
    · rfl
  · rfl

/-- The slot of the loop, with the minimum timer started. -/
theorem startMinTimer_spec (s : Reporting) (i : Slot) :
    ∃ a, s.startMinTimer i = s.setApp i a ∧ a.pEntry = (s.appReporting i).pEntry ∧
      ((s.reportCfgInfo i).minInterval ≠ 0 → (s.reportCfgInfo i).maxInterval ≠ 0 →
        (s.reportCfgInfo i).minInterval ≤ (s.reportCfgInfo i).maxInterval → a.timerReportMinEvt ≠ none) := by
  simp only [startMinTimer_eq]
  split
  · exact ⟨_, rfl, rfl, nofun⟩
  · next hnot =>
    refine ⟨_, (setApp_self rfl).symm, rfl, fun hmin hmax hle hnone => hnot ⟨?_, hmin, hmax, hle⟩⟩
    rw [hnone]
    rfl

/-- A device as it was, but for the timers of one slot and the value that the slot has reported. -/
structure SlotOnly (i : Slot) (s s' : Reporting) : Prop extends Reported s s' where
  cfg : ∀ j ≠ i, s'.reportCfgInfo j = s.reportCfgInfo j
  app : ∀ j ≠ i, s'.appReporting j = s.appReporting j

theorem slotOnly_setApp (s : Reporting) (i : Slot) (a : AppReporting) : SlotOnly i s (s.setApp i a) :=
  ⟨reported_setApp s i a, fun _ _ => rfl, fun _ hji => Function.update_of_ne hji ..⟩

theorem SlotOnly.trans (h : SlotOnly i s s') (h' : SlotOnly i s' s'') : SlotOnly i s s'' :=
  ⟨h.toReported.trans h'.toReported, fun j hji => (h'.cfg j hji).trans (h.cfg j hji),
    fun j hji => (h'.app j hji).trans (h.app j hji)⟩

theorem slotOnly_reportAttr
    (hbound : s.zbBindingTblSearched (s.reportCfgInfo i).clusterID (s.reportCfgInfo i).endPoint = true)
    (hattr : s.zclFindAttribute (s.reportCfgInfo i).endPoint (s.reportCfgInfo i).clusterID (s.reportCfgInfo i).attrID =
      some attr) : SlotOnly i s (s.reportAttr (some i)) := by
  refine ⟨reported_reportAttr hbound hattr, ?_, ?_⟩
  · rw [reportAttr_bound hbound hattr]
    exact fun j hji => Function.update_of_ne hji ..
  · rw [reportAttr_bound hbound hattr]
    exact fun j hji => rfl

theorem atRest_setApp {a : AppReporting} (hpEntry : a.pEntry = some i)
    (hrests : s.HasTimers i → Rests (s.reportCfgInfo i) a
      (s.zclFindAttribute (s.reportCfgInfo i).endPoint (s.reportCfgInfo i).clusterID (s.reportCfgInfo i).attrID)) :
    (s.setApp i a).AtRest i := by
  have happ : (s.setApp i a).appReporting i = a := Function.update_self ..
  unfold AtRest
  rw [happ]
  exact ⟨hpEntry, hrests⟩

/-- What the minimum callback does where the intervals differ. -/
theorem appReportMinAttrTimerCb_cases (hpEntry : (s.appReporting i).pEntry = some i)
    (hlimits : (s.reportCfgInfo i).minInterval ≠ (s.reportCfgInfo i).maxInterval) :
    (s.zclFindAttribute (s.reportCfgInfo i).endPoint (s.reportCfgInfo i).clusterID (s.reportCfgInfo i).attrID = none ∧
      (s.appReportMinAttrTimerCb i).2 = s.setApp i { s.appReporting i with timerReportMinEvt := none }) ∨
    ∃ attr, s.zclFindAttribute (s.reportCfgInfo i).endPoint (s.reportCfgInfo i).clusterID (s.reportCfgInfo i).attrID =
        some attr ∧
      ((hasChanged (s.reportCfgInfo i) attr (byteLen attr).toNat = false ∧ (s.appReportMinAttrTimerCb i).2 = s) ∨
        (s.appReportMinAttrTimerCb i).2 = (s.reportAttr (some i)).post i) := by
  simp only [appReportMinAttrTimerCb_eq, hpEntry, entry]
  cases hattr : s.zclFindAttribute (s.reportCfgInfo i).endPoint (s.reportCfgInfo i).clusterID
      (s.reportCfgInfo i).attrID with
  | none => exact Or.inl ⟨rfl, rfl⟩
  | some attr =>
    refine Or.inr ⟨attr, rfl, ?_⟩
    simp only
    rw [if_neg hlimits]
    cases hchanged : hasChanged (s.reportCfgInfo i) attr (byteLen attr).toNat with
    | false =>
      unfold byteLen at hchanged
      rw [if_neg (by rw [hchanged]; exact Bool.false_ne_true)]
      exact Or.inl ⟨rfl, rfl⟩
    | true =>
      unfold byteLen at hchanged
      rw [if_pos hchanged]
      exact Or.inr rfl

/-- Where there is no maximum, the minimum callback leaves its slot at rest. -/
theorem appReportMinAttrTimerCb_spec (hpEntry : (s.appReporting i).pEntry = some i) (htimers : s.HasTimers i)
    (hmax : (s.reportCfgInfo i).maxInterval = 0) :
    SlotOnly i s (s.appReportMinAttrTimerCb i).2 ∧ (s.appReportMinAttrTimerCb i).2.AtRest i := by
  have hlimits : (s.reportCfgInfo i).minInterval ≠ (s.reportCfgInfo i).maxInterval := fun heq =>
    (htimers.2.2.1.resolve_right (not_not.mpr hmax)) (heq.trans hmax)
  rcases appReportMinAttrTimerCb_cases hpEntry hlimits with ⟨hnone, hcb⟩ | ⟨attr, hattr, ⟨hsame, hcb⟩ | hcb⟩
  · rw [hcb]
    refine ⟨slotOnly_setApp s i _, atRest_setApp hpEntry fun _ => ⟨fun _ hne => absurd hmax hne,
      fun _ hne => absurd hmax hne, fun _ _ _ => rfl, fun _ _ attr hattr => nomatch hnone.symm.trans hattr⟩⟩
  · rw [hcb]
    refine ⟨⟨.refl s, fun _ _ => rfl, fun _ _ => rfl⟩, hpEntry, fun _ => ⟨fun _ hne => absurd hmax hne,
      fun _ hne => absurd hmax hne, fun _ _ hnone => (nomatch hattr.symm.trans hnone), fun _ _ attr' hattr' => ?_⟩⟩
    obtain rfl : attr = attr' := Option.some.inj (hattr.symm.trans hattr')
    exact hsame
  · have hreport := slotOnly_reportAttr htimers.2.2.2 hattr
    have hkept : (s.reportAttr (some i)).reportCfgInfo i = keeping (s.reportCfgInfo i) attr ∧
        (s.reportAttr (some i)).appReporting i = s.appReporting i := by
      rw [reportAttr_bound htimers.2.2.2 hattr]
      exact ⟨Function.update_self .., rfl⟩
    have hzero : ((s.reportAttr (some i)).reportCfgInfo i).maxInterval = 0 := by
      rw [hkept.1]
      exact hmax
    have hfound := (hreport.find_eq i).trans hattr
    rw [hcb]
    refine ⟨hreport.trans (slotOnly_setApp _ i _), atRest_setApp ?_ fun _ => ⟨fun _ hne => absurd hzero hne,
      fun _ hne => absurd hzero hne, fun _ _ hnone => (nomatch hfound.symm.trans hnone), fun _ _ attr' hattr' => ?_⟩⟩
    · rw [hkept.2]
      exact hpEntry
    · obtain rfl : attr = attr' := Option.some.inj (hfound.symm.trans hattr')
      rw [hkept.1]
      exact hasChanged_byteLen (hasChanged_keeping _ _)

/-- The body of the second loop leaves its slot at rest, and the other slots alone. -/
theorem startTimers_spec (s : Reporting) (i : Slot) : SlotOnly i s (s.startTimers i) ∧ (s.startTimers i).AtRest i := by
  set s₁ := s.setApp i { s.appReporting i with pEntry := some i } with hs₁
  have hfirst : SlotOnly i s s₁ := slotOnly_setApp s i _
  have hpEntry₁ : (s₁.appReporting i).pEntry = some i := by simp only [hs₁, setApp, Function.update_self]
  obtain ⟨a, hstart, hpEntry, hmin⟩ := startMinTimer_spec s₁ i
  have happ : (s₁.setApp i a).appReporting i = a := Function.update_self ..
  have hsecond := hfirst.trans (slotOnly_setApp s₁ i a)
  have hentry := hpEntry.trans hpEntry₁
  simp only [startTimers_eq, ← hs₁]
  split
  · next htimers =>
    rw [hstart]
    simp only [startMaxTimer_eq, happ]
    split
    · next hnone =>
      split
      · next hmax =>
        split
        · have hset : ∀ {evt : EvTimer} {p : Prop}, some evt = none → p := fun h => absurd h (Option.some_ne_none _)
          exact ⟨hsecond.trans (slotOnly_setApp _ i _), atRest_setApp hentry fun _ => ⟨hmin, hset, hset, hset⟩⟩
        · next hle =>
          exact ⟨hsecond, atRest_setApp hentry fun _ => ⟨hmin, fun _ _ => hle, fun _ hzero => absurd hzero hmax,
            fun _ hzero => absurd hzero hmax⟩⟩
      · next hmax =>
        have hcallback := appReportMinAttrTimerCb_spec (s := s₁.setApp i a) (by rw [happ]; exact hentry) htimers
          (not_not.mp hmax)
        exact ⟨hsecond.trans hcallback.1, hcallback.2⟩
    · next hsome =>
      have hsome : a.timerReportMaxEvt ≠ none := fun hnone => hsome (Option.isNone_iff_eq_none.mpr hnone)
      exact ⟨hsecond, atRest_setApp hentry fun _ => ⟨hmin, fun hnone => absurd hnone hsome,
        fun hnone => absurd hnone hsome, fun hnone => absurd hnone hsome⟩⟩
  · next htimers => exact ⟨hfirst, hpEntry₁, fun h => absurd h htimers⟩

theorem SlotOnly.atRest (h : SlotOnly j s s') (hrest : s.AtRest i) (hij : i ≠ j) : s'.AtRest i := by
  have htimers : s'.HasTimers i ↔ s.HasTimers i := by
    unfold HasTimers
    dsimp only
    rw [h.bound_eq i, h.cfg i hij]
  unfold AtRest
  dsimp only
  rw [htimers, h.find_eq i, h.cfg i hij, h.app i hij]
  exact hrest

theorem run_startTimers (s : Reporting) (slots : List Slot) :
    Reported s (run startTimers s slots) ∧ (∀ i, s.AtRest i → (run startTimers s slots).AtRest i) ∧
      ∀ i ∈ slots, (run startTimers s slots).AtRest i := by
  induction slots generalizing s with
  | nil => exact ⟨.refl s, fun _ h => h, fun i hi => absurd hi List.not_mem_nil⟩
  | cons j slots ih =>
    obtain ⟨hone, hrest⟩ := startTimers_spec s j
    obtain ⟨hall, hkeep, hslots⟩ := ih (s.startTimers j)
    rw [run_cons]
    refine ⟨hone.toReported.trans hall, fun i hi => hkeep i ?_, List.forall_mem_cons.mpr ⟨hkeep j hrest, hslots⟩⟩
    by_cases hij : i = j
    · rw [hij]
      exact hrest
    · exact hone.atRest hi hij

/-! ### The pass after a pass -/

/-- Nothing is owed, and every slot is at rest. -/
def Settled (s : Reporting) : Prop := s.Silent (List.finRange zclReportingTableNum) ∧ ∀ i, s.AtRest i

theorem Settled.appReportHandler_same (h : s.Settled) : s.appReportHandler = s := by
  by_cases hpasses : s.Passes
  · have hactive := hpasses.2.2
    have hloop : s.appReportNoMinLimit = s := by
      rw [appReportNoMinLimit_eq, if_pos hactive]
      exact noMinLimitLoop_silent h.1
    rw [appReportHandler_passes hpasses, hloop, appReportAttrTimerStart_eq, if_pos hactive]
    exact run_fixed fun i _ => (h.2 i).startTimers_same
  · exact appReportHandler_held hpasses

/-- A pass that is not held up settles everything. -/
theorem settled_of_passes (h : s.Passes) : s.appReportHandler.Settled := by
  have hactive := h.2.2
  obtain ⟨hfirst, hsilent⟩ := noMinLimitLoop_reported s (List.finRange zclReportingTableNum)
  obtain ⟨hsecond, -, hrest⟩ := run_startTimers (s.noMinLimitLoop (List.finRange zclReportingTableNum))
    (List.finRange zclReportingTableNum)
  have hagain : (s.noMinLimitLoop (List.finRange zclReportingTableNum)).zclReportingEntryActiveNumGet ≠ 0 := by
    rw [hfirst.active_eq]
    exact hactive
  rw [appReportHandler_passes h, appReportNoMinLimit_eq, if_pos hactive, appReportAttrTimerStart_eq, if_pos hagain]
  exact ⟨hsecond.silent hsilent, fun i => hrest i (List.mem_finRange i)⟩

/-- A pass that follows a pass does nothing, whenever it comes. -/
theorem appReportHandler_again (s : Reporting) (now : Nat) :
    ({ s.appReportHandler with now := now } : Reporting).appReportHandler = { s.appReportHandler with now := now } := by
  by_cases hpasses : s.Passes
  · -- the time is not one of the things that a pass with nothing to do reads
    have hlater : Reported s.appReportHandler { s.appReportHandler with now := now } :=
      reported_of_same rfl rfl rfl rfl rfl rfl
    have hsettled := settled_of_passes hpasses
    exact Settled.appReportHandler_same ⟨hlater.silent hsettled.1, hsettled.2⟩
  · rw [appReportHandler_held hpasses]
    exact appReportHandler_held hpasses

end Reporting

end Watermeter
