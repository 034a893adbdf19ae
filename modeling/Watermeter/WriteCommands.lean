import Watermeter.WriteData
import Watermeter.CounterTotals
import Watermeter.Leak

/-! The write commands of the stack: all of them set the attributes, and one of them is handed on to
`app_zclWriteReqCmd`. -/

namespace Watermeter

open NorFlash Transition

/-- `switchActions` of the endpoints 4 and 5. -/
structure SwitchActions where
  ep4 : Byte
  ep5 : Byte
  deriving DecidableEq, Repr

/-- The outcomes of `nv_flashReadNew` that the module tells apart. -/
inductive NvRead
  | succ (nv : SwitchActions)
  | itemNotFound
  | failed
  deriving DecidableEq, Repr

/-- Reading an item that is there, or was never written. -/
def nvFlashReadNew (saved : Option SwitchActions) : NvRead :=
  match saved with
  | some nv => .succ nv
  | none => .itemNotFound

/-- `zcl_onOffCfgAttr_save`: what it passes to `nv_flashWriteNew`, if it comes to that. -/
def onOffCfgAttrWritten (attrs : SwitchActions) : NvRead → Option SwitchActions
  | .succ nv =>
    let (nv, save) := if nv.ep4 ≠ attrs.ep4 then ({ nv with ep4 := attrs.ep4 }, true) else (nv, false)
    let (nv, save) := if nv.ep5 ≠ attrs.ep5 then ({ nv with ep5 := attrs.ep5 }, true) else (nv, save)
    if save then some nv else none
  | .itemNotFound => some ⟨attrs.ep4, attrs.ep5⟩
  | .failed => none

/-- The item is written unless it holds the attributes already, and is the attributes then. -/
theorem onOffCfgAttrWritten_eq (attrs : SwitchActions) (saved : Option SwitchActions) :
    onOffCfgAttrWritten attrs (nvFlashReadNew saved) = if saved = some attrs then none else some attrs := by
  obtain ⟨ep4, ep5⟩ := attrs
  cases saved with
  | none => rfl
  | some nv =>
    obtain ⟨nv4, nv5⟩ := nv
    by_cases h4 : nv4 = ep4 <;> by_cases h5 : nv5 = ep5 <;> simp [nvFlashReadNew, onOffCfgAttrWritten, h4, h5]

/-- What write commands set: the meter, the switch actions, and the item of the NV that keeps these. -/
structure WriteDevice where
  meter : Meter
  switchActions : SwitchActions
  saved : Option SwitchActions

inductive WriteCmd
  | write
  | writeUndivided
  | writeNoRsp
  deriving DecidableEq, Repr

def SentRec.IsSwitchAction (r : SentRec) : Prop := r.attrID = zclAttridSwitchAction ∧ r.dataType = zclDataTypeEnum8

instance (r : SentRec) : Decidable r.IsSwitchAction := inferInstanceAs (Decidable (_ ∧ _))

/-- The checks of `zcl_attrWrite`. In the metering cluster only the settings of endpoint 3 can be written, in the switch
configuration only the actions; what can be written in other clusters is none of `WriteDevice`. -/
def Writable (endPoint : BitVec 8) (clusterId : BitVec 16) (r : SentRec) : Prop :=
  if clusterId = zclClusterSeMetering then
    endPoint = watermeterEndpoint3 ∧ (r.IsHotPreset ∨ r.IsColdPreset ∨ r.IsStepPreset)
  else if clusterId = zclClusterGenOnOffSwitchConfig then
    (endPoint = watermeterEndpoint4 ∨ endPoint = watermeterEndpoint5) ∧ r.IsSwitchAction
  else True

instance (endPoint : BitVec 8) (clusterId : BitVec 16) (r : SentRec) : Decidable (Writable endPoint clusterId r) := by
  unfold Writable
  infer_instance

/-- A setting is stored as it comes. -/
def Meter.storeAttr (s : Meter) (r : SentRec) : Meter :=
  if r.IsHotPreset then { s with attrs := { s.attrs with hotWaterPreset := r.alone.buildU32 } }
  else if r.IsColdPreset then { s with attrs := { s.attrs with coldWaterPreset := r.alone.buildU32 } }
  else if r.IsStepPreset then { s with attrs := { s.attrs with waterStepPreset := r.alone.buildU16 } }
  else s

def SwitchActions.store (a : SwitchActions) (endPoint : BitVec 8) (r : SentRec) : SwitchActions :=
  if endPoint = watermeterEndpoint4 then { a with ep4 := r.alone.byte 0 } else { a with ep5 := r.alone.byte 0 }

namespace WriteDevice

/-- `zcl_setAttrVal`, with the data of the record. -/
def zclSetAttrVal (endPoint : BitVec 8) (clusterId : BitVec 16) (d : WriteDevice) (r : SentRec) : WriteDevice :=
  if clusterId = zclClusterSeMetering then { d with meter := d.meter.storeAttr r }
  else if clusterId = zclClusterGenOnOffSwitchConfig then
    { d with switchActions := d.switchActions.store endPoint r }
  else d

/-- `zcl_attrWrite`, with `enable` set. -/
def zclAttrWrite (endPoint : BitVec 8) (clusterId : BitVec 16) (d : WriteDevice) (r : SentRec) : WriteDevice :=
  if Writable endPoint clusterId r then d.zclSetAttrVal endPoint clusterId r else d

/-- `zcl_writeHandler`. -/
def zclWriteHandler (endPoint : BitVec 8) (clusterId : BitVec 16) (recs : List SentRec) (d : WriteDevice) : WriteDevice :=
  run (zclAttrWrite endPoint clusterId) d recs

/-- `zcl_writeUndividedHandler`. -/
def zclWriteUndividedHandler (endPoint : BitVec 8) (clusterId : BitVec 16) (recs : List SentRec) (d : WriteDevice) :
    WriteDevice :=
  if ∀ r ∈ recs, Writable endPoint clusterId r then run (zclAttrWrite endPoint clusterId) d recs else d

/-- `zcl_onOffCfgAttr_save`, with the item that is in the NV or none. -/
def zclOnOffCfgAttrSave (d : WriteDevice) : WriteDevice :=
  match onOffCfgAttrWritten d.switchActions (nvFlashReadNew d.saved) with
  | some nv => { d with saved := some nv }
  | none => d

/-- `app_zclWriteReqCmd`. -/
def appWriteReqCmd (endPoint : BitVec 8) (clusterId : BitVec 16) (recs : List SentRec) (d : WriteDevice) : WriteDevice :=
  match appZclWriteReqCmd endPoint clusterId (zclParseInWriteCmd recs) d.meter with
  | (meter, saves) => zclOnOffCfgAttrSave^[saves] { d with meter := meter }

/-- `app_zclProcessIncomingMsg`, as far as it goes for these commands. -/
def appZclProcessIncomingMsg (cmd : WriteCmd) (endPoint : BitVec 8) (clusterId : BitVec 16) (recs : List SentRec)
    (d : WriteDevice) : WriteDevice :=
  match cmd with
  | .write => d.appWriteReqCmd endPoint clusterId recs
  | .writeUndivided => d
  | .writeNoRsp => d

/-- A command as the stack delivers it: its own handler first, then the application. -/
def deliver (cmd : WriteCmd) (endPoint : BitVec 8) (clusterId : BitVec 16) (recs : List SentRec) (d : WriteDevice) :
    WriteDevice :=
  let d := match cmd with
    | .write => d.zclWriteHandler endPoint clusterId recs
    | .writeUndivided => d.zclWriteUndividedHandler endPoint clusterId recs
    | .writeNoRsp => d.zclWriteHandler endPoint clusterId recs
  d.appZclProcessIncomingMsg cmd endPoint clusterId recs

/-- An attribute of the settings that a list writes reads back as what the firmware uses. A switch action is used from
where it is read. -/
structure ReadsBack (clusterId : BitVec 16) (recs : List SentRec) (d : WriteDevice) : Prop where
  hot : clusterId = zclClusterSeMetering → (∃ r ∈ recs, r.IsHotPreset) →
    d.meter.attrs.hotWaterPreset = d.meter.water .hot
  cold : clusterId = zclClusterSeMetering → (∃ r ∈ recs, r.IsColdPreset) →
    d.meter.attrs.coldWaterPreset = d.meter.water .cold
  step : clusterId = zclClusterSeMetering → (∃ r ∈ recs, r.IsStepPreset) →
    d.meter.attrs.waterStepPreset = d.meter.litersPerPulse.setWidth 16

/-- All three commands leave the same, and the values read back are those in use. -/
def Alike (endPoint : BitVec 8) (clusterId : BitVec 16) (recs : List SentRec) (d : WriteDevice) : Prop :=
  (∀ cmd cmd', d.deliver cmd endPoint clusterId recs = d.deliver cmd' endPoint clusterId recs) ∧
    ∀ cmd, ReadsBack clusterId recs (d.deliver cmd endPoint clusterId recs)

/-- The settings already are what the application would make them of the list, and the last record of each kind says
the same. -/
structure MeterSettled (recs : List SentRec) (s : Meter) : Prop where
  step : ∀ xs r ys, recs = xs ++ r :: ys → r.IsStepPreset → (∀ r' ∈ ys, ¬ r'.IsStepPreset) →
    roundedStep (listHead recs).buildU16 = r.alone.buildU16 ∧ s.litersPerPulse.setWidth 16 = r.alone.buildU16
  hot : ∀ xs r ys, recs = xs ++ r :: ys → r.IsHotPreset → (∀ r' ∈ ys, ¬ r'.IsHotPreset) →
    presetTotal s.litersPerPulse (listHead recs).buildU32 = r.alone.buildU32 ∧ s.water .hot = r.alone.buildU32 ∧
      s.attrs.hotWaterCounter = r.alone.buildU32.setWidth 48
  cold : ∀ xs r ys, recs = xs ++ r :: ys → r.IsColdPreset → (∀ r' ∈ ys, ¬ r'.IsColdPreset) →
    presetTotal s.litersPerPulse (listHead recs).buildU32 = r.alone.buildU32 ∧ s.water .cold = r.alone.buildU32 ∧
      s.attrs.coldWaterCounter = r.alone.buildU32.setWidth 48

/-- The NV already holds the actions as the last record leaves them. -/
def ActionsSettled (endPoint : BitVec 8) (recs : List SentRec) (d : WriteDevice) : Prop :=
  ∀ xs r, recs = xs ++ [r] → d.saved = some (d.switchActions.store endPoint r)

/-- There is nothing left for the application to do. -/
def Settled (endPoint : BitVec 8) (clusterId : BitVec 16) (recs : List SentRec) (d : WriteDevice) : Prop :=
  if clusterId = zclClusterSeMetering then MeterSettled recs d.meter
  else if clusterId = zclClusterGenOnOffSwitchConfig then d.ActionsSettled endPoint recs
  else True

end WriteDevice

variable {endPoint : BitVec 8} {clusterId : BitVec 16} {recs xs ys : List SentRec} {r : SentRec} {s : Meter}

/-! ### What the stack stores -/

/-- What no store sets. -/
def Meter.unstored (s : Meter) : Ram × BitVec 48 × BitVec 48 :=
  (s.ram, s.attrs.hotWaterCounter, s.attrs.coldWaterCounter)

theorem unstored_run (s : Meter) (recs : List SentRec) : (run Meter.storeAttr s recs).unstored = s.unstored := by
  have hkeep (s : Meter) (r : SentRec) (_ : ¬ False) : (s.storeAttr r).unstored = s.unstored := by
    rw [Meter.storeAttr]
    split_ifs <;> rfl
  exact run_unset hkeep s fun _ _ => id

theorem ram_stored (s : Meter) (recs : List SentRec) : (run Meter.storeAttr s recs).ram = s.ram :=
  congrArg Prod.fst (unstored_run s recs)

theorem litersPerPulse_stored (s : Meter) (recs : List SentRec) :
    (run Meter.storeAttr s recs).litersPerPulse = s.litersPerPulse :=
  congrArg (fun ram => ram.watermeterConfig.litersPerPulse) (ram_stored s recs)

/-! The last record of a kind is what its attribute holds. -/

/-- The stack stores the records of a kind in the preset attribute alone. -/
structure StoresPreset (kind : SentRec → Prop) (parts : Meter → BitVec 32 × BitVec 32 × BitVec 48) : Prop where
  set : ∀ (s : Meter) (r : SentRec), kind r → parts (s.storeAttr r) = ((parts s).1, r.alone.buildU32, (parts s).2.2)
  kept : ∀ (s : Meter) (r : SentRec), ¬ kind r → parts (s.storeAttr r) = parts s

theorem stores_hot : StoresPreset SentRec.IsHotPreset Meter.hotParts := by
  constructor
  · intro s r h
    rw [Meter.storeAttr, if_pos h]
    rfl
  · intro s r h
    rw [Meter.storeAttr, if_neg h]
    split_ifs <;> rfl

theorem stores_cold : StoresPreset SentRec.IsColdPreset Meter.coldParts := by
  constructor
  · intro s r h
    rw [Meter.storeAttr, if_neg fun hhot => (preset_distinct r).1 ⟨hhot, h⟩, if_pos h]
    rfl
  · intro s r h
    rw [Meter.storeAttr, if_neg h]
    split_ifs <;> rfl

section StoresPreset

variable {kind : SentRec → Prop} {parts : Meter → BitVec 32 × BitVec 32 × BitVec 48}

theorem StoresPreset.unpreset (h : StoresPreset kind parts) (s : Meter) (recs : List SentRec) :
    (parts (run Meter.storeAttr s recs)).1 = (parts s).1 ∧ (parts (run Meter.storeAttr s recs)).2.2 = (parts s).2.2 := by
  induction recs generalizing s with
  | nil => exact ⟨rfl, rfl⟩
  | cons r recs ih =>
    have hrest := ih (s.storeAttr r)
    by_cases hr : kind r
    · rw [h.set s r hr] at hrest
      exact hrest
    · rw [h.kept s r hr] at hrest
      exact hrest

theorem StoresPreset.last (h : StoresPreset kind parts) (s : Meter) (xs : List SentRec) (hr : kind r) (hys : ∀ r' ∈ ys, ¬ kind r') :
    parts (run Meter.storeAttr s (xs ++ r :: ys)) = ((parts s).1, r.alone.buildU32, (parts s).2.2) := by
  obtain ⟨htotal, hsummation⟩ := h.unpreset s xs
  rw [run_last_set h.set h.kept s hr hys, htotal, hsummation]

end StoresPreset

theorem stepParts_storeAttr (s : Meter) (r : SentRec) (h : ¬ r.IsStepPreset) : (s.storeAttr r).stepParts = s.stepParts := by
  rw [Meter.storeAttr, if_neg h]
  split_ifs <;> rfl

theorem stepParts_stored (s : Meter) (xs : List SentRec) (h : r.IsStepPreset) (hys : ∀ r' ∈ ys, ¬ r'.IsStepPreset) :
    (run Meter.storeAttr s (xs ++ r :: ys)).stepParts = (s.litersPerPulse, r.alone.buildU16) := by
  have hset (s : Meter) (r : SentRec) (h : r.IsStepPreset) :
      (s.storeAttr r).stepParts = (s.litersPerPulse, r.alone.buildU16) := by
    rw [Meter.storeAttr, if_neg fun hhot => (preset_distinct r).2.1 ⟨hhot, h⟩,
      if_neg fun hcold => (preset_distinct r).2.2 ⟨hcold, h⟩, if_pos h]
    rfl
  rw [run_last_set hset stepParts_storeAttr s h hys, litersPerPulse_stored]

/-! ### Whether the application changes what is stored -/

/-- Where all is read at one place, the step in force is the old one or what stands there. -/
theorem stepAfter_same {litersPerPulse : BitVec 8} {head : WriteRec}
    (h : ∀ r ∈ recs, r.IsStepPreset → (roundedStep head.buildU16).setWidth 8 = litersPerPulse) :
    stepAfter (fun _ => head) litersPerPulse recs = litersPerPulse := by
  induction recs with
  | nil => rfl
  | cons r recs ih =>
    rw [stepAfter, run_cons]
    have hfirst : (if r.IsStepPreset then (roundedStep head.buildU16).setWidth 8 else litersPerPulse) = litersPerPulse := by
      split
      · next hr => exact h r List.mem_cons_self hr
      · rfl
    rw [hfirst]
    exact ih fun r' hr' => h r' (List.mem_cons_of_mem r hr')

/-- A step that is rounded and in use reads back as it is. -/
theorem step_in_use_iff {waterStep sent : BitVec 16} {litersPerPulse : BitVec 8} :
    ((roundedStep waterStep).setWidth 8, roundedStep waterStep) = (litersPerPulse, sent) ↔
      roundedStep waterStep = sent ∧ litersPerPulse.setWidth 16 = sent := by
  have hle := (roundedStep_range waterStep).2
  have hwide : ((roundedStep waterStep).setWidth 8).setWidth 16 = roundedStep waterStep := by
    apply BitVec.eq_of_toNat_eq
    rw [BitVec.toNat_setWidth, BitVec.toNat_setWidth]
    omega
  rw [Prod.mk.injEq]
  constructor
  · rintro ⟨rfl, rfl⟩
    exact ⟨rfl, hwide⟩
  · rintro ⟨rfl, hstep⟩
    refine ⟨?_, rfl⟩
    apply BitVec.eq_of_toNat_eq
    have hnat := congrArg BitVec.toNat hstep
    have hbyte := litersPerPulse.isLt
    rw [BitVec.toNat_setWidth] at hnat ⊢
    omega

theorem preset_in_use_iff {total sent water : BitVec 32} {summation : BitVec 48} :
    (total, total, total.setWidth 48) = (water, sent, summation) ↔
      total = sent ∧ water = sent ∧ summation = sent.setWidth 48 := by
  rw [Prod.mk.injEq, Prod.mk.injEq]
  constructor
  · rintro ⟨rfl, rfl, rfl⟩
    exact ⟨rfl, rfl, rfl⟩
  · rintro ⟨rfl, rfl, rfl⟩
    exact ⟨rfl, rfl, rfl⟩

theorem step_stored_iff (s : Meter) (recs : List SentRec) :
    (run (writeRead fun _ => listHead recs) (run Meter.storeAttr s recs) recs).stepParts =
        (run Meter.storeAttr s recs).stepParts ↔
      ∀ xs r ys, recs = xs ++ r :: ys → r.IsStepPreset → (∀ r' ∈ ys, ¬ r'.IsStepPreset) →
        roundedStep (listHead recs).buildU16 = r.alone.buildU16 ∧ s.litersPerPulse.setWidth 16 = r.alone.buildU16 := by
  rw [run_same_iff stepParts_set stepParts_kept]
  refine forall₃_congr fun xs r ys => forall₃_congr fun hrecs hr hys => ?_
  have hstored : (run Meter.storeAttr s recs).stepParts = (s.litersPerPulse, r.alone.buildU16) := by
    rw [hrecs]
    exact stepParts_stored s xs hr hys
  rw [hstored]
  exact step_in_use_iff

/-- The step stays what it is throughout the list, if the last record that sets it sets it to that. -/
theorem step_in_force {s : Meter} (hstep : ∀ xs r ys, recs = xs ++ r :: ys → r.IsStepPreset →
    (∀ r' ∈ ys, ¬ r'.IsStepPreset) →
      roundedStep (listHead recs).buildU16 = r.alone.buildU16 ∧ s.litersPerPulse.setWidth 16 = r.alone.buildU16)
    (hrecs : recs = xs ++ ys) : stepAfter (fun _ => listHead recs) s.litersPerPulse xs = s.litersPerPulse := by
  apply stepAfter_same
  intro r hr hkind
  rcases last_or_none SentRec.IsStepPreset recs with hnone | ⟨as, r', bs, hsplit, hr', hbs⟩
  · exact absurd hkind (hnone r (hrecs ▸ List.mem_append_left ys hr))
  · exact (Prod.mk.inj (step_in_use_iff.mpr (hstep as r' bs hsplit hr' hbs))).1

/-- Where the step is the old one throughout the list, the application leaves a preset as the stack has stored it exactly
when it was in use before. -/
theorem Presets.stored_iff {kind : SentRec → Prop} {parts : Meter → BitVec 32 × BitVec 32 × BitVec 48}
    (h : Presets kind parts) (hstores : StoresPreset kind parts) {s : Meter} (hforce : ∀ xs ys, recs = xs ++ ys →
      stepAfter (fun _ => listHead recs) s.litersPerPulse xs = s.litersPerPulse) :
    parts (run (writeRead fun _ => listHead recs) (run Meter.storeAttr s recs) recs) =
        parts (run Meter.storeAttr s recs) ↔
      ∀ xs r ys, recs = xs ++ r :: ys → kind r → (∀ r' ∈ ys, ¬ kind r') →
        presetTotal s.litersPerPulse (listHead recs).buildU32 = r.alone.buildU32 ∧ (parts s).1 = r.alone.buildU32 ∧
          (parts s).2.2 = r.alone.buildU32.setWidth 48 := by
  rw [run_same_iff (h.set fun _ => listHead recs) (h.kept fun _ => listHead recs)]
  refine forall₃_congr fun xs r ys => forall₃_congr fun hrecs hr hys => ?_
  have hstored : parts (run Meter.storeAttr s recs) = ((parts s).1, r.alone.buildU32, (parts s).2.2) := by
    rw [hrecs]
    exact hstores.last s xs hr hys
  rw [hstored, litersPerPulse_run, litersPerPulse_stored, hforce xs (r :: ys) hrecs]
  exact preset_in_use_iff

/-- The application leaves what the stack has stored exactly when the settings were there before. -/
theorem write_stored_iff (s : Meter) (recs : List SentRec) :
    (appZclWriteReqCmd watermeterEndpoint3 zclClusterSeMetering (zclParseInWriteCmd recs) (run Meter.storeAttr s recs)).1 =
        run Meter.storeAttr s recs ↔ WriteDevice.MeterSettled recs s := by
  rw [write_head]
  constructor
  · intro heq
    have hstep := (step_stored_iff s recs).mp (congrArg Meter.stepParts heq)
    have hforce (xs ys : List SentRec) (hrecs : recs = xs ++ ys) := step_in_force hstep hrecs
    exact ⟨hstep, (presets_hot.stored_iff stores_hot hforce).mp (congrArg Meter.hotParts heq),
      (presets_cold.stored_iff stores_cold hforce).mp (congrArg Meter.coldParts heq)⟩
  · intro h
    have hforce (xs ys : List SentRec) (hrecs : recs = xs ++ ys) := step_in_force h.step hrecs
    apply Meter.ext_parts
    · exact (presets_hot.stored_iff stores_hot hforce).mpr h.hot
    · exact (presets_cold.stored_iff stores_cold hforce).mpr h.cold
    · exact (step_stored_iff s recs).mpr h.step
    · exact otherParts_run _ _ _

namespace WriteDevice

variable {d : WriteDevice}

/-! ### The commands -/

/-- What the stack leaves of a list of writable records, by any of the commands. -/
def stored (endPoint : BitVec 8) (clusterId : BitVec 16) (recs : List SentRec) (d : WriteDevice) : WriteDevice :=
  run (zclSetAttrVal endPoint clusterId) d recs

theorem run_zclAttrWrite (d : WriteDevice) (h : ∀ r ∈ recs, Writable endPoint clusterId r) :
    run (zclAttrWrite endPoint clusterId) d recs = d.stored endPoint clusterId recs := by
  induction recs generalizing d with
  | nil => rfl
  | cons r recs ih =>
    rw [stored, run_cons, run_cons, zclAttrWrite, if_pos (h r List.mem_cons_self),
      ih _ fun r' hr' => h r' (List.mem_cons_of_mem r hr'), stored]

theorem deliver_write (d : WriteDevice) (h : ∀ r ∈ recs, Writable endPoint clusterId r) :
    d.deliver .write endPoint clusterId recs =
      (d.stored endPoint clusterId recs).appWriteReqCmd endPoint clusterId recs := by
  rw [← run_zclAttrWrite d h]
  rfl

theorem deliver_other (d : WriteDevice) (h : ∀ r ∈ recs, Writable endPoint clusterId r) {cmd : WriteCmd}
    (hcmd : cmd ≠ .write) : d.deliver cmd endPoint clusterId recs = d.stored endPoint clusterId recs := by
  rw [← run_zclAttrWrite d h]
  cases cmd with
  | write => exact absurd rfl hcmd
  | writeUndivided => exact if_pos h
  | writeNoRsp => rfl

/-- The commands leave the same exactly when the application adds nothing to what the stack does. -/
theorem alike_iff_stored (h : ∀ r ∈ recs, Writable endPoint clusterId r)
    (hreads : (d.stored endPoint clusterId recs).appWriteReqCmd endPoint clusterId recs =
      d.stored endPoint clusterId recs → ReadsBack clusterId recs (d.stored endPoint clusterId recs)) :
    d.Alike endPoint clusterId recs ↔
      (d.stored endPoint clusterId recs).appWriteReqCmd endPoint clusterId recs = d.stored endPoint clusterId recs := by
  constructor
  · rintro ⟨hsame, -⟩
    have hpair := hsame .write .writeNoRsp
    rw [deliver_write d h, deliver_other d h (by simp)] at hpair
    exact hpair
  · intro hsame
    have hall (cmd : WriteCmd) : d.deliver cmd endPoint clusterId recs = d.stored endPoint clusterId recs := by
      by_cases hcmd : cmd = .write
      · subst hcmd
        exact (deliver_write d h).trans hsame
      · exact deliver_other d h hcmd
    refine ⟨fun cmd cmd' => (hall cmd).trans (hall cmd').symm, fun cmd => ?_⟩
    rw [hall cmd]
    exact hreads hsame

theorem zclOnOffCfgAttrSave_eq (d : WriteDevice) : d.zclOnOffCfgAttrSave = { d with saved := some d.switchActions } := by
  obtain ⟨meter, attrs, saved⟩ := d
  simp only [zclOnOffCfgAttrSave, onOffCfgAttrWritten_eq]
  by_cases hsame : saved = some attrs
  · rw [if_pos hsame, hsame]
  · rw [if_neg hsame]

theorem iterate_save (d : WriteDevice) (n : Nat) :
    zclOnOffCfgAttrSave^[n + 1] d = { d with saved := some d.switchActions } := by
  induction n with
  | zero => exact zclOnOffCfgAttrSave_eq d
  | succ n ih => rw [Function.iterate_succ_apply', ih, zclOnOffCfgAttrSave_eq]

/-- The metering cluster: the meter alone is stored. -/
theorem stored_metering (d : WriteDevice) (recs : List SentRec) :
    d.stored endPoint zclClusterSeMetering recs = { d with meter := run Meter.storeAttr d.meter recs } := by
  induction recs generalizing d with
  | nil => rfl
  | cons r recs ih =>
    rw [stored, run_cons, zclSetAttrVal, if_pos rfl]
    exact ih _

theorem appWriteReqCmd_metering (d : WriteDevice) (recs : List SentRec) :
    d.appWriteReqCmd watermeterEndpoint3 zclClusterSeMetering recs =
      { d with meter := (appZclWriteReqCmd watermeterEndpoint3 zclClusterSeMetering (zclParseInWriteCmd recs) d.meter).1 } := by
  have hcluster : ¬ zclClusterSeMetering = zclClusterGenOnOffSwitchConfig := by decide
  have hsaves : (appZclWriteReqCmd watermeterEndpoint3 zclClusterSeMetering (zclParseInWriteCmd recs) d.meter).2 = 0 := by
    rw [appZclWriteReqCmd, if_neg hcluster]
  simp only [appWriteReqCmd, hsaves]
  rfl

/-- A preset that was in use before reads back as the total. -/
theorem readsBack_preset {kind : SentRec → Prop} {parts : Meter → BitVec 32 × BitVec 32 × BitVec 48}
    (hstores : StoresPreset kind parts) {s : Meter} (huse : ∀ xs r ys, recs = xs ++ r :: ys → kind r → (∀ r' ∈ ys, ¬ kind r') →
      (parts s).1 = r.alone.buildU32) (hsent : ∃ r ∈ recs, kind r) :
    (parts (run Meter.storeAttr s recs)).2.1 = (parts (run Meter.storeAttr s recs)).1 := by
  obtain ⟨r, hr, hkind⟩ := hsent
  rcases last_or_none kind recs with hnone | ⟨xs, r', ys, hrecs, hr', hys⟩
  · exact absurd hkind (hnone r hr)
  · have hparts := hstores.last s xs hr' hys
    rw [← hrecs] at hparts
    rw [hparts]
    exact (huse xs r' ys hrecs hr' hys).symm

/-- Settings that were there before read back as they are used. -/
theorem MeterSettled.readsBack (h : MeterSettled recs d.meter) :
    ReadsBack zclClusterSeMetering recs (d.stored endPoint zclClusterSeMetering recs) := by
  rw [stored_metering]
  constructor
  · intro _ hsent
    exact readsBack_preset stores_hot (fun xs r ys hrecs hr hys => (h.hot xs r ys hrecs hr hys).2.1) hsent
  · intro _ hsent
    exact readsBack_preset stores_cold (fun xs r ys hrecs hr hys => (h.cold xs r ys hrecs hr hys).2.1) hsent
  · rintro - ⟨r, hr, hkind⟩
    rcases last_or_none SentRec.IsStepPreset recs with hnone | ⟨xs, r', ys, hrecs, hr', hys⟩
    · exact absurd hkind (hnone r hr)
    · have hparts := stepParts_stored d.meter xs hr' hys
      rw [← hrecs] at hparts
      have hstep : (run Meter.storeAttr d.meter recs).attrs.waterStepPreset = r'.alone.buildU16 := congrArg Prod.snd hparts
      rw [hstep, litersPerPulse_stored, (h.step xs r' ys hrecs hr' hys).2]

theorem alike_metering_iff (d : WriteDevice) (h : ∀ r ∈ recs, Writable endPoint zclClusterSeMetering r) :
    d.Alike endPoint zclClusterSeMetering recs ↔ MeterSettled recs d.meter := by
  cases recs with
  | nil =>
    have hsaves : (appZclWriteReqCmd endPoint zclClusterSeMetering (zclParseInWriteCmd []) d.meter) = (d.meter, 0) := by
      simp [appZclWriteReqCmd, zclParseInWriteCmd, writeMeterAttrs]
    refine iff_of_true ((alike_iff_stored h fun _ => ⟨by simp, by simp, by simp⟩).mpr ?_) ⟨by simp, by simp, by simp⟩
    simp only [stored, run_nil, appWriteReqCmd, hsaves]
    rfl
  | cons r recs =>
    have hwritable := h r List.mem_cons_self
    rw [Writable, if_pos rfl] at hwritable
    obtain ⟨rfl, -⟩ := hwritable
    have happ : (d.stored watermeterEndpoint3 zclClusterSeMetering (r :: recs)).appWriteReqCmd watermeterEndpoint3
        zclClusterSeMetering (r :: recs) = d.stored watermeterEndpoint3 zclClusterSeMetering (r :: recs) ↔
          MeterSettled (r :: recs) d.meter := by
      rw [stored_metering, appWriteReqCmd_metering, ← write_stored_iff]
      exact ⟨fun heq => congrArg WriteDevice.meter heq, fun heq => by rw [heq]⟩
    rw [alike_iff_stored h fun heq => (happ.mp heq).readsBack, happ]

/-! The switch configuration. -/

theorem store_store (a : SwitchActions) (endPoint : BitVec 8) (r r' : SentRec) :
    (a.store endPoint r').store endPoint r = a.store endPoint r := by
  simp only [SwitchActions.store]
  split <;> rfl

theorem stored_switch (d : WriteDevice) (xs : List SentRec) (r : SentRec) :
    d.stored endPoint zclClusterGenOnOffSwitchConfig (xs ++ [r]) =
      { d with switchActions := d.switchActions.store endPoint r } := by
  have hcluster : ¬ zclClusterGenOnOffSwitchConfig = zclClusterSeMetering := by decide
  have hone (d : WriteDevice) (r : SentRec) : d.zclSetAttrVal endPoint zclClusterGenOnOffSwitchConfig r =
      { d with switchActions := d.switchActions.store endPoint r } := by
    rw [zclSetAttrVal, if_neg hcluster, if_pos rfl]
  induction xs generalizing d with
  | nil => exact hone d r
  | cons x xs ih =>
    have hrest := ih (d.zclSetAttrVal endPoint zclClusterGenOnOffSwitchConfig x)
    rw [hone, store_store] at hrest
    exact hrest

theorem appWriteReqCmd_switch (d : WriteDevice) (h : ∀ r ∈ recs, r.IsSwitchAction) :
    d.appWriteReqCmd endPoint zclClusterGenOnOffSwitchConfig recs = zclOnOffCfgAttrSave^[recs.length] d := by
  have hcluster : ¬ (zclClusterGenOnOffSwitchConfig = zclClusterSeMetering ∧ endPoint = watermeterEndpoint3) :=
    fun h => absurd h.1 (by decide)
  have hcount : (zclParseInWriteCmd recs).countP (·.attrID == zclAttridSwitchAction) = recs.length := by
    induction recs with
    | nil => rfl
    | cons r recs ih =>
      have hid : r.attrID = zclAttridSwitchAction := (h r List.mem_cons_self).1
      rw [zclParseInWriteCmd, List.countP_cons_of_pos (by simp [hid]), ih fun r' hr' => h r' (List.mem_cons_of_mem r hr')]
      rfl
  simp only [appWriteReqCmd, appZclWriteReqCmd, if_neg hcluster, if_pos, hcount]

theorem alike_switch_iff (d : WriteDevice) (h : ∀ r ∈ recs, Writable endPoint zclClusterGenOnOffSwitchConfig r) :
    d.Alike endPoint zclClusterGenOnOffSwitchConfig recs ↔ d.ActionsSettled endPoint recs := by
  have hcluster : ¬ zclClusterGenOnOffSwitchConfig = zclClusterSeMetering := by decide
  have hactions (r : SentRec) (hr : r ∈ recs) : r.IsSwitchAction := by
    have hwritable := h r hr
    rw [Writable, if_neg hcluster, if_pos rfl] at hwritable
    exact hwritable.2
  have hreads : ReadsBack zclClusterGenOnOffSwitchConfig recs (d.stored endPoint zclClusterGenOnOffSwitchConfig recs) :=
    ⟨fun heq => absurd heq hcluster, fun heq => absurd heq hcluster, fun heq => absurd heq hcluster⟩
  rw [alike_iff_stored h fun _ => hreads, appWriteReqCmd_switch _ hactions]
  rcases List.eq_nil_or_concat recs with rfl | ⟨xs, r, rfl⟩
  · exact iff_of_true rfl (by simp [ActionsSettled])
  · rw [List.concat_eq_append, List.length_append, List.length_singleton, iterate_save, stored_switch]
    constructor
    · intro heq xs' r' hsplit
      obtain ⟨-, hlast⟩ := List.append_inj' hsplit rfl
      obtain rfl := List.singleton_inj.mp hlast
      exact (congrArg WriteDevice.saved heq).symm
    · intro hsettled
      rw [← hsettled xs r rfl]

/-- The three commands do the same with a list of writable records exactly when the application has nothing to add. -/
theorem alike_iff (d : WriteDevice) (endPoint : BitVec 8) (clusterId : BitVec 16) (recs : List SentRec)
    (h : ∀ r ∈ recs, Writable endPoint clusterId r) :
    d.Alike endPoint clusterId recs ↔ d.Settled endPoint clusterId recs := by
  rw [Settled]
  split
  · next hmetering =>
    subst hmetering
    exact alike_metering_iff d h
  · next hmetering =>
    split
    · next hswitch =>
      subst hswitch
      exact alike_switch_iff d h
    · next hswitch =>
      refine iff_of_true ((alike_iff_stored h fun _ => ?_).mpr ?_) trivial
      · exact ⟨fun heq => absurd heq hmetering, fun heq => absurd heq hmetering, fun heq => absurd heq hmetering⟩
      · have hsaves (s : Meter) : appZclWriteReqCmd endPoint clusterId (zclParseInWriteCmd recs) s = (s, 0) := by
          rw [appZclWriteReqCmd, if_neg fun heq => hmetering heq.1, if_neg hswitch]
        simp only [appWriteReqCmd, hsaves]
        rfl

/-- A device that counts 10 litres a pulse and has not counted any. -/
def newDevice : WriteDevice where
  meter := ⟨⟨0#8, 1#8⟩, ⟨0#8, 1#8⟩, ⟨defaultRecord Ram.zero, false, 0, 0⟩, ⟨0, 0, 0, 0, 10⟩⟩
  switchActions := ⟨0#8, 0#8⟩
  saved := none

def sentStep : SentRec := ⟨zclAttridCustomWaterStepPreset, zclDataTypeUint16, [10#8, 0#8], rfl⟩

/-- A step of 10 litres changes nothing, however it is written. -/
theorem same_step_alike : newDevice.Alike watermeterEndpoint3 zclClusterSeMetering [sentStep] := by
  have honly {xs ys : List SentRec} {r : SentRec} (hrecs : [sentStep] = xs ++ r :: ys) : r = sentStep := by
    apply List.mem_singleton.mp
    rw [hrecs]
    exact List.mem_append_right xs List.mem_cons_self
  refine (alike_iff newDevice watermeterEndpoint3 zclClusterSeMetering [sentStep] (by decide)).mpr ?_
  rw [Settled, if_pos rfl]
  refine ⟨fun xs r ys hrecs _ _ => ?_, fun xs r ys hrecs hr _ => ?_, fun xs r ys hrecs hr _ => ?_⟩
  · obtain rfl := honly hrecs
    decide
  · obtain rfl := honly hrecs
    exact absurd hr (by decide)
  · obtain rfl := honly hrecs
    exact absurd hr (by decide)

/-- 1000 litres of hot water written without a response: the preset reads back as 1000, the total stays 0. -/
theorem write_no_rsp_not_used : ¬ ∀ (d : WriteDevice) (endPoint : BitVec 8) (clusterId : BitVec 16)
    (recs : List SentRec), (∀ r ∈ recs, Writable endPoint clusterId r) → d.Alike endPoint clusterId recs := by
  intro h
  have halike := h newDevice watermeterEndpoint3 zclClusterSeMetering
    [sentU32 zclAttridCustomHotWaterPreset 0xE8#8 0x03#8 0#8 0#8] (by decide)
  have hsame := halike.1 .write .writeNoRsp
  have htotal := congrArg (fun d => d.meter.ram.watermeterConfig.counterHotWater) hsame
  revert htotal
  decide

end WriteDevice

end Watermeter
