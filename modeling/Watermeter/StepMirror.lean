import Watermeter.SummationMirror
import Watermeter.WriteCommands

/-! The step as the network reads it. The attribute starts as the default and is set where a write command is handled;
the step in use also comes from the store, and the stack stores what any write command sends. -/

namespace Watermeter

open NorFlash RingLog Transition

/-! ### The step that the store holds -/

/-- The bank whose ring `get_user_data_addr` turns to. -/
def ringBank (m : Mem) : Bank := if mcuBootAddrGet m = 0 then .low else .high

/-- The record that the store holds: that of the NV item while it says that an update is running, else the last of the
chain in the ring. -/
def storedRecord (v : Nvm) : Option Config :=
  match v.userCfg with
  | none => none
  | some c =>
    if c.Valid then
      if c.newOta ≠ 0 then some c
      else
        match ringRead v.flash (ringBank v.flash) 0 with
        | none => none
        | some first => (follow Config.top (ringLog v.flash (ringBank v.flash)) 831 0 first).map Prod.snd
    else none

/-- A store that holds no record is written with the defaults. -/
def storedStep (v : Nvm) : BitVec 8 := (storedRecord v).elim litersPerPulseDefault Config.litersPerPulse

variable {v : Nvm} {r : Ram} {c : Config} {m : Mem}

theorem ringBank_bounds (m : Mem) (r : Ram) : Bounds (ringBank m) (getUserDataAddr m r) := by
  unfold getUserDataAddr ringBank
  by_cases hlow : mcuBootAddrGet m = 0
  · rw [if_pos hlow, if_neg (not_not.mpr hlow)]
    exact ⟨rfl, rfl⟩
  · rw [if_neg hlow, if_pos hlow]
    exact ⟨rfl, rfl⟩

theorem reinitConfig_step (r : Ram) : (reinitConfig r).1.watermeterConfig.litersPerPulse = litersPerPulseDefault :=
  congrArg Totals.litersPerPulse
    (writeConfig_totals { r with watermeterConfig := defaultRecord r, defaultConfig := true })

theorem storedStep_invalid (h : ∀ c, v.userCfg = some c → ¬ c.Valid) : storedStep v = litersPerPulseDefault := by
  rw [storedStep, storedRecord]
  cases hcfg : v.userCfg with
  | none => rfl
  | some c =>
    have hbad := h c hcfg
    simp only [if_neg hbad]
    rfl

/-- `init_config` loads the step that the store holds. -/
theorem initConfig_step (v : Nvm) (r : Ram) : (initConfig v r).1.watermeterConfig.litersPerPulse = storedStep v := by
  by_cases hinvalid : ∀ c, v.userCfg = some c → ¬ c.Valid
  · rw [initConfig_invalid hinvalid, reinitConfig_step, storedStep_invalid hinvalid]
  push Not at hinvalid
  obtain ⟨c, hcfg, hc⟩ := hinvalid
  by_cases ho : c.newOta ≠ 0
  · have hstored : storedStep v = c.litersPerPulse := by
      simp only [storedStep, storedRecord, hcfg, if_pos hc, if_pos ho]
      rfl
    have hrestored := writeConfig_totals { getUserDataAddr v.flash r with
      watermeterConfig := restoredRecord c (getUserDataAddr v.flash r), defaultConfig := true }
    rw [initConfig_restore hcfg hc ho, hstored]
    exact congrArg Totals.litersPerPulse hrestored
  have hring : RingItem v := ⟨c, hcfg, hc, not_not.mp ho⟩
  have hbounds := ringBank_bounds v.flash r
  rw [initConfig_ring hring]
  by_cases hid : (readConfig v.flash (ringBank v.flash).userStart).id = idConfig
  · have hfirst : ringRead v.flash (ringBank v.flash) 0 = some (readConfig v.flash (ringBank v.flash).userStart) :=
      ringRead_zero.mpr ⟨rfl, hid⟩
    rw [scanRing_eq hbounds hid]
    cases hfollow : follow Config.top (ringLog v.flash (ringBank v.flash)) 831 0
        (readConfig v.flash (ringBank v.flash).userStart) with
    | none =>
      have hstored : storedStep v = litersPerPulseDefault := by
        simp only [storedStep, storedRecord, hcfg, if_pos hc, if_neg ho, hfirst, hfollow]
        rfl
      have hscan := scanConfig_of_none rfl hfollow
      rw [hstored]
      revert hscan
      rcases scanConfig v.flash (ringBank v.flash).userEnd (readConfig v.flash (ringBank v.flash).userStart)
        (pageAddr (ringBank v.flash) 1) with ⟨curr, addr, found⟩
      rintro rfl
      exact reinitConfig_step _
    | some found =>
      obtain ⟨p, last⟩ := found
      have hstored : storedStep v = last.litersPerPulse := by
        simp only [storedStep, storedRecord, hcfg, if_pos hc, if_neg ho, hfirst, hfollow]
        rfl
      rw [scanConfig_of_some rfl hfollow, hstored]
  · have hnone : ringRead v.flash (ringBank v.flash) 0 = none := by
      rw [ringRead, if_neg hid]
    have hstored : storedStep v = litersPerPulseDefault := by
      simp only [storedStep, storedRecord, hcfg, if_pos hc, if_neg ho, hnone]
      rfl
    rw [scanRing, hbounds.start, toNat_userStart, if_pos hid, reinitConfig_step, hstored]

/-! ### The application behind the stack -/

/-- The application with the attributes of the switch configuration and their item in the NV. -/
structure ZclApp extends App where
  switchActions : SwitchActions
  saved : Option SwitchActions

/-- What happens to it: what happens to the application, and a write command as the stack receives it. -/
inductive ZclAppEvent
  | app (e : AppEvent)
  | write (cmd : WriteCmd) (endPoint : BitVec 8) (clusterId : BitVec 16) (recs : List SentRec)

namespace App

/-- The memory that `init_config` finds when the MCU starts in the step. -/
def startMemory (supply : Supply) (s : App) : AppEvent → Nvm
  | .otaProcessMsg _ _ _ _ => s.toOtaDevice.switched supply
  | _ => s.nvm

/-- The attribute of the step is the step in use. -/
def StepMirrored (s : App) : Prop := s.attrs.waterStepPreset = s.ram.watermeterConfig.litersPerPulse.setWidth 16

end App

namespace ZclApp

def writeDevice (s : ZclApp) : WriteDevice := ⟨s.meter, s.switchActions, s.saved⟩

/-- `zcl_onOffCfgAttr_restore` comes with every start. -/
def step (s : ZclApp) : Supply × ZclAppEvent → ZclApp
  | (supply, .app e) =>
    { toApp := s.toApp.step (supply, e)
      switchActions := if s.resets supply e then s.saved.getD ⟨zclSwitchActionOnOff, zclSwitchActionOnOff⟩ else s.switchActions
      saved := s.saved }
  | (supply, .write cmd endPoint clusterId recs) =>
    let d := s.writeDevice.deliver cmd endPoint clusterId recs
    { toApp := s.toApp.withMeter supply d.meter []
      switchActions := d.switchActions
      saved := d.saved }

/-- The command stores the records that can be written. -/
def Stores (cmd : WriteCmd) (endPoint : BitVec 8) (clusterId : BitVec 16) (recs : List SentRec) : Prop :=
  cmd = .writeUndivided → ∀ r ∈ recs, Writable endPoint clusterId r

/-- When the MCU starts, the store holds the default step. When an update fails, it holds the step in use. And a command
that is not handed to the application sends the step in use, if any. -/
def StepHeld (s : ZclApp) : Supply × ZclAppEvent → Prop
  | (supply, .app e) =>
    (s.resets supply e = true → storedStep (s.startMemory supply e) = litersPerPulseDefault) ∧
      (s.FailsUpdate e → storedStep s.nvm = s.ram.watermeterConfig.litersPerPulse)
  | (_, .write cmd endPoint clusterId recs) =>
    cmd ≠ .write → endPoint = watermeterEndpoint3 → clusterId = zclClusterSeMetering →
      Stores cmd endPoint clusterId recs → ∀ xs r ys, recs = xs ++ r :: ys → r.IsStepPreset →
        (∀ r' ∈ ys, ¬ r'.IsStepPreset) → r.alone.buildU16 = s.ram.watermeterConfig.litersPerPulse.setWidth 16

end ZclApp

variable {s : App} {supply : Supply} {e : AppEvent}

/-! ### The steps of the application -/

theorem setWidth_step_iff {step step' : BitVec 8} : step.setWidth 16 = step'.setWidth 16 ↔ step = step' := by
  constructor
  · intro h
    have hnat := congrArg BitVec.toNat h
    have hlt := step.isLt
    have hlt' := step'.isLt
    rw [BitVec.toNat_setWidth, BitVec.toNat_setWidth] at hnat
    apply BitVec.eq_of_toNat_eq
    omega
  · exact congrArg (BitVec.setWidth 16)

/-- A start leaves the step that the store holds, and the default in the attribute. -/
theorem reset_step (h : s.resets supply e = true) :
    (s.step (supply, e)).attrs.waterStepPreset = litersPerPulseDefault.setWidth 16 ∧
      (s.step (supply, e)).ram.watermeterConfig.litersPerPulse = storedStep (s.startMemory supply e) := by
  cases e with
  | userAppInit up => exact ⟨rfl, initConfig_step s.nvm Ram.zero⟩
  | otaProcessMsg adcData evt status up =>
    rw [App.step, if_pos h]
    refine ⟨rfl, ?_⟩
    cases evt with
    | otaEvtStart => cases h
    | otaEvtComplete =>
      rw [App.resets, Bool.and_eq_true, beq_iff_eq] at h
      obtain ⟨hstatus, hreset⟩ := h
      have hops : s.toOtaDevice.storeOps supply .success =
          (s.toOtaDevice.switched supply, initConfig (s.toOtaDevice.switched supply) Ram.zero) := if_pos hreset
      show (appOtaProcessMsgHandler supply adcData .otaEvtComplete status s.toOtaDevice).ram.watermeterConfig.litersPerPulse = _
      simp only [appOtaProcessMsgHandler_eq, if_pos hstatus]
      rw [OtaDevice.step_eq hops]
      exact initConfig_step _ Ram.zero
  | countersHandler pins => cases h
  | zclWriteReqCmd endPoint clusterId attrList => cases h
  | imageAccepted imageSize => cases h
  | imageBlock offset data => cases h

/-- The end of an update that does not succeed. -/
theorem abort_step (d : OtaDevice) (supply : Supply) :
    (d.step (supply, .abort)).ram.watermeterConfig.litersPerPulse =
      if d.ram.watermeterConfig.newOta ≠ 0 then storedStep d.nvm else d.ram.watermeterConfig.litersPerPulse := by
  split
  · next hmode =>
    have hops : d.storeOps supply .abort = (d.nvm, initConfig d.nvm d.ram) := if_pos hmode
    rw [OtaDevice.step_eq hops]
    exact initConfig_step d.nvm d.ram
  · next hmode =>
    have hloads : d.loads supply .abort = false := decide_eq_false hmode
    exact congrArg Totals.litersPerPulse (totals_kept hloads (by simp))

theorem preset_step_wide (waterStep : BitVec 16) : ((roundedStep waterStep).setWidth 8).setWidth 16 = roundedStep waterStep :=
  (step_in_use_iff.mp rfl).2

/-- Pulses leave the step and its attribute alone. -/
theorem countersHandler_stepParts (pins : Pins) (m : Meter) : (countersHandler pins m).1.stepParts = m.stepParts := by
  have hstep : (countersHandler pins m).1.litersPerPulse = m.litersPerPulse := (countersHandler_channel pins m .hot).2.1
  have hattr : (countersHandler pins m).1.attrs.waterStepPreset = m.attrs.waterStepPreset := by
    have hhot (m : Meter) : m.takeHot.attrs.waterStepPreset = m.attrs.waterStepPreset := by
      unfold Meter.takeHot
      split <;> rfl
    have hcold (m : Meter) : m.takeCold.attrs.waterStepPreset = m.attrs.waterStepPreset := by
      unfold Meter.takeCold
      split <;> rfl
    have htaken := (hcold (m.polled pins).takeHot).trans (hhot (m.polled pins))
    simp only [countersHandler]
    split <;> exact htaken
  rw [Meter.stepParts, hstep, hattr]
  rfl

/-- The application sets the step and its attribute together. -/
theorem write_stepMirrored {m : Meter} (h : m.attrs.waterStepPreset = m.litersPerPulse.setWidth 16) (endPoint : BitVec 8)
    (clusterId : BitVec 16) (attrList : List WriteRec) :
    (appZclWriteReqCmd endPoint clusterId attrList m).1.attrs.waterStepPreset =
      (appZclWriteReqCmd endPoint clusterId attrList m).1.litersPerPulse.setWidth 16 := by
  have hrecord (first attr : WriteRec) (m : Meter) (h : m.attrs.waterStepPreset = m.litersPerPulse.setWidth 16) :
      (writeMeterAttr first m attr).attrs.waterStepPreset = (writeMeterAttr first m attr).litersPerPulse.setWidth 16 := by
    unfold writeMeterAttr
    split_ifs
    · exact h
    · exact h
    · exact (preset_step_wide first.buildU16).symm
    · exact h
  have hfold (first : WriteRec) (attrs : List WriteRec) (m : Meter)
      (h : m.attrs.waterStepPreset = m.litersPerPulse.setWidth 16) :
      (attrs.foldl (writeMeterAttr first) m).attrs.waterStepPreset =
        (attrs.foldl (writeMeterAttr first) m).litersPerPulse.setWidth 16 := by
    induction attrs generalizing m with
    | nil => exact h
    | cons attr attrs ih => exact ih _ (hrecord first attr m h)
  unfold appZclWriteReqCmd
  split
  · cases attrList with
    | nil => exact h
    | cons first attrList => exact hfold first (first :: attrList) m h
  · exact h

/-- A message of the client that does not start the MCU loads a step only where it ends an update that has failed. -/
theorem ota_step {adcData : Nat} {evt : OtaMsg} {status : BitVec 8} {up : PowerUp}
    (h : s.resets supply (.otaProcessMsg adcData evt status up) = false) :
    s.FailsUpdate (.otaProcessMsg adcData evt status up) ∧
        (s.handled supply (.otaProcessMsg adcData evt status up)).ram.watermeterConfig.litersPerPulse = storedStep s.nvm ∨
      ¬ s.FailsUpdate (.otaProcessMsg adcData evt status up) ∧
        (s.handled supply (.otaProcessMsg adcData evt status up)).ram.watermeterConfig.litersPerPulse =
          s.ram.watermeterConfig.litersPerPulse := by
  have hkept {e : OtaEvent} (hloads : s.toOtaDevice.loads supply e = false) (he : ∀ t, e ≠ .set t) :
      (s.toOtaDevice.step (supply, e)).ram.watermeterConfig.litersPerPulse =
        s.ram.watermeterConfig.litersPerPulse := congrArg Totals.litersPerPulse (totals_kept hloads he)
  have habort := abort_step s.toOtaDevice supply
  cases evt with
  | otaEvtStart =>
    by_cases hlow : adcData < (maxVbatMv - 100 - minVbatMv) / 2 + minVbatMv
    · simp only [App.handled, appOtaProcessMsgHandler_eq, if_pos hlow]
      by_cases hmode : s.ram.watermeterConfig.newOta ≠ 0
      · rw [if_pos hmode] at habort
        exact .inl ⟨⟨hmode, hlow⟩, habort⟩
      · rw [if_neg hmode] at habort
        exact .inr ⟨fun hf => hmode hf.1, habort⟩
    · simp only [App.handled, appOtaProcessMsgHandler_eq, if_neg hlow]
      refine .inr ⟨fun hf => hlow hf.2, ?_⟩
      split
      · exact hkept rfl (by simp)
      · rfl
  | otaEvtComplete =>
    by_cases hsuccess : status = zclStaSuccess
    · have hloads : s.toOtaDevice.loads supply .success = false := by
        rw [App.resets, hsuccess] at h
        exact h
      simp only [App.handled, appOtaProcessMsgHandler_eq, if_pos hsuccess]
      exact .inr ⟨fun hf => hf.2 hsuccess, hkept hloads (by simp)⟩
    · simp only [App.handled, appOtaProcessMsgHandler_eq, if_neg hsuccess]
      by_cases hmode : s.ram.watermeterConfig.newOta ≠ 0
      · rw [if_pos hmode] at habort
        exact .inl ⟨⟨hmode, hsuccess⟩, habort⟩
      · rw [if_neg hmode] at habort
        exact .inr ⟨fun hf => hmode hf.1, habort⟩

/-- A start of the MCU is no update that fails. -/
theorem not_failsUpdate_of_resets (h : s.resets supply e = true) : ¬ s.FailsUpdate e := by
  cases e with
  | userAppInit up => exact id
  | otaProcessMsg adcData evt status up =>
    cases evt with
    | otaEvtStart => cases h
    | otaEvtComplete =>
      rw [App.resets, Bool.and_eq_true, beq_iff_eq] at h
      exact fun hfails => hfails.2 h.1
  | countersHandler pins => exact id
  | zclWriteReqCmd endPoint clusterId attrList => exact id
  | imageAccepted imageSize => exact id
  | imageBlock offset data => exact id

theorem reset_stepMirrored_iff (h : s.resets supply e = true) :
    (s.step (supply, e)).StepMirrored ↔ storedStep (s.startMemory supply e) = litersPerPulseDefault := by
  obtain ⟨hattr, hstep⟩ := reset_step h
  rw [App.StepMirrored, hattr, hstep, setWidth_step_iff]
  exact eq_comm

/-- An event of the application keeps the attribute true exactly when a start finds the default step in the store, and
the end of a failed update the step in use. -/
theorem app_stepMirrored_iff (h : s.StepMirrored) (supply : Supply) (e : AppEvent) :
    (s.step (supply, e)).StepMirrored ↔
      (s.resets supply e = true → storedStep (s.startMemory supply e) = litersPerPulseDefault) ∧
        (s.FailsUpdate e → storedStep s.nvm = s.ram.watermeterConfig.litersPerPulse) := by
  cases hreset : s.resets supply e with
  | true =>
    rw [reset_stepMirrored_iff hreset]
    exact ⟨fun heq => ⟨fun _ => heq, fun hf => absurd hf (not_failsUpdate_of_resets hreset)⟩, fun hheld => hheld.1 rfl⟩
  | false =>
    have hkept {s' : App} (hattrs : s'.attrs.waterStepPreset = s.attrs.waterStepPreset)
        (hstep : s'.ram.watermeterConfig.litersPerPulse = s.ram.watermeterConfig.litersPerPulse) : s'.StepMirrored := by
      rw [App.StepMirrored, hattrs, hstep]
      exact h
    cases e with
    | userAppInit up => cases hreset
    | countersHandler pins =>
      have hparts := countersHandler_stepParts pins s.meter
      exact iff_of_true (hkept (congrArg Prod.snd hparts) (congrArg Prod.fst hparts)) ⟨by simp, fun hf => hf.elim⟩
    | zclWriteReqCmd endPoint clusterId attrList =>
      have hmeter : s.meter.attrs.waterStepPreset = s.meter.litersPerPulse.setWidth 16 := h
      exact iff_of_true (write_stepMirrored hmeter endPoint clusterId attrList) ⟨by simp, fun hf => hf.elim⟩
    | imageAccepted imageSize =>
      have htotals : (s.toOtaDevice.step (supply, .accept imageSize)).ram.watermeterConfig.totals =
        s.ram.watermeterConfig.totals := totals_kept rfl (by simp)
      exact iff_of_true (hkept rfl (congrArg Totals.litersPerPulse htotals)) ⟨by simp, fun hf => hf.elim⟩
    | imageBlock offset data =>
      have htotals : (s.toOtaDevice.step (supply, .block offset data)).ram.watermeterConfig.totals =
        s.ram.watermeterConfig.totals := totals_kept rfl (by simp)
      exact iff_of_true (hkept rfl (congrArg Totals.litersPerPulse htotals)) ⟨by simp, fun hf => hf.elim⟩
    | otaProcessMsg adcData evt status up =>
      rw [App.step, if_neg (by rw [hreset]; decide)]
      rcases ota_step hreset with ⟨hfails, hstep⟩ | ⟨hfails, hstep⟩
      · have hattr : (s.handled supply (.otaProcessMsg adcData evt status up)).attrs.waterStepPreset =
          s.ram.watermeterConfig.litersPerPulse.setWidth 16 := h
        rw [App.StepMirrored, hattr, hstep, setWidth_step_iff]
        exact ⟨fun heq => ⟨by simp, fun _ => heq.symm⟩, fun hheld => (hheld.2 hfails).symm⟩
      · exact iff_of_true (hkept rfl hstep) ⟨by simp, fun hf => absurd hf hfails⟩

/-! ### Write commands -/

section Write

variable {endPoint : BitVec 8} {clusterId : BitVec 16} {recs : List SentRec}

/-- To endpoint 3, the stack stores every setting that a list has. -/
theorem meter_written (d : WriteDevice) (recs : List SentRec) :
    (run (WriteDevice.zclAttrWrite watermeterEndpoint3 zclClusterSeMetering) d recs).meter =
      run Meter.storeAttr d.meter recs := by
  induction recs generalizing d with
  | nil => rfl
  | cons r recs ih =>
    have hone : (d.zclAttrWrite watermeterEndpoint3 zclClusterSeMetering r).meter = d.meter.storeAttr r := by
      rw [WriteDevice.zclAttrWrite]
      split
      · rw [WriteDevice.zclSetAttrVal, if_pos rfl]
      · next hnot =>
        rw [Writable, if_pos rfl] at hnot
        obtain ⟨hhot, hnot⟩ := not_or.mp fun hkind => hnot ⟨rfl, hkind⟩
        obtain ⟨hcold, hstep⟩ := not_or.mp hnot
        rw [Meter.storeAttr, if_neg hhot, if_neg hcold, if_neg hstep]
    rw [run_cons, ih, hone, run_cons]

/-- To another endpoint or cluster, it stores none. -/
theorem meter_unwritten (d : WriteDevice) (recs : List SentRec)
    (h : ¬ (endPoint = watermeterEndpoint3 ∧ clusterId = zclClusterSeMetering)) :
    (run (WriteDevice.zclAttrWrite endPoint clusterId) d recs).meter = d.meter := by
  have hkeep (d : WriteDevice) (r : SentRec) (_ : ¬ False) : (d.zclAttrWrite endPoint clusterId r).meter = d.meter := by
    rw [WriteDevice.zclAttrWrite]
    split
    · next hwritable =>
      have hcluster : clusterId ≠ zclClusterSeMetering := by
        intro hcluster
        rw [Writable, if_pos hcluster] at hwritable
        exact h ⟨hwritable.1, hcluster⟩
      rw [WriteDevice.zclSetAttrVal, if_neg hcluster]
      split <;> rfl
    · rfl
  exact run_unset hkeep d fun _ _ => id

theorem iterate_save_meter (d : WriteDevice) (n : Nat) : (WriteDevice.zclOnOffCfgAttrSave^[n] d).meter = d.meter := by
  induction n with
  | zero => rfl
  | succ n ih => rw [Function.iterate_succ_apply', WriteDevice.zclOnOffCfgAttrSave_eq, ih]

theorem appWriteReqCmd_meter (d : WriteDevice) (endPoint : BitVec 8) (clusterId : BitVec 16) (recs : List SentRec) :
    (d.appWriteReqCmd endPoint clusterId recs).meter =
      (appZclWriteReqCmd endPoint clusterId (zclParseInWriteCmd recs) d.meter).1 := by
  rw [WriteDevice.appWriteReqCmd]
  exact iterate_save_meter _ _

theorem mirrored_of_stepParts {m : Meter} {step : BitVec 8} {waterStep : BitVec 16} (hparts : m.stepParts = (step, waterStep))
    (h : waterStep = step.setWidth 16) : m.attrs.waterStepPreset = m.litersPerPulse.setWidth 16 := by
  obtain ⟨rfl, rfl⟩ := Prod.mk.inj hparts
  exact h

/-- A command that is handed on leaves the attribute true, whatever it stored before. -/
theorem write_command_mirrored {d : WriteDevice}
    (h : d.meter.attrs.waterStepPreset = d.meter.litersPerPulse.setWidth 16) (endPoint : BitVec 8)
    (clusterId : BitVec 16) (recs : List SentRec) :
    (d.deliver .write endPoint clusterId recs).meter.attrs.waterStepPreset =
      (d.deliver .write endPoint clusterId recs).meter.litersPerPulse.setWidth 16 := by
  have hdeliver : d.deliver .write endPoint clusterId recs =
    (run (WriteDevice.zclAttrWrite endPoint clusterId) d recs).appWriteReqCmd endPoint clusterId recs := rfl
  rw [hdeliver, appWriteReqCmd_meter]
  by_cases hto : endPoint = watermeterEndpoint3 ∧ clusterId = zclClusterSeMetering
  · obtain ⟨rfl, rfl⟩ := hto
    rw [meter_written, write_head]
    generalize listHead recs = head
    rcases last_or_none SentRec.IsStepPreset recs with hnone | ⟨xs, r, ys, rfl, hr, hys⟩
    · have hstored := run_unset stepParts_storeAttr d.meter hnone
      have hparts : (run (writeRead fun _ => head) (run Meter.storeAttr d.meter recs) recs).stepParts = d.meter.stepParts :=
        (run_unset stepParts_kept _ hnone).trans hstored
      exact mirrored_of_stepParts hparts h
    · have hparts : (run (writeRead fun _ => head) (run Meter.storeAttr d.meter (xs ++ r :: ys)) (xs ++ r :: ys)).stepParts =
          ((roundedStep head.buildU16).setWidth 8, roundedStep head.buildU16) :=
        run_last_set stepParts_set stepParts_kept _ hr hys
      exact mirrored_of_stepParts hparts (preset_step_wide _).symm
  · rw [meter_unwritten d recs hto]
    exact write_stepMirrored h _ _ _

/-- A command that is not handed on leaves it true exactly when the last step it stores is the one in use. -/
theorem stored_command_mirrored_iff {d : WriteDevice} {cmd : WriteCmd} (hcmd : cmd ≠ .write)
    (h : d.meter.attrs.waterStepPreset = d.meter.litersPerPulse.setWidth 16) :
    (d.deliver cmd endPoint clusterId recs).meter.attrs.waterStepPreset =
        (d.deliver cmd endPoint clusterId recs).meter.litersPerPulse.setWidth 16 ↔
      (endPoint = watermeterEndpoint3 → clusterId = zclClusterSeMetering → ZclApp.Stores cmd endPoint clusterId recs →
        ∀ xs r ys, recs = xs ++ r :: ys → r.IsStepPreset → (∀ r' ∈ ys, ¬ r'.IsStepPreset) →
          r.alone.buildU16 = d.meter.litersPerPulse.setWidth 16) := by
  have hstored : ZclApp.Stores cmd endPoint clusterId recs →
      d.deliver cmd endPoint clusterId recs = run (WriteDevice.zclAttrWrite endPoint clusterId) d recs := by
    intro hstores
    cases cmd with
    | write => exact absurd rfl hcmd
    | writeUndivided => exact if_pos (hstores rfl)
    | writeNoRsp => rfl
  have hrefused : ¬ ZclApp.Stores cmd endPoint clusterId recs → d.deliver cmd endPoint clusterId recs = d := by
    intro hrefused
    cases cmd with
    | write => exact absurd rfl hcmd
    | writeUndivided => exact if_neg fun hall => hrefused fun _ => hall
    | writeNoRsp => exact absurd (fun heq => by cases heq) hrefused
  by_cases hstores : ZclApp.Stores cmd endPoint clusterId recs
  · rw [hstored hstores]
    by_cases hto : endPoint = watermeterEndpoint3 ∧ clusterId = zclClusterSeMetering
    · obtain ⟨rfl, rfl⟩ := hto
      rw [meter_written, litersPerPulse_stored]
      constructor
      · rintro heq - - - xs r ys rfl hr hys
        rw [← heq]
        exact (congrArg Prod.snd (stepParts_stored d.meter xs hr hys)).symm
      · intro hlast
        rcases last_or_none SentRec.IsStepPreset recs with hnone | ⟨xs, r, ys, hrecs, hr, hys⟩
        · have hparts := run_unset stepParts_storeAttr d.meter hnone
          exact (congrArg Prod.snd hparts).trans h
        · rw [← hlast rfl rfl hstores xs r ys hrecs hr hys, hrecs]
          exact congrArg Prod.snd (stepParts_stored d.meter xs hr hys)
    · rw [meter_unwritten d recs hto]
      exact iff_of_true h fun hep hcluster => absurd ⟨hep, hcluster⟩ hto
  · rw [hrefused hstores]
    exact iff_of_true h fun _ _ hs => absurd hs hstores

end Write

namespace ZclApp

theorem step_mirrored_iff {s : ZclApp} (h : s.StepMirrored) (e : Supply × ZclAppEvent) :
    (s.step e).StepMirrored ↔ s.StepHeld e := by
  obtain ⟨supply, e⟩ := e
  cases e with
  | app e => exact app_stepMirrored_iff h supply e
  | write cmd endPoint clusterId recs =>
    have hmeter : s.writeDevice.meter.attrs.waterStepPreset = s.writeDevice.meter.litersPerPulse.setWidth 16 := h
    by_cases hcmd : cmd = .write
    · subst hcmd
      exact iff_of_true (write_command_mirrored hmeter endPoint clusterId recs) fun hne => absurd rfl hne
    · apply (stored_command_mirrored_iff hcmd hmeter).trans
      exact ⟨fun hlast _ => hlast, fun hheld => hheld hcmd⟩

/-- From a start on, the attribute is the step in use in every state of a run exactly when every step of the run, the
start among them, finds the step that it needs. -/
theorem along_step_mirrored_iff (s : ZclApp) (supply : Supply) (up : PowerUp) (events : List (Supply × ZclAppEvent)) :
    Along step (fun s e => (s.step e).StepMirrored) s ((supply, .app (.userAppInit up)) :: events) ↔
      Along step StepHeld s ((supply, .app (.userAppInit up)) :: events) := by
  have hreset : s.resets supply (.userAppInit up) = true := rfl
  have hstart : (s.step (supply, .app (.userAppInit up))).StepMirrored ↔ s.StepHeld (supply, .app (.userAppInit up)) :=
    (reset_stepMirrored_iff hreset).trans ⟨fun heq => ⟨fun _ => heq, fun hf => hf.elim⟩, fun hheld => hheld.1 hreset⟩
  rw [along_cons, along_cons, hstart]
  apply and_congr_right
  intro hheld
  have hstep : ∀ (s : ZclApp) e, s.StepMirrored → (s.step e).StepMirrored → (s.step e).StepMirrored := fun _ _ _ h => h
  exact along_iff hstep (fun s e h => step_mirrored_iff h e) (hstart.mpr hheld)

/-! ### A step that outlives a start -/

/-- A step of 100 litres. -/
def sentHundred : SentRec := ⟨zclAttridCustomWaterStepPreset, zclDataTypeUint16, [100#8, 0#8], rfl⟩

def hundredWrite : ZclAppEvent := .write .write watermeterEndpoint3 zclClusterSeMetering [sentHundred]

theorem hundredWrite_store (s : ZclApp) (supply : Supply) : (s.step (supply, hundredWrite)).toOtaDevice =
    s.toOtaDevice.step (supply, .set { s.ram.watermeterConfig.totals with litersPerPulse := 100#8 }) := rfl

/-- The step is changed, an update starts, which saves it, and the device starts again: the step is back, and the
attribute is the default. -/
theorem step_not_mirrored : ¬ ∀ (s : ZclApp) (supply : Supply) (up : PowerUp) (events : List (Supply × ZclAppEvent)),
    NeverStarted .low s.toOtaDevice → Powered supply → (∀ e ∈ events, Powered e.1) →
      Along step (fun s e => (s.step e).StepMirrored) s ((supply, .app (.userAppInit up)) :: events) := by
  intro h
  have hs : Powered fun _ => 3000 := powered_const (by decide)
  obtain ⟨hwhole, hfirst⟩ := firstStart hs openStart
  have hrun := h ⟨emptyApp, ⟨0#8, 0#8⟩, none⟩ (fun _ => 3000) openStart
    [(fun _ => 3000, hundredWrite), (fun _ => 3000, .app (.otaProcessMsg 3000 .otaEvtStart zclStaSuccess openStart)),
      (fun _ => 3000, .app (.userAppInit openStart))] neverStarted_empty hs (by simp [hs])
  set s₁ := ZclApp.step ⟨emptyApp, ⟨0#8, 0#8⟩, none⟩ (fun _ => 3000, .app (.userAppInit openStart))
  set s₂ := s₁.step (fun _ => 3000, hundredWrite) with hs₂
  set s₃ := s₂.step (fun _ => 3000, .app (.otaProcessMsg 3000 .otaEvtStart zclStaSuccess openStart)) with hs₃
  have hring : RingHeld .low 0 s₂.toOtaDevice := by
    rw [hs₂, hundredWrite_store]
    exact hwhole.toRingHeld.step_set _ _
  have hstart : s₃.toOtaDevice = s₂.toOtaDevice.step (fun _ => 3000, .start) := updateStart_step s₂.toApp _ openStart
  obtain ⟨c, -, huse⟩ := hring.step_start fun _ => 3000
  have hpassed := OtaDevice.start_saves hring.written fun _ => 3000
  have hkept : (s₂.toOtaDevice.step (fun _ => 3000, .start)).ram.watermeterConfig.totals = s₂.ram.watermeterConfig.totals :=
    totals_kept rfl (by simp)
  rw [← hstart] at huse hpassed hkept
  have hstep : c.litersPerPulse = 100#8 := by
    have htotals : c.totals = s₂.ram.watermeterConfig.totals := huse.held.trans (hpassed.symm.trans hkept)
    exact congrArg Totals.litersPerPulse htotals
  have hstored : storedStep s₃.nvm = c.litersPerPulse := by
    simp only [storedStep, storedRecord, huse.item, if_pos huse.valid, if_pos huse.ota]
    rfl
  have hheld := (step_mirrored_iff hrun.2.2.1 _).mp hrun.2.2.2.1
  have hdefault : storedStep s₃.nvm = litersPerPulseDefault := hheld.1 rfl
  rw [hstored, hstep] at hdefault
  exact absurd hdefault (by decide)

end ZclApp

end Watermeter
