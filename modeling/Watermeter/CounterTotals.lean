import Watermeter.ZclWrite
import Watermeter.Transition
import Mathlib.Data.List.Basic

/-! The totals over runs of pulses and single-record writes. The overflow helper subtracts once, so a total
is exact modulo the rollover exactly as long as no preset is set to twice the rollover or more. -/

namespace Watermeter

open Transition

inductive MeterEvent
  /-- A pass of `counters_handler`. -/
  | pass (pins : Pins)
  /-- A write command with one record. -/
  | write (endPoint : BitVec 8) (clusterId : BitVec 16) (attr : WriteRec)

/-- The variables, and for each channel the water it has been told of: the last preset and the pulses since,
without any rollover (a history variable). -/
structure Tally where
  meter : Meter
  told : Channel → Nat

/-- The channel and the value of a write that is a preset. -/
def MeterEvent.preset : MeterEvent → Option (Channel × BitVec 32)
  | .pass _ => none
  | .write endPoint clusterId attr =>
    if clusterId = zclClusterSeMetering ∧ endPoint = watermeterEndpoint3 ∧ attr.dataType = zclDataTypeUint32 then
      if attr.attrID = zclAttridCustomHotWaterPreset then some (.hot, attr.buildU32)
      else if attr.attrID = zclAttridCustomColdWaterPreset then some (.cold, attr.buildU32)
      else none
    else none

/-- The pulses of a channel that a pass adds. -/
def pulses (s : Meter) (pins : Pins) (ch : Channel) : Nat :=
  (pollCounter (pins.gpio ch) (s.counter ch)).counter.toNat

namespace Tally

def step (s : Tally) (e : MeterEvent) : Tally where
  meter := match e with
    | .pass pins => (countersHandler pins s.meter).1
    | .write endPoint clusterId attr => (appZclWriteReqCmd endPoint clusterId [attr] s.meter).1
  told ch := match e, e.preset with
    | .pass pins, _ => s.told ch + s.meter.litersPerPulse.toNat * pulses s.meter pins ch
    | _, some (ch', value) =>
      if ch = ch' then value.toNat / s.meter.litersPerPulse.toNat * s.meter.litersPerPulse.toNat else s.told ch
    | _, none => s.told ch

/-- The totals are what they have been told modulo the rollover, and there is a step to divide by. -/
def Exact (s : Tally) : Prop :=
  (∀ ch, (s.meter.water ch).toNat = s.told ch % countersOverflow.toNat) ∧ s.meter.litersPerPulse ≠ 0

/-- No sum or product of the step exceeds 32 bits. -/
def NoWrap (s : Tally) : MeterEvent → Prop
  | .pass pins => ∀ ch,
    (s.meter.water ch).toNat + s.meter.litersPerPulse.toNat * pulses s.meter pins ch < 2 ^ 32
  | e => ∀ ch value, e.preset = some (ch, value) →
    value.toNat / s.meter.litersPerPulse.toNat * s.meter.litersPerPulse.toNat < 2 ^ 32

/-- The step is computed without a wrap and leaves the totals exact. -/
def ExactStep (s : Tally) (e : MeterEvent) : Prop := s.NoWrap e ∧ (s.step e).Exact

/-- A preset, rounded down, is below twice the rollover. -/
def PresetBelow (s : Tally) (e : MeterEvent) : Prop := ∀ ch value, e.preset = some (ch, value) →
  value.toNat / s.meter.litersPerPulse.toNat * s.meter.litersPerPulse.toNat < 2 * countersOverflow.toNat

end Tally

variable {s : Tally} {m : Meter}

theorem toNat_countersOverflow : countersOverflow.toNat = 100000000 := rfl

theorem toNat_checkCounterOverflow (x : BitVec 32) :
    (checkCounterOverflow x).toNat =
      if countersOverflow.toNat ≤ x.toNat then x.toNat - countersOverflow.toNat else x.toNat := by
  unfold checkCounterOverflow
  by_cases h : countersOverflow ≤ x
  · rw [if_pos h, if_pos (BitVec.le_def.mp h), BitVec.toNat_sub_of_le h]
  · rw [if_neg h, if_neg fun h' => h (BitVec.le_def.mpr h')]

/-- The helper gives the remainder exactly below twice the rollover. -/
theorem checkCounterOverflow_exact (x : BitVec 32) :
    (checkCounterOverflow x).toNat = x.toNat % countersOverflow.toNat ↔ x.toNat < 2 * countersOverflow.toNat := by
  rw [toNat_checkCounterOverflow, toNat_countersOverflow]
  split <;> omega

theorem toNat_roundedPreset (litersPerPulse : BitVec 8) (value : BitVec 32) :
    (roundedPreset litersPerPulse value).toNat = value.toNat / litersPerPulse.toNat * litersPerPulse.toNat := by
  have hwidth : (litersPerPulse.setWidth 32).toNat = litersPerPulse.toNat := by
    have hlt := litersPerPulse.isLt
    rw [BitVec.toNat_setWidth]
    omega
  have hle := Nat.div_mul_le_self value.toNat litersPerPulse.toNat
  have hlt := value.isLt
  rw [roundedPreset, BitVec.toNat_mul, BitVec.toNat_udiv, hwidth]
  exact Nat.mod_eq_of_lt (by omega)

/-- A total below the rollover stays exact when pulses are added. -/
theorem toNat_addPulses {total : BitVec 32} (litersPerPulse counter : BitVec 8)
    (h : total.toNat < countersOverflow.toNat) :
    total.toNat + litersPerPulse.toNat * counter.toNat < 2 ^ 32 ∧
      (addPulses total litersPerPulse counter).toNat =
        (total.toNat + litersPerPulse.toNat * counter.toNat) % countersOverflow.toNat := by
  have hprod : litersPerPulse.toNat * counter.toNat ≤ 255 * 255 :=
    Nat.mul_le_mul (by have := litersPerPulse.isLt; omega) (by have := counter.isLt; omega)
  rw [toNat_countersOverflow] at h
  have hsum : (total + litersPerPulse.setWidth 32 * counter.setWidth 32).toNat =
      total.toNat + litersPerPulse.toNat * counter.toNat := by
    have hl := litersPerPulse.isLt
    have hc := counter.isLt
    rw [BitVec.toNat_add, BitVec.toNat_mul, BitVec.toNat_setWidth, BitVec.toNat_setWidth,
      Nat.mod_eq_of_lt (by omega : litersPerPulse.toNat < 2 ^ 32), Nat.mod_eq_of_lt (by omega : counter.toNat < 2 ^ 32),
      Nat.mod_eq_of_lt (by omega : litersPerPulse.toNat * counter.toNat < 2 ^ 32), Nat.mod_eq_of_lt (by omega)]
  refine ⟨by omega, ?_⟩
  rw [addPulses, (checkCounterOverflow_exact _).mpr (by rw [hsum, toNat_countersOverflow]; omega), hsum]

/-! ### Writes -/

theorem roundedStep_range (waterStep : BitVec 16) :
    1 ≤ (roundedStep waterStep).toNat ∧ (roundedStep waterStep).toNat ≤ 100 := by
  have hcap : ∀ x : BitVec 16, 1 ≤ x.toNat → 1 ≤ (if 100#16 < x then 100#16 else x).toNat ∧
      (if 100#16 < x then 100#16 else x).toNat ≤ 100 := by
    intro x hx
    split
    · exact ⟨by decide, by decide⟩
    · next hle =>
      have hnot : ¬ 100 < x.toNat := fun hlt => hle (BitVec.lt_def.mpr hlt)
      omega
  apply hcap _
  split
  · decide
  · next hne =>
    have hpos : (waterStep / 10#16 * 10#16).toNat ≠ 0 := fun h => hne (BitVec.eq_of_toNat_eq h)
    omega

theorem presetStep_litersPerPulse (waterStep : BitVec 16) (m : Meter) :
    (m.presetStep waterStep).litersPerPulse ≠ 0 := by
  obtain ⟨hlow, hhigh⟩ := roundedStep_range waterStep
  intro h
  have hzero : ((roundedStep waterStep).setWidth 8).toNat = 0 := by
    show ((m.presetStep waterStep).litersPerPulse).toNat = 0
    rw [h]
    rfl
  rw [BitVec.toNat_setWidth] at hzero
  omega

/-- A preset sets the total of its channel. -/
theorem write_preset {endPoint : BitVec 8} {clusterId : BitVec 16} {attr : WriteRec} {ch : Channel} {value : BitVec 32}
    (h : (MeterEvent.write endPoint clusterId attr).preset = some (ch, value)) (m : Meter) (ch' : Channel) :
    (appZclWriteReqCmd endPoint clusterId [attr] m).1.litersPerPulse = m.litersPerPulse ∧
      (appZclWriteReqCmd endPoint clusterId [attr] m).1.water ch' =
        if ch' = ch then checkCounterOverflow (roundedPreset m.litersPerPulse value) else m.water ch' := by
  unfold MeterEvent.preset at h
  simp only at h
  split at h
  swap
  · cases h
  next hto =>
  obtain ⟨hcluster, hep, htype⟩ := hto
  have hwrite : (appZclWriteReqCmd endPoint clusterId [attr] m).1 = writeMeterAttr attr m attr := by
    rw [appZclWriteReqCmd, if_pos ⟨hcluster, hep⟩]
    rfl
  rw [hwrite, writeMeterAttr]
  split at h
  · next hattr =>
    obtain ⟨rfl, rfl⟩ := Prod.mk.inj (Option.some.inj h)
    rw [if_pos ⟨hattr, htype⟩]
    cases ch' <;> exact ⟨rfl, rfl⟩
  · next hnot =>
    split at h
    · next hattr =>
      obtain ⟨rfl, rfl⟩ := Prod.mk.inj (Option.some.inj h)
      rw [if_neg fun hhot => hnot hhot.1, if_pos ⟨hattr, htype⟩]
      cases ch' <;> exact ⟨rfl, rfl⟩
    · cases h

/-- Any other write leaves the totals alone. -/
theorem write_other {endPoint : BitVec 8} {clusterId : BitVec 16} {attr : WriteRec}
    (h : (MeterEvent.write endPoint clusterId attr).preset = none) (m : Meter) :
    (∀ ch, (appZclWriteReqCmd endPoint clusterId [attr] m).1.water ch = m.water ch) ∧
      (m.litersPerPulse ≠ 0 → (appZclWriteReqCmd endPoint clusterId [attr] m).1.litersPerPulse ≠ 0) := by
  by_cases hto : clusterId = zclClusterSeMetering ∧ endPoint = watermeterEndpoint3
  swap
  · have hwrite : (appZclWriteReqCmd endPoint clusterId [attr] m).1 = m := by rw [appZclWriteReqCmd, if_neg hto]
    rw [hwrite]
    exact ⟨fun _ => rfl, id⟩
  have hwrite : (appZclWriteReqCmd endPoint clusterId [attr] m).1 = writeMeterAttr attr m attr := by
    rw [appZclWriteReqCmd, if_pos hto]
    rfl
  have hnot : ∀ attrID, attrID = zclAttridCustomHotWaterPreset ∨ attrID = zclAttridCustomColdWaterPreset →
      ¬ (attr.attrID = attrID ∧ attr.dataType = zclDataTypeUint32) := by
    rintro attrID hid ⟨hattr, htype⟩
    rw [MeterEvent.preset, if_pos ⟨hto.1, hto.2, htype⟩, hattr] at h
    rcases hid with rfl | rfl
    · rw [if_pos rfl] at h
      cases h
    · rw [if_neg (by decide), if_pos rfl] at h
      cases h
  rw [hwrite, writeMeterAttr, if_neg (hnot _ (Or.inl rfl)), if_neg (hnot _ (Or.inr rfl))]
  split
  · exact ⟨fun ch => by cases ch <;> rfl, fun _ => presetStep_litersPerPulse _ _⟩
  · exact ⟨fun _ => rfl, id⟩

/-! ### Runs -/

theorem exact_lt (h : s.Exact) (ch : Channel) : (s.meter.water ch).toNat < countersOverflow.toNat := by
  rw [h.1 ch, toNat_countersOverflow]
  exact Nat.mod_lt _ (by omega)

theorem exactStep_pass (h : s.Exact) (pins : Pins) : s.ExactStep (.pass pins) := by
  refine ⟨fun ch => (toNat_addPulses _ _ (exact_lt h ch)).1, fun ch => ?_, ?_⟩
  · obtain ⟨-, -, hwater⟩ := countersHandler_channel pins s.meter ch
    show ((countersHandler pins s.meter).1.water ch).toNat =
      (s.told ch + s.meter.litersPerPulse.toNat * pulses s.meter pins ch) % _
    rw [hwater]
    split
    · rw [(toNat_addPulses _ _ (exact_lt h ch)).2, h.1 ch, Nat.mod_add_mod]
      rfl
    · next hnone =>
      have hzero : pulses s.meter pins ch = 0 := congrArg BitVec.toNat (not_not.mp hnone)
      rw [hzero, Nat.mul_zero, Nat.add_zero]
      exact h.1 ch
  · obtain ⟨-, hstep, -⟩ := countersHandler_channel pins s.meter .hot
    show (countersHandler pins s.meter).1.litersPerPulse ≠ 0
    rw [hstep]
    exact h.2

/-- A write that is no preset keeps the totals exact. -/
theorem exactStep_other (h : s.Exact) {endPoint : BitVec 8} {clusterId : BitVec 16} {attr : WriteRec}
    (hpreset : (MeterEvent.write endPoint clusterId attr).preset = none) :
    s.ExactStep (.write endPoint clusterId attr) ∧ s.PresetBelow (.write endPoint clusterId attr) := by
  obtain ⟨hwater, hstep⟩ := write_other hpreset s.meter
  refine ⟨⟨?_, fun ch => ?_, hstep h.2⟩, ?_⟩
  · intro ch value hbad
    rw [hpreset] at hbad
    cases hbad
  · show ((appZclWriteReqCmd endPoint clusterId [attr] s.meter).1.water ch).toNat = (s.step _).told ch % _
    simp only [hwater, Tally.step, hpreset]
    exact h.1 ch
  · intro ch value hbad
    rw [hpreset] at hbad
    cases hbad

/-- A preset keeps the totals exact exactly when it is not to twice the rollover. -/
theorem exactStep_preset (h : s.Exact) {endPoint : BitVec 8} {clusterId : BitVec 16} {attr : WriteRec} {ch : Channel}
    {value : BitVec 32} (hpreset : (MeterEvent.write endPoint clusterId attr).preset = some (ch, value)) :
    s.ExactStep (.write endPoint clusterId attr) ↔ s.PresetBelow (.write endPoint clusterId attr) := by
  have hrounded := toNat_roundedPreset s.meter.litersPerPulse value
  have htold : ∀ ch', (s.step (.write endPoint clusterId attr)).told ch' =
      if ch' = ch then value.toNat / s.meter.litersPerPulse.toNat * s.meter.litersPerPulse.toNat
      else s.told ch' := by
    intro ch'
    simp only [Tally.step, hpreset]
  have hbelow : s.PresetBelow (.write endPoint clusterId attr) ↔
      (roundedPreset s.meter.litersPerPulse value).toNat < 2 * countersOverflow.toNat := by
    rw [hrounded]
    constructor
    · exact fun hall => hall ch value hpreset
    · intro hlt ch' value' hpreset'
      obtain ⟨rfl, rfl⟩ := Prod.mk.inj (Option.some.inj (hpreset.symm.trans hpreset'))
      exact hlt
  rw [hbelow, ← checkCounterOverflow_exact]
  constructor
  · rintro ⟨-, hexact, -⟩
    have hch := hexact ch
    rw [htold, if_pos rfl, ← hrounded] at hch
    have hset := (write_preset hpreset s.meter ch).2
    rw [if_pos rfl] at hset
    rw [← hset]
    exact hch
  · intro hexact
    refine ⟨?_, fun ch' => ?_, ?_⟩
    · intro ch' value' hpreset'
      have hle := Nat.div_mul_le_self value'.toNat s.meter.litersPerPulse.toNat
      have hlt := value'.isLt
      omega
    · rw [htold]
      show ((appZclWriteReqCmd endPoint clusterId [attr] s.meter).1.water ch').toNat = _
      rw [(write_preset hpreset s.meter ch').2]
      split
      · rw [← hrounded]
        exact hexact
      · exact h.1 ch'
    · show (appZclWriteReqCmd endPoint clusterId [attr] s.meter).1.litersPerPulse ≠ 0
      rw [(write_preset hpreset s.meter ch).1]
      exact h.2

theorem exactStep_write (h : s.Exact) (endPoint : BitVec 8) (clusterId : BitVec 16) (attr : WriteRec) :
    s.ExactStep (.write endPoint clusterId attr) ↔ s.PresetBelow (.write endPoint clusterId attr) := by
  cases hpreset : (MeterEvent.write endPoint clusterId attr).preset with
  | none =>
    obtain ⟨hexact, hbelow⟩ := exactStep_other h hpreset
    exact iff_of_true hexact hbelow
  | some preset => exact exactStep_preset h hpreset

theorem exactStep_iff (h : s.Exact) (e : MeterEvent) : s.ExactStep e ↔ s.PresetBelow e := by
  cases e with
  | pass pins => exact iff_of_true (exactStep_pass h pins) fun _ _ hpreset => by cases hpreset
  | write endPoint clusterId attr => exact exactStep_write h endPoint clusterId attr

/-- From totals below the rollover, every step of a run is exact and free of wraps exactly when every preset of
the run, rounded down, is below twice the rollover. -/
theorem totals_exact_iff {m : Meter} (hwater : ∀ ch, (m.water ch).toNat < countersOverflow.toNat)
    (hstep : m.litersPerPulse ≠ 0) (events : List MeterEvent) :
    Along Tally.step Tally.ExactStep ⟨m, fun ch => (m.water ch).toNat⟩ events ↔
      Along Tally.step Tally.PresetBelow ⟨m, fun ch => (m.water ch).toNat⟩ events := by
  have hstart : Tally.Exact ⟨m, fun ch => (m.water ch).toNat⟩ :=
    ⟨fun ch => (Nat.mod_eq_of_lt (hwater ch)).symm, hstep⟩
  exact along_iff (fun _ _ _ he => he.2) (fun _ e h => exactStep_iff h e) hstart

/-- The meter of a device with the default configuration and both contacts open. -/
def defaultMeter : Meter :=
  initCounters 0#8 ⟨true, true⟩
    ⟨⟨0#8, 0#8⟩, ⟨0#8, 0#8⟩, { Ram.zero with watermeterConfig := defaultRecord Ram.zero }, ⟨1#48, 1#48, 0#32, 0#32, 10#16⟩⟩

theorem preset_exact : Along Tally.step Tally.ExactStep ⟨defaultMeter, fun ch => (defaultMeter.water ch).toNat⟩
    [.pass ⟨false, true⟩, .write 3#8 0x0702#16 ⟨0xF002#16, 0x21#8, [25#8, 0#8]⟩,
      .write 3#8 0x0702#16 ⟨0xF000#16, 0x23#8, [0x40#8, 0xE2#8, 0x01#8, 0x00#8]⟩] := by
  refine (totals_exact_iff (m := defaultMeter) (fun ch => by cases ch <;> decide) (by decide) _).mpr
    ⟨nofun, nofun, fun ch value h => ?_, trivial⟩
  obtain ⟨-, rfl⟩ := Prod.mk.inj (Option.some.inj h)
  exact lt_of_le_of_lt (Nat.div_mul_le_self _ _) (by decide)

/-- A preset to twice the rollover leaves the total at the rollover. -/
theorem preset_twice_rollover :
    ¬ Along Tally.step Tally.ExactStep ⟨defaultMeter, fun ch => (defaultMeter.water ch).toNat⟩
      [.write 3#8 0x0702#16 ⟨0xF000#16, 0x23#8, [0x00#8, 0xC2#8, 0xEB#8, 0x0B#8]⟩] := by
  rintro ⟨⟨-, hexact, -⟩, -⟩
  exact absurd (hexact .hot) (by decide)

end Watermeter
