import Watermeter.SettingsDurable

/-! The totals as the network sees them. Every place that changes a total copies it to the attribute of its endpoint,
but for one: a failed update puts the record of the NV item back into RAM. -/

namespace Watermeter

open NorFlash RingLog Transition

/-- `CurrentSummationDelivered` of the endpoint of a channel. -/
def Metering.waterCounter (attrs : Metering) : Channel → BitVec 48
  | .hot => attrs.hotWaterCounter
  | .cold => attrs.coldWaterCounter

def Meter.Mirrored (m : Meter) : Prop := ∀ ch, m.attrs.waterCounter ch = (m.water ch).setWidth 48

namespace App

/-- The attributes of both endpoints are the totals. -/
def Mirrored (s : App) : Prop := s.meter.Mirrored

/-- The message ends an update that does not succeed, and the MCU goes on. -/
def FailsUpdate (s : App) : AppEvent → Prop
  | .otaProcessMsg adcData .otaEvtStart _ _ =>
    s.ram.watermeterConfig.newOta ≠ 0 ∧ adcData < (maxVbatMv - 100 - minVbatMv) / 2 + minVbatMv
  | .otaProcessMsg _ .otaEvtComplete status _ => s.ram.watermeterConfig.newOta ≠ 0 ∧ status ≠ zclStaSuccess
  | _ => False

/-- When an update fails, the record of the NV item has the totals of both channels that are in RAM. -/
def ItemCurrent (s : App) (e : Supply × AppEvent) : Prop :=
  s.FailsUpdate e.2 → ∃ c, s.nvm.userCfg = some c ∧ c.Valid ∧ c.newOta ≠ 0 ∧
    ∀ ch, c.water ch = s.ram.watermeterConfig.water ch

end App

variable {s : App} {m : Meter} {supply : Supply}

/-! ### The meter -/

theorem mirrored_take (h : m.Mirrored) : m.takeHot.takeCold.Mirrored := by
  have hhot : m.takeHot.Mirrored := by
    unfold Meter.takeHot
    split
    · intro ch
      cases ch with
      | hot => rfl
      | cold => exact h .cold
    · exact h
  unfold Meter.takeCold
  split
  · intro ch
    cases ch with
    | hot => exact hhot .hot
    | cold => rfl
  · exact hhot

theorem mirrored_counters (h : m.Mirrored) (pins : Pins) : (countersHandler pins m).1.Mirrored := by
  have hpolled : (m.polled pins).Mirrored := h
  have htaken := mirrored_take hpolled
  simp only [countersHandler]
  split
  · intro ch
    apply (htaken ch).trans
    exact congrArg (BitVec.setWidth 48) (writeConfig_water _ ch).1.symm
  · exact htaken

theorem mirrored_record (h : m.Mirrored) (first attr : WriteRec) : (writeMeterAttr first m attr).Mirrored := by
  unfold writeMeterAttr
  split
  · intro ch
    cases ch with
    | hot => rfl
    | cold => exact h .cold
  split
  · intro ch
    cases ch with
    | hot => exact h .hot
    | cold => rfl
  split
  · exact fun ch => by cases ch <;> [exact h .hot; exact h .cold]
  · exact h

theorem mirrored_write (h : m.Mirrored) (endPoint : BitVec 8) (clusterId : BitVec 16) (attrList : List WriteRec) :
    (appZclWriteReqCmd endPoint clusterId attrList m).1.Mirrored := by
  have hfold : ∀ (first : WriteRec) (attrs : List WriteRec) (m : Meter), m.Mirrored →
      (attrs.foldl (writeMeterAttr first) m).Mirrored := by
    intro first attrs
    induction attrs with
    | nil => exact fun m hm => hm
    | cons attr attrs ih => exact fun m hm => ih _ (mirrored_record hm first attr)
  unfold appZclWriteReqCmd
  split
  · cases attrList with
    | nil => exact h
    | cons first attrList => exact hfold first (first :: attrList) m h
  · exact h

/-! ### The steps -/

/-- After a start the attributes are set. -/
theorem mirrored_started (up : PowerUp) (s : App) : (s.started up).Mirrored := fun ch => by cases ch <;> rfl

/-- The attributes are left alone, and so are the totals. -/
theorem mirrored_same {s' : App} (h : s.Mirrored) (hattrs : s'.attrs = s.attrs)
    (hwater : ∀ ch, s'.ram.watermeterConfig.water ch = s.ram.watermeterConfig.water ch) : s'.Mirrored := by
  intro ch
  show s'.attrs.waterCounter ch = (s'.ram.watermeterConfig.water ch).setWidth 48
  rw [hattrs, hwater]
  exact h ch

theorem water_of_totals {c c' : Config} (h : c.totals = c'.totals) (ch : Channel) : c.water ch = c'.water ch := by
  obtain ⟨hhot, hcold, -⟩ := Totals.mk.inj h
  cases ch with
  | hot => exact hhot
  | cold => exact hcold

/-- A failed update gives the totals of the NV item, whatever the supply. -/
theorem failed_totals {d : OtaDevice} {c : Config} (hcfg : d.nvm.userCfg = some c) (hc : c.Valid) (ho : c.newOta ≠ 0)
    (hmode : d.ram.watermeterConfig.newOta ≠ 0) (supply : Supply) :
    (d.step (supply, .abort)).ram.watermeterConfig.totals = c.totals := by
  have hops : d.storeOps supply .abort = (d.nvm, initConfig d.nvm d.ram) := if_pos hmode
  rw [OtaDevice.step_eq hops]
  show (initConfig d.nvm d.ram).1.watermeterConfig.totals = _
  rw [initConfig_restore hcfg hc ho]
  exact writeConfig_totals _

/-- The end of an update that does not succeed leaves the totals alone where the NV item has them. -/
theorem abort_water {d : OtaDevice} (h : d.ram.watermeterConfig.newOta ≠ 0 → ∃ c, d.nvm.userCfg = some c ∧ c.Valid ∧
    c.newOta ≠ 0 ∧ ∀ ch, c.water ch = d.ram.watermeterConfig.water ch) (supply : Supply) (ch : Channel) :
    (d.step (supply, .abort)).ram.watermeterConfig.water ch = d.ram.watermeterConfig.water ch := by
  by_cases hmode : d.ram.watermeterConfig.newOta ≠ 0
  · obtain ⟨c, hcfg, hc, ho, hwater⟩ := h hmode
    rw [← hwater ch]
    exact water_of_totals (failed_totals hcfg hc ho hmode supply) ch
  · have hloads : d.loads supply .abort = false := decide_eq_false hmode
    exact water_of_totals (totals_kept hloads (by simp)) ch

theorem App.Mirrored.step (h : s.Mirrored) {e : Supply × AppEvent} (he : s.ItemCurrent e) : (s.step e).Mirrored := by
  obtain ⟨supply, e⟩ := e
  cases e with
  | userAppInit up => exact mirrored_started up _
  | countersHandler pins => exact mirrored_counters h pins
  | zclWriteReqCmd endPoint clusterId attrList => exact mirrored_write h endPoint clusterId attrList
  | imageAccepted imageSize => exact mirrored_same h rfl (water_of_totals (totals_kept rfl (by simp)))
  | imageBlock offset data => exact mirrored_same h rfl (water_of_totals (totals_kept rfl (by simp)))
  | otaProcessMsg adcData evt status up =>
      cases hreset : s.resets supply (.otaProcessMsg adcData evt status up) with
      | true =>
          rw [App.step, if_pos hreset]
          exact mirrored_started up _
      | false =>
          rw [App.step, if_neg (by rw [hreset]; decide)]
          refine mirrored_same h rfl fun ch => ?_
          show (appOtaProcessMsgHandler supply adcData evt status s.toOtaDevice).ram.watermeterConfig.water ch = _
          cases evt with
          | otaEvtStart =>
              by_cases hlow : adcData < (maxVbatMv - 100 - minVbatMv) / 2 + minVbatMv
              · simp only [appOtaProcessMsgHandler_eq, if_pos hlow]
                exact abort_water (fun hmode => he ⟨hmode, hlow⟩) supply ch
              simp only [appOtaProcessMsgHandler_eq, if_neg hlow]
              split
              · have hloads : s.toOtaDevice.loads supply .start = false := rfl
                exact water_of_totals (totals_kept hloads (by simp)) ch
              · rfl
          | otaEvtComplete =>
              by_cases hstatus : status = zclStaSuccess
              · have hloads : s.toOtaDevice.loads supply .success = false := by
                  rw [App.resets, hstatus] at hreset
                  exact hreset
                simp only [appOtaProcessMsgHandler_eq, if_pos hstatus]
                exact water_of_totals (totals_kept hloads (by simp)) ch
              · simp only [appOtaProcessMsgHandler_eq, if_neg hstatus]
                exact abort_water (fun hmode => he ⟨hmode, hstatus⟩) supply ch

section Update

variable {b : Bank} {p : Nat} {c : Config}

theorem updateStart_step (s : App) (supply : Supply) (up : PowerUp) :
    (s.step (supply, .otaProcessMsg 3000 .otaEvtStart zclStaSuccess up)).toOtaDevice = s.toOtaDevice.step (supply, .start) := by
  rw [App.step_trace, trace_start _ (by decide)]
  rfl

end Update

end Watermeter
