import Watermeter.DownloadRuns
import Watermeter.SettingsDurable
import Watermeter.StepMixed

/-! A reset to factory new and the meter readings. The readings are in the ring, which the reset leaves alone, but the
NV item that says so is erased with the rest of `NV_MODULE_APP`, and `init_config` reads the item first: it clears
the ring and starts from the first record. -/

namespace Watermeter

open NorFlash RingLog Transition

variable {b : Bank}

/-- The pass after the hot contact has woken a device adds a step to the hot water. -/
theorem App.wake_reading {s : App} (hhot : s.hotCounter = ⟨1#8, 32#8⟩) (hcold : s.coldCounter = ⟨0#8, 1#8⟩)
    (hfirst : s.ram.watermeterConfig.totals = defaultTotals) (supply : Supply) :
    (s.step (supply, .countersHandler wake.pins)).ram.watermeterConfig.totals = ⟨10#32, 0#32, 10#8⟩ := by
  have hpulse := App.wake_pulse hhot
  have hpolled : s.meter.polled wake.pins = ⟨⟨1#8, 32#8⟩, ⟨0#8, 1#8⟩, s.ram, s.attrs⟩ := by
    show Meter.mk (pollCounter false s.hotCounter) (pollCounter true s.coldCounter) s.ram s.attrs = _
    rw [hhot, hcold]
    rfl
  unfold App.Pulse at hpulse
  have hsaved : (s.step (supply, .countersHandler wake.pins)).ram.watermeterConfig.totals =
      (s.meter.polled wake.pins).takeHot.takeCold.ram.watermeterConfig.totals := by
    show (s.handled supply (.countersHandler wake.pins)).ram.watermeterConfig.totals = _
    simp only [App.handled, countersHandler, App.withMeter]
    rw [if_pos hpulse]
    exact writeConfig_totals _
  obtain ⟨htotal, hother, hstep⟩ := Totals.mk.inj hfirst
  rw [hsaved, hpolled]
  show Totals.mk (addPulses s.ram.watermeterConfig.counterHotWater s.ram.watermeterConfig.litersPerPulse 1#8)
    s.ram.watermeterConfig.counterColdWater s.ram.watermeterConfig.litersPerPulse = _
  rw [htotal, hother, hstep]
  decide

/-- A pass with a pulse goes on to the next page of the ring. -/
theorem App.pulse_held {s : App} {p : Nat} (h : RingHeld b p s.toOtaDevice) {supply : Supply} (hs : Powered supply)
    {pins : Pins} (hpulse : s.Pulse pins) :
    RingHeld b (succSlot 832 p) (s.step (supply, .countersHandler pins)).toOtaDevice := by
  have hset := h.step_set supply (s.meter.polled pins).takeHot.takeCold.ram.watermeterConfig.totals
  rw [s.step_trace, App.trace_pulse hpulse]
  exact hset.step_save hs

namespace OtaSystem

variable {s : OtaSystem}

/-- After `delayedFactoryResetCb` the device has the totals and the step that were current before it. -/
def KeepsReadings (s : OtaSystem) (e : Surroundings × SystemEvent) : Prop :=
  e.2 = .factoryReset → s.ram.watermeterConfig.newOta = 0 →
    (s.step e).ram.watermeterConfig.totals = s.ram.watermeterConfig.totals

/-- The device is reset to factory new only while it has counted nothing and has the default step. -/
def NothingRead (s : OtaSystem) (e : Surroundings × SystemEvent) : Prop :=
  e.2 = .factoryReset → s.ram.watermeterConfig.newOta = 0 → s.ram.watermeterConfig.totals = defaultTotals

/-- Without the NV item the device is one that has never been started. -/
theorem neverStarted_before (h : Sited b s.toOtaDevice) : NeverStarted b (s.before .factoryReset).toOtaDevice where
  boot := h.boot
  item := nofun

theorem step_factoryReset (s : OtaSystem) (w : Surroundings) :
    (s.step (w, .factoryReset)).toOtaDevice = (s.before .factoryReset).toOtaDevice.step (w.supply, .reboot) :=
  s.step_store (w, .factoryReset)

/-- Whatever the ring holds, and at any supply, the device starts from the first record. -/
theorem factoryReset_config (h : Sited b s.toOtaDevice) (w : Surroundings) :
    (s.step (w, .factoryReset)).ram.watermeterConfig = firstRecord b := by
  have hfirst := (neverStarted_before h).first_config w.supply
  rw [← step_factoryReset] at hfirst
  exact hfirst

/-- The ring is gone as well: no later start finds what it held. -/
theorem factoryReset_ring (h : Sited b s.toOtaDevice) {w : Surroundings} (hs : Powered w.supply) :
    RingWhole b 0 (firstRecord b) (s.step (w, .factoryReset)).toOtaDevice := by
  rw [step_factoryReset]
  exact ((neverStarted_before h).first hs).2

/-- In any state between events the readings are kept if there are none, and only then. -/
theorem keepsReadings_iff (h : ∃ b, Sited b s.toOtaDevice) (e : Surroundings × SystemEvent) :
    s.KeepsReadings e ↔ s.NothingRead e := by
  obtain ⟨w, e⟩ := e
  obtain ⟨b, h⟩ := h
  refine forall_congr' fun hreset => forall_congr' fun _ => ?_
  obtain rfl : e = .factoryReset := hreset
  rw [factoryReset_config h w]
  exact eq_comm

theorem sited_next (h : ∃ b, Sited b s.toOtaDevice) (e : Surroundings × SystemEvent) :
    ∃ b, Sited b (s.step e).toOtaDevice := by
  obtain ⟨w, e⟩ := e
  obtain ⟨b, h⟩ := h
  apply sited_step
  cases e with
  | factoryReset => exact ⟨b, { h with }⟩
  | _ => exact ⟨b, h⟩

/-- In every run from a start on, whatever the flash holds and at any supply: each reset to factory new keeps the
totals and the step exactly when each of them finds those of a new device. -/
theorem readings_kept_iff (h : Startable b s.nvm) (w : Surroundings) (events : List (Surroundings × SystemEvent)) :
    Along OtaSystem.step KeepsReadings s ((w, .reset) :: events) ↔
      Along OtaSystem.step NothingRead s ((w, .reset) :: events) := by
  have hstart : ∃ b, Sited b (s.step (w, .reset)).toOtaDevice := by
    rw [step_store]
    exact ⟨b, (h.first w.supply).2⟩
  have hiff : ∀ (s : OtaSystem) (e : Surroundings × SystemEvent), (∃ b, Sited b s.toOtaDevice) →
      (s.KeepsReadings e ↔ s.NothingRead e) := fun s e h => keepsReadings_iff h e
  rw [along_cons, along_cons]
  exact and_congr (iff_of_true nofun nofun) (along_iff (fun _ e h _ => sited_next h e) hiff hstart)

/-- A new device that is reset before it has counted. -/
theorem new_device_kept : Along OtaSystem.step KeepsReadings emptySystem
    [(⟨fun _ => 3000, 3000, openStart⟩, .reset), (⟨fun _ => 3000, 3000, openStart⟩, .factoryReset)] := by
  apply (readings_kept_iff emptySystem_startable ⟨fun _ => 3000, 3000, openStart⟩ _).mpr
  refine ⟨nofun, fun _ _ => ?_, trivial⟩
  exact (firstStart (powered_const (by decide)) openStart).2

theorem step_reset_app (s : OtaSystem) (w : Surroundings) :
    (s.step (w, .reset)).toApp = s.toApp.step (w.supply, .userAppInit w.up) := rfl

theorem step_countersHandler_app (s : OtaSystem) (w : Surroundings) (pins : Pins) :
    (s.step (w, .countersHandler pins)).toApp = s.toApp.step (w.supply, .countersHandler pins) := rfl

/-- Good batteries, and a contact that wakes the device. -/
def woken : Surroundings := ⟨fun _ => 3000, 3000, wake⟩

/-- A pulse is counted and saved. -/
theorem reading_saved :
    ((emptySystem.step (woken, .reset)).step (woken, .countersHandler wake.pins)).ram.watermeterConfig.totals =
        ⟨10#32, 0#32, 10#8⟩ ∧
      RingHeld .low 1 ((emptySystem.step (woken, .reset)).step (woken, .countersHandler wake.pins)).toOtaDevice := by
  have hs : Powered woken.supply := powered_const (by decide)
  obtain ⟨hwhole, hfirst⟩ := firstStart hs wake
  obtain ⟨hhot, hcold⟩ := emptyApp.wake_counters woken.supply
  rw [step_countersHandler_app, step_reset_app]
  exact ⟨App.wake_reading hhot hcold hfirst woken.supply, App.pulse_held hwhole.toRingHeld hs (App.wake_pulse hhot)⟩

/-- A reading that has been saved is lost with the next reset to factory new. -/
theorem readings_lost : ¬ ∀ (b : Bank) (s : OtaSystem), Startable b s.nvm →
    ∀ (w : Surroundings) (events : List (Surroundings × SystemEvent)),
      Along OtaSystem.step KeepsReadings s ((w, .reset) :: events) := by
  intro hkept
  have hrun := hkept .low emptySystem emptySystem_startable woken
    [(woken, .countersHandler wake.pins), (woken, .factoryReset)]
  have hsited : ∃ b, Sited b (emptySystem.step (woken, .reset)).toOtaDevice :=
    ⟨.low, (emptySystem_startable.first woken.supply).2⟩
  obtain ⟨hread, hheld⟩ := reading_saved
  have hnothing := (keepsReadings_iff (sited_next hsited _) _).mp hrun.2.2.1
  have hdefault := hnothing rfl hheld.mode
  exact absurd (hread.symm.trans hdefault) (by decide)

end OtaSystem

end Watermeter
