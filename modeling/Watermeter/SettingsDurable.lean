import Watermeter.UpdateSurvival

/-! Settings over restarts. A write command changes the totals and the step in RAM; they reach the flash with the
next pulse, or the NV item with the next update, and `init_config` replaces those in RAM before that. -/

namespace Watermeter

open NorFlash RingLog Transition

variable {b : Bank} {p : Nat} {c : Config} {supply : Supply} {t : Totals}

/-- The step calls `init_config`. -/
def OtaDevice.loads (supply : Supply) (s : OtaDevice) : OtaEvent → Bool
  | .reboot => true
  | .abort => s.ram.watermeterConfig.newOta ≠ 0
  | .success => s.resets supply .success
  | _ => false

/-- What is in RAM was passed to `write_config` before `init_config` replaces it. -/
def SavedFirst (s : OtaDevice) (e : Supply × OtaEvent) : Prop :=
  s.loads e.1 e.2 = true → s.ram.watermeterConfig.totals = s.passed

def Meter.withTotals (m : Meter) (t : Totals) : Meter :=
  { m with ram := { m.ram with watermeterConfig := m.ram.watermeterConfig.setTotals t } }

/-- The application, and the totals as the last command to the settings left them, with the pulses since (a history
variable). -/
structure Owing extends App where
  due : Totals

namespace Owing

def step (s : Owing) (e : Supply × AppEvent) : Owing where
  toApp := s.toApp.step e
  due := match e.2 with
    | .countersHandler pins => (countersHandler pins (s.meter.withTotals s.due)).1.ram.watermeterConfig.totals
    | .zclWriteReqCmd endPoint clusterId _ =>
      if clusterId = zclClusterSeMetering ∧ endPoint = watermeterEndpoint3 then
        (s.toApp.step e).ram.watermeterConfig.totals
      else s.due
    | _ => s.due

/-- If the step starts the MCU, it starts with the totals that are due. -/
def Durable (s : Owing) (e : Supply × AppEvent) : Prop :=
  s.resets e.1 e.2 = true → (s.step e).ram.watermeterConfig.totals = s.due

/-- The supply is good where the store writes, a power cycle outside of an update finds the ring readable, and
nothing is replaced before it is saved. -/
def Saved (s : Owing) (e : Supply × AppEvent) : Prop :=
  App.Each (fun d e => Survivable d e ∧ SavedFirst d e) s.toApp e

end Owing

/-! ### The store -/

section Store

variable {s : OtaDevice} {e : OtaEvent}

/-- Without `init_config` the totals are those that are set. -/
theorem totals_kept (h : s.loads supply e = false) (he : ∀ t, e ≠ .set t) :
    (s.step (supply, e)).ram.watermeterConfig.totals = s.ram.watermeterConfig.totals := by
  cases e with
  | set t => exact absurd rfl (he t)
  | save => exact writeConfig_totals s.ram
  | reboot => cases h
  | accept imageSize =>
      simp only [OtaDevice.step, OtaDevice.storeOps]
      split <;> rfl
  | start => exact writeConfig_totals (otaStarted s.ram)
  | block offset data =>
      simp only [OtaDevice.step, OtaDevice.storeOps]
      split <;> rfl
  | abort =>
      have hring : ¬ s.ram.watermeterConfig.newOta ≠ 0 := of_decide_eq_false h
      simp only [OtaDevice.step, OtaDevice.storeOps, if_neg hring]
  | success =>
      have hstay : s.resets supply .success = false := h
      have hops : s.storeOps supply .success = (s.switched supply, s.ram, []) := by
        rw [OtaDevice.storeOps, hstay]
        rfl
      rw [OtaDevice.step_eq hops]

/-- `init_config` gives the totals last passed to `write_config`. -/
theorem InUse.loaded (h : InUse s) (he : Survivable s (supply, e)) (hloads : s.loads supply e = true) :
    (s.step (supply, e)).ram.watermeterConfig.totals = s.passed := by
  have hrestores := (h.survives he).2
  cases e with
  | reboot => exact hrestores rfl
  | success => exact hrestores hloads
  | abort =>
      have hmode : s.ram.watermeterConfig.newOta ≠ 0 := of_decide_eq_true hloads
      rcases h with ⟨b, p, c, huse⟩ | ⟨b, c, huse⟩
      · exact absurd huse.mode hmode
      · rw [huse.abort_eq, startUp_totals huse.boot huse.item huse.valid huse.ota, huse.held]
  | _ => cases hloads

theorem InUse.totals_step (h : InUse s) (he : Survivable s (supply, e)) (hsaved : SavedFirst s (supply, e))
    (hset : ∀ t, e ≠ .set t) :
    (s.step (supply, e)).ram.watermeterConfig.totals = s.ram.watermeterConfig.totals := by
  cases hloads : s.loads supply e with
  | false => exact totals_kept hloads hset
  | true => rw [h.loaded he hloads, ← hsaved hloads]

end Store

/-! ### The application -/

/-- A write elsewhere leaves the totals alone. -/
theorem appZclWriteReqCmd_elsewhere {endPoint : BitVec 8} {clusterId : BitVec 16} {attrList : List WriteRec}
    (h : ¬ (clusterId = zclClusterSeMetering ∧ endPoint = watermeterEndpoint3)) (m : Meter) :
    (appZclWriteReqCmd endPoint clusterId attrList m).1 = m := by
  rw [appZclWriteReqCmd, if_neg h]

namespace Owing

variable {s : Owing} {e : Supply × AppEvent}

/-- Between steps: what is due is in RAM. -/
structure Sound (s : Owing) : Prop where
  use : InUse s.toOtaDevice
  due : s.ram.watermeterConfig.totals = s.due

theorem Sound.inUse (h : Sound s) (he : s.Saved e) : InUse (s.step e).toOtaDevice := by
  have hstep : ∀ (d : OtaDevice) (e : Supply × OtaEvent), InUse d → Survivable d e ∧ SavedFirst d e → InUse (d.step e) :=
    fun d e hd he => (hd.survives he.1).1
  show InUse (s.toApp.step e).toOtaDevice
  rw [App.step_trace s.toApp e.1 e.2]
  exact Along.invariant hstep h.use he

/-- The events of the store but for a setting of the totals leave them as they are. -/
theorem Sound.totals (h : Sound s) (he : s.Saved e) {event : OtaEvent} (htrace : s.trace e.2 = [event])
    (hset : ∀ t, event ≠ .set t) : (s.toApp.step e).ram.watermeterConfig.totals = s.due := by
  have hrun := App.step_trace s.toApp e.1 e.2
  rw [Saved, App.Each, htrace] at he
  rw [htrace] at hrun
  have hram := congrArg (fun d : OtaDevice => d.ram.watermeterConfig.totals) hrun
  exact hram.trans ((h.use.totals_step he.1.1 he.1.2 hset).trans h.due)

theorem Sound.step (h : Sound s) (he : s.Saved e) : Sound (s.step e) ∧ s.Durable e := by
  have hdue : (s.step e).ram.watermeterConfig.totals = (s.step e).due ∧
      (s.resets e.1 e.2 = true → (s.step e).due = s.due) := by
    obtain ⟨supply, e⟩ := e
    cases e with
    | userAppInit up => exact ⟨h.totals he rfl nofun, fun _ => rfl⟩
    | countersHandler pins =>
        refine ⟨?_, nofun⟩
        show (countersHandler pins s.meter).1.ram.watermeterConfig.totals =
          (countersHandler pins (s.meter.withTotals s.due)).1.ram.watermeterConfig.totals
        rw [← h.due]
        rfl
    | zclWriteReqCmd endPoint clusterId attrList =>
        refine ⟨?_, nofun⟩
        by_cases hto : clusterId = zclClusterSeMetering ∧ endPoint = watermeterEndpoint3
        · simp only [Owing.step, if_pos hto]
        · simp only [Owing.step, if_neg hto]
          show (appZclWriteReqCmd endPoint clusterId attrList s.meter).1.ram.watermeterConfig.totals = _
          rw [appZclWriteReqCmd_elsewhere hto]
          exact h.due
    | imageAccepted imageSize => exact ⟨h.totals he rfl nofun, nofun⟩
    | imageBlock offset data => exact ⟨h.totals he rfl nofun, nofun⟩
    | otaProcessMsg adcData evt status up =>
        refine ⟨?_, fun _ => rfl⟩
        have htrace : s.trace (.otaProcessMsg adcData evt status up) = [] ∨
            ∃ event, s.trace (.otaProcessMsg adcData evt status up) = [event] ∧ ∀ t, event ≠ .set t := by
          cases evt <;> simp only [App.trace] <;> split_ifs <;> simp
        rcases htrace with hnone | ⟨event, hone, hset⟩
        · have hram := congrArg (fun d : OtaDevice => d.ram.watermeterConfig.totals)
            (App.step_trace s.toApp supply (.otaProcessMsg adcData evt status up))
          rw [hnone] at hram
          exact hram.trans h.due
        · exact h.totals he hone hset
  exact ⟨⟨h.inUse he, hdue.1⟩, fun hreset => hdue.1.trans (hdue.2 hreset)⟩

/-- From the first start on: every start of the MCU gives the settings as the last command left them and the pulses
since, as long as they are saved before `init_config` replaces them. -/
theorem settings_durable {b : Bank} {s : App} (hfirst : NeverStarted b s.toOtaDevice) {supply : Supply}
    (hs : Powered supply) (up : PowerUp) {events : List (Supply × AppEvent)}
    (hrun : Along Owing.step Saved
      ⟨s.step (supply, .userAppInit up), (s.step (supply, .userAppInit up)).ram.watermeterConfig.totals⟩ events) :
    Along Owing.step Durable
      ⟨s.step (supply, .userAppInit up), (s.step (supply, .userAppInit up)).ram.watermeterConfig.totals⟩ events := by
  have hwhole := (hfirst.first hs).2
  rw [← s.first_trace supply up] at hwhole
  exact hrun.promote (fun _ _ h he => (Sound.step h he).1) (fun _ _ h he => (Sound.step h he).2)
    ⟨Or.inl ⟨b, 0, _, hwhole.toRingUse⟩, rfl⟩

end Owing

/-! ### A preset, saved and not saved -/

/-- A write of 1000 to the preset of the hot water. -/
def presetRec : WriteRec := ⟨zclAttridCustomHotWaterPreset, zclDataTypeUint32, [0xE8#8, 0x03#8, 0x00#8, 0x00#8]⟩

def presetWrite : AppEvent := .zclWriteReqCmd watermeterEndpoint3 zclClusterSeMetering [presetRec]

theorem presetWrite_totals {m : Meter} (h : m.ram.watermeterConfig.totals = defaultTotals) :
    (appZclWriteReqCmd watermeterEndpoint3 zclClusterSeMetering [presetRec] m).1.ram.watermeterConfig.totals =
      ⟨1000#32, 0#32, 10#8⟩ := by
  obtain ⟨-, hcold, hstep⟩ := Totals.mk.inj h
  show Totals.mk (checkCounterOverflow (roundedPreset m.ram.watermeterConfig.litersPerPulse presetRec.buildU32))
    m.ram.watermeterConfig.counterColdWater m.ram.watermeterConfig.litersPerPulse = _
  rw [hcold, hstep]
  decide

/-- The first start, with nothing due but the defaults. -/
theorem firstStart (hs : Powered supply) (up : PowerUp) :
    RingWhole .low 0 (firstRecord .low) (emptyApp.step (supply, .userAppInit up)).toOtaDevice ∧
      (emptyApp.step (supply, .userAppInit up)).ram.watermeterConfig.totals = defaultTotals := by
  have hconfig := neverStarted_empty.first_config supply
  exact ⟨(neverStarted_empty.first hs).2, congrArg Config.totals hconfig⟩

/-- A start of an update saves. -/
theorem OtaDevice.start_saves {s : OtaDevice} (hd : s.ram.defaultConfig = false) (supply : Supply) :
    (s.step (supply, .start)).ram.watermeterConfig.totals = (s.step (supply, .start)).passed := by
  have hops : s.storeOps supply .start = (s.nvm, _) :=
    congrArg (Prod.mk s.nvm) (OtaDevice.writeConfig_started hd)
  rw [OtaDevice.step_eq hops]
  rfl

theorem saved_of_stays {s : OtaDevice} {e : OtaEvent} (hs : Powered supply) (he : s.loads supply e = false)
    (hreboot : e ≠ .reboot) : Survivable s (supply, e) ∧ SavedFirst s (supply, e) :=
  ⟨survivable_of_powered hs hreboot, fun hloads => absurd (he.symm.trans hloads) (by decide)⟩

/-- A power cycle in an update finds the settings saved that were there at its start. -/
theorem RingHeld.reboot_saved {d : OtaDevice} (h : RingHeld b p d) (hs : Powered supply) :
    Survivable (d.step (supply, .start)) (supply, .reboot) ∧ SavedFirst (d.step (supply, .start)) (supply, .reboot) := by
  obtain ⟨c, -, huse⟩ := h.step_start supply
  exact ⟨⟨fun _ => hs, fun _ hring => absurd hring huse.mode⟩, fun _ => OtaDevice.start_saves h.written supply⟩

/-- The command is a setting of the totals to the store. -/
theorem presetWrite_whole {s : App} (h : RingWhole b p c s.toOtaDevice) (supply : Supply) :
    RingWhole b p c (s.step (supply, presetWrite)).toOtaDevice := by
  rw [App.step_trace]
  exact { h.toRingUse.step_set supply _ with chain := h.chain }

/-- A preset that an update saves before the MCU restarts. -/
theorem updated_preset_durable : Along Owing.step Owing.Durable
    ⟨emptyApp.step (fun _ => 3000, .userAppInit ⟨0#8, ⟨true, true⟩⟩),
      (emptyApp.step (fun _ => 3000, .userAppInit ⟨0#8, ⟨true, true⟩⟩)).ram.watermeterConfig.totals⟩
    [(fun _ => 3000, presetWrite), (fun _ => 3000, .otaProcessMsg 3000 .otaEvtStart zclStaSuccess ⟨0#8, ⟨true, true⟩⟩),
      (fun _ => 3000, .userAppInit ⟨0#8, ⟨true, true⟩⟩)] := by
  have hs : Powered fun _ => 3000 := powered_const (by decide)
  refine Owing.settings_durable neverStarted_empty hs ⟨0#8, ⟨true, true⟩⟩ ⟨?_, ?_, ?_, trivial⟩
  · exact ⟨saved_of_stays hs rfl (by simp), trivial⟩
  · rw [Owing.Saved, App.Each, trace_start _ (by decide)]
    exact ⟨saved_of_stays hs rfl (by simp), trivial⟩
  · have hwhole := presetWrite_whole (firstStart hs ⟨0#8, ⟨true, true⟩⟩).1 fun _ => 3000
    have hsaved := hwhole.toRingHeld.reboot_saved hs
    refine ⟨?_, trivial⟩
    show Survivable (App.step _ _).toOtaDevice _ ∧ SavedFirst (App.step _ _).toOtaDevice _
    rw [App.step_trace, trace_start _ (by decide)]
    exact hsaved

/-- The next start of a ring that is found gives what was saved. -/
theorem App.found_totals {s : App} (h : RingWhole b 0 c s.toOtaDevice) (supply : Supply) (up : PowerUp) :
    (s.step (supply, .userAppInit up)).ram.watermeterConfig.totals = c.totals := by
  have hstop := h.tail.ends rfl c
  have hreboot := h.step_reboot_found supply h.chain hstop (by omega)
  have htotals := (h.found supply h.chain hstop (by omega)).2
  have hdevice := congrArg (fun d : OtaDevice => d.ram.watermeterConfig.totals) ((s.first_trace supply up).trans hreboot)
  rw [h.held]
  exact hdevice.trans htotals

theorem preset_lost {s : App} (h : RingWhole b 0 (firstRecord b) s.toOtaDevice)
    (hfirst : s.ram.watermeterConfig.totals = defaultTotals) (supply : Supply) (up : PowerUp) :
    ¬ Owing.Durable (Owing.step ⟨s, t⟩ (supply, presetWrite)) (supply, .userAppInit up) := by
  intro hdurable
  have hfound := App.found_totals (presetWrite_whole h supply) supply up
  have hdue : (s.step (supply, presetWrite)).ram.watermeterConfig.totals = ⟨1000#32, 0#32, 10#8⟩ := presetWrite_totals hfirst
  have hlast : ((s.step (supply, presetWrite)).step (supply, .userAppInit up)).ram.watermeterConfig.totals =
    (s.step (supply, presetWrite)).ram.watermeterConfig.totals := hdurable rfl
  rw [hfound, hdue] at hlast
  exact absurd (congrArg Totals.counterHotWater hlast) (by cases b <;> decide)

/-- A command to the settings does not save them: the preset is gone with the next start. -/
theorem preset_not_durable : ¬ ∀ (b : Bank) (s : App) (supply : Supply) (up : PowerUp) (events : List (Supply × AppEvent)),
    NeverStarted b s.toOtaDevice → Powered supply → (∀ e ∈ events, Powered e.1) →
      Along Owing.step Owing.Durable
        ⟨s.step (supply, .userAppInit up), (s.step (supply, .userAppInit up)).ram.watermeterConfig.totals⟩ events := by
  intro h
  have hs : Powered fun _ => 3000 := powered_const (by decide)
  have hall := h .low emptyApp (fun _ => 3000) ⟨0#8, ⟨true, true⟩⟩
    [(fun _ => 3000, presetWrite), (fun _ => 3000, .userAppInit ⟨0#8, ⟨true, true⟩⟩)] neverStarted_empty hs (by simp [hs])
  obtain ⟨hwhole, hfirst⟩ := firstStart hs ⟨0#8, ⟨true, true⟩⟩
  exact preset_lost hwhole hfirst _ _ hall.2.1

end Watermeter
