import Watermeter.Sleep
import Watermeter.ReportAgain

/-! A device that sleeps between the passes of `app_task` counts, alarms, reports and answers the button as one that
never sleeps. A pass is skipped only when every debounce value is at the end to which its pin moves it and the last
pass has reported what there was, and any change of a pin from the level at which its wake-up was set brings the next
pass. Only the light, which a pass restarts every five seconds, stays as it is in sleep. -/

namespace Watermeter

open Debounce Dozing

variable {gpio joined : Bool} {debounce debounce' : BitVec 8} {input later : PassInput} {p : Polled} {s : AppTask}
  {pinCfg : List PmPinCfg}

/-! ### A handler with nothing to do -/

/-- The debounce value is at the end to which the level of the pin moves it. -/
def Still (gpio : Bool) (debounce : BitVec 8) : Prop := debounce = if gpio then 1#8 else debounceCounter

theorem still_of_poll (h : DebounceInRange debounce) (hpoll : debounce'.toNat = poll 32 (!gpio) debounce.toNat)
    (hend : debounce' = 1#8 ∨ debounce' = debounceCounter) : Still gpio debounce' := by
  have hrange : 1 ≤ debounce.toNat ∧ debounce.toNat ≤ 32 := h
  cases gpio with
  | false =>
      apply hend.resolve_left
      intro hone
      rw [hone] at hpoll
      have hopen := ((poll_eq_one hrange (by decide)).mp hpoll.symm).1
      exact Bool.false_ne_true hopen.symm
  | true =>
      apply hend.resolve_right
      intro htop
      rw [htop] at hpoll
      have hclosed := ((poll_eq_top hrange (by decide)).mp hpoll.symm).1
      exact Bool.false_ne_true hclosed

theorem pollCounter_still {c : WaterCounter} (h : Still gpio c.debounce) : pollCounter gpio c = c := by
  cases gpio with
  | false => exact (if_pos rfl).trans (if_neg (not_not.mpr h))
  | true => exact (if_neg (by decide)).trans (if_neg (not_not.mpr h))

theorem leakChannel_still (attrs : LeakAttrs) (h : Still gpio debounce) :
    leakChannel gpio joined debounce attrs = (debounce, attrs, []) := by
  cases gpio with
  | false => exact (if_pos rfl).trans (if_neg (not_not.mpr h))
  | true => exact (if_neg (by decide)).trans (if_neg (not_not.mpr h))

/-- A pass of the counters on the pins of the last pass, with both values at their ends. -/
theorem countersHandler_quiet {pins : Pins} {m : Meter} (hrange : ∀ ch, (m.counter ch).InRange)
    (hidle : countersIdle (countersHandler pins m).1 = false) :
    countersHandler pins (countersHandler pins m).1 = ((countersHandler pins m).1, [], false) := by
  have hstill : ∀ ch, Still (pins.gpio ch) ((countersHandler pins m).1.counter ch).debounce := fun ch => by
    have hcounter := (countersHandler_channel pins m ch).1
    have hend : ((countersHandler pins m).1.counter ch).debounce = 1#8 ∨
        ((countersHandler pins m).1.counter ch).debounce = debounceCounter := by
      simp only [countersIdle, Bool.or_eq_false_iff, Bool.and_eq_false_iff, ne_eq, decide_not, Bool.not_eq_false',
        decide_eq_true_eq] at hidle
      cases ch with
      | hot => exact hidle.1
      | cold => exact hidle.2
    refine still_of_poll (hrange ch) ?_ hend
    rw [hcounter]
    exact pollCounter_debounce (hrange ch)
  have hnone : ∀ ch, ((countersHandler pins m).1.counter ch).counter = 0#8 := fun ch => by
    rw [(countersHandler_channel pins m ch).1]
  generalize (countersHandler pins m).1 = m' at hstill hnone ⊢
  have hhot : pollCounter pins.hotGpio m'.hotCounter = m'.hotCounter := pollCounter_still (hstill .hot)
  have hcold : pollCounter pins.coldGpio m'.coldCounter = m'.coldCounter := pollCounter_still (hstill .cold)
  have hpolled : m'.polled pins = m' := by rw [Meter.polled, hhot, hcold]
  have htaken : m'.takeHot.takeCold = m' := by
    have htake : m'.takeHot = m' := if_neg (not_not.mpr (hnone .hot))
    rw [htake]
    exact if_neg (not_not.mpr (hnone .cold))
  rw [countersHandler, hpolled, htaken, if_neg]
  rintro (hhot | hcold)
  · exact hhot (hnone .hot)
  · exact hcold (hnone .cold)

theorem waterleakHandler_debounces (input : LeakInput) (l : Leak) :
    (waterleakHandler input l).1.waterleakDebounce1 =
        (leakChannel input.wleak1Gpio input.joined l.waterleakDebounce1 l.attrs).1 ∧
      (waterleakHandler input l).1.waterleakDebounce2 =
        (leakChannel input.wleak2Gpio input.joined l.waterleakDebounce2
          (leakChannel input.wleak1Gpio input.joined l.waterleakDebounce1 l.attrs).2.1).1 := ⟨rfl, rfl⟩

theorem waterleakHandler_quiet {input : LeakInput} {l : Leak} (later : Bool)
    (h1 : DebounceInRange l.waterleakDebounce1) (h2 : DebounceInRange l.waterleakDebounce2)
    (hidle : waterleakIdle (waterleakHandler input l).1 = false) :
    waterleakHandler { input with joined := later } (waterleakHandler input l).1 =
      ((waterleakHandler input l).1, []) := by
  obtain ⟨hnext1, hnext2⟩ := waterleakHandler_debounces input l
  simp only [waterleakIdle, Bool.or_eq_false_iff, Bool.and_eq_false_iff, ne_eq, decide_not, Bool.not_eq_false',
    decide_eq_true_eq] at hidle
  have hstill1 : Still input.wleak1Gpio (waterleakHandler input l).1.waterleakDebounce1 :=
    still_of_poll h1 (by rw [hnext1]; exact (leakChannel_eq h1 _ _ _).1) hidle.1
  have hstill2 : Still input.wleak2Gpio (waterleakHandler input l).1.waterleakDebounce2 :=
    still_of_poll h2 (by rw [hnext2]; exact (leakChannel_eq h2 _ _ _).1) hidle.2
  generalize (waterleakHandler input l).1 = l' at hstill1 hstill2 ⊢
  simp only [waterleakHandler, leakChannel_still _ hstill1, leakChannel_still _ hstill2, List.append_nil]

/-- Up, with no click to wait for: the pin was seen open, and a pass that sees it open again does nothing. -/
theorem buttonHandler_quiet {b : Button} {clockTime : BitVec 32} (later : BitVec 32) (hrange : b.InRange)
    (hidle : buttonIdle (Button.buttonHandler gpio clockTime b).1 = false)
    (hup : (Button.buttonHandler gpio clockTime b).1.debounce.toNat ≠ 16) :
    gpio = true ∧ Button.buttonHandler gpio later (Button.buttonHandler gpio clockTime b).1 =
      ((Button.buttonHandler gpio clockTime b).1, none) := by
  have hpoll : (Button.buttonHandler gpio clockTime b).1.debounce.toNat = poll 16 (!gpio) b.debounce.toNat :=
    Button.buttonHandler_debounce hrange
  simp only [buttonIdle, Bool.or_eq_false_iff, Bool.and_eq_false_iff, ne_eq, decide_not, Bool.not_eq_false',
    decide_eq_true_eq] at hidle
  obtain ⟨⟨hend, hpressed⟩, hcounter⟩ := hidle
  have hone : (Button.buttonHandler gpio clockTime b).1.debounce = 1#8 :=
    hend.resolve_right fun htop => hup (by rw [htop]; rfl)
  have hopen : gpio = true := by
    rw [hone] at hpoll
    simpa using ((poll_eq_one hrange (by decide)).mp hpoll.symm).1
  generalize (Button.buttonHandler gpio clockTime b).1 = b' at hone hpressed hcounter ⊢
  subst hopen
  have hsampled : b'.sampled true later = b' := (if_neg (by decide)).trans (if_neg (not_not.mpr hone))
  refine ⟨rfl, ?_⟩
  rw [Button.buttonHandler, hsampled, Button.classified_up later hpressed, hcounter]
  have hcleared : { b' with counter := 0#6 } = b' := by rw [← hcounter]
  have hfew : ¬ (0#6 = Button.countFactoryReset) := by decide
  rw [if_neg hfew, hcleared, ite_self]

/-! ### The passes -/

theorem Polled.Started.worked (hp : p.Started) (input : PassInput) : (p.worked input).Started := by
  unfold Polled.worked
  cases input.work with
  | none => exact ⟨hp.counter, hp.leak1, hp.leak2, hp.button, hp.released, hp.up⟩
  | some work =>
    refine ⟨fun ch => ?_, hp.leak1, hp.leak2, hp.button, hp.released, hp.up⟩
    cases ch with
    | hot => exact hp.counter .hot
    | cold => exact hp.counter .cold

/-- A pass keeps the debounce values in range, and the button's flags as they go with them. -/
theorem appHandlers_started (input : PassInput) (hp : p.Started) : (appHandlers input p).1.Started := by
  have hpass := Button.buttonHandler_pass (input.sampled .button) p.reporting.clockTime hp.released
  have hdebounce : (Button.buttonHandler (input.sampled .button) p.reporting.clockTime p.button).1.debounce.toNat =
      poll 16 (!input.sampled .button) p.button.debounce.toNat := Button.buttonHandler_debounce hp.button
  refine ⟨fun ch => ?_, leakChannel_inRange hp.leak1 _ _ _, leakChannel_inRange hp.leak2 _ _ _, ?_, hpass.released,
    fun hup htop => ?_⟩
  · have hcounter : (appHandlers input p).1.meter.counter ch =
        { pollCounter (input.pins.gpio ch) (p.meter.counter ch) with counter := 0#8 } :=
      (countersHandler_channel input.pins p.meter ch).1
    rw [hcounter]
    exact pollCounter_inRange (hp.counter ch)
  · have hrange : 1 ≤ poll 16 (!input.sampled .button) p.button.debounce.toNat ∧
        poll 16 (!input.sampled .button) p.button.debounce.toNat ≤ 16 := poll_range hp.button
    rw [← hdebounce] at hrange
    exact hrange
  · have hpressed : (Button.buttonHandler (input.sampled .button) p.reporting.clockTime p.button).1.pressed = false := hup
    have hat : poll 16 (!input.sampled .button) p.button.debounce.toNat = 16 := hdebounce.symm.trans htop
    obtain ⟨hclosed, hvalue | hvalue⟩ := (poll_eq_top hp.button (by decide)).mp hat
    · -- held at the upper end: the button was down before the pass
      have hreach : ¬ Reaches 16 (!input.sampled .button) p.button.debounce.toNat := fun h => by
        have hnext := h.2
        omega
      have hclear : ¬ Clears (!input.sampled .button) p.button.debounce.toNat := fun h => by
        have hlow := h.2
        omega
      rw [hpass.pressed, if_neg hreach, if_neg hclear] at hpressed
      exact hp.up hpressed hvalue
    · rw [hpass.pressed, if_pos ⟨hclosed, hvalue⟩] at hpressed
      exact Bool.false_ne_true hpressed.symm

/-- Without a pulse no attribute of the counters is set. -/
theorem counted_none {pins : Pins} {m : Meter} (h : (countersHandler pins m).2.2 = false) (r : Reporting) :
    r.counted pins m = r := by
  have hnone : ¬ ((m.polled pins).hotCounter.counter ≠ 0 ∨ (m.polled pins).coldCounter.counter ≠ 0) := by
    intro hpulse
    rw [countersHandler, if_pos hpulse] at h
    exact Bool.false_ne_true h.symm
  rw [not_or] at hnone
  simp only [Reporting.counted, if_neg hnone.1, if_neg hnone.2]

theorem appHandlers_nothing
    (hbutton : Button.buttonHandler (input.sampled .button) p.reporting.clockTime p.button = (p.button, none))
    (hmeter : countersHandler input.pins p.meter = (p.meter, [], false))
    (hleak : waterleakHandler (input.leakInput p.reporting.joined) p.leak = (p.leak, [])) :
    appHandlers input p = (p, []) := by
  have hcounted : p.reporting.counted input.pins p.meter = p.reporting := counted_none (by rw [hmeter]) _
  simp only [appHandlers, hbutton, hmeter, hleak, hcounted]
  rfl

/-- The conditions under which a pass ends in sleep. -/
theorem appTaskSleep_asleep (h : (appTaskSleep input p pinCfg).2 = true) :
    input.bdbIdle = true ∧ buttonIdle p.button = false ∧ countersIdle p.meter = false ∧ waterleakIdle p.leak = false ∧
      (appTaskSleep input p pinCfg).1 = appWakeupPinLevelChange input.arming pinCfg := by
  unfold appTaskSleep at h ⊢
  split at h
  · next hidle =>
      rw [if_pos hidle]
      simp only [Bool.and_eq_true, Bool.not_eq_true'] at hidle
      exact ⟨hidle.1, hidle.2.1.1, hidle.2.1.2, hidle.2.2, rfl⟩
  · cases h

/-- Handlers that leave nothing in motion have seen the button up, and do nothing while the pins stay as they are,
whatever the reporting has come to. -/
theorem appHandlers_quiet (later : PassInput) (r : Reporting) (hp : p.Started)
    (hbutton : buttonIdle (appHandlers input p).1.button = false)
    (hcounters : countersIdle (appHandlers input p).1.meter = false)
    (hleak : waterleakIdle (appHandlers input p).1.leak = false) :
    input.sampled .button = true ∧
      appHandlers (input.hold later) { (appHandlers input p).1 with reporting := r } =
        ({ (appHandlers input p).1 with reporting := r }, []) := by
  have hup : (Button.buttonHandler (input.sampled .button) p.reporting.clockTime p.button).1.debounce.toNat ≠ 16 := by
    apply (appHandlers_started input hp).up
    simp only [buttonIdle, Bool.or_eq_false_iff] at hbutton
    exact hbutton.1.2
  obtain ⟨hopen, hquiet⟩ := buttonHandler_quiet r.clockTime hp.button hbutton hup
  have hmeter := countersHandler_quiet hp.counter hcounters
  have hdry := waterleakHandler_quiet r.joined hp.leak1 hp.leak2 hleak
  exact ⟨hopen, appHandlers_nothing hquiet hmeter hdry⟩

/-- The light is none of the modules. -/
theorem appTaskLight_spec (s : AppTask) :
    (appTaskLight s).1.polled = s.polled ∧ (appTaskLight s).2.filter PassCall.shown = [] := by
  unfold appTaskLight
  dsimp only
  split
  · refine ⟨rfl, List.filter_eq_nil_iff.mpr fun call hcall => ?_⟩
    obtain ⟨_, -, rfl⟩ := List.mem_map.mp hcall
    exact Bool.false_ne_true
  · exact ⟨rfl, rfl⟩

/-- The modules after a pass. -/
theorem appTaskPass_polled (input : PassInput) (s : AppTask) :
    (appTaskPass input s).1.polled =
      { (appHandlers input (s.polled.worked input)).1 with
        reporting :=
          if input.bdbIdle then (appHandlers input (s.polled.worked input)).1.reporting.appReportHandler
          else (appHandlers input (s.polled.worked input)).1.reporting } := by
  unfold appTaskPass
  cases input.bdbIdle with
  | false => rfl
  | true =>
    dsimp only
    rw [if_pos rfl, (appTaskLight_spec _).1]
    rfl

theorem shown_handlers (input : PassInput) (p : Polled) : (appHandlers input p).2.filter PassCall.shown = (appHandlers input p).2 := by
  apply List.filter_eq_self.mpr
  intro call hcall
  simp only [appHandlers, List.mem_append, List.mem_map] at hcall
  rcases hcall with ((⟨_, -, rfl⟩ | ⟨_, -, rfl⟩) | hpoll) | ⟨_, -, rfl⟩
  · rfl
  · rfl
  · split at hpoll
    · rw [List.mem_singleton.mp hpoll]
      rfl
    · cases hpoll
  · rfl

/-- What a pass asks for beside the light. -/
theorem appTaskPass_shown (input : PassInput) (s : AppTask) :
    (appTaskPass input s).2.filter PassCall.shown = (appHandlers input (s.polled.worked input)).2 := by
  unfold appTaskPass
  cases input.bdbIdle with
  | false => exact shown_handlers _ _
  | true =>
    dsimp only
    rw [if_pos rfl, List.filter_append, shown_handlers, (appTaskLight_spec _).2, List.append_nil]

theorem appTaskPass_started (input : PassInput) (hs : s.polled.Started) : (appTaskPass input s).1.polled.Started := by
  have hstarted := appHandlers_started input (hs.worked input)
  rw [appTaskPass_polled]
  exact ⟨hstarted.counter, hstarted.leak1, hstarted.leak2, hstarted.button, hstarted.released, hstarted.up⟩

/-- A pass that ends in sleep has seen the button up, and but for the light a second one does nothing while the pins
stay as they are. -/
theorem appTaskPass_quiet (later : PassInput) (hs : s.polled.Started)
    (hasleep : (appTaskSleep input (appTaskPass input s).1.polled pinCfg).2 = true) :
    input.sampled .button = true ∧
      (appTaskPass (input.hold later) (appTaskPass input s).1).1.view = (appTaskPass input s).1.view ∧
      (appTaskPass (input.hold later) (appTaskPass input s).1).2.filter PassCall.shown = [] := by
  obtain ⟨hidle, hbutton, hcounters, hleak, -⟩ := appTaskSleep_asleep hasleep
  set p := s.polled.worked input with hp
  have hpolled := appTaskPass_polled input s
  rw [← hp, if_pos hidle] at hpolled
  rw [hpolled] at hbutton hcounters hleak
  -- the second pass first sets the time
  set r : Reporting := { (appHandlers input p).1.reporting.appReportHandler with now := later.now } with hr
  have hworked : (appTaskPass input s).1.polled.worked (input.hold later) =
      { (appHandlers input p).1 with reporting := r } := by
    rw [hpolled]
    rfl
  obtain ⟨hopen, hnothing⟩ := appHandlers_quiet later r (hs.worked input) hbutton hcounters hleak
  have hagain : r.appReportHandler = r := Reporting.appReportHandler_again _ _
  refine ⟨hopen, ?_, ?_⟩
  · rw [AppTask.view, AppTask.view, appTaskPass_polled, hworked, hnothing, hpolled, hagain, ite_self]
  · rw [appTaskPass_shown, hworked, hnothing]

theorem appTask_settles : appTask.Settles PassInput.hold (fun s => s.polled.Started) AppTask.view PassCall.shown where
  hold_hold _ _ _ := rfl
  kept input _ hs := appTaskPass_started input hs
  congr input s s' hview := by
    have hworked : s.polled.worked input = s'.polled.worked input := by
      have hsame : s.view.worked input = s'.view.worked input := by rw [hview]
      exact hsame
    have hcalls := appTaskPass_shown input s
    rw [hworked, ← appTaskPass_shown input s'] at hcalls
    refine ⟨?_, hcalls⟩
    show AppTask.view (appTaskPass input s).1 = AppTask.view (appTaskPass input s').1
    rw [AppTask.view, AppTask.view, appTaskPass_polled, appTaskPass_polled, hworked]
  quiet _ later _ _ hs hasleep := (appTaskPass_quiet later hs hasleep).2

/-! ### The wake-up pins -/

/-- The table with a level of its own for each contact. -/
def Armed (pinCfg : List PmPinCfg) : Prop :=
  ∃ hot cold wleak1 wleak2, pinCfg =
    [⟨.hotGpio, hot⟩, ⟨.coldGpio, cold⟩, ⟨.wleak1Gpio, wleak1⟩, ⟨.wleak2Gpio, wleak2⟩, ⟨.button, .low⟩]

theorem levelChange_eq (read : Levels) (cfg : PmPinCfg) :
    cfg.levelChange read = ⟨cfg.wakeupPin, if read cfg.wakeupPin then .low else .high⟩ := by
  obtain ⟨pin, level⟩ := cfg
  cases level <;> cases hread : read pin <;> simp [PmPinCfg.levelChange, hread]

theorem Armed.levelChange (read : Levels) (h : Armed pinCfg) :
    appWakeupPinLevelChange read pinCfg =
      ([.hotGpio, .coldGpio, .wleak1Gpio, .wleak2Gpio].map fun pin => ⟨pin, if read pin then .low else .high⟩) ++
        [⟨.button, .low⟩] := by
  obtain ⟨hot, cold, wleak1, wleak2, rfl⟩ := h
  simp only [appWakeupPinLevelChange, drvPmWakeupPinLevelChange, List.take_succ_cons, List.take_zero, List.drop_succ_cons,
    List.drop_zero, List.map_cons, List.map_nil, levelChange_eq]

theorem Armed.appTaskSleep (input : PassInput) (p : Polled) (h : Armed pinCfg) :
    Armed (appTaskSleep input p pinCfg).1 := by
  unfold Watermeter.appTaskSleep
  split
  · rw [h.levelChange]
    exact ⟨_, _, _, _, rfl⟩
  · exact h

/-- A contact that does not wake the device is at the level it had when its wake-up was set, and the button is up. -/
theorem Armed.not_wakes {read : Levels} (h : Armed pinCfg)
    (hwakes : appTask.wakes later (appWakeupPinLevelChange read pinCfg) = false) (pin : BoardPin) :
    later.sampled pin = if pin = .button then true else read pin := by
  simp only [appTask, h.levelChange, PmPinCfg.wakes, List.map_cons, List.map_nil, List.cons_append, List.nil_append,
    List.any_cons, List.any_nil, Bool.or_false, Bool.or_eq_false_iff] at hwakes
  obtain ⟨-, hhot, hcold, hleak1, hleak2, hbutton⟩ := hwakes
  cases pin with
  | hotGpio => cases hread : read .hotGpio <;> simp_all
  | coldGpio => cases hread : read .coldGpio <;> simp_all
  | wleak1Gpio => cases hread : read .wleak1Gpio <;> simp_all
  | wleak2Gpio => cases hread : read .wleak2Gpio <;> simp_all
  | button => simpa using hbutton

/-! ### Whole runs -/

/-- The device after its start, awake, with the wake-up pins as they are at power-up. -/
def awakened (s : AppTask) : Dozer AppTask (List PmPinCfg) := ⟨s, pinPmCfg, false⟩

/-- Every pass that ends in sleep sets the wake-up of each contact on the level that it has sampled. -/
def ArmsAsSampled (inputs : Nat → PassInput) (s : AppTask) : Prop :=
  ∀ t, ¬ appTask.Skips (inputs t) (appTask.doze inputs (awakened s) t) →
    (appTask.doze inputs (awakened s) (t + 1)).asleep = true →
      ∀ pin, pin ≠ .button → (inputs t).arming pin = (inputs t).sampled pin

theorem doze_armed (inputs : Nat → PassInput) (s : AppTask) (t : Nat) :
    Armed (appTask.doze inputs (awakened s) t).armed := by
  induction t with
  | zero => exact ⟨_, _, _, _, rfl⟩
  | succ t ih =>
      rw [Machine.doze_succ]
      by_cases hskip : appTask.Skips (inputs t) (appTask.doze inputs (awakened s) t)
      · rw [Machine.step_skips hskip]
        exact ih
      · rw [Machine.step_takes hskip]
        exact ih.appTaskSleep _ _

theorem doze_view (inputs : Nat → PassInput) (hs : s.polled.Started) (t : Nat) :
    (appTask.doze inputs (awakened s) t).state.view =
        (appTask.awake (appTask.seen PassInput.hold inputs (awakened s)) s t).view ∧
      (appTask.step (inputs t) (appTask.doze inputs (awakened s) t)).2.filter PassCall.shown =
        (appTaskPass (appTask.seen PassInput.hold inputs (awakened s) t)
          (appTask.awake (appTask.seen PassInput.hold inputs (awakened s)) s t)).2.filter PassCall.shown ∧
      (appTask.doze inputs (awakened s) t).state.polled.Started := by
  obtain ⟨hview, hout, hstarted, -⟩ := appTask_settles.run_seen (d := awakened s) inputs hs rfl t
  exact ⟨hview, hout, hstarted⟩

theorem seen_inputs {inputs : Nat → PassInput} (hs : s.polled.Started) (hsame : ArmsAsSampled inputs s) (t : Nat) :
    appTask.seen PassInput.hold inputs (awakened s) t = inputs t := by
  refine (Machine.seen_eq (d := awakened s) appTask_settles.hold_hold rfl (fun u hskip hasleep later hwakes => ?_) t).1
  have hpins := hsame u hskip hasleep
  have harmed := doze_armed inputs s u
  have hstarted := (doze_view inputs hs u).2.2
  rw [Machine.doze_succ, Machine.step_takes hskip] at hasleep hwakes
  have hup := (appTaskPass_quiet later hstarted hasleep).1
  have hcfg : (appTask.arm (inputs u) (appTask.pass (inputs u) (appTask.doze inputs (awakened s) u).state).1
      (appTask.doze inputs (awakened s) u).armed).1 = _ := (appTaskSleep_asleep hasleep).2.2.2.2
  rw [hcfg] at hwakes
  have hwork : later.work = none := by
    simp only [appTask, Bool.or_eq_false_iff, Option.isSome_eq_false_iff, Option.isNone_iff_eq_none] at hwakes
    exact hwakes.1
  have hlater : (inputs u).sampled = later.sampled := by
    funext pin
    rw [harmed.not_wakes hwakes pin]
    split
    · next hbutton => rw [hbutton, hup]
    · next hcontact => exact (hpins pin hcontact).symm
  rw [PassInput.hold, hlater, ← hwork]

/-- The variables after the start of the MCU. -/
def AppTask.start (regDeepSleep : BitVec 8) (pins : Pins) (m : Meter) (ep4SwitchActions ep5SwitchActions : BitVec 8)
    (clockTime : BitVec 32) (r : Reporting) : AppTask where
  polled :=
    ⟨initCounters regDeepSleep pins m, leakStart ep4SwitchActions ep5SwitchActions, Button.initButton clockTime,
      r.appReportingInit⟩
  lastLight := 0

theorem AppTask.start_started (regDeepSleep : BitVec 8) (pins : Pins) (m : Meter)
    (ep4SwitchActions ep5SwitchActions : BitVec 8) (clockTime : BitVec 32) (r : Reporting) :
    (AppTask.start regDeepSleep pins m ep4SwitchActions ep5SwitchActions clockTime r).polled.Started where
  counter ch := by cases ch <;> exact initCounter_inRange _ _ _
  leak1 := ⟨Nat.le_refl 1, Nat.le_of_ble_eq_true rfl⟩
  leak2 := ⟨Nat.le_refl 1, Nat.le_of_ble_eq_true rfl⟩
  button := ⟨Nat.le_refl 1, Nat.le_of_ble_eq_true rfl⟩
  released := rfl
  up _ h := Nat.noConfusion (Nat.succ.inj h)

/-- From the start of the MCU on, but for the light, the device does in every instant what one does that never sleeps
and is shown, for each instant that is slept through, the pins that the last pass sampled. -/
theorem sleep_holds_pins (inputs : Nat → PassInput) (regDeepSleep : BitVec 8) (pins : Pins) (m : Meter)
    (ep4SwitchActions ep5SwitchActions : BitVec 8) (clockTime : BitVec 32) (r : Reporting) (t : Nat) :
    let s := AppTask.start regDeepSleep pins m ep4SwitchActions ep5SwitchActions clockTime r
    let seen := appTask.seen PassInput.hold inputs (awakened s)
    (appTask.doze inputs (awakened s) t).state.view = (appTask.awake seen s t).view ∧
      (appTask.step (inputs t) (appTask.doze inputs (awakened s) t)).2.filter PassCall.shown =
        (appTaskPass (seen t) (appTask.awake seen s t)).2.filter PassCall.shown := by
  intro s seen
  obtain ⟨hview, hout, -⟩ := doze_view inputs (s := s) (AppTask.start_started ..) t
  exact ⟨hview, hout⟩

/-- Sleep is not to be seen in what the device does, but for its light: while the contacts do not move between the
sampling and the arming in one pass, it has in every instant the variables of a device that runs every pass, the
reports sent among them, and the two ask the same of the store and of the stack. -/
theorem sleep_transparent (inputs : Nat → PassInput) (regDeepSleep : BitVec 8) (pins : Pins) (m : Meter)
    (ep4SwitchActions ep5SwitchActions : BitVec 8) (clockTime : BitVec 32) (r : Reporting)
    (hsame : ArmsAsSampled inputs
      (AppTask.start regDeepSleep pins m ep4SwitchActions ep5SwitchActions clockTime r)) (t : Nat) :
    let s := AppTask.start regDeepSleep pins m ep4SwitchActions ep5SwitchActions clockTime r
    (appTask.doze inputs (awakened s) t).state.view = (appTask.awake inputs s t).view ∧
      (appTask.step (inputs t) (appTask.doze inputs (awakened s) t)).2.filter PassCall.shown =
        (appTaskPass (inputs t) (appTask.awake inputs s t)).2.filter PassCall.shown := by
  intro s
  have hstarted : s.polled.Started := AppTask.start_started ..
  obtain ⟨hview, hout, -⟩ := doze_view inputs hstarted t
  have hseen : appTask.seen PassInput.hold inputs (awakened s) = inputs := funext (seen_inputs hstarted hsame)
  rw [hseen] at hview hout
  exact ⟨hview, hout⟩

/-- The hot water is drawn in the fourth instant. -/
def nightPass (t : Nat) : PassInput :=
  { sampled := fun pin => decide (pin ≠ .hotGpio) || decide (t < 3)
    arming := fun pin => decide (pin ≠ .hotGpio) || decide (t < 3)
    now := t
    work := none
    bdbIdle := true
    lowPower := true }

/-- The total of the hot water is reported. -/
def nightReporting : Reporting where
  now := 0
  joined := true
  timerStopReportEvt := false
  bindingTbl := fun _ _ => true
  attrTable := fun _ _ _ => some ⟨zclDataTypeUint48, fun _ => 0⟩
  reportNum := 1#8
  reportCfgInfo := fun i =>
    ⟨0, zclClusterSeMetering, zclAttridCurrentSummationDeliverd, 0#16, 300#16, watermeterEndpoint1, fun _ => 0,
      fun _ => 0, i = 0⟩
  appReporting := fun _ => ⟨none, none, none, 0, none⟩
  atNull := ⟨0, 0, 0, 0, 0, 0, fun _ => 0, fun _ => 0, false⟩
  sent := []

def nightStart : AppTask :=
  let ram := { Ram.zero with watermeterConfig := { Ram.zero.watermeterConfig with litersPerPulse := 10#8 } }
  AppTask.start 0#8 ⟨true, true⟩ ⟨⟨0#8, 0#8⟩, ⟨0#8, 0#8⟩, ram, ⟨0#48, 0#48, 0#32, 0#32, 10#16⟩⟩ 0#8 0#8 0#32
    nightReporting

theorem sleep_transparent_night :
    (appTask.doze nightPass (awakened nightStart) 2).asleep = true ∧
      (appTask.doze nightPass (awakened nightStart) 35).state.view = (appTask.awake nightPass nightStart 35).view :=
  ⟨by decide, (sleep_transparent nightPass _ _ _ _ _ _ _ (fun _ _ _ _ _ => rfl) 35).1⟩

end Watermeter
