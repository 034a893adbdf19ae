import Watermeter.Blinker
import Watermeter.TimerHandles
import Watermeter.TimerPeriods

/-! The LED blinks: `app_led.c` on the timer of the application moves as a blinker does, and leaves the LED where it
found it. -/

namespace Watermeter

open NorFlash Transition TimerPool

/-- The blinks of a count. A count of 0 is decremented before it is compared. -/
def blinks (times : BitVec 8) : Nat := if times = 0 then 256 else times.toNat

theorem blinks_of_ne {times : BitVec 8} (hne : times ≠ 0) : blinks times = times.toNat := if_neg hne

private theorem toNat_pos_of_ne {times : BitVec 8} (hne : times ≠ 0) : 1 ≤ times.toNat := by bv_omega

private theorem toNat_dec {times : BitVec 8} (hne : times ≠ 0) : (times - 1).toNat = times.toNat - 1 := by bv_omega

theorem one_le_blinks (times : BitVec 8) : 1 ≤ blinks times := by
  by_cases hne : times = 0
  · subst hne; decide
  · rw [blinks_of_ne hne]
    exact toNat_pos_of_ne hne

/-- The count is at its end in `zclLightTimerCb`. -/
theorem blinks_le_one_iff (times : BitVec 8) : blinks times ≤ 1 ↔ times - 1 ≤ 0 := by
  by_cases hne : times = 0
  · subst hne; decide
  · rw [blinks_of_ne hne, BitVec.le_def, toNat_dec hne]
    change times.toNat ≤ 1 ↔ times.toNat - 1 ≤ 0
    omega

theorem blinks_sub_one {times : BitVec 8} (hnext : ¬ blinks times ≤ 1) : blinks (times - 1) = blinks times - 1 := by
  by_cases hne : times = 0
  · subst hne; decide
  · have hdec : times - 1 ≠ 0 := by
      intro hzero
      exact hnext ((blinks_le_one_iff times).mpr (by rw [hzero]; exact BitVec.le_refl _))
    rw [blinks_of_ne hne, blinks_of_ne hdec, toNat_dec hne]

namespace Node

variable {n : Node} {s : Fin timerEventNum} {h : Handle}

def ledPending (n : Node) : Bool := (n.timers.handle .timerLedEvt).isSome

def identifyPending (n : Node) : Bool := (n.timers.handle .identifyTimerEvt).isSome

/-- The LED as a blinker that rests at `oriSta`. -/
def blinker (n : Node) : Blinker where
  away := n.light.led != n.light.oriSta
  left := if n.ledPending then blinks n.light.times else 0
  pending := n.ledPending

/-- The timer list comes to the event of the handle, if one is pending. -/
def fire (h : Handle) (firing : Firing) (n : Node) : Node :=
  match n.timers.handle h with
  | none => n
  | some s => n.executeCB s firing

/-- The pool holds the battery timer and at most the two of the LED and of the identify time. While the LED has a
timer it shows `sta`, and `oriSta` otherwise. -/
structure Lit (n : Node) : Prop where
  kept : Kept n
  confined : Confined {0} {.timerLedEvt, .identifyTimerEvt} n.timers
  shows : n.ledPending = true → n.light.led = n.light.sta
  rests : n.ledPending = false → n.light.led = n.light.oriSta

theorem lit_started (boot : Boot) (app : App) : Lit (started boot app) where
  kept := kept_started boot app
  confined := by
    intro s hs
    refine .inl (Finset.mem_singleton.mpr ?_)
    by_contra hne
    exact hs (Function.update_of_ne hne _ _)
  shows := fun _ => rfl
  rests := fun _ => rfl

theorem Lit.room (hn : Lit n) (hh : h = .timerLedEvt ∨ h = .identifyTimerEvt) (hnull : n.timers.handle h = none) :
    n.timers.freeGet.isSome = true := by
  refine hn.confined.freeGet ?_ hnull (by decide)
  rcases hh with rfl | rfl <;> decide

/-! ### `light_blink_start` and `light_blink_stop` -/

theorem handle_of_idle (hidle : n.ledPending = false) : n.timers.handle .timerLedEvt = none :=
  Option.not_isSome_iff_eq_none.mp (Bool.eq_false_iff.mp hidle)

variable (times : BitVec 8) (ledOnTime ledOffTime : BitVec 16)

theorem lightBlinkStart_pending (hpending : n.ledPending = true) :
    n.lightBlinkStart times ledOnTime ledOffTime = { n with light := { n.light with times := times } } := by
  have hset : ¬ (n.timers.handle .timerLedEvt).isNone = true := by
    rw [Option.isNone_iff_eq_none, ← Option.not_isSome_iff_eq_none, not_not]
    exact hpending
  rw [lightBlinkStart, if_neg hset]

theorem lightBlinkStart_idle (hidle : n.ledPending = false) :
    n.lightBlinkStart times ledOnTime ledOffTime =
      { n with
        light := ⟨!n.light.oriSta, n.light.oriSta, !n.light.oriSta, times, ledOnTime, ledOffTime⟩
        timers := n.timers.schedule .timerLedEvt
          ((if n.light.oriSta then ledOffTime else ledOnTime).setWidth 32) } := by
  rw [lightBlinkStart, if_pos (Option.isNone_iff_eq_none.mpr (handle_of_idle hidle))]

theorem lightBlinkStop_pending (hpending : n.ledPending = true) :
    n.lightBlinkStop =
      { n with
        timers := n.timers.stop .timerLedEvt
        light := { n.light with times := 0, led := n.light.oriSta } } := by
  have hset : (n.timers.handle .timerLedEvt).isSome = true := hpending
  rw [lightBlinkStop, Timers.stop, if_pos hset, if_pos hset]

theorem lightBlinkStop_idle (hidle : n.ledPending = false) : n.lightBlinkStop = n := by
  rw [lightBlinkStop, if_neg (by rw [handle_of_idle hidle]; exact Bool.false_ne_true)]

theorem lightBlinkStart_times (n : Node) : (n.lightBlinkStart times ledOnTime ledOffTime).light.times = times := by
  unfold lightBlinkStart
  dsimp only
  split_ifs <;> rfl

theorem lightBlinkStart_oriSta (n : Node) :
    (n.lightBlinkStart times ledOnTime ledOffTime).light.oriSta = n.light.oriSta := by
  unfold lightBlinkStart
  dsimp only
  split_ifs <;> rfl

theorem lightBlinkStop_oriSta (n : Node) : n.lightBlinkStop.light.oriSta = n.light.oriSta := by
  unfold lightBlinkStop
  split_ifs <;> rfl

theorem Lit.ledPending_start (hn : Lit n) : (n.lightBlinkStart times ledOnTime ledOffTime).ledPending = true := by
  cases hpending : n.ledPending with
  | true =>
      rw [lightBlinkStart_pending _ _ _ hpending]
      exact hpending
  | false =>
      obtain ⟨s, hs⟩ := Option.isSome_iff_exists.mp (hn.room (.inl rfl) (handle_of_idle hpending))
      rw [lightBlinkStart_idle _ _ _ hpending, ledPending, schedule_of hs]
      simp [Timers.setHandle]

theorem Lit.ledPending_stop (hn : Lit n) : n.lightBlinkStop.ledPending = false := by
  rw [ledPending, lightBlinkStop_timers, (hn.kept.inOrder.stop (outside_none _ _)).2]
  rfl

theorem Lit.lightBlinkStart (hn : Lit n) : Lit (n.lightBlinkStart times ledOnTime ledOffTime) := by
  have hkept := kept_lightBlinkStart hn.kept times ledOnTime ledOffTime
  have hgoes := hn.ledPending_start times ledOnTime ledOffTime
  have hrests : (n.lightBlinkStart times ledOnTime ledOffTime).ledPending = false →
      (n.lightBlinkStart times ledOnTime ledOffTime).light.led =
        (n.lightBlinkStart times ledOnTime ledOffTime).light.oriSta :=
    fun hidle => absurd (hidle.symm.trans hgoes) Bool.false_ne_true
  cases hpending : n.ledPending with
  | true =>
      refine ⟨hkept, ?_, ?_, hrests⟩
      · rw [lightBlinkStart_pending _ _ _ hpending]
        exact hn.confined
      · rw [lightBlinkStart_pending _ _ _ hpending]
        exact hn.shows
  | false =>
      refine ⟨hkept, ?_, ?_, hrests⟩
      · rw [lightBlinkStart_idle _ _ _ hpending]
        exact hn.confined.schedule (by decide) (handle_of_idle hpending) _
      · rw [lightBlinkStart_idle _ _ _ hpending]
        exact fun _ => rfl

theorem Lit.lightBlinkStop (hn : Lit n) : Lit n.lightBlinkStop := by
  cases hpending : n.ledPending with
  | true =>
      refine ⟨kept_lightBlinkStop hn.kept, ?_, fun h => ?_, ?_⟩
      · rw [lightBlinkStop_timers]
        exact hn.confined.stop hn.kept.inOrder _
      · exact absurd (hn.ledPending_stop.symm.trans h) Bool.false_ne_true
      · rw [lightBlinkStop_pending hpending]
        exact fun _ => rfl
  | false => rwa [lightBlinkStop_idle hpending]

theorem Lit.blinker_start (hn : Lit n) :
    (n.lightBlinkStart times ledOnTime ledOffTime).blinker = n.blinker.start (blinks times) := by
  have hgoes := hn.ledPending_start times ledOnTime ledOffTime
  rw [blinker, hgoes]
  cases hpending : n.ledPending with
  | true =>
      rw [lightBlinkStart_pending _ _ _ hpending]
      simp [blinker, Blinker.start, hpending]
  | false =>
      rw [lightBlinkStart_idle _ _ _ hpending]
      simp [blinker, Blinker.start, hpending]

theorem Lit.blinker_stop (hn : Lit n) : n.lightBlinkStop.blinker = n.blinker.stop := by
  cases hpending : n.ledPending with
  | true =>
      rw [blinker, hn.ledPending_stop, lightBlinkStop_pending hpending]
      simp [blinker, Blinker.stop, Blinker.rest, hpending]
  | false =>
      rw [lightBlinkStop_idle hpending]
      simp [blinker, Blinker.stop, hpending]

/-! ### Firings -/

theorem fire_of_null {firing : Firing} (hs : n.timers.handle h = none) : n.fire h firing = n := by rw [fire, hs]

theorem kept_fire (hn : Kept n) (h : Handle) (firing : Firing) : Kept (n.fire h firing) := by
  unfold fire
  split
  · exact hn
  · exact kept_executeCB hn _ firing

/-- The MCU goes on after the callback. -/
theorem fire_of (hn : Kept n) (hs : n.timers.handle h = some s) (hgoes : h ≠ .timerNoJoinedEvt) (firing : Firing) :
    n.fire h firing =
      let r := callback firing.stackBusy h { n with timers := n.timers.enter s }
      { r.2 with timers := r.2.timers.leave s r.1 } := by
  obtain ⟨e, he, hcallback⟩ := hn.inOrder.coherent.used hs
  have hrestarts : n.restarts firing (.inl h) = false := by
    cases h with
    | timerNoJoinedEvt => exact absurd rfl hgoes
    | _ => rfl
  rw [fire, hs]
  simp only [executeCB, he, hcallback, hrestarts, Bool.false_eq_true, if_false]

theorem zclLightTimerCb_cases (n : Node) :
    (n.light.sta ≠ n.light.oriSta ∧ n.zclLightTimerCb = n.lightToggle) ∨
    (n.light.sta = n.light.oriSta ∧ n.light.times - 1 ≤ 0 ∧
      n.zclLightTimerCb = (-1, { n with light := { n.light with times := n.light.times - 1 } }.forget .timerLedEvt)) ∨
    (n.light.sta = n.light.oriSta ∧ ¬ n.light.times - 1 ≤ 0 ∧
      n.zclLightTimerCb = { n with light := { n.light with times := n.light.times - 1 } }.lightToggle) := by
  by_cases hback : n.light.sta = n.light.oriSta
  · rw [zclLightTimerCb, if_pos hback]
    by_cases hlast : n.light.times - 1 ≤ 0
    · exact .inr (.inl ⟨hback, hlast, if_pos hlast⟩)
    · exact .inr (.inr ⟨hback, hlast, if_neg hlast⟩)
  · exact .inl ⟨hback, if_neg hback⟩

theorem lightToggle_nonneg (n : Node) : ¬ n.lightToggle.1 < 0 := not_lt.mpr (Int.natCast_nonneg _)

/-- The callback reads and writes the variables of the LED, and ends by nulling its handle. -/
theorem zclLightTimerCb_of (T : Timers timerEventNum Handle Task) (n : Node) :
    { n with timers := T }.zclLightTimerCb =
      (n.zclLightTimerCb.1, { n with
        light := n.zclLightTimerCb.2.light
        timers := if n.zclLightTimerCb.1 < 0 then T.forget .timerLedEvt else T }) := by
  obtain ⟨hback, hcb⟩ | ⟨hback, hlast, hcb⟩ | ⟨hback, hlast, hcb⟩ := n.zclLightTimerCb_cases
  · rw [hcb, if_neg (lightToggle_nonneg _)]
    exact if_neg hback
  · rw [hcb, if_pos (show (-1 : Int) < 0 by decide)]
    exact (if_pos hback).trans (if_pos hlast)
  · rw [hcb, if_neg (lightToggle_nonneg _)]
    exact (if_pos hback).trans (if_neg hlast)

theorem fireLed_of (hn : Kept n) (hs : n.timers.handle .timerLedEvt = some s) (firing : Firing) :
    n.fire .timerLedEvt firing =
      { n with
        light := n.zclLightTimerCb.2.light
        timers := n.timers.serve .timerLedEvt s n.zclLightTimerCb.1 } := by
  rw [fire_of hn hs Handle.noConfusion]
  simp only [callback, zclLightTimerCb_of, Timers.serve]

theorem Lit.ledPending_fire (hn : Lit n) (hpending : n.ledPending = true) (firing : Firing) :
    (n.fire .timerLedEvt firing).ledPending = !decide (n.zclLightTimerCb.1 < 0) := by
  obtain ⟨s, hs⟩ := Option.isSome_iff_exists.mp hpending
  rw [ledPending, fireLed_of hn.kept hs, hn.kept.inOrder.coherent.serve_handle hs]
  split_ifs with hneg <;> simp [hneg]

theorem fireLed_light (hn : Kept n) (hpending : n.ledPending = true) (firing : Firing) :
    (n.fire .timerLedEvt firing).light = n.zclLightTimerCb.2.light := by
  obtain ⟨s, hs⟩ := Option.isSome_iff_exists.mp hpending
  rw [fireLed_of hn hs]

theorem lightToggle_pending (n : Node) : (!decide (n.lightToggle.1 < 0)) = true := by
  rw [decide_eq_false (lightToggle_nonneg n), Bool.not_false]

theorem Lit.blinker_fire (hn : Lit n) (firing : Firing) : (n.fire .timerLedEvt firing).blinker = n.blinker.fire := by
  cases hpending : n.ledPending with
  | false =>
      rw [fire_of_null (handle_of_idle hpending), Blinker.fire_idle]
      exact hpending
  | true =>
      have hshows := hn.shows hpending
      have hleft : n.blinker.left = blinks n.light.times := if_pos hpending
      rw [blinker, hn.ledPending_fire hpending, fireLed_light hn.kept hpending]
      obtain ⟨hback, hcb⟩ | ⟨hback, hlast, hcb⟩ | ⟨hback, hlast, hcb⟩ := n.zclLightTimerCb_cases
      · have haway : n.blinker.away = true := by simp [blinker, hshows, hback]
        have hrest : (!n.light.sta) = n.light.oriSta := Bool.not_eq.mpr hback
        rw [Blinker.fire_away hpending haway, hcb, lightToggle_pending, if_pos rfl]
        simp [lightToggle, blinker, hrest, hpending]
      · have hatrest : n.blinker.away = false := by simp [blinker, hshows, hback]
        rw [← blinks_le_one_iff, ← hleft] at hlast
        rw [Blinker.fire_last hpending hatrest hlast, hcb]
        simp [Node.forget, Blinker.rest, hshows, hback]
      · have hatrest : n.blinker.away = false := by simp [blinker, hshows, hback]
        rw [← blinks_le_one_iff] at hlast
        rw [Blinker.fire_next hpending hatrest (by rwa [hleft]), hcb, lightToggle_pending, if_pos rfl, hleft]
        simpa [lightToggle, blinker, hback, hpending] using blinks_sub_one hlast

theorem zclLightTimerCb_shows (hshows : n.light.led = n.light.sta) :
    n.zclLightTimerCb.2.light.led = n.zclLightTimerCb.2.light.sta := by
  obtain ⟨-, hcb⟩ | ⟨-, -, hcb⟩ | ⟨-, -, hcb⟩ := n.zclLightTimerCb_cases
  · rw [hcb]; rfl
  · rw [hcb]; exact hshows
  · rw [hcb]; rfl

theorem zclLightTimerCb_ends (hends : n.zclLightTimerCb.1 < 0) :
    n.light.sta = n.light.oriSta ∧ n.zclLightTimerCb.2.light = { n.light with times := n.light.times - 1 } := by
  obtain ⟨-, hcb⟩ | ⟨hback, -, hcb⟩ | ⟨-, -, hcb⟩ := n.zclLightTimerCb_cases
  · rw [hcb] at hends
    exact absurd hends (lightToggle_nonneg _)
  · rw [hcb]
    exact ⟨hback, rfl⟩
  · rw [hcb] at hends
    exact absurd hends (lightToggle_nonneg _)

theorem Lit.fireLed (hn : Lit n) (firing : Firing) : Lit (n.fire .timerLedEvt firing) := by
  cases hpending : n.ledPending with
  | false => rwa [fire_of_null (handle_of_idle hpending)]
  | true =>
      refine ⟨kept_fire hn.kept _ firing, ?_, fun _ => ?_, fun hidle => ?_⟩
      · obtain ⟨s, hs⟩ := Option.isSome_iff_exists.mp hpending
        rw [fireLed_of hn.kept hs]
        exact hn.confined.serve hn.kept.inOrder.coherent hs _
      · rw [fireLed_light hn.kept hpending]
        exact zclLightTimerCb_shows (hn.shows hpending)
      · rw [hn.ledPending_fire hpending, Bool.not_eq_false', decide_eq_true_eq] at hidle
        obtain ⟨hback, hlight⟩ := zclLightTimerCb_ends hidle
        rw [fireLed_light hn.kept hpending, hlight]
        exact (hn.shows hpending).trans hback

/-- `oriSta` and the times stay. -/
theorem fireLed_stays (hn : Kept n) (firing : Firing) :
    (n.fire .timerLedEvt firing).light.oriSta = n.light.oriSta ∧
      (n.fire .timerLedEvt firing).light.ledOnTime = n.light.ledOnTime ∧
      (n.fire .timerLedEvt firing).light.ledOffTime = n.light.ledOffTime := by
  cases hpending : n.ledPending with
  | false => rw [fire_of_null (handle_of_idle hpending)]; exact ⟨rfl, rfl, rfl⟩
  | true =>
      rw [fireLed_light hn hpending]
      obtain ⟨-, hcb⟩ | ⟨-, -, hcb⟩ | ⟨-, -, hcb⟩ := n.zclLightTimerCb_cases
      · rw [hcb]; exact ⟨rfl, rfl, rfl⟩
      · rw [hcb]; exact ⟨rfl, rfl, rfl⟩
      · rw [hcb]; exact ⟨rfl, rfl, rfl⟩

end Node

/-! ### Runs of the LED -/

/-- What happens to the LED: it is to blink a number of times, or to stop, or its timer expires. -/
inductive LedEvent
  | lightBlinkStart (times : { times : BitVec 8 // times ≠ 0 }) (ledOnTime ledOffTime : BitVec 16)
  | lightBlinkStop
  | zclLightTimerCb (firing : Firing)

namespace Node

def ledStep (n : Node) : LedEvent → Node
  | .lightBlinkStart times ledOnTime ledOffTime => n.lightBlinkStart times ledOnTime ledOffTime
  | .lightBlinkStop => n.lightBlinkStop
  | .zclLightTimerCb firing => n.fire .timerLedEvt firing

/-- The times the LED leaves `oriSta` in a run. -/
def excursions (n : Node) : List LedEvent → Nat
  | [] => 0
  | e :: events =>
    (if n.light.led = n.light.oriSta ∧ (n.ledStep e).light.led ≠ (n.ledStep e).light.oriSta then 1 else 0) +
      (n.ledStep e).excursions events

/-- The run in which `light_blink_start` is called and after that the timer fires only. -/
def startRun (times : { times : BitVec 8 // times ≠ 0 }) (ledOnTime ledOffTime : BitVec 16) (firings : List Firing) :
    List LedEvent :=
  .lightBlinkStart times ledOnTime ledOffTime :: firings.map .zclLightTimerCb

/-- What is promised of the LED in a state. -/
structure BlinkingEnds (n : Node) : Prop where
  off : n.light.oriSta = false
  rests : n.timers.handle .timerLedEvt = none → n.light.led = n.light.oriSta
  blinks : n.timers.handle .timerLedEvt = none → ∀ times ledOnTime ledOffTime firings,
    n.excursions (startRun times ledOnTime ledOffTime firings) = min times.val.toNat (firings.length / 2 + 1) ∧
      ((run ledStep n (startRun times ledOnTime ledOffTime firings)).timers.handle .timerLedEvt ≠ none ↔
        firings.length < 2 * times.val.toNat)
  /-- `phase` is 1 when the blink has just finished. -/
  replaces : n.timers.handle .timerLedEvt ≠ none → ∀ times ledOnTime ledOffTime firings,
    let phase := if n.light.led = n.light.oriSta then 1 else 0
    n.excursions (startRun times ledOnTime ledOffTime firings) =
        min (times.val.toNat - 1) ((firings.length + phase) / 2) ∧
      ((run ledStep n (startRun times ledOnTime ledOffTime firings)).timers.handle .timerLedEvt ≠ none ↔
        firings.length + phase < 2 * times.val.toNat)
  counts : n.timers.handle .timerLedEvt ≠ none → n.light.sta = n.light.oriSta →
    n.zclLightTimerCb.2.light.times.toNat + 1 = n.light.times.toNat

/-- The state between two events of the LED. -/
structure Blinking (n : Node) : Prop where
  lit : Lit n
  off : n.light.oriSta = false
  counting : n.ledPending = true → n.light.times ≠ 0

theorem blinking_ledStep (hn : Blinking n) (e : LedEvent) : Blinking (n.ledStep e) := by
  cases e with
  | lightBlinkStart times ledOnTime ledOffTime =>
      change Blinking (n.lightBlinkStart times ledOnTime ledOffTime)
      refine ⟨hn.lit.lightBlinkStart _ _ _, (lightBlinkStart_oriSta _ _ _ n).trans hn.off, fun _ => ?_⟩
      rw [lightBlinkStart_times]
      exact times.property
  | lightBlinkStop =>
      change Blinking n.lightBlinkStop
      exact ⟨hn.lit.lightBlinkStop, (lightBlinkStop_oriSta n).trans hn.off,
        fun h => absurd (hn.lit.ledPending_stop.symm.trans h) Bool.false_ne_true⟩
  | zclLightTimerCb firing =>
      change Blinking (n.fire .timerLedEvt firing)
      refine ⟨hn.lit.fireLed firing, (fireLed_stays hn.lit.kept firing).1.trans hn.off, ?_⟩
      cases hpending : n.ledPending with
      | false => rw [fire_of_null (handle_of_idle hpending)]; exact hn.counting
      | true =>
          rw [hn.lit.ledPending_fire hpending, fireLed_light hn.lit.kept hpending]
          obtain ⟨-, hcb⟩ | ⟨-, -, hcb⟩ | ⟨-, hnext, hcb⟩ := n.zclLightTimerCb_cases
          · rw [hcb]; exact fun _ => hn.counting hpending
          · rw [hcb]; exact fun h => absurd h Bool.false_ne_true
          · rw [hcb]
            intro _ hzero
            exact hnext (by rw [show n.light.times - 1 = 0 from hzero]; exact BitVec.le_refl _)

theorem blinking_run (boot : Boot) (app : App) (events : List LedEvent) :
    Blinking (run ledStep (started boot app) events) :=
  run_invariant (P := Blinking) (fun _ e hn => blinking_ledStep hn e)
    ⟨lit_started boot app, rfl, fun h => absurd h Bool.false_ne_true⟩ events

/-- The code takes the steps of the blinker. -/
theorem blinker_ledStep (hn : Lit n) (e : LedEvent) : (n.ledStep e).blinker = match e with
    | .lightBlinkStart times _ _ => n.blinker.start (blinks times)
    | .lightBlinkStop => n.blinker.stop
    | .zclLightTimerCb _ => n.blinker.fire := by
  cases e with
  | lightBlinkStart times ledOnTime ledOffTime => exact hn.blinker_start _ _ _
  | lightBlinkStop => exact hn.blinker_stop
  | zclLightTimerCb firing => exact hn.blinker_fire firing

theorem excursion_iff (n m : Node) : (n.light.led = n.light.oriSta ∧ m.light.led ≠ m.light.oriSta) ↔
    (!n.blinker.away && m.blinker.away) = true := by
  simp [blinker]

/-- While its timer fires the LED does as the blinker does. -/
theorem Lit.firings (hn : Lit n) (firings : List Firing) :
    n.excursions (firings.map .zclLightTimerCb) = n.blinker.begun firings.length ∧
      (run ledStep n (firings.map .zclLightTimerCb)).blinker = Blinker.fire^[firings.length] n.blinker := by
  induction firings generalizing n with
  | nil => exact ⟨rfl, rfl⟩
  | cons firing firings ih =>
      have hnext : (n.ledStep (.zclLightTimerCb firing)).blinker = n.blinker.fire := blinker_ledStep hn _
      obtain ⟨hexcursions, hblinker⟩ := ih (hn.fireLed firing)
      refine ⟨?_, ?_⟩
      · rw [List.map_cons, excursions, List.length_cons, Blinker.begun]
        simp only [excursion_iff, hnext]
        rw [show n.ledStep (.zclLightTimerCb firing) = n.fire .timerLedEvt firing from rfl, hexcursions, hn.blinker_fire]
      · rw [List.map_cons, run_cons, List.length_cons, Function.iterate_succ_apply, ← hnext]
        exact hblinker

/-- The LED after a call of `light_blink_start`. -/
theorem Blinking.startRun (hn : Blinking n) (times : { times : BitVec 8 // times ≠ 0 }) (ledOnTime ledOffTime : BitVec 16)
    (firings : List Firing) :
    let b := n.blinker.start times.val.toNat
    n.excursions (startRun times ledOnTime ledOffTime firings) =
        (if !n.blinker.away && b.away then 1 else 0) + b.begun firings.length ∧
      ((run ledStep n (Node.startRun times ledOnTime ledOffTime firings)).timers.handle .timerLedEvt ≠ none ↔
        (Blinker.fire^[firings.length] b).pending = true) := by
  have hstart : (n.lightBlinkStart times ledOnTime ledOffTime).blinker = n.blinker.start times.val.toNat := by
    rw [hn.lit.blinker_start, blinks_of_ne times.property]
  obtain ⟨hexcursions, hblinker⟩ := (hn.lit.lightBlinkStart times ledOnTime ledOffTime).firings firings
  rw [hstart] at hexcursions hblinker
  refine ⟨?_, ?_⟩
  · rw [Node.startRun, excursions]
    simp only [excursion_iff, ledStep, hstart, hexcursions]
  · rw [← hblinker, Option.ne_none_iff_isSome]
    rfl

theorem Blinking.blinks (hn : Blinking n) (hnull : n.timers.handle .timerLedEvt = none)
    (times : { times : BitVec 8 // times ≠ 0 }) (ledOnTime ledOffTime : BitVec 16) (firings : List Firing) :
    n.excursions (Node.startRun times ledOnTime ledOffTime firings) =
        min times.val.toNat (firings.length / 2 + 1) ∧
      ((run ledStep n (Node.startRun times ledOnTime ledOffTime firings)).timers.handle .timerLedEvt ≠ none ↔
        firings.length < 2 * times.val.toNat) := by
  have hidle : n.ledPending = false := by rw [ledPending, hnull]; rfl
  have htimes : 1 ≤ times.val.toNat := toNat_pos_of_ne times.property
  have hatrest : n.blinker.away = false := by simp [blinker, hn.lit.rests hidle]
  have hstart : n.blinker.start times.val.toNat = ⟨true, times.val.toNat, true⟩ := by
    simp [Blinker.start, blinker, hidle]
  obtain ⟨hexcursions, hgoes⟩ := hn.startRun times ledOnTime ledOffTime firings
  obtain ⟨hbegun, hpending⟩ := @Blinker.begun_eq ⟨true, times.val.toNat, true⟩ rfl htimes firings.length
  rw [hstart, hatrest] at hexcursions
  rw [hexcursions, hgoes, hstart, hpending, hbegun]
  simp only [Blinker.phase, if_true, Bool.not_false, Bool.true_and, add_zero]
  exact ⟨by omega, trivial⟩

theorem Blinking.replaces (hn : Blinking n) (hset : n.timers.handle .timerLedEvt ≠ none)
    (times : { times : BitVec 8 // times ≠ 0 }) (ledOnTime ledOffTime : BitVec 16) (firings : List Firing) :
    let phase := if n.light.led = n.light.oriSta then 1 else 0
    n.excursions (Node.startRun times ledOnTime ledOffTime firings) =
        min (times.val.toNat - 1) ((firings.length + phase) / 2) ∧
      ((run ledStep n (Node.startRun times ledOnTime ledOffTime firings)).timers.handle .timerLedEvt ≠ none ↔
        firings.length + phase < 2 * times.val.toNat) := by
  have hpending : n.ledPending = true := Option.ne_none_iff_isSome.mp hset
  have hstart : n.blinker.start times.val.toNat = { n.blinker with left := times.val.toNat } := if_pos hpending
  have hphase : (if n.light.led = n.light.oriSta then 1 else 0) = n.blinker.phase := by
    by_cases hled : n.light.led = n.light.oriSta <;> simp [Blinker.phase, blinker, hled]
  obtain ⟨hexcursions, hgoes⟩ := hn.startRun times ledOnTime ledOffTime firings
  obtain ⟨hbegun, hends⟩ := @Blinker.begun_eq { n.blinker with left := times.val.toNat } hpending
    (toNat_pos_of_ne times.property) firings.length
  rw [hstart] at hexcursions
  dsimp only
  rw [hphase, hexcursions, hgoes, hstart, hends, hbegun]
  refine ⟨?_, Iff.rfl⟩
  rw [Bool.not_and_self, if_neg Bool.false_ne_true, zero_add]
  rfl

/-- From the start of the MCU on the LED ends where it began, and blinks as often as it is asked to. -/
theorem led_ends_where_it_began (boot : Boot) (app : App) (events : List LedEvent) :
    BlinkingEnds (run ledStep (started boot app) events) := by
  have hn := blinking_run boot app events
  refine ⟨hn.off, fun hnull => hn.lit.rests ?_, hn.blinks, hn.replaces, fun hset hback => ?_⟩
  · rw [ledPending, hnull]; rfl
  · have hcounting := hn.counting (Option.ne_none_iff_isSome.mp hset)
    have hdec : ∀ times : BitVec 8, times ≠ 0 → (times - 1).toNat + 1 = times.toNat := by
      intro times hne
      rw [toNat_dec hne]
      exact Nat.sub_add_cancel (toNat_pos_of_ne hne)
    obtain ⟨haway, -⟩ | ⟨-, -, hcb⟩ | ⟨-, -, hcb⟩ := zclLightTimerCb_cases (run ledStep (started boot app) events)
    · exact absurd hback haway
    · rw [hcb]; exact hdec _ hcounting
    · rw [hcb]; exact hdec _ hcounting

end Node

end Watermeter
