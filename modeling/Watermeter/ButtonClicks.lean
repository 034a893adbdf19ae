import Watermeter.Button
import Watermeter.ClickSeries

/-! The five clicks of the factory reset. The handler counts the times the debounced value comes to 16 in 6 bits,
and tells by the system timer whether a series goes on. -/

namespace Watermeter

open Debounce ClickSeries

namespace ButtonPasses

/-- `TIMEOUT_TICK_1SEC` in ticks. -/
def second : Nat := 16000000

/-- The press of pass `p` and the release of pass `q` are those of the `n`-th click of a fresh series. -/
def Clicks (passes : ButtonPasses) (n p q : Nat) : Prop := Series passes.Press passes.Release passes.now second n p q

/-- The factory reset is asked for by five clicks in a series that is over, and by each such series once. -/
structure ResetByFive (passes : ButtonPasses) (t : Nat) : Prop where
  only : passes.gesture t = some .factoryReset →
    ∃ p q, passes.Clicks 5 p q ∧ Over passes.Press passes.now second q t
  once : ∀ p q, passes.Clicks 5 p q →
    (∀ u, q < u → u ≤ t → passes.Press u → passes.now q + second < passes.now u) →
    passes.now q + second < passes.now t →
    ∃! u, u ≤ t ∧ Over passes.Press passes.now second q u ∧ passes.gesture u = some .factoryReset

/-- No contact bounces on its way up, no series outgrows 6 bits, no press comes in the very pass that would have
found five clicks over, and the timer is right about a release whose click is still counted. -/
structure Fair (passes : ButtonPasses) (t : Nat) : Prop where
  noBounce : passes.Registers t → passes.down t = false
  noWrap : passes.Registers t → (passes.button t).counter = 63#6 → passes.releasedAt t + second < passes.now t
  noLate : passes.Registers t → (passes.button t).counter = 5#6 → passes.now t ≤ passes.releasedAt t + second
  noTurn : passes.down t = false → (passes.button t).counter ≠ 0#6 → passes.releasedAt t + second < passes.now t →
    second < (passes.now t - passes.releasedAt t) % 2 ^ 32

instance (passes : ButtonPasses) (t : Nat) : Decidable (passes.Fair t) :=
  decidable_of_iff
    ((passes.Registers t → passes.down t = false) ∧
      (passes.Registers t → (passes.button t).counter = 63#6 → passes.releasedAt t + second < passes.now t) ∧
      (passes.Registers t → (passes.button t).counter = 5#6 → passes.now t ≤ passes.releasedAt t + second) ∧
      (passes.down t = false → (passes.button t).counter ≠ 0#6 → passes.releasedAt t + second < passes.now t →
        second < (passes.now t - passes.releasedAt t) % 2 ^ 32))
    ⟨fun ⟨h₁, h₂, h₃, h₄⟩ => ⟨h₁, h₂, h₃, h₄⟩, fun ⟨h₁, h₂, h₃, h₄⟩ => ⟨h₁, h₂, h₃, h₄⟩⟩

/-- The handler finds the last release more than a second ago. -/
def Late (passes : ButtonPasses) (t : Nat) : Prop :=
  TickClock.Exceeds (passes.now t) (TickClock.reading 32 (passes.releasedAt t)) (BitVec.ofNat 32 second)

instance (passes : ButtonPasses) (t : Nat) : Decidable (passes.Late t) := inferInstanceAs (Decidable (TickClock.Exceeds _ _ _))

variable {passes : ButtonPasses} {t p q r : Nat}

/-! ### The button and its debounced ends -/

@[simp] theorem down_zero : passes.down 0 = false := rfl

theorem down_succ (t : Nat) :
    passes.down (t + 1) =
      if passes.Registers t then true
      else if Clears (passes.closed t) (passes.debounced t) then false
      else passes.down t := rfl

theorem button_released (t : Nat) : (passes.button t).released = false := by
  induction t with
  | zero => rfl
  | succ t ih => exact (Button.buttonHandler_pass _ _ ih).released

theorem button_debounce (t : Nat) :
    (passes.button t).InRange ∧ (passes.button t).debounce.toNat = passes.debounced t := by
  induction t with
  | zero => exact ⟨⟨Nat.le_refl 1, (by decide : 1 ≤ 16)⟩, rfl⟩
  | succ t ih =>
    obtain ⟨hrange, hvalue⟩ := ih
    have hnext : (passes.button (t + 1)).debounce.toNat = poll 16 (!passes.gpio t) (passes.button t).debounce.toNat :=
      Button.buttonHandler_debounce hrange
    refine ⟨?_, ?_⟩
    · rw [Button.InRange, hnext]
      exact poll_range hrange
    · rw [hnext, hvalue]
      rfl

/-- A pass in the terms of the debounced value. -/
theorem button_pass (passes : ButtonPasses) (t : Nat) : Button.Pass (passes.gpio t) (passes.clockTime t) (passes.button t) :=
  Button.buttonHandler_pass _ _ (button_released t)

theorem reaches_iff (t : Nat) : Reaches 16 (!passes.gpio t) (passes.button t).debounce.toNat ↔ passes.Registers t := by
  rw [(button_debounce t).2]
  rfl

theorem clears_iff (t : Nat) :
    Clears (!passes.gpio t) (passes.button t).debounce.toNat ↔ Clears (passes.closed t) (passes.debounced t) := by
  rw [(button_debounce t).2]
  rfl

theorem button_pressed (t : Nat) : (passes.button t).pressed = passes.down t := by
  induction t with
  | zero => rfl
  | succ t ih =>
    have hpass := (button_pass passes t).pressed
    simp only [reaches_iff, clears_iff, ih] at hpass
    exact hpass

theorem button_releasedTime (t : Nat) : (passes.button t).releasedTime = TickClock.reading 32 (passes.releasedAt t) := by
  induction t with
  | zero => rfl
  | succ t ih =>
    have hpass := (button_pass passes t).releasedTime
    simp only [clears_iff, button_pressed, ih] at hpass
    rw [button, hpass, releasedAt]
    by_cases hrelease : Clears (passes.closed t) (passes.debounced t) ∧ passes.down t = true
    · rw [if_pos hrelease, if_pos (show passes.Release t from hrelease)]
      rfl
    · rw [if_neg hrelease, if_neg (show ¬ passes.Release t from hrelease)]

theorem late_iff (t : Nat) :
    Button.clockTimeExceed (passes.clockTime t) (passes.button t).releasedTime Button.timeoutTick1Sec = true ↔
      passes.Late t := by
  rw [button_releasedTime, Button.clockTimeExceed, decide_eq_true_iff]
  rfl

theorem counter_succ (passes : ButtonPasses) (t : Nat) :
    (passes.button (t + 1)).counter =
      if passes.Registers t then if passes.Late t then 1#6 else (passes.button t).counter + 1
      else if passes.down t then (passes.button t).counter
      else if passes.Late t then 0#6
      else (passes.button t).counter := by
  have hpass := (button_pass passes t).counter
  simp only [reaches_iff, late_iff, button_pressed] at hpass
  exact hpass

theorem factoryReset_iff (t : Nat) :
    passes.gesture t = some .factoryReset ↔
      ¬ passes.Registers t ∧ passes.down t = false ∧ passes.Late t ∧ (passes.button t).counter = 5#6 := by
  have hpass := (button_pass passes t).factoryReset
  simp only [reaches_iff, late_iff, button_pressed] at hpass
  exact hpass

/-! ### Releases and the time since -/

theorem releasedAt_le (t : Nat) : passes.releasedAt t ≤ passes.now t := by
  induction t with
  | zero => exact passes.since
  | succ t ih =>
    have hnext : passes.now t ≤ passes.now (t + 1) := passes.mono (Nat.le_succ t)
    rw [releasedAt]
    split_ifs <;> omega

/-- The last release before a pass is the one whose time is kept. -/
theorem last_release (hr : passes.Release r) (hrt : r < t) :
    ∃ r', r ≤ r' ∧ r' < t ∧ passes.Release r' ∧ passes.releasedAt t = passes.now r' := by
  induction t with
  | zero => omega
  | succ t ih =>
    rw [releasedAt]
    by_cases hrelease : passes.Release t
    · exact ⟨t, by omega, Nat.lt_succ_self t, hrelease, if_pos hrelease⟩
    · have hlt : r < t := by
        rcases Nat.lt_succ_iff_lt_or_eq.mp hrt with hlt | rfl
        · exact hlt
        · exact absurd hr hrelease
      obtain ⟨r', hrr', hr't, hr', htime⟩ := ih hlt
      exact ⟨r', hrr', Nat.lt_succ_of_lt hr't, hr', (if_neg hrelease).trans htime⟩

theorem release_le (hr : passes.Release r) (hrt : r < t) : passes.now r ≤ passes.releasedAt t := by
  obtain ⟨r', hrr', -, -, htime⟩ := last_release hr hrt
  rw [htime]
  exact passes.mono hrr'

/-- What the timer finds is so. -/
theorem Late.elapsed (h : passes.Late t) : passes.releasedAt t + second < passes.now t := by
  have helapsed := TickClock.Exceeds.elapsed (releasedAt_le t) (by decide) h
  omega

/-- And what is so, the timer finds, while clicks are counted. -/
theorem Fair.late (hfair : passes.Fair t) (hup : passes.down t = false) (hne : (passes.button t).counter ≠ 0#6)
    (helapsed : passes.releasedAt t + second < passes.now t) : passes.Late t := by
  rw [Late, TickClock.exceeds_iff (releasedAt_le t)]
  exact hfair.noTurn hup hne helapsed

theorem Registers.not_release (h : passes.Registers t) : ¬ passes.Release t := by
  intro hrelease
  have hvalue := h.2
  have hlow := hrelease.1.2
  omega

/-- While the button is up every press has been released. -/
theorem exists_release (hup : passes.down t = false) (hp : passes.Press p) (hpt : p < t) :
    ∃ r, p < r ∧ r < t ∧ passes.Release r := by
  induction t with
  | zero => omega
  | succ t ih =>
    have hreach : ¬ passes.Registers t := fun h => by simp [down_succ, h] at hup
    have hlt : p < t := by
      rcases Nat.lt_succ_iff_lt_or_eq.mp hpt with hlt | rfl
      · exact hlt
      · exact absurd hp.1 hreach
    cases hdown : passes.down t with
    | true =>
      have hclear : Clears (passes.closed t) (passes.debounced t) := by
        by_contra hclear
        simp [down_succ, hreach, hclear, hdown] at hup
      exact ⟨t, hlt, Nat.lt_succ_self t, hclear, hdown⟩
    | false =>
      obtain ⟨r, hpr, hrt, hr⟩ := ih hdown hlt
      exact ⟨r, hpr, Nat.lt_succ_of_lt hrt, hr⟩

theorem Release.up (h : passes.Release r) : passes.down (r + 1) = false := by
  have hreach : ¬ passes.Registers r := fun hregisters => hregisters.not_release h
  rw [down_succ, if_neg hreach, if_pos h.1]

/-- A button that is down stays down until its release. -/
theorem down_until (hp : passes.Press p) (hpt : p < t) (hrelease : ∀ u, p < u → u < t → ¬ passes.Release u) :
    passes.down t = true := by
  induction t, Nat.succ_le_of_lt hpt using Nat.le_induction with
  | base => rw [down_succ, if_pos hp.1]
  | succ t hat ih =>
    have hdown := ih hat fun u hpu hut => hrelease u hpu (Nat.lt_succ_of_lt hut)
    have hclear : ¬ Clears (passes.closed t) (passes.debounced t) := fun h =>
      hrelease t hat (Nat.lt_succ_self t) ⟨h, hdown⟩
    rw [down_succ, if_neg hclear, hdown, ite_self]

/-- A button that is up stays up, with the time of its release, until it is pressed. -/
theorem up_until {a : Nat} (hup : passes.down a = false) (hat : a ≤ t) (hpress : ∀ u, a ≤ u → u < t → ¬ passes.Press u) :
    passes.down t = false ∧ passes.releasedAt t = passes.releasedAt a := by
  induction t, hat using Nat.le_induction with
  | base => exact ⟨hup, rfl⟩
  | succ t hat ih =>
    obtain ⟨hdown, htime⟩ := ih fun u hau hut => hpress u hau (Nat.lt_succ_of_lt hut)
    have hreach : ¬ passes.Registers t := fun h => hpress t hat (Nat.lt_succ_self t) ⟨h, hdown⟩
    have hrelease : ¬ passes.Release t := fun h => Bool.false_ne_true (hdown.symm.trans h.2)
    refine ⟨?_, ?_⟩
    · rw [down_succ, if_neg hreach, hdown, ite_self]
    · rw [releasedAt, if_neg hrelease, htime]

/-! ### The counter -/

/-- The counter is 0 when the last click is more than a second old, and else its place in its series. -/
structure Counted (passes : ButtonPasses) (t : Nat) : Prop where
  up : (passes.button t).counter = 0#6 → passes.down t = false
  old : (passes.button t).counter = 0#6 → ∀ r, r < t → passes.Release r → ∃ s, s < t ∧ passes.now r + second < passes.now s
  nth : (passes.button t).counter ≠ 0#6 → ∃ p, p < t ∧
    NthPress passes.Press passes.Release passes.now second (passes.button t).counter.toNat p ∧
    ∀ u, p < u → u < t → ¬ passes.Press u

theorem counted_zero : passes.Counted 0 where
  up _ := rfl
  old _ r hr := absurd hr (Nat.not_lt_zero r)
  nth h := absurd rfl h

/-- A press that comes a second after the last release starts a series. -/
theorem first_press (hpress : passes.Press t) (hlate : ∀ r, r < t → passes.Release r → passes.now r + second < passes.now t) :
    NthPress passes.Press passes.Release passes.now second 1 t := by
  apply NthPress.first hpress
  rintro ⟨r, hrt, hr, hrecent⟩
  have hold := hlate r hrt hr
  omega

/-- The pass of a press. -/
theorem counted_press (hfair : passes.Fair t) (h : passes.Counted t) (hregisters : passes.Registers t) :
    passes.Counted (t + 1) := by
  have hpress : passes.Press t := ⟨hregisters, hfair.noBounce hregisters⟩
  have hcounter := counter_succ passes t
  rw [if_pos hregisters] at hcounter
  suffices hnth : (passes.button (t + 1)).counter ≠ 0#6 ∧
      NthPress passes.Press passes.Release passes.now second (passes.button (t + 1)).counter.toNat t by
    refine ⟨fun hzero => absurd hzero hnth.1, fun hzero => absurd hzero hnth.1, fun _ => ⟨t, Nat.lt_succ_self t, hnth.2, ?_⟩⟩
    intro u htu hut
    omega
  by_cases hlate : passes.Late t
  · rw [hcounter, if_pos hlate]
    refine ⟨by decide, first_press hpress fun r hrt hr => ?_⟩
    have helapsed := hlate.elapsed
    have hkept := release_le hr hrt
    omega
  rw [hcounter, if_neg hlate]
  by_cases hzero : (passes.button t).counter = 0#6
  · rw [hzero]
    refine ⟨by decide, first_press hpress fun r hrt hr => ?_⟩
    obtain ⟨s, hst, hs⟩ := h.old hzero r hrt hr
    exact hs.trans_le (passes.mono hst.le)
  -- the timer is right, so that the last release is not a second ago
  have hsoon : passes.now t ≤ passes.releasedAt t + second := by
    by_contra hgt
    exact hlate (hfair.late hpress.2 hzero (by omega))
  have hroom : (passes.button t).counter ≠ 63#6 := fun hfull => by
    have hgt := hfair.noWrap hregisters hfull
    omega
  have hvalue : ((passes.button t).counter + 1).toNat = (passes.button t).counter.toNat + 1 := by bv_omega
  refine ⟨by bv_omega, ?_⟩
  obtain ⟨p, hpt, hnth, hlast⟩ := h.nth hzero
  obtain ⟨r, hpr, hrt, hr⟩ := exists_release hpress.2 hnth.pressed hpt
  obtain ⟨r', hrr', hr't, hr', htime⟩ := last_release hr hrt
  rw [hvalue]
  exact NthPress.next hnth (by omega) hr' hr't hpress hlast (by omega)

/-- No press in a pass that registers none. -/
theorem last_press_succ (hregisters : ¬ passes.Registers t) (hlast : ∀ u, p < u → u < t → ¬ passes.Press u) :
    ∀ u, p < u → u < t + 1 → ¬ passes.Press u := by
  intro u hpu hut hpress
  rcases Nat.lt_succ_iff_lt_or_eq.mp hut with hlt | rfl
  · exact hlast u hpu hlt hpress
  · exact hregisters hpress.1

/-- A pass without a press while the button is down. -/
theorem counted_down (h : passes.Counted t) (hregisters : ¬ passes.Registers t) (hdown : passes.down t = true) :
    passes.Counted (t + 1) := by
  have hcounter := counter_succ passes t
  rw [if_neg hregisters, hdown, if_pos rfl] at hcounter
  have hne : (passes.button t).counter ≠ 0#6 := fun hzero => Bool.false_ne_true ((h.up hzero).symm.trans hdown)
  obtain ⟨p, hpt, hnth, hlast⟩ := h.nth hne
  rw [← hcounter] at hne hnth
  exact ⟨fun hzero => absurd hzero hne, fun hzero => absurd hzero hne,
    fun _ => ⟨p, Nat.lt_succ_of_lt hpt, hnth, last_press_succ hregisters hlast⟩⟩

/-- A pass without a press while the button is up, which clears the counter once the last release is a second ago. -/
theorem counted_up (h : passes.Counted t) (hregisters : ¬ passes.Registers t) (hdown : passes.down t = false) :
    passes.Counted (t + 1) := by
  have hcounter := counter_succ passes t
  rw [if_neg hregisters, hdown, if_neg Bool.false_ne_true] at hcounter
  have hup : passes.down (t + 1) = false := by rw [down_succ, if_neg hregisters, hdown, ite_self]
  have hearlier : ∀ r, r < t + 1 → passes.Release r → r < t := by
    intro r hrt hr
    rcases Nat.lt_succ_iff_lt_or_eq.mp hrt with hlt | rfl
    · exact hlt
    · exact absurd hr.2 (by rw [hdown]; exact Bool.false_ne_true)
  by_cases hlate : passes.Late t
  · rw [if_pos hlate] at hcounter
    refine ⟨fun _ => hup, fun _ r hrt hr => ⟨t, Nat.lt_succ_self t, ?_⟩, fun hne => absurd hcounter hne⟩
    have helapsed := hlate.elapsed
    have hkept := release_le hr (hearlier r hrt hr)
    omega
  · rw [if_neg hlate] at hcounter
    refine ⟨fun _ => hup, fun hzero r hrt hr => ?_, fun hne => ?_⟩
    · obtain ⟨s, hst, hs⟩ := h.old (hcounter.symm.trans hzero) r (hearlier r hrt hr) hr
      exact ⟨s, Nat.lt_succ_of_lt hst, hs⟩
    · rw [hcounter] at hne ⊢
      obtain ⟨p, hpt, hnth, hlast⟩ := h.nth hne
      exact ⟨p, Nat.lt_succ_of_lt hpt, hnth, last_press_succ hregisters hlast⟩

theorem counted_step (hfair : passes.Fair t) (h : passes.Counted t) : passes.Counted (t + 1) := by
  by_cases hregisters : passes.Registers t
  · exact counted_press hfair h hregisters
  · cases hdown : passes.down t with
    | true => exact counted_down h hregisters hdown
    | false => exact counted_up h hregisters hdown

theorem counted_run (hfair : ∀ u, u < t → passes.Fair u) : passes.Counted t := by
  induction t with
  | zero => exact counted_zero
  | succ t ih => exact counted_step (hfair t (Nat.lt_succ_self t)) (ih fun u hu => hfair u (Nat.lt_succ_of_lt hu))

/-! ### The reset -/

theorem reset_only (hfair : ∀ u, u ≤ t → passes.Fair u) (h : passes.gesture t = some .factoryReset) :
    ∃ p q, passes.Clicks 5 p q ∧ Over passes.Press passes.now second q t := by
  obtain ⟨hregisters, hup, hlate, hcounter⟩ := (factoryReset_iff t).mp h
  have hcounted : passes.Counted t := counted_run fun u hu => hfair u hu.le
  obtain ⟨p, hpt, hnth, hlast⟩ := hcounted.nth (by rw [hcounter]; decide)
  rw [hcounter] at hnth
  obtain ⟨q, hqt, hseries⟩ := hnth.series (exists_release hup hnth.pressed hpt)
  refine ⟨p, q, hseries, hqt, fun u hqu hut hpress => ?_, ?_⟩
  · rcases Nat.lt_or_eq_of_le hut with hlt | rfl
    · exact hlast u (hseries.after.trans hqu) hlt hpress
    · exact hregisters hpress.1
  · have helapsed := hlate.elapsed
    have hkept := release_le hseries.released hqt
    omega

/-- Five clicks are counted as five until a second has passed since the last. -/
theorem counter_five (hfair : ∀ u, u < t → passes.Fair u) (hclicks : passes.Clicks 5 p q) (hqt : q < t)
    (hlast : ∀ u, q < u → u < t → ¬ passes.Press u) (hsoon : ∀ u, u < t → passes.now u ≤ passes.now q + second) :
    (passes.button t).counter = 5#6 := by
  have hcounted : passes.Counted t := counted_run hfair
  by_cases hzero : (passes.button t).counter = 0#6
  · obtain ⟨s, hst, hs⟩ := hcounted.old hzero q hqt hclicks.released
    have hnear := hsoon s hst
    omega
  obtain ⟨p', hpt', hnth', hlast'⟩ := hcounted.nth hzero
  have hnone : ∀ u, p < u → u < t → ¬ passes.Press u := by
    intro u hpu hut hpress
    rcases Nat.lt_or_ge q u with hqu | huq
    · exact hlast u hqu hut hpress
    · have hdown := down_until hclicks.nth.pressed hpu fun v hpv hvu => hclicks.first v hpv (by omega)
      exact Bool.false_ne_true (hpress.2.symm.trans hdown)
  obtain rfl : p = p' := last_unique hclicks.nth.pressed hnth'.pressed (hclicks.after.trans hqt) hpt' hnone hlast'
  have hvalue := hnth'.unique hclicks.nth
  bv_omega

/-- A counter that the handler has cleared stays 0 until the next press. -/
theorem counter_cleared {a : Nat} (hzero : (passes.button a).counter = 0#6) (hat : a ≤ t)
    (hpress : ∀ u, a ≤ u → u < t → ¬ passes.Registers u) : (passes.button t).counter = 0#6 := by
  induction t, hat using Nat.le_induction with
  | base => exact hzero
  | succ t hat ih =>
    rw [counter_succ, if_neg (hpress t hat (Nat.lt_succ_self t)), ih fun u hau hut => hpress u hau (Nat.lt_succ_of_lt hut),
      ite_self, ite_self]

theorem reset_once (hfair : ∀ u, u ≤ t → passes.Fair u) (hclicks : passes.Clicks 5 p q)
    (hsixth : ∀ u, q < u → u ≤ t → passes.Press u → passes.now q + second < passes.now u)
    (helapsed : passes.now q + second < passes.now t) :
    ∃! u, u ≤ t ∧ Over passes.Press passes.now second q u ∧ passes.gesture u = some .factoryReset := by
  obtain ⟨u, hqu, hut, hlate, hearly⟩ := exists_first_late passes.mono helapsed
  have hnone : ∀ v, q < v → v < u → ¬ passes.Press v := by
    intro v hqv hvu hpress
    have hafter := hsixth v hqv (by omega) hpress
    have hbefore := hearly v hvu
    omega
  obtain ⟨hup, htime⟩ := up_until hclicks.released.up hqu fun v hqv hvu => hnone v hqv hvu
  have hreleasedAt : passes.releasedAt u = passes.now q := by rw [htime, releasedAt, if_pos hclicks.released]
  have hfive : (passes.button u).counter = 5#6 :=
    counter_five (fun v hvu => hfair v (by omega)) hclicks hqu hnone hearly
  have hregisters : ¬ passes.Registers u := fun h => by
    have hnear := (hfair u hut).noLate h hfive
    omega
  have hfound : passes.Late u := (hfair u hut).late hup (by rw [hfive]; decide) (by omega)
  refine ⟨u, ⟨hut, ⟨hqu, fun v hqv hvu hpress => ?_, hlate⟩, (factoryReset_iff u).mpr ⟨hregisters, hup, hfound, hfive⟩⟩, ?_⟩
  · rcases Nat.lt_or_eq_of_le hvu with hlt | rfl
    · exact hnone v hqv hlt hpress
    · exact hregisters hpress.1
  -- before `u` the series is not over, and after it the counter is 0
  rintro v ⟨hvt, hover, hreset⟩
  rcases Nat.lt_trichotomy v u with hlt | heq | hgt
  · have hnear := hearly v hlt
    have hpast := hover.elapsed
    omega
  · exact heq
  · have hzero : (passes.button (u + 1)).counter = 0#6 := by
      rw [counter_succ, if_neg hregisters, hup, if_neg Bool.false_ne_true, if_pos hfound]
    have hstill : (passes.button v).counter = 0#6 := by
      apply counter_cleared hzero hgt
      intro w huw hwv h
      exact hover.last w (by omega) hwv.le ⟨h, (hfair w (by omega)).noBounce h⟩
    have hagain := ((factoryReset_iff v).mp hreset).2.2.2
    rw [hstill] at hagain
    exact absurd hagain (by decide)

/-- In every run in which each pass so far is fair, five clicks ask for the factory reset. -/
theorem five_clicks_reset (passes : ButtonPasses) (t : Nat) (hfair : ∀ u, u ≤ t → passes.Fair u) :
    passes.ResetByFive t where
  only := reset_only hfair
  once _ _ hclicks hsixth helapsed := reset_once hfair hclicks hsixth helapsed

/-- Passes 10 ms apart but for one second before pass `late`. -/
def paced (gpio : Nat → Bool) (late : Nat) : ButtonPasses where
  start := 0
  gpio := gpio
  now t := if t < late then 160000 * t else 160000 * t + second
  since := Nat.zero_le _
  mono := monotone_nat_of_le_succ fun t => by
    split_ifs <;> omega

/-- Five clicks of 15 samples down and 15 up, and then a second without any. -/
def fiveClicks : ButtonPasses := paced (fun t => decide (150 ≤ t ∨ 15 ≤ t % 30)) 150

theorem five_clicks_reset_fiveClicks : fiveClicks.ResetByFive 150 :=
  five_clicks_reset fiveClicks 150 (by decide +kernel)

example : fiveClicks.gesture 150 = some .factoryReset := by decide +kernel

/-- One press, whose contact opens for a sample four times before it is let go. -/
def bouncingPress : ButtonPasses :=
  paced (fun t => t == 15 || t == 17 || t == 19 || t == 21 || decide (23 ≤ t)) 38

theorem bounce_resets : ¬ ∀ (passes : ButtonPasses) (t : Nat), passes.ResetByFive t := by
  intro h
  have hreset : bouncingPress.gesture 38 = some .factoryReset := by decide +kernel
  have honly : ∀ u, u < 38 → bouncingPress.Press u → u = 14 := by decide +kernel
  have hnone : ∀ u, u < 14 → ¬ bouncingPress.Release u := by decide +kernel
  obtain ⟨p, q, hclicks, hover⟩ := (h bouncingPress 38).only hreset
  obtain rfl : p = 14 := honly p (hclicks.after.trans hover.after) hclicks.nth.pressed
  have hfirst : NthPress bouncingPress.Press bouncingPress.Release bouncingPress.now second 1 14 :=
    NthPress.first hclicks.nth.pressed fun ⟨r, hr, hrelease, _⟩ => hnone r hr hrelease
  exact absurd (hclicks.nth.unique hfirst) (by decide)

end ButtonPasses

end Watermeter
