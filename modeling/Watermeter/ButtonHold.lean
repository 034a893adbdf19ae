import Watermeter.ButtonClicks

/-! How long the button is held. The handler takes the time at every arrival of the debounced value at 16 and
compares it, in 32 bits, when the press ends. -/

namespace Watermeter

open Debounce

namespace Button

variable {b : Button} {gpio : Bool} {clockTime : BitVec 32}

/-! ### The time of the press in one pass -/

theorem sampled_pressedTime (gpio : Bool) (clockTime : BitVec 32) (b : Button) :
    (b.sampled gpio clockTime).pressedTime = if Reaches 16 (!gpio) b.debounce.toNat then clockTime else b.pressedTime := by
  by_cases hreach : Reaches 16 (!gpio) b.debounce.toNat
  · rw [if_pos hreach, sampled_reaches clockTime hreach]
  rw [if_neg hreach]
  by_cases hclear : Clears (!gpio) b.debounce.toNat
  · rw [sampled_clears clockTime hclear]
    split <;> rfl
  · obtain ⟨d, hkept⟩ := sampled_between clockTime hreach hclear
    rw [hkept]

theorem classified_pressedTime (clockTime : BitVec 32) (b : Button) :
    (b.classified clockTime).1.pressedTime = b.pressedTime := by
  unfold classified
  split_ifs <;> rfl

theorem buttonHandler_pressedTime (gpio : Bool) (clockTime : BitVec 32) (b : Button) :
    (buttonHandler gpio clockTime b).1.pressedTime =
      if Reaches 16 (!gpio) b.debounce.toNat then clockTime else b.pressedTime := by
  rw [buttonHandler, classified_pressedTime, sampled_pressedTime]

/-- The branch taken when a press ends. -/
def heldAction (clockTime pressedTime : BitVec 32) : Gesture :=
  if clockTimeExceed clockTime pressedTime timeoutTick10Sec then .fullReset
  else if clockTimeExceed clockTime pressedTime timeoutTick5Sec then .mcuReset
  else .shortPress

theorem heldAction_ne (clockTime pressedTime : BitVec 32) : heldAction clockTime pressedTime ≠ .factoryReset := by
  unfold heldAction
  split_ifs <;> exact Gesture.noConfusion

theorem gesture_release (hclear : Clears (!gpio) b.debounce.toNat) (hpressed : b.pressed = true) :
    (buttonHandler gpio clockTime b).2 = some (heldAction clockTime b.pressedTime) := by
  rw [buttonHandler, sampled_clears clockTime hclear, if_pos hpressed, classified]
  simp only [hpressed, Bool.and_self, if_true]
  rfl

/-- Without the end of a press there is at most the factory reset. -/
theorem gesture_other (hreleased : b.released = false)
    (h : ¬ (Clears (!gpio) b.debounce.toNat ∧ b.pressed = true)) :
    (buttonHandler gpio clockTime b).2 = none ∨ (buttonHandler gpio clockTime b).2 = some .factoryReset := by
  have hkept : (b.sampled gpio clockTime).released = false := by
    by_cases hreach : Reaches 16 (!gpio) b.debounce.toNat
    · rw [sampled_reaches clockTime hreach]; exact hreleased
    by_cases hclear : Clears (!gpio) b.debounce.toNat
    · rw [sampled_clears clockTime hclear, if_neg fun hpressed => h ⟨hclear, hpressed⟩]; exact hreleased
    · obtain ⟨d, hd⟩ := sampled_between clockTime hreach hclear
      rw [hd]; exact hreleased
  rw [buttonHandler, classified, hkept, Bool.and_false, if_neg Bool.false_ne_true]
  split_ifs
  · exact Or.inr rfl
  · exact Or.inl rfl
  · exact Or.inl rfl
  · exact Or.inl rfl

end Button

namespace ButtonPasses

/-! ### What the hold calls for -/

/-- The gesture of a hold of `ticks` ticks: more than 10 s, from 5 s to 10 s, or less than 5 s. -/
def byHold (ticks : Nat) : Gesture :=
  if 10 * second < ticks then .fullReset else if 5 * second ≤ ticks then .mcuReset else .shortPress

/-- A press that starts in pass `p` and ends in pass `t`. -/
structure Hold (passes : ButtonPasses) (p t : Nat) : Prop where
  press : passes.Press p
  after : p < t
  release : passes.Release t
  held : ∀ u, p < u → u < t → ¬ passes.Release u

/-- One of the three actions is taken. -/
def Acts (passes : ButtonPasses) (t : Nat) : Prop := ∃ g, g ≠ Gesture.factoryReset ∧ passes.gesture t = some g

/-- The press that ends in pass `t` is classified by its true length, and acted on once before the next press. -/
structure TimedHold (passes : ButtonPasses) (t : Nat) : Prop where
  action : ∀ p, passes.Hold p t → passes.gesture t = some (byHold (passes.now t - passes.now p))
  single : ∀ p, passes.Hold p t → ∃! u, p ≤ u ∧ (∀ v, p < v → v ≤ u → ¬ passes.Press v) ∧ passes.Acts u

/-- Pass `r` is the last before `t` in which the debounced value has come to 16. -/
structure LastArrival (passes : ButtonPasses) (r t : Nat) : Prop where
  arrival : passes.Registers r
  before : r < t
  last : ∀ u, r < u → u < t → ¬ passes.Registers u

/-- The ticks since the last arrival, modulo a turn of the timer, fall on the side of 5 s and of 10 s on which the
hold is. -/
def TimerAgrees (passes : ButtonPasses) (t : Nat) : Prop :=
  ∀ p r, passes.Hold p t → passes.LastArrival r t →
    (10 * second < passes.now t - passes.now p → 10 * second < (passes.now t - passes.now r) % 2 ^ 32) ∧
      (5 * second ≤ passes.now t - passes.now p → 5 * second < (passes.now t - passes.now r) % 2 ^ 32)

variable {passes : ButtonPasses} {t p r : Nat}

theorem pressedTime_succ (t : Nat) :
    (passes.button (t + 1)).pressedTime =
      if passes.Registers t then passes.clockTime t else (passes.button t).pressedTime := by
  have hpass := Button.buttonHandler_pressedTime (passes.gpio t) (passes.clockTime t) (passes.button t)
  simp only [reaches_iff] at hpass
  exact hpass

/-- The time of the press is the time of the last arrival. -/
theorem LastArrival.pressedTime (h : passes.LastArrival r t) : (passes.button t).pressedTime = passes.clockTime r := by
  obtain ⟨harrival, hbefore, hlast⟩ := h
  induction t, Nat.succ_le_of_lt hbefore using Nat.le_induction with
  | base => rw [pressedTime_succ, if_pos harrival]
  | succ t hrt ih =>
    rw [pressedTime_succ, if_neg (hlast t hrt (Nat.lt_succ_self t)),
      ih hrt fun u hu hut => hlast u hu (Nat.lt_succ_of_lt hut)]

theorem exists_lastArrival (hp : passes.Registers p) (hpt : p < t) : ∃ r, p ≤ r ∧ passes.LastArrival r t := by
  induction t, Nat.succ_le_of_lt hpt using Nat.le_induction with
  | base => exact ⟨p, le_refl p, hp, Nat.lt_succ_self p, fun u hu hut => by omega⟩
  | succ t hat ih =>
    by_cases hregisters : passes.Registers t
    · exact ⟨t, by omega, hregisters, Nat.lt_succ_self t, fun u hu hut => by omega⟩
    · obtain ⟨r, hpr, hr⟩ := ih hat
      refine ⟨r, hpr, hr.arrival, Nat.lt_succ_of_lt hr.before, fun u hu hut => ?_⟩
      rcases Nat.lt_succ_iff_lt_or_eq.mp hut with hlt | rfl
      · exact hr.last u hu hlt
      · exact hregisters

theorem LastArrival.unique {r' : Nat} (h : passes.LastArrival r t) (h' : passes.LastArrival r' t) : r = r' := by
  rcases Nat.lt_trichotomy r r' with hlt | heq | hgt
  · exact absurd h'.arrival (h.last r' hlt h'.before)
  · exact heq
  · exact absurd h.arrival (h'.last r hgt h.before)

theorem gesture_of_release (h : passes.Release t) :
    passes.gesture t = some (Button.heldAction (passes.clockTime t) (passes.button t).pressedTime) :=
  Button.gesture_release ((clears_iff t).mpr h.1) ((button_pressed t).trans h.2)

/-- An action is taken exactly when a press ends. -/
theorem acts_iff (t : Nat) : passes.Acts t ↔ passes.Release t := by
  constructor
  · rintro ⟨g, hne, hg⟩
    by_contra hrelease
    have hkeeps : ¬ (Clears (!passes.gpio t) (passes.button t).debounce.toNat ∧ (passes.button t).pressed = true) := by
      rw [clears_iff, button_pressed]
      exact hrelease
    have hother : passes.gesture t = none ∨ passes.gesture t = some .factoryReset :=
      Button.gesture_other (button_released t) hkeeps
    rcases hother with hnone | hreset
    · have hbad := hg.symm.trans hnone
      cases hbad
    · exact hne (Option.some.inj (hg.symm.trans hreset))
  · intro h
    exact ⟨_, Button.heldAction_ne _ _, gesture_of_release h⟩

/-! ### One action for each press -/

theorem Hold.no_press (h : passes.Hold p t) : ∀ v, p < v → v ≤ t → ¬ passes.Press v := by
  intro v hpv hvt hpress
  have hdown : passes.down v = true := down_until h.press hpv fun u hpu huv => h.held u hpu (by omega)
  rw [hpress.2] at hdown
  exact Bool.false_ne_true hdown

theorem Hold.single (h : passes.Hold p t) :
    ∃! u, p ≤ u ∧ (∀ v, p < v → v ≤ u → ¬ passes.Press v) ∧ passes.Acts u := by
  refine ⟨t, ⟨h.after.le, h.no_press, (acts_iff t).mpr h.release⟩, ?_⟩
  rintro u ⟨hpu, hnone, hacts⟩
  have hrelease := (acts_iff u).mp hacts
  rcases Nat.lt_trichotomy u t with hlt | heq | hgt
  · rcases Nat.lt_or_eq_of_le hpu with hlt' | rfl
    · exact absurd hrelease (h.held u hlt' hlt)
    · exact absurd hrelease h.press.1.not_release
  · exact heq
  · have hup : passes.down u = false :=
      (up_until h.release.up hgt fun v htv hvu => hnone v (by have := h.after; omega) hvu.le).1
    exact absurd (hup.symm.trans hrelease.2) Bool.false_ne_true

/-! ### The class of a press -/

theorem clockTimeExceed_iff (hr : r ≤ t) {span : Nat} (hspan : span < 2 ^ 32) {us : BitVec 32}
    (hus : us * 16#32 = BitVec.ofNat 32 span) :
    Button.clockTimeExceed (passes.clockTime t) (passes.clockTime r) us = true ↔
      span < (passes.now t - passes.now r) % 2 ^ 32 := by
  have hexceeds : TickClock.Exceeds (passes.now t) (TickClock.reading 32 (passes.now r)) (BitVec.ofNat 32 span) ↔
      span % 2 ^ 32 < (passes.now t - passes.now r) % 2 ^ 32 := TickClock.exceeds_iff (passes.mono hr)
  rw [Nat.mod_eq_of_lt hspan] at hexceeds
  rw [Button.clockTimeExceed, decide_eq_true_iff, hus, ← hexceeds]
  rfl

/-- The two comparisons see the ticks since the last arrival, modulo a turn of the timer. -/
theorem heldAction_eq (hr : r ≤ t) :
    Button.heldAction (passes.clockTime t) (passes.clockTime r) =
      if 10 * second < (passes.now t - passes.now r) % 2 ^ 32 then .fullReset
      else if 5 * second < (passes.now t - passes.now r) % 2 ^ 32 then .mcuReset else .shortPress := by
  have hten : Button.clockTimeExceed (passes.clockTime t) (passes.clockTime r) Button.timeoutTick10Sec = true ↔
      10 * second < (passes.now t - passes.now r) % 2 ^ 32 := clockTimeExceed_iff hr (by decide) (by decide)
  have hfive : Button.clockTimeExceed (passes.clockTime t) (passes.clockTime r) Button.timeoutTick5Sec = true ↔
      5 * second < (passes.now t - passes.now r) % 2 ^ 32 := clockTimeExceed_iff hr (by decide) (by decide)
  rw [Button.heldAction]
  exact if_congr hten rfl (if_congr hfive rfl rfl)

/-- The class that `m` ticks get is that of a hold of at least as many exactly when `m` passes the two bounds
that the hold passes. -/
theorem class_eq_iff {h m : Nat} (hm : m ≤ h) :
    (if 10 * second < m then Gesture.fullReset else if 5 * second < m then .mcuReset else .shortPress) = byHold h ↔
      (10 * second < h → 10 * second < m) ∧ (5 * second ≤ h → 5 * second < m) := by
  have hsecond : 0 < second := by decide
  unfold byHold
  split_ifs <;> simp only [true_iff, false_iff] <;> omega

theorem Hold.action_iff (h : passes.Hold p t) (hr : passes.LastArrival r t) (hpr : p ≤ r) :
    passes.gesture t = some (byHold (passes.now t - passes.now p)) ↔
      (10 * second < passes.now t - passes.now p → 10 * second < (passes.now t - passes.now r) % 2 ^ 32) ∧
        (5 * second ≤ passes.now t - passes.now p → 5 * second < (passes.now t - passes.now r) % 2 ^ 32) := by
  have hle : (passes.now t - passes.now r) % 2 ^ 32 ≤ passes.now t - passes.now p := by
    have hmono := passes.mono hpr
    have hmod := Nat.mod_le (passes.now t - passes.now r) (2 ^ 32)
    omega
  rw [gesture_of_release h.release, hr.pressedTime, heldAction_eq hr.before.le, Option.some.injEq, class_eq_iff hle]

/-- A press is classified by its true length, and acted on once, exactly when the timer agrees with the hold. -/
theorem timed_hold_iff (passes : ButtonPasses) (t : Nat) : passes.TimedHold t ↔ passes.TimerAgrees t := by
  constructor
  · intro h p r hp hr
    obtain ⟨r', hpr, hr'⟩ := exists_lastArrival hp.press.1 hp.after
    obtain rfl := hr.unique hr'
    exact (hp.action_iff hr hpr).mp (h.action p hp)
  · intro h
    refine ⟨fun p hp => ?_, fun p hp => hp.single⟩
    obtain ⟨r, hpr, hr⟩ := exists_lastArrival hp.press.1 hp.after
    exact (hp.action_iff hr hpr).mpr (h p r hp hr)

/-- Passes 0.1 s apart; the button is held for 75 of them, and its contact opens for a sample in the 71st. -/
def bouncingHold : ButtonPasses where
  start := 0
  gpio t := t == 70 || decide (75 ≤ t)
  now t := 1600000 * t
  since := Nat.zero_le _
  mono := monotone_nat_of_le_succ fun t => by omega

theorem bounce_shortens : ¬ ∀ (passes : ButtonPasses) (t : Nat), passes.TimedHold t := by
  intro h
  have hheld : ∀ u, u < 89 → ¬ bouncingHold.Release u := by decide +kernel
  have hhold : bouncingHold.Hold 14 89 :=
    ⟨by decide +kernel, by decide, by decide +kernel, fun u _ hu => hheld u hu⟩
  have hshort : bouncingHold.gesture 89 = some .shortPress := by decide +kernel
  have haction := (h bouncingHold 89).action 14 hhold
  rw [hshort] at haction
  exact absurd haction (by decide)

end ButtonPasses

end Watermeter
