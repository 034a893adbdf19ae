import Watermeter.Debounce
import Watermeter.TickClock
import Mathlib.Order.Monotone.Basic

/-! `app_button.c`: the debounced button, its click counter and the gestures it tells apart. -/

namespace Watermeter

/-- `button_t`. -/
structure Button where
  released : Bool
  pressed : Bool
  counter : BitVec 6
  debounce : BitVec 8
  pressedTime : BitVec 32
  releasedTime : BitVec 32
  deriving DecidableEq, Repr

/-- What a pass asks for: one of the delayed resets, or the branch of the short press. -/
inductive Gesture
  | fullReset
  | mcuReset
  | shortPress
  | factoryReset
  deriving DecidableEq, Repr

namespace Button

def debounceButton : BitVec 8 := 16#8

def countFactoryReset : BitVec 6 := 5#6

def timeoutTick1Sec : BitVec 32 := BitVec.ofNat 32 (1000 * 1000)

def timeoutTick5Sec : BitVec 32 := BitVec.ofNat 32 (5 * 1000 * 1000)

def timeoutTick10Sec : BitVec 32 := BitVec.ofNat 32 (10 * 1000 * 1000)

/-- `clock_time_exceed`, with the value that `clock_time` returns. -/
def clockTimeExceed (clockTime ref us : BitVec 32) : Bool := decide (us * 16#32 < clockTime - ref)

/-- `init_button`. -/
def initButton (clockTime : BitVec 32) : Button :=
  { released := false, pressed := false, counter := 0#6, debounce := 1#8, pressedTime := 0#32, releasedTime := clockTime }

/-- The first part of `button_handler`: the sample of the pin, which reads low while the button is down. -/
def sampled (gpio : Bool) (clockTime : BitVec 32) (b : Button) : Button :=
  if !gpio then
    if b.debounce ≠ debounceButton then
      if b.debounce + 1 = debounceButton then
        { b with
          debounce := b.debounce + 1
          pressed := true
          pressedTime := clockTime
          counter := if !clockTimeExceed clockTime b.releasedTime timeoutTick1Sec then b.counter + 1 else 1#6 }
      else { b with debounce := b.debounce + 1 }
    else b
  else if b.debounce ≠ 1#8 then
    if b.debounce - 1 = 1#8 ∧ b.pressed then
      { b with debounce := b.debounce - 1, released := true, releasedTime := clockTime }
    else { b with debounce := b.debounce - 1 }
  else b

/-- The second part of `button_handler`. -/
def classified (clockTime : BitVec 32) (b : Button) : Button × Option Gesture :=
  if b.pressed && b.released then
    ({ b with pressed := false, released := false },
      some (if clockTimeExceed clockTime b.pressedTime timeoutTick10Sec then .fullReset
        else if clockTimeExceed clockTime b.pressedTime timeoutTick5Sec then .mcuReset
        else .shortPress))
  else if !b.pressed then
    if clockTimeExceed clockTime b.releasedTime timeoutTick1Sec then
      if b.counter = countFactoryReset then ({ b with counter := 0#6 }, some .factoryReset)
      else ({ b with counter := 0#6 }, none)
    else (b, none)
  else (b, none)

/-- `button_handler`: the button it leaves, and the gesture it acts on. -/
def buttonHandler (gpio : Bool) (clockTime : BitVec 32) (b : Button) : Button × Option Gesture :=
  (b.sampled gpio clockTime).classified clockTime

end Button

/-- The passes of the handler: the sample of each, and the time in ticks since the clock was started, which
does not wrap; `clock_time` shows its last 32 bits. -/
structure ButtonPasses where
  start : Nat
  gpio : Nat → Bool
  now : Nat → Nat
  since : start ≤ now 0
  mono : Monotone now

namespace ButtonPasses

open Debounce

def closed (passes : ButtonPasses) (t : Nat) : Bool := !passes.gpio t

def clockTime (passes : ButtonPasses) (t : Nat) : BitVec 32 := TickClock.reading 32 (passes.now t)

/-- The button before pass `t`. -/
def button (passes : ButtonPasses) : Nat → Button
  | 0 => Button.initButton (TickClock.reading 32 passes.start)
  | t + 1 => (Button.buttonHandler (passes.gpio t) (passes.clockTime t) (button passes t)).1

def gesture (passes : ButtonPasses) (t : Nat) : Option Gesture :=
  (Button.buttonHandler (passes.gpio t) (passes.clockTime t) (passes.button t)).2

/-- The debounced value before pass `t`. -/
def debounced (passes : ButtonPasses) (t : Nat) : Nat := level 16 passes.closed 1 t

/-- The debounced button is down before pass `t`: of the two ends it was at 16 last. -/
def down (passes : ButtonPasses) (t : Nat) : Bool := pending 16 passes.closed 1 t

def Registers (passes : ButtonPasses) (t : Nat) : Prop := Reaches 16 (passes.closed t) (passes.debounced t)

/-- A press: the value comes to 16 and has been 1 since it last was there. -/
def Press (passes : ButtonPasses) (t : Nat) : Prop := passes.Registers t ∧ passes.down t = false

def Release (passes : ButtonPasses) (t : Nat) : Prop :=
  Clears (passes.closed t) (passes.debounced t) ∧ passes.down t = true

instance (passes : ButtonPasses) (t : Nat) : Decidable (passes.Registers t) :=
  inferInstanceAs (Decidable (Reaches _ _ _))

instance (passes : ButtonPasses) (t : Nat) : Decidable (passes.Press t) := inferInstanceAs (Decidable (_ ∧ _))

instance (passes : ButtonPasses) (t : Nat) : Decidable (passes.Release t) := inferInstanceAs (Decidable (_ ∧ _))

/-- When the button was released last, or the handler was started. -/
def releasedAt (passes : ButtonPasses) : Nat → Nat
  | 0 => passes.start
  | t + 1 => if passes.Release t then passes.now t else releasedAt passes t

end ButtonPasses

/-! ### One pass -/

namespace Button

open Debounce

variable {b : Button} {gpio : Bool} {clockTime : BitVec 32}

def InRange (b : Button) : Prop := 1 ≤ b.debounce.toNat ∧ b.debounce.toNat ≤ 16

theorem sampled_reaches (clockTime : BitVec 32) (h : Reaches 16 (!gpio) b.debounce.toNat) :
    b.sampled gpio clockTime =
      { b with
        debounce := b.debounce + 1
        pressed := true
        pressedTime := clockTime
        counter := if !clockTimeExceed clockTime b.releasedTime timeoutTick1Sec then b.counter + 1 else 1#6 } := by
  obtain ⟨hclosed, hvalue⟩ := h
  have hne : b.debounce ≠ debounceButton := by
    rw [debounceButton]
    bv_omega
  have htop : b.debounce + 1 = debounceButton := by
    rw [debounceButton]
    bv_omega
  rw [sampled, if_pos hclosed, if_pos hne, if_pos htop]

theorem sampled_clears (clockTime : BitVec 32) (h : Clears (!gpio) b.debounce.toNat) :
    b.sampled gpio clockTime =
      if b.pressed then { b with debounce := b.debounce - 1, released := true, releasedTime := clockTime }
      else { b with debounce := b.debounce - 1 } := by
  obtain ⟨hopen, hvalue⟩ := h
  have hup : ¬ (!gpio) = true := by rw [hopen]; exact Bool.false_ne_true
  have hne : b.debounce ≠ 1#8 := by bv_omega
  have hone : b.debounce - 1 = 1#8 := by bv_omega
  rw [sampled, if_neg hup, if_pos hne]
  simp only [hone, true_and]

/-- Away from the ends a sample moves the debounce value only. -/
theorem sampled_between (clockTime : BitVec 32) (hreach : ¬ Reaches 16 (!gpio) b.debounce.toNat)
    (hclear : ¬ Clears (!gpio) b.debounce.toNat) :
    ∃ debounce, b.sampled gpio clockTime = { b with debounce := debounce } := by
  cases gpio with
  | false =>
    by_cases htop : b.debounce = debounceButton
    · exact ⟨b.debounce, by rw [sampled, if_pos Bool.not_false, if_neg (not_not.mpr htop)]⟩
    · have hne : b.debounce + 1 ≠ debounceButton := by
        intro hnext
        refine hreach ⟨rfl, ?_⟩
        rw [debounceButton] at hnext
        bv_omega
      exact ⟨b.debounce + 1, by rw [sampled, if_pos Bool.not_false, if_pos htop, if_neg hne]⟩
  | true =>
    have hup : ¬ (!true) = true := by decide
    by_cases hone : b.debounce = 1#8
    · exact ⟨b.debounce, by rw [sampled, if_neg hup, if_neg (not_not.mpr hone)]⟩
    · have hne : b.debounce - 1 ≠ 1#8 := by
        intro hnext
        refine hclear ⟨rfl, ?_⟩
        bv_omega
      exact ⟨b.debounce - 1, by rw [sampled, if_neg hup, if_pos hone, if_neg fun h => hne h.1]⟩

theorem sampled_debounce (h : b.InRange) :
    (b.sampled gpio clockTime).debounce.toNat = poll 16 (!gpio) b.debounce.toNat := by
  obtain ⟨hlow, hhigh⟩ := h
  unfold sampled poll debounceButton
  split_ifs <;> first | rfl | bv_omega

theorem classified_debounce (clockTime : BitVec 32) (b : Button) : (b.classified clockTime).1.debounce = b.debounce := by
  unfold classified
  split_ifs <;> rfl

theorem buttonHandler_debounce (h : b.InRange) :
    (buttonHandler gpio clockTime b).1.debounce.toNat = poll 16 (!gpio) b.debounce.toNat := by
  rw [buttonHandler, classified_debounce]
  exact sampled_debounce h

/-- Between two passes no release is waiting to be classified. -/
theorem classified_up (clockTime : BitVec 32) (hpressed : b.pressed = false) :
    b.classified clockTime =
      if clockTimeExceed clockTime b.releasedTime timeoutTick1Sec then
        if b.counter = countFactoryReset then ({ b with counter := 0#6 }, some .factoryReset)
        else ({ b with counter := 0#6 }, none)
      else (b, none) := by
  simp [classified, hpressed]

theorem classified_held (clockTime : BitVec 32) (hpressed : b.pressed = true) (hreleased : b.released = false) :
    b.classified clockTime = (b, none) := by
  simp [classified, hpressed, hreleased]

theorem classified_release (clockTime : BitVec 32) (hpressed : b.pressed = true) (hreleased : b.released = true) :
    ∃ gesture, gesture ≠ .factoryReset ∧
      b.classified clockTime = ({ b with pressed := false, released := false }, some gesture) := by
  refine ⟨_, ?_, by rw [classified, hpressed, hreleased, Bool.and_self, if_pos rfl]⟩
  split_ifs <;> exact Gesture.noConfusion

/-- What a pass does to the click counter and the flags, and when it asks for the factory reset. -/
structure Pass (gpio : Bool) (clockTime : BitVec 32) (b : Button) : Prop where
  pressed : (buttonHandler gpio clockTime b).1.pressed =
    if Reaches 16 (!gpio) b.debounce.toNat then true
    else if Clears (!gpio) b.debounce.toNat then false
    else b.pressed
  released : (buttonHandler gpio clockTime b).1.released = false
  releasedTime : (buttonHandler gpio clockTime b).1.releasedTime =
    if Clears (!gpio) b.debounce.toNat ∧ b.pressed then clockTime else b.releasedTime
  counter : (buttonHandler gpio clockTime b).1.counter =
    if Reaches 16 (!gpio) b.debounce.toNat then
      if clockTimeExceed clockTime b.releasedTime timeoutTick1Sec then 1#6 else b.counter + 1
    else if b.pressed then b.counter
    else if clockTimeExceed clockTime b.releasedTime timeoutTick1Sec then 0#6
    else b.counter
  factoryReset : (buttonHandler gpio clockTime b).2 = some .factoryReset ↔
    ¬ Reaches 16 (!gpio) b.debounce.toNat ∧ b.pressed = false ∧
      clockTimeExceed clockTime b.releasedTime timeoutTick1Sec = true ∧ b.counter = countFactoryReset

theorem pass_reaches (hreach : Reaches 16 (!gpio) b.debounce.toNat) (hreleased : b.released = false) :
    Pass gpio clockTime b := by
  have hclear : ¬ Clears (!gpio) b.debounce.toNat := fun h => by
    have hvalue := hreach.2
    have hlow := h.2
    omega
  have heq := sampled_reaches clockTime hreach
  have hheld := classified_held (b := b.sampled gpio clockTime) clockTime (by rw [heq]) (by rw [heq, hreleased])
  constructor <;> rw [buttonHandler, hheld, heq] <;> simp [hreach, hclear, hreleased]
  cases clockTimeExceed clockTime b.releasedTime timeoutTick1Sec <;> rfl

theorem pass_release (hclear : Clears (!gpio) b.debounce.toNat) (hpressed : b.pressed = true) : Pass gpio clockTime b := by
  have hreach : ¬ Reaches 16 (!gpio) b.debounce.toNat := fun h => by
    have hvalue := h.2
    have hlow := hclear.2
    omega
  have heq := sampled_clears clockTime hclear
  rw [if_pos hpressed] at heq
  obtain ⟨gesture, hne, hgesture⟩ := classified_release (b := b.sampled gpio clockTime) clockTime
    (by rw [heq, hpressed]) (by rw [heq])
  constructor <;> rw [buttonHandler, hgesture, heq] <;> simp [hreach, hclear, hpressed, hne]

/-- A pass that moves nothing but the debounce value is idle while the button is up. -/
theorem pass_kept {d : BitVec 8} (hkept : b.sampled gpio clockTime = { b with debounce := d })
    (hreach : ¬ Reaches 16 (!gpio) b.debounce.toNat) (hclear : b.pressed = true → ¬ Clears (!gpio) b.debounce.toNat)
    (hreleased : b.released = false) : Pass gpio clockTime b := by
  cases hpressed : b.pressed with
  | true =>
    have hheld := classified_held (b := b.sampled gpio clockTime) clockTime (by rw [hkept, hpressed])
      (by rw [hkept, hreleased])
    constructor <;> rw [buttonHandler, hheld, hkept] <;> simp [hreach, hclear hpressed, hpressed, hreleased]
  | false =>
    have hup := classified_up (b := b.sampled gpio clockTime) clockTime (by rw [hkept, hpressed])
    rw [hkept] at hup
    constructor <;> rw [buttonHandler, hkept, hup] <;> split_ifs <;> simp_all

theorem buttonHandler_pass (gpio : Bool) (clockTime : BitVec 32) (hreleased : b.released = false) :
    Pass gpio clockTime b := by
  by_cases hreach : Reaches 16 (!gpio) b.debounce.toNat
  · exact pass_reaches hreach hreleased
  by_cases hclear : Clears (!gpio) b.debounce.toNat
  · cases hpressed : b.pressed with
    | true => exact pass_release hclear hpressed
    | false =>
      have hkept := sampled_clears clockTime hclear
      rw [hpressed, if_neg Bool.false_ne_true] at hkept
      exact pass_kept (hkept.trans (by rw [hpressed])) hreach (fun h => by simp [hpressed] at h) hreleased
  · obtain ⟨d, hkept⟩ := sampled_between clockTime hreach hclear
    exact pass_kept hkept hreach (fun _ => hclear) hreleased

end Button

end Watermeter
