import Mathlib.Logic.Function.Iterate
import Mathlib.Data.Nat.Basic

/-! A light that blinks a number of times: it goes away from its resting state and comes back. A timer drives it, and
a request for another number while it blinks changes the number only. -/

/-- `left` counts the blinks that have not ended, the one in progress or just ended with them. -/
structure Blinker where
  away : Bool
  left : Nat
  pending : Bool
  deriving DecidableEq, Repr

namespace Blinker

def rest : Blinker := ⟨false, 0, false⟩

def start (times : Nat) (b : Blinker) : Blinker :=
  if b.pending then { b with left := times } else ⟨true, times, true⟩

def stop (b : Blinker) : Blinker := if b.pending then rest else b

/-- The timer fires. -/
def fire (b : Blinker) : Blinker :=
  if b.pending then
    if b.away then { b with away := false }
    else if b.left ≤ 1 then rest else { b with away := true, left := b.left - 1 }
  else b

/-- The blinks that begin in `m` firings. -/
def begun (b : Blinker) : Nat → Nat
  | 0 => 0
  | m + 1 => (if !b.away && b.fire.away then 1 else 0) + b.fire.begun m

/-- Between two blinks one firing is gone already. -/
def phase (b : Blinker) : Nat := if b.away then 0 else 1

variable {b : Blinker}

theorem fire_idle (hidle : b.pending = false) : b.fire = b := by simp [fire, hidle]

theorem begun_idle (hidle : b.pending = false) (m : Nat) : b.begun m = 0 := by
  induction m with
  | zero => rfl
  | succ m ih =>
      rw [begun, fire_idle hidle, ih]
      cases b.away <;> rfl

theorem fire_away (hpending : b.pending = true) (haway : b.away = true) : b.fire = { b with away := false } := by
  simp [fire, hpending, haway]

theorem fire_last (hpending : b.pending = true) (hback : b.away = false) (hlast : b.left ≤ 1) : b.fire = rest := by
  simp [fire, hpending, hback, hlast]

theorem fire_next (hpending : b.pending = true) (hback : b.away = false) (hleft : ¬ b.left ≤ 1) :
    b.fire = { b with away := true, left := b.left - 1 } := by
  simp [fire, hpending, hback, hleft]

/-- Of the blinks that are left, each takes two firings. -/
theorem begun_eq (hpending : b.pending = true) (hleft : 1 ≤ b.left) (m : Nat) :
    b.begun m = min (b.left - 1) ((m + b.phase) / 2) ∧
      ((fire^[m] b).pending = true ↔ m + b.phase < 2 * b.left) := by
  induction m generalizing b with
  | zero =>
      have hphase : b.phase ≤ 1 := by unfold phase; split <;> omega
      refine ⟨?_, iff_of_true hpending (by omega)⟩
      rw [begun, Nat.div_eq_of_lt (by omega), Nat.min_zero]
  | succ m ih =>
      rw [Function.iterate_succ_apply, begun]
      cases haway : b.away with
      | true =>
          have hnext := fire_away hpending haway
          obtain ⟨hbegun, hgoes⟩ := @ih b.fire (by rw [hnext]; exact hpending) (by rw [hnext]; exact hleft)
          rw [hbegun, hgoes, hnext]
          simp only [phase, haway]
          grind
      | false =>
          by_cases hlast : b.left ≤ 1
          · have hidle : b.fire.pending = false := by rw [fire_last hpending haway hlast]; rfl
            have hstays : fire^[m] b.fire = b.fire := Function.iterate_fixed (fire_idle hidle) m
            rw [begun_idle hidle, hstays, hidle, fire_last hpending haway hlast]
            simp only [phase, haway, rest]
            grind
          · have hnext := fire_next hpending haway hlast
            obtain ⟨hbegun, hgoes⟩ := @ih b.fire (by rw [hnext]; exact hpending) (by rw [hnext]; dsimp only; omega)
            rw [hbegun, hgoes, hnext]
            simp only [phase, haway]
            grind

/-! ### In time -/

/-- A blinking light with its timer: the milliseconds to the next firing, and those a blink takes away and back. -/
structure Timed where
  blinker : Blinker
  timeout : Nat
  awayTime : Nat
  backTime : Nat
  deriving DecidableEq, Repr

namespace Timed

variable {t : Timed}

/-- The milliseconds the light stays as it is. -/
def interval (t : Timed) : Nat := if t.blinker.away then t.awayTime else t.backTime

/-- The timer is set after a firing. -/
def fire (t : Timed) : Timed :=
  let fired := { t with blinker := t.blinker.fire }
  { fired with timeout := if fired.blinker.pending then fired.interval else 0 }

/-- A millisecond. -/
def tick (t : Timed) : Timed :=
  if t.blinker.pending then if t.timeout ≤ 1 then t.fire else { t with timeout := t.timeout - 1 } else t

/-- The milliseconds the light goes on blinking for. -/
def span (t : Timed) : Nat :=
  if t.blinker.pending then
    t.timeout + (if t.blinker.away then t.backTime else 0) + (t.blinker.left - 1) * (t.awayTime + t.backTime)
  else 0

/-- While the light blinks its timer is set, and so are the times. -/
structure Running (t : Timed) : Prop where
  left : 1 ≤ t.blinker.left
  timeout : 1 ≤ t.timeout
  awayTime : 1 ≤ t.awayTime
  backTime : 1 ≤ t.backTime

theorem span_idle (hidle : t.blinker.pending = false) : t.span = 0 := if_neg (Bool.eq_false_iff.mp hidle)

/-- A light that has just been started blinks for the times it was asked to. -/
theorem span_fresh {times a b : Nat} (htimes : 1 ≤ times) :
    span ⟨⟨true, times, true⟩, a, a, b⟩ = times * (a + b) := by
  obtain ⟨j, rfl⟩ := Nat.exists_eq_add_of_le htimes
  simp only [span, if_true, Nat.add_sub_cancel_left, Nat.add_mul, Nat.one_mul]

theorem span_pos (hrun : t.blinker.pending = true → t.Running) : 0 < t.span ↔ t.blinker.pending = true := by
  by_cases hpending : t.blinker.pending = true
  · rw [span, if_pos hpending]
    have htimeout := (hrun hpending).timeout
    exact iff_of_true (by omega) hpending
  · rw [span_idle (Bool.eq_false_iff.mpr hpending)]
    exact iff_of_false (lt_irrefl 0) hpending

theorem span_fire (hpending : t.blinker.pending = true) : t.fire.span = t.span - t.timeout := by
  cases haway : t.blinker.away with
  | true =>
      rw [fire, fire_away hpending haway]
      simp only [span, interval, hpending, haway, if_true, Bool.false_eq_true, if_false]
      omega
  | false =>
      by_cases hlast : t.blinker.left ≤ 1
      · rw [fire, fire_last hpending haway hlast]
        simp only [span, rest, hpending, haway, if_true, Bool.false_eq_true, if_false, Nat.sub_eq_zero_of_le hlast]
        omega
      · rw [fire, fire_next hpending haway hlast]
        obtain ⟨k, hk⟩ : ∃ k, t.blinker.left = k + 2 := ⟨t.blinker.left - 2, by omega⟩
        simp only [span, interval, hpending, haway, if_true, Bool.false_eq_true, if_false, hk]
        have hblink : (k + 2 - 1) * (t.awayTime + t.backTime) =
            (k + 2 - 1 - 1) * (t.awayTime + t.backTime) + (t.awayTime + t.backTime) := Nat.succ_mul _ _
        omega

theorem running_fire (hrun : t.Running) (hpending : t.blinker.pending = true) :
    t.fire.blinker.pending = true → t.fire.Running := by
  intro hgoes
  have hinterval : 1 ≤ t.fire.timeout := by
    have htimeout : t.fire.timeout = t.fire.interval := by
      change (if t.fire.blinker.pending then t.fire.interval else 0) = t.fire.interval
      rw [if_pos hgoes]
    rw [htimeout, interval]
    split_ifs
    · exact hrun.awayTime
    · exact hrun.backTime
  refine ⟨?_, hinterval, hrun.awayTime, hrun.backTime⟩
  change 1 ≤ t.blinker.fire.left
  cases haway : t.blinker.away with
  | true =>
      rw [fire_away hpending haway]
      exact hrun.left
  | false =>
      by_cases hlast : t.blinker.left ≤ 1
      · have hends : t.blinker.fire.pending = true := hgoes
        rw [fire_last hpending haway hlast] at hends
        exact absurd hends Bool.false_ne_true
      · rw [fire_next hpending haway hlast]
        exact Nat.le_sub_of_add_le (by omega)

theorem span_tick (hrun : t.blinker.pending = true → t.Running) : t.tick.span = t.span - 1 := by
  unfold tick
  split_ifs with hpending hlast
  · rw [span_fire hpending, le_antisymm hlast (hrun hpending).timeout]
  · simp only [span, hpending, if_true]
    omega
  · rw [span_idle (Bool.eq_false_iff.mpr hpending)]

theorem running_tick (hrun : t.blinker.pending = true → t.Running) : t.tick.blinker.pending = true → t.tick.Running := by
  unfold tick
  split_ifs with hpending hlast
  · exact running_fire (hrun hpending) hpending
  · obtain ⟨hleft, htimeout, haway, hback⟩ := hrun hpending
    exact fun _ => ⟨hleft, Nat.le_sub_of_add_le (by omega), haway, hback⟩
  · exact hrun

/-- A blink, and what is left of the present one, take at most `k` milliseconds. -/
structure Within (k : Nat) (t : Timed) : Prop where
  present : t.timeout + (if t.blinker.away then t.backTime else 0) ≤ k
  blink : t.awayTime + t.backTime ≤ k

variable {k : Nat}

theorem Within.span_le (h : t.Within k) (hleft : 1 ≤ t.blinker.left) : t.span ≤ k * t.blinker.left := by
  by_cases hpending : t.blinker.pending = true
  · calc t.span
      _ = t.timeout + (if t.blinker.away then t.backTime else 0) +
            (t.blinker.left - 1) * (t.awayTime + t.backTime) := if_pos hpending
      _ ≤ k + (t.blinker.left - 1) * k := Nat.add_le_add h.present (Nat.mul_le_mul_left _ h.blink)
      _ = (t.blinker.left - 1 + 1) * k := by rw [Nat.add_mul, Nat.one_mul, Nat.add_comm]
      _ = k * t.blinker.left := by rw [Nat.sub_add_cancel hleft, Nat.mul_comm]
  · rw [span_idle (Bool.eq_false_iff.mpr hpending)]
    exact Nat.zero_le _

theorem Within.fire (h : t.Within k) (hpending : t.blinker.pending = true) : t.fire.Within k := by
  have hblink := h.blink
  refine ⟨?_, hblink⟩
  cases haway : t.blinker.away with
  | true =>
      rw [Timed.fire, fire_away hpending haway]
      simp only [interval, hpending, if_true, Bool.false_eq_true, if_false]
      omega
  | false =>
      by_cases hlast : t.blinker.left ≤ 1
      · rw [Timed.fire, fire_last hpending haway hlast]
        exact Nat.zero_le k
      · rw [Timed.fire, fire_next hpending haway hlast]
        simp only [interval, hpending, if_true]
        omega

theorem Within.tick (h : t.Within k) : t.tick.Within k := by
  unfold Timed.tick
  split_ifs with hpending
  · exact h.fire hpending
  · exact ⟨le_trans (Nat.add_le_add_right (Nat.sub_le _ _) _) h.present, h.blink⟩
  · exact h

end Timed

end Blinker
