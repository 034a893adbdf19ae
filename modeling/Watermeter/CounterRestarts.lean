import Watermeter.CounterPulses
import Mathlib.Algebra.BigOperators.Group.Finset.Basic

/-! One pulse per closure, over restarts. The levels of the pins are saved before the MCU goes off and read again
when it starts; the debounce values are not. A closure that is still being debounced when its level is saved is
lost, and so is one found at the start if the MCU goes off again before a pass takes the pulse. -/

namespace Watermeter

/-- `set_regDeepSleep`. -/
def setRegDeepSleep (pins : Pins) : BitVec 8 :=
  let regDeepSleep := 0x04#8
  let regDeepSleep := if pins.hotGpio then regDeepSleep ||| 0x01#8 else regDeepSleep
  if pins.coldGpio then regDeepSleep ||| 0x02#8 else regDeepSleep

/-- A pass of `counters_handler`, or a restart: the pins when their levels are saved and when the MCU runs again,
and the variables `init_counters` finds then. -/
inductive CounterEvent
  | countersHandler (pins : Pins)
  | restart (before after : Pins) (found : Meter)

def Meter.next (s : Meter) : CounterEvent → Meter
  | .countersHandler pins => (Watermeter.countersHandler pins s).1
  | .restart before after found => initCounters (setRegDeepSleep before) after found

/-- The pulses an event adds to the total of a channel. -/
def Meter.pulses (s : Meter) (ch : Channel) : CounterEvent → Nat
  | .countersHandler pins => (pollCounter (pins.gpio ch) (s.counter ch)).counter.toNat
  | .restart .. => 0

def CounterEvent.polls : CounterEvent → Nat
  | .countersHandler _ => 1
  | .restart .. => 0

/-- The variables before event `t`. -/
def meterBefore (s : Meter) (events : Nat → CounterEvent) : Nat → Meter
  | 0 => s
  | t + 1 => (meterBefore s events t).next (events t)

/-- The contact is closed whenever the event reads it. -/
def CounterEvent.Closed (ch : Channel) : CounterEvent → Prop
  | .countersHandler pins => pins.gpio ch = false
  | .restart before after _ => before.gpio ch = false ∧ after.gpio ch = false

/-- The contact is closed when the event reads it last. -/
def CounterEvent.Closes (ch : Channel) : CounterEvent → Prop
  | .countersHandler pins => pins.gpio ch = false
  | .restart _ after _ => after.gpio ch = false

/-- The event saves the level of a closed contact. -/
def CounterEvent.SavesClosed (ch : Channel) : CounterEvent → Prop
  | .countersHandler _ => False
  | .restart before _ _ => before.gpio ch = false

/-- The closure that holds the value at its upper end has been counted. -/
def WaterCounter.Taken (c : WaterCounter) : Prop := c.debounce = debounceCounter ∧ c.counter = 0#8

section Run

variable (s : Meter) (events : Nat → CounterEvent) (ch : Channel)

/-- The pulses of the `n` events from event `a` on. -/
def pulsesIn (a n : Nat) : Nat := ∑ i ∈ Finset.range n, (meterBefore s events (a + i)).pulses ch (events (a + i))

/-- A closure that begins with event `a`, from a debounce value of 1, and has lasted for `n` events and no less than
31 passes. -/
structure Closure (a n : Nat) : Prop where
  from_one : ((meterBefore s events a).counter ch).debounce = 1#8
  closes : (events a).Closes ch
  closed : ∀ i, 0 < i → i < n → (events (a + i)).Closed ch
  passes : 31 ≤ ∑ i ∈ Finset.range n, (events (a + i)).polls

/-- Each closure is counted exactly once. -/
def CountedOnce : Prop := ∀ ch a n, Closure s events ch a n → pulsesIn s events ch a n = 1

/-- No restart comes between a closure and its count. -/
def TakenFirst : Prop := ∀ ch a n, Closure s events ch a n →
  ∀ i, i < n → (events (a + i)).SavesClosed ch → ((meterBefore s events (a + i)).counter ch).Taken

end Run

variable {s : Meter} {events : Nat → CounterEvent} {ch : Channel} {e : CounterEvent} {passes pulses : Nat}

theorem CounterEvent.Closed.closes (h : e.Closed ch) : e.Closes ch := by
  cases e with
  | countersHandler pins => exact h
  | restart before after found => exact h.2

/-! ### One channel -/

theorem next_counters (s : Meter) (pins : Pins) (ch : Channel) :
    (s.next (.countersHandler pins)).counter ch = { pollCounter (pins.gpio ch) (s.counter ch) with counter := 0#8 } :=
  (countersHandler_channel pins s ch).1

/-- Each channel has its own bit in the register. -/
theorem next_restart (s found : Meter) (before after : Pins) (ch : Channel) :
    (s.next (.restart before after found)).counter ch = initCounter (after.gpio ch) true (before.gpio ch) := by
  obtain ⟨hot, cold⟩ := before
  cases ch <;> cases hot <;> cases cold <;> rfl

/-- How far a closure has come: it is being debounced, it was found at a start, or it has been counted. -/
inductive Phase (passes pulses : Nat) (c : WaterCounter) : Prop
  | debounced (hvalue : c.debounce.toNat = 1 + passes) (hpasses : passes ≤ 30) (hcounter : c.counter = 0#8)
      (hpulses : pulses = 0)
  | found (hcounter : c = ⟨1#8, debounceCounter⟩) (hpasses : passes = 0) (hpulses : pulses = 0)
  | counted (htaken : c.Taken) (hpulses : pulses = 1)

/-- A counted closure stays counted. -/
theorem taken_next (h : (s.counter ch).Taken) (he : e.Closed ch) :
    ((s.next e).counter ch).Taken ∧ s.pulses ch e = 0 := by
  cases e with
  | countersHandler pins =>
      have hlow : pins.gpio ch = false := he
      have hsame : pollCounter (pins.gpio ch) (s.counter ch) = s.counter ch := by
        rw [pollCounter, hlow]
        simp [h.1]
      rw [next_counters, Meter.pulses, hsame, h.2]
      exact ⟨⟨h.1, rfl⟩, rfl⟩
  | restart before after found =>
      obtain ⟨hbefore, hafter⟩ : before.gpio ch = false ∧ after.gpio ch = false := he
      rw [next_restart, hbefore, hafter]
      exact ⟨⟨rfl, rfl⟩, rfl⟩

/-- A restart that saves the level of a closure before it is counted. -/
theorem phase_lost (h : Phase passes pulses (s.counter ch)) (he : e.Closes ch) (hsaves : e.SavesClosed ch)
    (hnot : ¬ (s.counter ch).Taken) : ((s.next e).counter ch).Taken ∧ s.pulses ch e + pulses = 0 := by
  have hpulses : pulses = 0 := by
    cases h with
    | debounced _ _ _ hpulses => exact hpulses
    | found _ _ hpulses => exact hpulses
    | counted htaken _ => exact absurd htaken hnot
  cases e with
  | countersHandler pins => exact hsaves.elim
  | restart before after found =>
      have hbefore : before.gpio ch = false := hsaves
      have hafter : after.gpio ch = false := he
      rw [next_restart, hbefore, hafter, hpulses]
      exact ⟨⟨rfl, rfl⟩, rfl⟩

/-- A pass over a closed contact. -/
theorem phase_pass {pins : Pins} (h : Phase passes pulses (s.counter ch)) (hlow : pins.gpio ch = false) :
    Phase (passes + 1) (pulses + s.pulses ch (.countersHandler pins)) ((s.next (.countersHandler pins)).counter ch) := by
  cases h with
  | debounced hvalue hpasses hcounter hpulses =>
      have hrange : (s.counter ch).InRange := ⟨by omega, by omega⟩
      have hup : (pollCounter (pins.gpio ch) (s.counter ch)).debounce.toNat = 1 + (passes + 1) := by
        have hne : (s.counter ch).debounce.toNat ≠ 32 := by omega
        rw [pollCounter_debounce hrange, hlow, Debounce.poll, Bool.not_false, if_pos rfl, if_neg hne]
        omega
      have hcount : (pollCounter (pins.gpio ch) (s.counter ch)).counter = _ := pollCounter_counter hrange
      rw [next_counters, Meter.pulses, hpulses, hcount, hcounter]
      by_cases hlast : passes = 30
      · have hreach : Debounce.Reaches 32 (!pins.gpio ch) (s.counter ch).debounce.toNat := by
          rw [hlow]
          exact ⟨rfl, by omega⟩
        rw [if_pos hreach]
        exact .counted ⟨DebounceInRange.eq_top.mpr (by rw [hup, hlast]), rfl⟩ rfl
      · have hnot : ¬ Debounce.Reaches 32 (!pins.gpio ch) (s.counter ch).debounce.toNat := fun hreach => by
          have hend := hreach.2
          omega
        rw [if_neg hnot]
        exact .debounced hup (by omega) rfl rfl
  | found hcounter hpasses hpulses =>
      rw [next_counters, Meter.pulses, hcounter, hlow, hpulses]
      exact .counted ⟨rfl, rfl⟩ rfl
  | counted htaken hpulses =>
      obtain ⟨hnext, hzero⟩ := taken_next htaken (e := .countersHandler pins) hlow
      rw [hzero]
      exact .counted hnext hpulses

/-- An event over a closed contact that does not save its level before the count. -/
theorem phase_next (h : Phase passes pulses (s.counter ch)) (he : e.Closes ch)
    (hclosed : e.Closed ch ∨ passes = 0 ∧ (s.counter ch).debounce = 1#8)
    (hsaves : e.SavesClosed ch → (s.counter ch).Taken) :
    Phase (passes + e.polls) (pulses + s.pulses ch e) ((s.next e).counter ch) := by
  cases e with
  | countersHandler pins => exact phase_pass h he
  | restart before after found =>
      have hafter : after.gpio ch = false := he
      cases hbefore : before.gpio ch with
      | false =>
          have htaken := hsaves hbefore
          obtain ⟨hnext, hzero⟩ := taken_next htaken (e := .restart before after found) ⟨hbefore, hafter⟩
          have hpulses : pulses = 1 := by
            cases h with
            | debounced hvalue hpasses _ _ =>
                have htop := DebounceInRange.eq_top.mp htaken.1
                omega
            | found hcounter _ _ =>
                rw [hcounter] at htaken
                exact absurd htaken.2 (by decide)
            | counted _ hpulses => exact hpulses
          rw [hzero]
          exact .counted hnext hpulses
      | true =>
          rcases hclosed with hlow | ⟨hpasses, hone⟩
          · exact absurd (hbefore.symm.trans hlow.1) (by decide)
          have hpulses : pulses = 0 := by
            cases h with
            | debounced _ _ _ hpulses => exact hpulses
            | found _ _ hpulses => exact hpulses
            | counted htaken _ => exact absurd (hone.symm.trans htaken.1) (by decide)
          rw [next_restart, hbefore, hafter, hpasses, hpulses]
          exact .found rfl rfl rfl

/-! ### Runs -/

/-- A pulse that no pass has taken yet was found at a start. -/
theorem pending_top (hs : ((s.counter ch).counter = 0#8 ∨ (s.counter ch).debounce = debounceCounter)) (t : Nat) :
    ((meterBefore s events t).counter ch).counter = 0#8 ∨
      ((meterBefore s events t).counter ch).debounce = debounceCounter := by
  cases t with
  | zero => exact hs
  | succ t =>
      rw [meterBefore]
      cases events t with
      | countersHandler pins =>
          rw [next_counters]
          exact Or.inl rfl
      | restart before after found =>
          rw [next_restart, initCounter]
          cases after.gpio ch
          · exact Or.inr rfl
          · exact Or.inl rfl

/-- A closure after `n` events: either no restart has come between it and its count, or it is lost. -/
theorem Closure.phase {a n : Nat} (h : Closure s events ch a n)
    (hs : ((s.counter ch).counter = 0#8 ∨ (s.counter ch).debounce = debounceCounter)) {i : Nat} (hi : i ≤ n) :
    (∃ j, j < i ∧ (events (a + j)).SavesClosed ch ∧ ¬ ((meterBefore s events (a + j)).counter ch).Taken) ∧
        ((meterBefore s events (a + i)).counter ch).Taken ∧ pulsesIn s events ch a i = 0 ∨
      (∀ j, j < i → (events (a + j)).SavesClosed ch → ((meterBefore s events (a + j)).counter ch).Taken) ∧
        Phase (∑ j ∈ Finset.range i, (events (a + j)).polls) (pulsesIn s events ch a i)
          ((meterBefore s events (a + i)).counter ch) := by
  induction i with
  | zero =>
      refine Or.inr ⟨fun j hj => absurd hj (Nat.not_lt_zero j), ?_⟩
      have hcounter : ((meterBefore s events a).counter ch).counter = 0#8 :=
        (pending_top hs a).resolve_right (by rw [h.from_one]; decide)
      exact .debounced (by rw [Nat.add_zero, h.from_one]; rfl) (Nat.zero_le _) hcounter rfl
  | succ i ih =>
      have hpulses : pulsesIn s events ch a (i + 1) =
          pulsesIn s events ch a i + (meterBefore s events (a + i)).pulses ch (events (a + i)) := Finset.sum_range_succ _ _
      have hcloses : (events (a + i)).Closes ch := by
        rcases Nat.eq_zero_or_pos i with rfl | hpos
        · exact h.closes
        · exact (h.closed i hpos (by omega)).closes
      rw [hpulses]
      rcases ih (by omega) with ⟨⟨j, hj, hsaves, hnot⟩, htaken, hzero⟩ | ⟨hfirst, hphase⟩
      · obtain ⟨hnext, hnone⟩ := taken_next htaken (h.closed i (by omega) (by omega))
        exact Or.inl ⟨⟨j, by omega, hsaves, hnot⟩, hnext, by rw [hzero, hnone]⟩
      by_cases hlost : (events (a + i)).SavesClosed ch ∧ ¬ ((meterBefore s events (a + i)).counter ch).Taken
      · obtain ⟨hnext, hnone⟩ := phase_lost hphase hcloses hlost.1 hlost.2
        exact Or.inl ⟨⟨i, by omega, hlost⟩, hnext, by rw [Nat.add_comm]; exact hnone⟩
      · have hsaves : (events (a + i)).SavesClosed ch → ((meterBefore s events (a + i)).counter ch).Taken :=
          fun hsave => by_contra fun hnot => hlost ⟨hsave, hnot⟩
        refine Or.inr ⟨fun j hj => ?_, ?_⟩
        · rcases Nat.lt_succ_iff_lt_or_eq.mp hj with hlt | rfl
          · exact hfirst j hlt
          · exact hsaves
        · rw [Finset.sum_range_succ]
          refine phase_next hphase hcloses ?_ hsaves
          rcases Nat.eq_zero_or_pos i with rfl | hpos
          · exact Or.inr ⟨rfl, h.from_one⟩
          · exact Or.inl (h.closed i hpos (by omega))

theorem Closure.counted_iff {a n : Nat} (h : Closure s events ch a n)
    (hs : ((s.counter ch).counter = 0#8 ∨ (s.counter ch).debounce = debounceCounter)) :
    pulsesIn s events ch a n = 1 ↔
      ∀ i, i < n → (events (a + i)).SavesClosed ch → ((meterBefore s events (a + i)).counter ch).Taken := by
  rcases h.phase hs (Nat.le_refl n) with ⟨⟨j, hj, hsaves, hnot⟩, -, hzero⟩ | ⟨hfirst, hphase⟩
  · exact iff_of_false (by omega) fun hall => hnot (hall j hj hsaves)
  · refine iff_of_true ?_ hfirst
    have hpasses := h.passes
    cases hphase with
    | debounced _ hshort _ _ => omega
    | found _ hnone _ => omega
    | counted _ hpulses => exact hpulses

theorem initCounters_pending (reg : BitVec 8) (pins : Pins) (s : Meter) (ch : Channel) :
    ((initCounters reg pins s).counter ch).counter = 0#8 ∨
      ((initCounters reg pins s).counter ch).debounce = debounceCounter := by
  have hinit : ∀ gpio deepSleep before, (initCounter gpio deepSleep before).counter = 0#8 ∨
      (initCounter gpio deepSleep before).debounce = debounceCounter := by decide
  cases ch <;> exact hinit _ _ _

/-- From power-up, over any passes and restarts, each closure is counted exactly once if and only if no restart saves
the level of a closed contact before its closure is counted. -/
theorem counted_once_iff (s : Meter) (reg : BitVec 8) (pins : Pins) (events : Nat → CounterEvent) :
    CountedOnce (initCounters reg pins s) events ↔ TakenFirst (initCounters reg pins s) events :=
  forall_congr' fun ch => forall_congr' fun _ => forall_congr' fun _ => forall_congr' fun h =>
    h.counted_iff (initCounters_pending reg pins s ch)

/-- A contact closes, and after five passes the MCU restarts: the start finds the contact closed and takes it for
counted. -/
def restartRun (found : Meter) (t : Nat) : CounterEvent :=
  if t = 5 then .restart ⟨false, true⟩ ⟨false, true⟩ found else .countersHandler ⟨false, true⟩

theorem restartRun_closure (s found : Meter) :
    Closure (initCounters 0#8 ⟨true, true⟩ s) (restartRun found) .hot 0 37 where
  from_one := rfl
  closes := rfl
  closed i _ _ := by
    unfold restartRun
    split
    · exact ⟨rfl, rfl⟩
    · rfl
  passes := by
    have hpasses : ∀ t, (restartRun found t).polls = if t = 5 then 0 else 1 := by
      intro t
      unfold restartRun
      split <;> rfl
    simp only [hpasses]
    decide

theorem restartRun_value (s found : Meter) {t : Nat} (ht : t ≤ 5) :
    (meterBefore (initCounters 0#8 ⟨true, true⟩ s) (restartRun found) t).counter .hot = ⟨0#8, .ofNat 8 (t + 1)⟩ := by
  induction t with
  | zero => rfl
  | succ t ih =>
      have hpass : restartRun found t = .countersHandler ⟨false, true⟩ := if_neg (by omega)
      have hpoll : ∀ t, t < 5 → ({ pollCounter false ⟨0#8, .ofNat 8 (t + 1)⟩ with counter := 0#8 } : WaterCounter) =
          ⟨0#8, .ofNat 8 (t + 1 + 1)⟩ := by decide
      rw [meterBefore, hpass, next_counters, ih (by omega)]
      exact hpoll t (by omega)

theorem restart_loses_closure : ¬ ∀ (s : Meter) (reg : BitVec 8) (pins : Pins) (events : Nat → CounterEvent),
    CountedOnce (initCounters reg pins s) events := by
  intro h
  let found : Meter := ⟨⟨0#8, 0#8⟩, ⟨0#8, 0#8⟩, Ram.zero, ⟨0, 0, 0, 0, 0⟩⟩
  have hclosure := restartRun_closure found found
  have honce := (hclosure.counted_iff (initCounters_pending _ _ _ _)).mp (h _ _ _ _ _ _ _ hclosure)
  have htaken := (honce 5 (by omega) rfl).1
  rw [restartRun_value found found (Nat.le_refl 5)] at htaken
  exact absurd htaken (by decide)

end Watermeter
