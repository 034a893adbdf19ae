import Watermeter.Counter

/-! One pulse per closure. Each channel of `counters_handler` is a debounce counter of its own over the
samples of its pin; a closure is counted again exactly when the contact bounces after it was counted. -/

namespace Watermeter

open Debounce

/-- The variables before the pass of time `t`. -/
def meterAt (s : Meter) (samples : Nat → Pins) : Nat → Meter
  | 0 => s
  | t + 1 => (countersHandler (samples t) (meterAt s samples t)).1

/-- The debounce value of a channel before the pass of time `t`. -/
def debounceAt (s : Meter) (samples : Nat → Pins) (ch : Channel) (t : Nat) : Nat :=
  ((meterAt s samples t).counter ch).debounce.toNat

def CountsAt (s : Meter) (samples : Nat → Pins) (ch : Channel) (t : Nat) : Prop :=
  Counts (meterAt s samples t) (samples t) ch

/-- One pulse per contact closure, over the passes before time `len`. -/
structure OnePulse (s : Meter) (samples : Nat → Pins) (len : ℕ∞) : Prop where
  /-- Between any two counts the debounce value has been 1. -/
  separated : ∀ ch (t₁ t₂ : Nat), t₁ < t₂ → (t₂ : ℕ∞) < len → CountsAt s samples ch t₁ → CountsAt s samples ch t₂ →
    ∃ u, t₁ < u ∧ u ≤ t₂ ∧ debounceAt s samples ch u = 1
  /-- A closure from 1 to the upper end is counted once, in the pass that gets there first. -/
  counted : ∀ ch (a u : Nat), a < u → (u : ℕ∞) ≤ len → debounceAt s samples ch a = 1 → debounceAt s samples ch u = 32 →
    (∀ v, a < v → v ≤ u → debounceAt s samples ch v ≠ 1) →
    ∃ r, a ≤ r ∧ r < u ∧ CountsAt s samples ch r ∧ (∀ v, a ≤ v → v ≤ r → debounceAt s samples ch v ≠ 32) ∧
      ∀ r', a ≤ r' → r' < u → CountsAt s samples ch r' → r' = r
  /-- A channel does not see the other pin. -/
  independent : ∀ ch (samples' : Nat → Pins), (∀ t : Nat, (t : ℕ∞) < len → (samples' t).gpio ch = (samples t).gpio ch) →
    ∀ t : Nat, (t : ℕ∞) ≤ len → debounceAt s samples' ch t = debounceAt s samples ch t ∧
      (meterAt s samples' t).water ch = (meterAt s samples t).water ch

/-- After a count no opening that starts at the upper end is made up for before it is completed. -/
def NoBounce (s : Meter) (samples : Nat → Pins) (len : ℕ∞) : Prop :=
  ∀ ch (r a n : Nat), r < a → ((a + n : Nat) : ℕ∞) ≤ len → CountsAt s samples ch r → debounceAt s samples ch a = 32 →
    ¬ Dip 32 (fun t => !(samples t).gpio ch) a n

variable {s : Meter} {samples samples' : Nat → Pins} {ch : Channel}

theorem meterAt_inRange (h : (s.counter ch).InRange) (t : Nat) : ((meterAt s samples t).counter ch).InRange := by
  induction t with
  | zero => exact h
  | succ t ih =>
    rw [meterAt, (countersHandler_channel _ _ ch).1]
    exact pollCounter_inRange ih

/-- A channel is a debounce counter over the samples of its pin. -/
theorem debounceAt_eq (h : (s.counter ch).InRange) (t : Nat) :
    debounceAt s samples ch t = level 32 (fun t => !(samples t).gpio ch) (s.counter ch).debounce.toNat t := by
  induction t with
  | zero => rfl
  | succ t ih =>
    rw [level_succ, ← ih, debounceAt, meterAt, (countersHandler_channel _ _ ch).1]
    exact pollCounter_debounce (meterAt_inRange h t)

theorem countsAt_iff (h : (s.counter ch).InRange) (t : Nat) :
    CountsAt s samples ch t ↔
      Reaches 32 (!(samples t).gpio ch) (level 32 (fun t => !(samples t).gpio ch) (s.counter ch).debounce.toNat t) := by
  rw [← debounceAt_eq h t]
  exact counts_iff (meterAt_inRange h t)

/-- What a channel holds depends on the samples of its pin only. -/
theorem meterAt_channel {len : ℕ∞} (heq : ∀ t : Nat, (t : ℕ∞) < len → (samples' t).gpio ch = (samples t).gpio ch)
    (t : Nat) (ht : (t : ℕ∞) ≤ len) :
    (meterAt s samples' t).counter ch = (meterAt s samples t).counter ch ∧
      (meterAt s samples' t).litersPerPulse = (meterAt s samples t).litersPerPulse ∧
      (meterAt s samples' t).water ch = (meterAt s samples t).water ch := by
  induction t with
  | zero => exact ⟨rfl, rfl, rfl⟩
  | succ t ih =>
    have hlt : (t : ℕ∞) < len := lt_of_lt_of_le (Nat.cast_lt.mpr (Nat.lt_succ_self t)) ht
    obtain ⟨hcounter, hstep, hwater⟩ := ih (le_of_lt hlt)
    obtain ⟨hc', hs', hw'⟩ := countersHandler_channel (samples' t) (meterAt s samples' t) ch
    obtain ⟨hc, hs, hw⟩ := countersHandler_channel (samples t) (meterAt s samples t) ch
    rw [heq t hlt, hcounter] at hc' hw'
    rw [hstep, hwater] at hw'
    exact ⟨hc'.trans hc.symm, (hs'.trans hstep).trans hs.symm, hw'.trans hw.symm⟩

theorem initCounters_inRange (reg : BitVec 8) (pins : Pins) (s : Meter) (ch : Channel) :
    ((initCounters reg pins s).counter ch).InRange := by
  cases ch <;> exact initCounter_inRange _ _ _

/-- On either channel the counts are kept apart exactly when the contact does not bounce. -/
theorem separated_iff_noBounce (h : ∀ ch, (s.counter ch).InRange) (samples : Nat → Pins) (len : ℕ∞) :
    (∀ ch (t₁ t₂ : Nat), t₁ < t₂ → (t₂ : ℕ∞) < len → CountsAt s samples ch t₁ → CountsAt s samples ch t₂ →
      ∃ u, t₁ < u ∧ u ≤ t₂ ∧ debounceAt s samples ch u = 1) ↔ NoBounce s samples len := by
  apply forall_congr'
  intro ch
  simp only [countsAt_iff (h ch), debounceAt_eq (h ch)]
  exact separated_iff (by omega) (h ch) len

/-- From power-up, and for every stream of samples, one pulse is counted per closure exactly when no counted
contact bounces. -/
theorem one_pulse_iff (s : Meter) (reg : BitVec 8) (pins : Pins) (samples : Nat → Pins) (len : ℕ∞) :
    OnePulse (initCounters reg pins s) samples len ↔ NoBounce (initCounters reg pins s) samples len := by
  have hrange := initCounters_inRange reg pins s
  rw [← separated_iff_noBounce hrange]
  refine ⟨OnePulse.separated, fun hseparated =>
    ⟨hseparated, fun ch a u hau hu ha htop hone => ?_, fun ch samples' heq t ht => ?_⟩⟩
  · have ha' := ha
    have htop' := htop
    rw [debounceAt_eq (hrange ch)] at ha' htop'
    obtain ⟨r, har, hru, hreach, hfirst⟩ := first_registration (by omega) (hrange ch) ha' hau htop'
    have hcounts := (countsAt_iff (hrange ch) r).mpr hreach
    refine ⟨r, har, hru, hcounts, fun v hav hvr => ?_, fun r' har' hru' hcounts' => ?_⟩
    · rw [debounceAt_eq (hrange ch)]
      exact hfirst v hav hvr
    -- a second count would need a value of 1 in between
    · by_contra hne
      have hbefore : ∀ r₀ : Nat, r₀ < u → (r₀ : ℕ∞) < len := fun r₀ hr₀ => lt_of_lt_of_le (Nat.cast_lt.mpr hr₀) hu
      rcases Nat.lt_or_gt_of_ne hne with hlt | hgt
      · obtain ⟨w, hw, hwr, hwone⟩ := hseparated ch r' r hlt (hbefore r hru) hcounts' hcounts
        exact hone w (by omega) (by omega) hwone
      · obtain ⟨w, hw, hwr, hwone⟩ := hseparated ch r r' hgt (hbefore r' hru') hcounts hcounts'
        exact hone w (by omega) (by omega) hwone
  · obtain ⟨hcounter, -, hwater⟩ := meterAt_channel heq t ht
    exact ⟨congrArg (fun c => c.debounce.toNat) hcounter, hwater⟩

/-- A contact that closes for 31 passes, opens for one and closes again: the counts of the passes 30 and 32
have no opening between them. -/
theorem bounce_counted_twice : ¬ ∀ (s : Meter) (reg : BitVec 8) (pins : Pins) (samples : Nat → Pins) (len : ℕ∞),
    OnePulse (initCounters reg pins s) samples len := by
  intro hone
  let s : Meter := ⟨⟨0#8, 0#8⟩, ⟨0#8, 0#8⟩, Ram.zero, ⟨0, 0, 0, 0, 0⟩⟩
  have h := hone s 0#8 ⟨true, true⟩ (fun t => ⟨t == 31, true⟩) ⊤
  have hrange : ((initCounters 0#8 ⟨true, true⟩ s).counter .hot).InRange := initCounters_inRange _ _ _ _
  have hcounts : ∀ t, Reaches 32 (!(t == 31)) (level 32 (fun t => !(t == 31)) 1 t) →
      CountsAt (initCounters 0#8 ⟨true, true⟩ s) (fun t => ⟨t == 31, true⟩) .hot t :=
    fun t ht => (countsAt_iff hrange t).mpr ht
  obtain ⟨u, hu, hu', hone⟩ := h.separated .hot 30 32 (by omega) (ENat.natCast_lt_top 32) (hcounts 30 (by decide))
    (hcounts 32 (by decide))
  rw [debounceAt_eq hrange] at hone
  change level 32 (fun t => !(t == 31)) 1 u = 1 at hone
  obtain rfl | rfl : u = 31 ∨ u = 32 := by omega
  · exact absurd hone (by decide)
  · exact absurd hone (by decide)

end Watermeter
