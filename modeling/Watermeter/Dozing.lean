import Mathlib.Order.Basic

/-! A machine that takes an input in each instant, and the same machine asleep between some of them. What sets
its wake-up and whether it falls asleep are decided after each pass; asleep it takes no input until one wakes
it. When a pass that sleep skips would do nothing that is to be seen, sleeping cannot be told from staying awake. -/

namespace Dozing

variable {I S O A V : Type*}

structure Machine (I S O A : Type*) where
  pass : I → S → S × List O
  /-- After a pass: the wake-up that is set, and whether the machine falls asleep. -/
  arm : I → S → A → A × Bool
  wakes : I → A → Bool

structure Dozer (S A : Type*) where
  state : S
  armed : A
  asleep : Bool

namespace Machine

variable (m : Machine I S O A)

/-- The input is not taken. -/
def Skips (i : I) (d : Dozer S A) : Prop := d.asleep = true ∧ m.wakes i d.armed = false

instance (i : I) (d : Dozer S A) : Decidable (m.Skips i d) := inferInstanceAs (Decidable (_ ∧ _))

def step (i : I) (d : Dozer S A) : Dozer S A × List O :=
  if m.Skips i d then (d, [])
  else
    let (state, out) := m.pass i d.state
    let (armed, asleep) := m.arm i state d.armed
    (⟨state, armed, asleep⟩, out)

/-- The machine before instant `t`. -/
def doze (inputs : Nat → I) (d : Dozer S A) : Nat → Dozer S A
  | 0 => d
  | t + 1 => (m.step (inputs t) (doze inputs d t)).1

/-- The state before instant `t` of the machine that never sleeps. -/
def awake (inputs : Nat → I) (s : S) : Nat → S
  | 0 => s
  | t + 1 => (m.pass (inputs t) (awake inputs s t)).1

/-- What the machine has seen in each instant, with `hold` to keep for an input that is skipped what was seen
before it. -/
def seen (hold : I → I → I) (inputs : Nat → I) (d : Dozer S A) : Nat → I
  | 0 => inputs 0
  | t + 1 =>
    if m.Skips (inputs (t + 1)) (m.doze inputs d (t + 1)) then hold (seen hold inputs d t) (inputs (t + 1))
    else inputs (t + 1)

/-- Sleep comes only after a pass that leaves nothing to do for an input held as it was: a pass more changes nothing
that is in view, and puts out nothing that is shown. What is in view does not depend on the rest of the state. -/
structure Settles (hold : I → I → I) (Inv : S → Prop) (view : S → V) (shown : O → Bool) : Prop where
  hold_hold : ∀ i j k, hold (hold i j) k = hold i k
  kept : ∀ i s, Inv s → Inv (m.pass i s).1
  congr : ∀ i s s', view s = view s' →
    view (m.pass i s).1 = view (m.pass i s').1 ∧ (m.pass i s).2.filter shown = (m.pass i s').2.filter shown
  quiet : ∀ i j s a, Inv s → (m.arm i (m.pass i s).1 a).2 = true →
    view (m.pass (hold i j) (m.pass i s).1).1 = view (m.pass i s).1 ∧
      (m.pass (hold i j) (m.pass i s).1).2.filter shown = []

variable {m} {hold : I → I → I} {Inv : S → Prop} {view : S → V} {shown : O → Bool} {inputs : Nat → I} {d : Dozer S A}
  {i : I}

theorem step_skips (h : m.Skips i d) : m.step i d = (d, []) := if_pos h

theorem step_takes (h : ¬ m.Skips i d) :
    m.step i d = (⟨(m.pass i d.state).1, (m.arm i (m.pass i d.state).1 d.armed).1,
      (m.arm i (m.pass i d.state).1 d.armed).2⟩, (m.pass i d.state).2) := if_neg h

theorem not_skips (h : d.asleep = false) : ¬ m.Skips i d := fun hskip => by
  rw [Skips, h] at hskip
  exact Bool.false_ne_true hskip.1

@[simp] theorem doze_succ (t : Nat) : m.doze inputs d (t + 1) = (m.step (inputs t) (m.doze inputs d t)).1 := rfl

/-- In each instant the dozing machine does, as far as it is to be seen, what the pass would do on what it has seen. -/
theorem Settles.run_seen (h : m.Settles hold Inv view shown) (inputs : Nat → I) (hinv : Inv d.state)
    (hawake : d.asleep = false) (t : Nat) :
    view (m.doze inputs d t).state = view (m.awake (m.seen hold inputs d) d.state t) ∧
      (m.step (inputs t) (m.doze inputs d t)).2.filter shown =
        (m.pass (m.seen hold inputs d t) (m.awake (m.seen hold inputs d) d.state t)).2.filter shown ∧
      Inv (m.doze inputs d t).state ∧
      view (m.doze inputs d (t + 1)).state = view (m.awake (m.seen hold inputs d) d.state (t + 1)) ∧
      Inv (m.doze inputs d (t + 1)).state ∧
      ((m.doze inputs d (t + 1)).asleep = true → ∀ j,
        view (m.pass (hold (m.seen hold inputs d t) j) (m.doze inputs d (t + 1)).state).1 =
            view (m.doze inputs d (t + 1)).state ∧
          (m.pass (hold (m.seen hold inputs d t) j) (m.doze inputs d (t + 1)).state).2.filter shown = []) := by
  induction t with
  | zero =>
      rw [doze_succ, step_takes (d := m.doze inputs d 0) (not_skips hawake)]
      exact ⟨rfl, rfl, hinv, rfl, h.kept _ _ hinv, fun hasleep j => h.quiet _ _ _ _ hinv hasleep⟩
  | succ t ih =>
      obtain ⟨-, -, -, hview, hinv', hquiet⟩ := ih
      refine ⟨hview, ?_⟩
      by_cases hskip : m.Skips (inputs (t + 1)) (m.doze inputs d (t + 1))
      · have hseen : m.seen hold inputs d (t + 1) = hold (m.seen hold inputs d t) (inputs (t + 1)) := if_pos hskip
        obtain ⟨hstill, hsilent⟩ := hquiet hskip.1 (inputs (t + 1))
        obtain ⟨hsame, hout⟩ := h.congr (m.seen hold inputs d (t + 1)) _ _ hview
        rw [hseen] at hsame hout
        have hnext : view (m.doze inputs d (t + 1)).state = view (m.awake (m.seen hold inputs d) d.state (t + 1 + 1)) := by
          show _ = view (m.pass (m.seen hold inputs d (t + 1)) _).1
          rw [hseen, ← hsame, hstill]
        rw [doze_succ (t + 1), step_skips hskip, hseen]
        refine ⟨(hsilent.symm.trans hout), hinv', hnext, hinv', fun _ j => ?_⟩
        rw [h.hold_hold]
        exact hquiet hskip.1 j
      · have hseen : m.seen hold inputs d (t + 1) = inputs (t + 1) := if_neg hskip
        obtain ⟨hsame, hout⟩ := h.congr (inputs (t + 1)) _ _ hview
        have hnext : view (m.pass (inputs (t + 1)) (m.doze inputs d (t + 1)).state).1 =
            view (m.awake (m.seen hold inputs d) d.state (t + 1 + 1)) := by
          show _ = view (m.pass (m.seen hold inputs d (t + 1)) _).1
          rw [hseen, hsame]
        rw [doze_succ (t + 1), step_takes hskip, hseen]
        exact ⟨hout, hinv', hnext, h.kept _ _ hinv', fun hasleep j => h.quiet _ _ _ _ hinv' hasleep⟩

/-- When anything that differs from what the last pass saw wakes the machine, every input is seen. -/
theorem seen_eq (hold_hold : ∀ i j k, hold (hold i j) k = hold i k) (hawake : d.asleep = false)
    (hwakes : ∀ t, ¬ m.Skips (inputs t) (m.doze inputs d t) → (m.doze inputs d (t + 1)).asleep = true →
      ∀ j, m.wakes j (m.doze inputs d (t + 1)).armed = false → hold (inputs t) j = j)
    (t : Nat) : m.seen hold inputs d t = inputs t ∧
      ((m.doze inputs d (t + 1)).asleep = true → ∀ j, m.wakes j (m.doze inputs d (t + 1)).armed = false →
        hold (inputs t) j = j) := by
  induction t with
  | zero => exact ⟨rfl, hwakes 0 (not_skips hawake)⟩
  | succ t ih =>
      obtain ⟨hseen, hsame⟩ := ih
      by_cases hskip : m.Skips (inputs (t + 1)) (m.doze inputs d (t + 1))
      · have hheld : hold (inputs t) (inputs (t + 1)) = inputs (t + 1) := hsame hskip.1 _ hskip.2
        have hseen' : m.seen hold inputs d (t + 1) = hold (m.seen hold inputs d t) (inputs (t + 1)) := if_pos hskip
        rw [doze_succ (t + 1), step_skips hskip, hseen', hseen]
        refine ⟨hheld, fun hasleep j hwake => ?_⟩
        rw [← hheld, hold_hold]
        exact hsame hasleep j hwake
      · exact ⟨if_neg hskip, hwakes (t + 1) hskip⟩

end Machine

end Dozing
