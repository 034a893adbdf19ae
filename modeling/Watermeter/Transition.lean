import Mathlib.Data.List.Basic

/-! Runs of a deterministic machine under a list of events, conditions that every step of a run meets,
and the induction that carries an invariant through such a run. -/

namespace Transition

variable {State Event : Type*} (step : State → Event → State)

def run (s : State) (events : List Event) : State := events.foldl step s

/-- `P` holds of each state the run leaves and of the event it leaves it by. -/
def Along (P : State → Event → Prop) : State → List Event → Prop
  | _, [] => True
  | s, e :: events => P s e ∧ Along P (step s e) events

variable {step}

@[simp] theorem run_nil (s : State) : run step s [] = s := rfl

@[simp] theorem run_cons (s : State) (e : Event) (events : List Event) :
    run step s (e :: events) = run step (step s e) events := rfl

@[simp] theorem run_append (s : State) (xs ys : List Event) :
    run step s (xs ++ ys) = run step (run step s xs) ys := List.foldl_append

@[simp] theorem along_nil {P : State → Event → Prop} (s : State) : Along step P s [] := trivial

@[simp] theorem along_cons {P : State → Event → Prop} {s : State} {e : Event} {events : List Event} :
    Along step P s (e :: events) ↔ P s e ∧ Along step P (step s e) events := Iff.rfl

@[simp] theorem along_append {P : State → Event → Prop} {s : State} {xs ys : List Event} :
    Along step P s (xs ++ ys) ↔ Along step P s xs ∧ Along step P (run step s xs) ys := by
  induction xs generalizing s with
  | nil => simp
  | cons e xs ih => simp [ih, and_assoc]

instance decidableAlong {P : State → Event → Prop} [∀ s e, Decidable (P s e)] :
    ∀ (s : State) (events : List Event), Decidable (Along step P s events)
  | _, [] => isTrue trivial
  | s, e :: events =>
    have : Decidable (Along step P (step s e) events) := decidableAlong (step s e) events
    inferInstanceAs (Decidable (P s e ∧ Along step P (step s e) events))

/-- An invariant that every step keeps holds after the run. -/
theorem run_invariant {P : State → Prop} (hstep : ∀ s e, P s → P (step s e)) {s : State} (hs : P s)
    (events : List Event) : P (run step s events) := by
  induction events generalizing s with
  | nil => exact hs
  | cons e events ih => exact ih (hstep s e hs)

/-- A run of events that each leave the state as it is. -/
theorem run_fixed {s : State} {events : List Event} (h : ∀ e ∈ events, step s e = s) : run step s events = s := by
  induction events with
  | nil => rfl
  | cons e events ih => rw [run_cons, h e List.mem_cons_self, ih fun e' he' => h e' (List.mem_cons_of_mem e he')]

/-- A component of the state that only some events set is left alone by the others. -/
theorem run_unset {α : Type*} {get : State → α} {sets : Event → Prop}
    (hkeep : ∀ s e, ¬ sets e → get (step s e) = get s) (s : State) {events : List Event} (h : ∀ e ∈ events, ¬ sets e) :
    get (run step s events) = get s := by
  induction events generalizing s with
  | nil => rfl
  | cons e events ih =>
    rw [run_cons, ih _ fun e' he' => h e' (List.mem_cons_of_mem _ he'), hkeep s e (h e List.mem_cons_self)]

/-- The last event that sets it decides. -/
theorem run_last_set {α : Type*} {get : State → α} {sets : Event → Prop} {value : State → Event → α}
    (hset : ∀ s e, sets e → get (step s e) = value s e) (hkeep : ∀ s e, ¬ sets e → get (step s e) = get s) (s : State)
    {xs ys : List Event} {e : Event} (he : sets e) (h : ∀ e' ∈ ys, ¬ sets e') :
    get (run step s (xs ++ e :: ys)) = value (run step s xs) e := by
  rw [run_append, run_cons, run_unset hkeep _ h, hset _ e he]

/-- The last event of a list that a property holds of, if there is one. -/
theorem last_or_none (sets : Event → Prop) (events : List Event) :
    (∀ e ∈ events, ¬ sets e) ∨ ∃ xs e ys, events = xs ++ e :: ys ∧ sets e ∧ ∀ e' ∈ ys, ¬ sets e' := by
  induction events with
  | nil => exact .inl (by simp)
  | cons e events ih =>
    rcases ih with hnone | ⟨xs, e', ys, rfl, he', hys⟩
    · by_cases he : sets e
      · exact .inr ⟨[], e, events, rfl, he, hnone⟩
      · exact .inl (List.forall_mem_cons.mpr ⟨he, hnone⟩)
    · exact .inr ⟨e :: xs, e', ys, rfl, he', hys⟩

/-- Two machines that set a component at the same events leave it the same exactly when they do so at the last of
these. -/
theorem run_agree_iff {α : Type*} {step' : State → Event → State} {get : State → α} {sets : Event → Prop}
    {value value' : State → Event → α} (hset : ∀ s e, sets e → get (step s e) = value s e)
    (hkeep : ∀ s e, ¬ sets e → get (step s e) = get s) (hset' : ∀ s e, sets e → get (step' s e) = value' s e)
    (hkeep' : ∀ s e, ¬ sets e → get (step' s e) = get s) (s : State) (events : List Event) :
    get (run step s events) = get (run step' s events) ↔ ∀ xs e ys, events = xs ++ e :: ys → sets e →
      (∀ e' ∈ ys, ¬ sets e') → value (run step s xs) e = value' (run step' s xs) e := by
  constructor
  · rintro heq xs e ys rfl he hys
    rw [run_last_set hset hkeep s he hys, run_last_set hset' hkeep' s he hys] at heq
    exact heq
  · intro h
    rcases last_or_none sets events with hnone | ⟨xs, e, ys, rfl, he, hys⟩
    · rw [run_unset hkeep s hnone, run_unset hkeep' s hnone]
    · rw [run_last_set hset hkeep s he hys, run_last_set hset' hkeep' s he hys]
      exact h xs e ys rfl he hys

/-- A run leaves a component as it finds it exactly when the last event that sets it sets what was there. -/
theorem run_same_iff {α : Type*} {get : State → α} {sets : Event → Prop} {value : State → Event → α}
    (hset : ∀ s e, sets e → get (step s e) = value s e) (hkeep : ∀ s e, ¬ sets e → get (step s e) = get s) (s : State)
    (events : List Event) :
    get (run step s events) = get s ↔ ∀ xs e ys, events = xs ++ e :: ys → sets e → (∀ e' ∈ ys, ¬ sets e') →
      value (run step s xs) e = get s := by
  constructor
  · rintro heq xs e ys rfl he hys
    rw [run_last_set hset hkeep s he hys] at heq
    exact heq
  · intro h
    rcases last_or_none sets events with hnone | ⟨xs, e, ys, rfl, he, hys⟩
    · exact run_unset hkeep s hnone
    · rw [run_last_set hset hkeep s he hys]
      exact h xs e ys rfl he hys

/-- The step before any later part of the run meets the condition as well. -/
theorem Along.last {P : State → Event → Prop} {s : State} {xs ys : List Event} {e : Event}
    (h : Along step P s (xs ++ e :: ys)) : P (run step s xs) e := (along_append.mp h).2.1

theorem Along.mono {P Q : State → Event → Prop} (hPQ : ∀ s e, P s e → Q s e) {s : State}
    {events : List Event} (h : Along step P s events) : Along step Q s events := by
  induction events generalizing s with
  | nil => trivial
  | cons e events ih => exact ⟨hPQ _ _ h.1, ih h.2⟩

theorem Along.and {P Q : State → Event → Prop} {s : State} {events : List Event} (hP : Along step P s events)
    (hQ : Along step Q s events) : Along step (fun s e => P s e ∧ Q s e) s events := by
  induction events generalizing s with
  | nil => trivial
  | cons e events ih => exact ⟨⟨hP.1, hQ.1⟩, ih hP.2 hQ.2⟩

/-- A condition on the events alone. -/
theorem along_of_forall {P : Event → Prop} {s : State} {events : List Event} (h : ∀ e ∈ events, P e) :
    Along step (fun _ e => P e) s events := by
  induction events generalizing s with
  | nil => trivial
  | cons e events ih => exact ⟨h e List.mem_cons_self, ih fun e he => h e (List.mem_cons_of_mem _ he)⟩

/-- An invariant kept by every step that meets the condition holds after the run. -/
theorem Along.invariant {P : State → Event → Prop} {Inv : State → Prop}
    (hstep : ∀ s e, Inv s → P s e → Inv (step s e)) {s : State} {events : List Event}
    (hs : Inv s) (h : Along step P s events) : Inv (run step s events) := by
  induction events generalizing s with
  | nil => exact hs
  | cons e events ih => exact ih (hstep s e hs h.1) h.2

/-- What the invariant gives at one step, it gives at every step of the run. -/
theorem Along.promote {P Q : State → Event → Prop} {Inv : State → Prop}
    (hstep : ∀ s e, Inv s → P s e → Inv (step s e)) (hQ : ∀ s e, Inv s → P s e → Q s e)
    {s : State} {events : List Event} (hs : Inv s) (h : Along step P s events) :
    Along step Q s events := by
  induction events generalizing s with
  | nil => trivial
  | cons e events ih => exact ⟨hQ s e hs h.1, ih (hstep s e hs h.1) h.2⟩

/-- Where the two conditions agree in every state of the invariant, and the invariant is only known to
survive steps that meet them, they agree on runs. -/
theorem along_iff {P Q : State → Event → Prop} {Inv : State → Prop}
    (hstep : ∀ s e, Inv s → P s e → Inv (step s e)) (hPQ : ∀ s e, Inv s → (P s e ↔ Q s e))
    {s : State} {events : List Event} (hs : Inv s) :
    Along step P s events ↔ Along step Q s events := by
  induction events generalizing s with
  | nil => simp
  | cons e events ih =>
    rw [along_cons, along_cons, hPQ s e hs]
    apply and_congr_right
    intro hq
    exact ih (hstep s e hs ((hPQ s e hs).mpr hq))

end Transition
