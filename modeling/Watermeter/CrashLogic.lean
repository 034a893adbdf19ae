import Mathlib.Data.List.Basic

/-! Programs that work on a medium by single operations, and weakest preconditions for them. Power may fail between
any two operations, so that a precondition also says what is found on the medium when the program is cut short. -/

namespace CrashLogic

universe u v

/-- A medium changes by operations, each of which takes effect as a whole or not at all. -/
class Medium (S : Type u) (Op : Type v) where
  apply : S → Op → S

/-- What a program returns, and the operations it performs on the way, in order. -/
def Program (S : Type u) (Op : Type v) (α : Type u) := S → α × List Op

variable {S : Type u} {Op : Type v} [Medium S Op]

/-- The medium once the operations have been performed. -/
def after (s : S) (ops : List Op) : S := ops.foldl Medium.apply s

namespace Program

instance : Monad (Program S Op) where
  pure a := fun _ => (a, [])
  bind x f := fun s =>
    let (a, ops) := x s
    let (b, ops') := f a (after s ops)
    (b, ops ++ ops')

/-- Read the whole medium. -/
def get : Program S Op S := fun s => (s, [])

def perform (op : Op) : Program S Op PUnit := fun _ => (⟨⟩, [op])

/-- What is on the medium when the power fails after `k` operations. -/
def cutAt {α : Type u} (k : Nat) (x : Program S Op α) (s : S) : S := after s ((x s).2.take k)

/-- What the program returns when it is not cut short. -/
def result {α : Type u} (x : Program S Op α) (s : S) : α := (x s).1

/-- What it leaves on the medium then. -/
def final {α : Type u} (x : Program S Op α) (s : S) : S := after s (x s).2

/-- The program is run to its end, or cut short after so many operations. -/
def use {α : Type u} (x : Program S Op α) (cut : Option Nat) (s : S) : Option α × S :=
  match cut with
  | none => (some (x.result s), x.final s)
  | some k => (none, x.cutAt k s)

end Program

open Program

variable {α β : Type u} {C C' : S → Prop} {x : Program S Op α} {f : α → Program S Op β} {s : S}

@[simp] theorem after_nil (s : S) : after s ([] : List Op) = s := rfl

@[simp] theorem after_cons (s : S) (op : Op) (ops : List Op) : after s (op :: ops) = after (Medium.apply s op) ops := rfl

@[simp] theorem after_append (s : S) (xs ys : List Op) : after s (xs ++ ys) = after (after s xs) ys := List.foldl_append

/-- The condition holds on the medium before and after each of the operations. -/
def Through (C : S → Prop) : S → List Op → Prop
  | s, [] => C s
  | s, op :: ops => C s ∧ Through C (Medium.apply s op) ops

theorem Through.first {ops : List Op} (h : Through C s ops) : C s := by
  cases ops with
  | nil => exact h
  | cons op ops => exact h.1

theorem Through.last {ops : List Op} (h : Through C s ops) : C (after s ops) := by
  induction ops generalizing s with
  | nil => exact h
  | cons op ops ih => exact ih h.2

theorem through_append {xs ys : List Op} : Through C s (xs ++ ys) ↔ Through C s xs ∧ Through C (after s xs) ys := by
  induction xs generalizing s with
  | nil => exact ⟨fun h => ⟨h.first, h⟩, fun h => h.2⟩
  | cons op xs ih => rw [List.cons_append, Through, ih, Through, and_assoc, after_cons]

theorem Through.mono {ops : List Op} (h : Through C s ops) (hC : ∀ s, C s → C' s) : Through C' s ops := by
  induction ops generalizing s with
  | nil => exact hC s h
  | cons op ops ih => exact ⟨hC s h.1, ih h.2⟩

theorem through_iff_take {ops : List Op} : Through C s ops ↔ ∀ k, C (after s (ops.take k)) := by
  induction ops generalizing s with
  | nil => simp [Through]
  | cons op ops ih =>
      rw [Through, ih]
      constructor
      · rintro ⟨hfirst, hrest⟩ k
        cases k with
        | zero => exact hfirst
        | succ k => exact hrest k
      · exact fun h => ⟨h 0, fun k => h (k + 1)⟩

/-- From `s` the program returns with `Q`, and wherever it is cut short it leaves `C`. -/
def wp (C : S → Prop) (x : Program S Op α) (Q : α → S → Prop) (s : S) : Prop :=
  Through C s (x s).2 ∧ Q (x.result s) (x.final s)

theorem wp.post {Q : α → S → Prop} (h : wp C x Q s) : Q (x.result s) (x.final s) := h.2

theorem wp.cut {Q : α → S → Prop} (h : wp C x Q s) (k : Nat) : C (x.cutAt k s) := through_iff_take.mp h.1 k

theorem wp.crash {Q : α → S → Prop} (h : wp C x Q s) : C s := h.1.first

/-- What the use of a program leaves, answered or cut short. -/
theorem wp.use {Q : α → S → Prop} (h : wp C x Q s) (cut : Option Nat) :
    (∃ a, cut = none ∧ (x.use cut s).1 = some a ∧ Q a (x.use cut s).2) ∨
      ∃ k, cut = some k ∧ (x.use cut s).1 = none ∧ C (x.use cut s).2 := by
  cases cut with
  | none => exact Or.inl ⟨x.result s, rfl, rfl, h.post⟩
  | some k => exact Or.inr ⟨k, rfl, rfl, h.cut k⟩

theorem wp.mono {Q Q' : α → S → Prop} (h : wp C x Q s) (hQ : ∀ a s, C s → Q a s → Q' a s) : wp C x Q' s :=
  ⟨h.1, hQ _ _ h.1.last h.2⟩

theorem wp.weaken {Q Q' : α → S → Prop} (h : wp C x Q s) (hC : ∀ s, C s → C' s) (hQ : ∀ a s, C s → Q a s → Q' a s) :
    wp C' x Q' s :=
  ⟨h.1.mono hC, hQ _ _ h.1.last h.2⟩

/-- Two facts about one program hold together. -/
theorem wp.and {Q Q' : α → S → Prop} (h : wp C x Q s) (h' : wp C' x Q' s) :
    wp (fun s => C s ∧ C' s) x (fun a s => Q a s ∧ Q' a s) s :=
  ⟨through_iff_take.mpr fun k => ⟨h.cut k, h'.cut k⟩, h.2, h'.2⟩

/-! ### The rules -/

theorem wp_pure {a : α} {Q : α → S → Prop} : wp C (pure a : Program S Op α) Q s ↔ C s ∧ Q a s := Iff.rfl

theorem wp_bind {Q : β → S → Prop} : wp C (x >>= f) Q s ↔ wp C x (fun a => wp C (f a) Q) s := by
  show Through C s ((x s).2 ++ (f (x s).1 (after s (x s).2)).2) ∧
    Q (f (x s).1 (after s (x s).2)).1 (after s ((x s).2 ++ (f (x s).1 (after s (x s).2)).2)) ↔ _
  rw [through_append, after_append, and_assoc]
  exact Iff.rfl

theorem wp_get {Q : S → S → Prop} : wp C (get : Program S Op S) Q s ↔ C s ∧ Q s s := Iff.rfl

theorem wp_perform {op : Op} {Q : PUnit → S → Prop} :
    wp C (perform op : Program S Op PUnit) Q s ↔ C s ∧ C (Medium.apply s op) ∧ Q ⟨⟩ (Medium.apply s op) := by
  show (C s ∧ C (Medium.apply s op)) ∧ Q ⟨⟩ (Medium.apply s op) ↔ _
  rw [and_assoc]

theorem wp_ite {p : Prop} [Decidable p] {y : Program S Op α} {Q : α → S → Prop} :
    wp C (if p then x else y) Q s ↔ (p → wp C x Q s) ∧ (¬ p → wp C y Q s) := by
  split
  · next h => exact ⟨fun hx => ⟨fun _ => hx, fun hn => absurd h hn⟩, fun hx => hx.1 h⟩
  · next h => exact ⟨fun hy => ⟨fun hp => absurd hp h, fun _ => hy⟩, fun hy => hy.2 h⟩

end CrashLogic
