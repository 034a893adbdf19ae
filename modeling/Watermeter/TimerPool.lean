import Mathlib.Data.List.FinRange
import Mathlib.Data.BitVec
import Mathlib.Logic.Function.Basic

/-! A pool of timer events and the handles a program keeps of them. An event calls back for a handle or for a task
that has none. A callback that returns a negative value gives its event back to the pool, where it may be reused at
once; cancelling an event whose callback is running is refused. -/

namespace TimerPool

/-- An event in use. -/
structure Event (Handle Task : Type*) where
  callback : Handle ⊕ Task
  period : BitVec 32
  isBusy : Bool
  deriving DecidableEq, Repr

/-- The pool of `n` events, a free one being `none`, and the handles, a null one being `none`. -/
structure Timers (n : Nat) (Handle Task : Type*) where
  event : Fin n → Option (Event Handle Task)
  handle : Handle → Option (Fin n)

namespace Timers

variable {n : Nat} {Handle Task : Type*}

def empty : Timers n Handle Task := ⟨fun _ => none, fun _ => none⟩

def put (T : Timers n Handle Task) (s : Fin n) (e : Option (Event Handle Task)) : Timers n Handle Task :=
  { T with event := Function.update T.event s e }

def freeGet (T : Timers n Handle Task) : Option (Fin n) := (List.finRange n).find? fun s => (T.event s).isNone

/-- A new event in the first free place, if there is one. -/
def post (T : Timers n Handle Task) (callback : Handle ⊕ Task) (period : BitVec 32) :
    Timers n Handle Task × Option (Fin n) :=
  match T.freeGet with
  | none => (T, none)
  | some s => (T.put s (some ⟨callback, period, false⟩), some s)

variable [DecidableEq Handle]

def setHandle (T : Timers n Handle Task) (h : Handle) (s : Option (Fin n)) : Timers n Handle Task :=
  { T with handle := Function.update T.handle h s }

def schedule (T : Timers n Handle Task) (h : Handle) (period : BitVec 32) : Timers n Handle Task :=
  (T.post (.inl h) period).1.setHandle h (T.post (.inl h) period).2

def cancel (T : Timers n Handle Task) (h : Handle) : Timers n Handle Task :=
  match T.handle h with
  | none => T
  | some s =>
    match T.event s with
    | none => T
    | some e => if e.isBusy then T else (T.put s none).setHandle h none

/-- What a callback does before it ends its own event. -/
def forget (T : Timers n Handle Task) (h : Handle) : Timers n Handle Task := T.setHandle h none

/-- Cancel what is pending. -/
def stop (T : Timers n Handle Task) (h : Handle) : Timers n Handle Task :=
  if (T.handle h).isSome then T.cancel h else T

/-- Schedule unless it is pending. -/
def start (T : Timers n Handle Task) (h : Handle) (period : BitVec 32) : Timers n Handle Task :=
  if (T.handle h).isNone then T.schedule h period else T

/-- Cancel what is pending and schedule again. -/
def restart (T : Timers n Handle Task) (h : Handle) (period : BitVec 32) : Timers n Handle Task :=
  (T.stop h).schedule h period

/-- The callback of the event begins to run. -/
def enter (T : Timers n Handle Task) (s : Fin n) : Timers n Handle Task :=
  match T.event s with
  | none => T
  | some e => T.put s (some { e with isBusy := true })

/-- The callback has returned `t`. -/
def leave (T : Timers n Handle Task) (s : Fin n) (t : Int) : Timers n Handle Task :=
  match T.event s with
  | none => T
  | some e =>
    if t < 0 then T.put s none
    else if t = 0 then T.put s (some { e with isBusy := false })
    else T.put s (some { e with period := BitVec.ofInt 32 t, isBusy := false })

end Timers

/-! ### Partial inverses -/

section Inverse

variable {α β : Type*}

/-- `f` and `g` link the same pairs, and no point is in two of them. -/
def Inverse (f : α → Option β) (g : β → Option α) : Prop := ∀ a b, f a = some b ↔ g b = some a

variable [DecidableEq α] [DecidableEq β] {f : α → Option β} {g : β → Option α} {a : α} {b : β}

theorem Inverse.link (h : Inverse f g) (ha : f a = none) (hb : g b = none) :
    Inverse (Function.update f a (some b)) (Function.update g b (some a)) := by
  intro x y
  by_cases hx : x = a <;> by_cases hy : y = b
  · simp [hx, hy]
  · have hne : g y ≠ some a := fun hy' => by simp [(h a y).mpr hy'] at ha
    simp [hx, hy, Ne.symm hy, hne]
  · have hne : f x ≠ some b := fun hx' => by simp [(h x b).mp hx'] at hb
    simp [hx, hy, Ne.symm hx, hne]
  · simp only [Function.update_of_ne hx, Function.update_of_ne hy]
    exact h x y

theorem Inverse.unlink (h : Inverse f g) (ha : f a = some b) :
    Inverse (Function.update f a none) (Function.update g b none) := by
  intro x y
  by_cases hx : x = a <;> by_cases hy : y = b
  · simp [hx, hy]
  · have hne : g y ≠ some a := fun hy' => hy (Option.some_injective _ (((h a y).mpr hy').symm.trans ha))
    simp [hx, hy, hne]
  · have hne : f x ≠ some b := fun hx' =>
      hx (Option.some_injective _ (((h x b).mp hx').symm.trans ((h a b).mp ha)))
    simp [hx, hy, hne]
  · simp only [Function.update_of_ne hx, Function.update_of_ne hy]
    exact h x y

end Inverse

/-! ### Coherent handles -/

variable {n : Nat} {Handle Task : Type*} {T : Timers n Handle Task} {h h' : Handle} {s s' : Fin n}

/-- An event of the handle is in use at `s`. -/
def Pending (T : Timers n Handle Task) (h : Handle) (s : Fin n) : Prop :=
  ∃ e, T.event s = some e ∧ e.callback = .inl h

/-- The handle that the event at `s` calls back for. -/
def Timers.caller (T : Timers n Handle Task) (s : Fin n) : Option Handle :=
  (T.event s).bind fun e => e.callback.getLeft?

theorem pending_iff : Pending T h s ↔ T.caller s = some h := by
  rw [Timers.caller, Option.bind_eq_some_iff]
  simp only [Sum.getLeft?_eq_some_iff]
  rfl

/-- Each handle refers to its event, and to nothing when it has none. -/
def Coherent (T : Timers n Handle Task) : Prop := Inverse T.handle T.caller

theorem Coherent.refers_iff (hc : Coherent T) : T.handle h = some s ↔ Pending T h s := (hc h s).trans pending_iff.symm

theorem Coherent.single (hc : Coherent T) (hs : Pending T h s) (hs' : Pending T h s') : s = s' :=
  Option.some_injective _ ((hc.refers_iff.mpr hs).symm.trans (hc.refers_iff.mpr hs'))

theorem Coherent.isSome_iff (hc : Coherent T) : (T.handle h).isSome = true ↔ ∃! s, Pending T h s := by
  rw [Option.isSome_iff_exists]
  constructor
  · rintro ⟨s, hs⟩
    have hpending := hc.refers_iff.mp hs
    exact ⟨s, hpending, fun s' hs' => hc.single hs' hpending⟩
  · rintro ⟨s, hs, -⟩
    exact ⟨s, hc.refers_iff.mpr hs⟩

/-- The handles are coherent, and no callback runs but the one of the event at `busy`. -/
structure InOrder (busy : Option (Fin n)) (T : Timers n Handle Task) : Prop where
  coherent : Coherent T
  quiet : ∀ s e, T.event s = some e → e.isBusy = true → busy = some s

/-- The event of the handle is not the one whose callback is running. -/
def Outside (busy : Option (Fin n)) (T : Timers n Handle Task) (h : Handle) : Prop :=
  ∀ s, busy = some s → T.handle h ≠ some s

theorem Coherent.handle_injective (hc : Coherent T) (hs : T.handle h = some s) (hs' : T.handle h' = some s) : h = h' :=
  Option.some_injective _ (((hc h s).mp hs).symm.trans ((hc h' s).mp hs'))

/-- A callback may cancel the events of the other handles. -/
theorem InOrder.outside (hT : InOrder (some s) T) (hs : T.handle h = some s) (hne : h' ≠ h) : Outside (some s) T h' := by
  rintro _ ⟨⟩ hs'
  exact hne (hT.coherent.handle_injective hs' hs)

theorem outside_none (T : Timers n Handle Task) (h : Handle) : Outside none T h := by
  intro s hs
  exact absurd hs (Option.some_ne_none s).symm

theorem Coherent.used (hc : Coherent T) (hs : T.handle h = some s) : ∃ e, T.event s = some e ∧ e.callback = .inl h :=
  hc.refers_iff.mp hs

/-! ### The operations -/

@[simp] theorem put_handle (T : Timers n Handle Task) (s : Fin n) (e : Option (Event Handle Task)) :
    (T.put s e).handle = T.handle := rfl

@[simp] theorem put_event (T : Timers n Handle Task) (s : Fin n) (e : Option (Event Handle Task)) :
    (T.put s e).event = Function.update T.event s e := rfl

theorem put_caller (T : Timers n Handle Task) (s : Fin n) (e : Option (Event Handle Task)) :
    (T.put s e).caller = Function.update T.caller s (e.bind fun e => e.callback.getLeft?) := by
  funext s'
  by_cases hs : s' = s
  · subst hs
    simp [Timers.caller]
  · simp [Timers.caller, Function.update_of_ne hs]

theorem freeGet_free (hs : T.freeGet = some s) : T.event s = none := by
  have hfound := List.find?_some hs
  exact Option.isNone_iff_eq_none.mp hfound

/-- A change at one place that leaves no callback running there but the one at `busy`. -/
theorem InOrder.quiet_put {busy : Option (Fin n)} (hT : InOrder busy T) {e : Option (Event Handle Task)}
    (he : ∀ e', e = some e' → e'.isBusy = true → busy = some s) :
    ∀ s' e', (T.put s e).event s' = some e' → e'.isBusy = true → busy = some s' := by
  intro s' e' hs' hbusy
  by_cases hs : s' = s
  · subst hs
    rw [put_event, Function.update_self] at hs'
    exact he e' hs' hbusy
  · rw [put_event, Function.update_of_ne hs] at hs'
    exact hT.quiet s' e' hs' hbusy

variable {busy : Option (Fin n)} {period : BitVec 32} {t : Int}

theorem post_handle (T : Timers n Handle Task) (callback : Handle ⊕ Task) (period : BitVec 32) :
    (T.post callback period).1.handle = T.handle := by
  unfold Timers.post
  cases T.freeGet <;> rfl

/-- A free place takes an event of a task. -/
theorem InOrder.post (hT : InOrder busy T) (task : Task) (period : BitVec 32) :
    InOrder busy (T.post (.inr task) period).1 := by
  unfold Timers.post
  cases hfree : T.freeGet with
  | none => exact hT
  | some s =>
    have hnone : T.caller s = none := by rw [Timers.caller, freeGet_free hfree, Option.bind_none]
    refine ⟨?_, hT.quiet_put fun e he hbusy => ?_⟩
    · intro h s'
      rw [put_handle, put_caller]
      by_cases hs : s' = s
      · subst hs
        rw [Function.update_self]
        exact (hT.coherent h s').trans (by rw [hnone]; simp)
      · rw [Function.update_of_ne hs]
        exact hT.coherent h s'
    · obtain rfl := Option.some.inj he
      exact absurd hbusy Bool.false_ne_true

/-! ### Entering and leaving a callback -/

/-- A change of the flag or the period of an event. -/
theorem put_caller_same {e e' : Event Handle Task} (he : T.event s = some e) (hsame : e'.callback = e.callback) :
    (T.put s (some e')).caller = T.caller := by
  rw [put_caller, Option.bind_some, hsame]
  have hcaller : T.caller s = e.callback.getLeft? := by rw [Timers.caller, he, Option.bind_some]
  rw [← hcaller, Function.update_eq_self]

theorem InOrder.enter (hT : InOrder none T) (s : Fin n) : InOrder (some s) (T.enter s) := by
  unfold Timers.enter
  cases he : T.event s with
  | none => exact ⟨hT.coherent, fun s' e he' hbusy => absurd (hT.quiet s' e he' hbusy) (Option.some_ne_none s').symm⟩
  | some e =>
    change InOrder (some s) (T.put s (some { e with isBusy := true }))
    have hsame : (T.put s (some { e with isBusy := true })).caller = T.caller := put_caller_same he rfl
    refine ⟨?_, fun s' e' he' hbusy => ?_⟩
    · rw [Coherent, put_handle, hsame]
      exact hT.coherent
    · by_cases hs : s' = s
      · rw [hs]
      · rw [put_event, Function.update_of_ne hs] at he'
        exact absurd (hT.quiet s' e' he' hbusy) (Option.some_ne_none s').symm

theorem enter_handle (T : Timers n Handle Task) (s : Fin n) : (T.enter s).handle = T.handle := by
  unfold Timers.enter
  cases T.event s <;> rfl

theorem enter_caller (T : Timers n Handle Task) (s : Fin n) : (T.enter s).caller = T.caller := by
  unfold Timers.enter
  cases he : T.event s with
  | none => rfl
  | some e => exact put_caller_same he rfl

theorem leave_handle (T : Timers n Handle Task) (s : Fin n) (t : Int) : (T.leave s t).handle = T.handle := by
  unfold Timers.leave
  cases T.event s with
  | none => rfl
  | some e =>
    dsimp only
    split_ifs <;> rfl

/-- No callback runs once the event of the one that did is idle or free. -/
theorem InOrder.quiet_none (hT : InOrder (some s) T) {e : Option (Event Handle Task)}
    (he : ∀ e', e = some e' → e'.isBusy = false) :
    ∀ s' e', (T.put s e).event s' = some e' → e'.isBusy = true → (none : Option (Fin n)) = some s' := by
  intro s' e' hs' hbusy
  by_cases hs : s' = s
  · subst hs
    rw [put_event, Function.update_self] at hs'
    exact absurd (he e' hs') (by rw [hbusy]; exact Bool.true_eq_false_eq_False)
  · rw [put_event, Function.update_of_ne hs] at hs'
    exact absurd (Option.some.inj (hT.quiet s' e' hs' hbusy)).symm hs

theorem InOrder.free (hT : InOrder (some s) T) (he : T.event s = none) : InOrder none T := by
  refine ⟨hT.coherent, fun s' e he' hbusy => ?_⟩
  obtain rfl := Option.some.inj (hT.quiet s' e he' hbusy)
  rw [he] at he'
  exact absurd he' (Option.some_ne_none e).symm

/-- An event that is to run again. -/
theorem InOrder.leave_again (hT : InOrder (some s) T) (ht : 0 ≤ t) : InOrder none (T.leave s t) := by
  unfold Timers.leave
  cases he : T.event s with
  | none => exact hT.free he
  | some e =>
    have hidle : ∀ e₁ : Event Handle Task, e₁.callback = e.callback → e₁.isBusy = false → InOrder none (T.put s (some e₁)) := by
      intro e₁ hsame hbusy
      refine ⟨?_, hT.quiet_none fun e' he' => by rw [← Option.some.inj he', hbusy]⟩
      rw [Coherent, put_handle, put_caller_same he hsame]
      exact hT.coherent
    simp only [if_neg (not_lt.mpr ht)]
    split_ifs
    · exact hidle _ rfl rfl
    · exact hidle _ rfl rfl

/-- The place of an event that no handle refers to can be freed. -/
theorem InOrder.drop (hT : InOrder busy T) (hcaller : T.caller s = none) : InOrder busy (T.put s none) := by
  refine ⟨?_, hT.quiet_put fun e he => absurd he (Option.some_ne_none e).symm⟩
  rw [Coherent, put_handle, put_caller, Option.bind_none, ← hcaller, Function.update_eq_self]
  exact hT.coherent

/-- The event of a task ends or goes on without any handle. -/
theorem InOrder.leave_task (hT : InOrder (some s) T) (hcaller : T.caller s = none) (t : Int) : InOrder none (T.leave s t) := by
  rcases lt_or_ge t 0 with ht | ht
  · unfold Timers.leave
    cases he : T.event s with
    | none => exact hT.free he
    | some e =>
      simp only [if_pos ht]
      exact ⟨(hT.drop hcaller).coherent, hT.quiet_none fun e he => absurd he (Option.some_ne_none e).symm⟩
  · exact hT.leave_again ht

/-! ### Scheduling and cancelling -/

variable [DecidableEq Handle]

/-- A null handle is given the event of a free place, and stays null when there is none. -/
theorem InOrder.schedule (hT : InOrder busy T) (hnull : T.handle h = none) (period : BitVec 32) :
    InOrder busy (T.schedule h period) := by
  unfold Timers.schedule Timers.post
  cases hfree : T.freeGet with
  | none =>
    have hsame : T.setHandle h none = T := by
      rw [Timers.setHandle, ← hnull, Function.update_eq_self]
    simp only [hsame]
    exact hT
  | some s =>
    have hnone : T.caller s = none := by rw [Timers.caller, freeGet_free hfree, Option.bind_none]
    refine ⟨?_, hT.quiet_put fun e he hbusy => ?_⟩
    · have hlink := hT.coherent.link hnull hnone
      intro h' s'
      change Function.update T.handle h (some s) h' = some s' ↔ (T.put s _).caller s' = some h'
      rw [put_caller]
      exact hlink h' s'
    · obtain rfl := Option.some.inj he
      exact absurd hbusy Bool.false_ne_true

theorem schedule_handle_ne (T : Timers n Handle Task) (period : BitVec 32) (hne : h' ≠ h) :
    (T.schedule h period).handle h' = T.handle h' := by
  unfold Timers.schedule Timers.post
  cases T.freeGet with
  | none => exact Function.update_of_ne hne _ _
  | some s => exact Function.update_of_ne hne _ _

theorem cancel_of (hs : T.handle h = some s) {e : Event Handle Task} (he : T.event s = some e) (hbusy : e.isBusy = false) :
    T.cancel h = (T.put s none).setHandle h none := by
  simp [Timers.cancel, hs, he, hbusy]

theorem InOrder.unlink (hT : InOrder busy T) (hs : T.handle h = some s) : InOrder busy ((T.put s none).setHandle h none) := by
  refine ⟨?_, hT.quiet_put fun e he => absurd he (Option.some_ne_none e).symm⟩
  have hunlink := hT.coherent.unlink hs
  intro h' s'
  change Function.update T.handle h none h' = some s' ↔ (T.put s none).caller s' = some h'
  rw [put_caller]
  exact hunlink h' s'

/-- An event that is not running is cancelled, and its handle is null after that. -/
theorem InOrder.stop (hT : InOrder busy T) (hout : Outside busy T h) :
    InOrder busy (T.stop h) ∧ (T.stop h).handle h = none := by
  cases hs : T.handle h with
  | none => simp [Timers.stop, hs, hT]
  | some s =>
    obtain ⟨e, he, -⟩ := hT.coherent.used hs
    have hidle : e.isBusy = false := by
      by_contra hbusy
      exact hout s (hT.quiet s e he (Bool.eq_true_of_not_eq_false hbusy)) hs
    have hstop : T.stop h = (T.put s none).setHandle h none := by
      rw [Timers.stop, hs, Option.isSome_some, if_pos rfl]
      exact cancel_of hs he hidle
    rw [hstop]
    exact ⟨hT.unlink hs, Function.update_self _ _ _⟩

theorem stop_handle_ne (T : Timers n Handle Task) (hne : h' ≠ h) : (T.stop h).handle h' = T.handle h' := by
  unfold Timers.stop Timers.cancel
  split_ifs
  · split
    · rfl
    · split
      · rfl
      · split_ifs
        · rfl
        · exact Function.update_of_ne hne _ _
  · rfl

theorem InOrder.start (hT : InOrder busy T) (h : Handle) (period : BitVec 32) : InOrder busy (T.start h period) := by
  unfold Timers.start
  split_ifs with hnull
  · exact hT.schedule (Option.isNone_iff_eq_none.mp hnull) period
  · exact hT

theorem start_handle_ne (T : Timers n Handle Task) (period : BitVec 32) (hne : h' ≠ h) :
    (T.start h period).handle h' = T.handle h' := by
  unfold Timers.start
  split_ifs
  · exact schedule_handle_ne T period hne
  · rfl

theorem InOrder.restart (hT : InOrder busy T) (hout : Outside busy T h) (period : BitVec 32) :
    InOrder busy (T.restart h period) := (hT.stop hout).1.schedule (hT.stop hout).2 period

/-! ### Callbacks of handles -/

/-- What the callback of a handle has made of the pool: it is to be called again, or it has nulled its handle. -/
inductive Returned (h : Handle) (s : Fin n) : Int × Timers n Handle Task → Prop
  | again {t : Int} {T : Timers n Handle Task} (ht : 0 ≤ t) (hT : InOrder (some s) T) : Returned h s (t, T)
  | ended {t : Int} {T : Timers n Handle Task} (ht : t < 0) (hT : InOrder (some s) T) (hs : T.handle h = some s) :
      Returned h s (t, T.forget h)

theorem Returned.inOrder {r : Int × Timers n Handle Task} (hr : Returned h s r) : InOrder none (r.2.leave s r.1) := by
  cases hr with
  | again ht hT => exact hT.leave_again ht
  | @ended t T ht hT hs =>
    obtain ⟨e, he, -⟩ := hT.coherent.used hs
    have hleave : (T.forget h).leave s t = (T.put s none).setHandle h none := by
      have he' : (T.forget h).event s = some e := he
      simp only [Timers.leave, he', if_pos ht]
      rfl
    rw [hleave]
    exact ⟨(hT.unlink hs).coherent, hT.quiet_none fun e he => absurd he (Option.some_ne_none e).symm⟩

end TimerPool
