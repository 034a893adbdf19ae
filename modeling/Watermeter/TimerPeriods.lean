import Watermeter.TimerPool
import Mathlib.Algebra.Order.BigOperators.Group.Finset

/-! A pool of timer events as its handles see it: each has the period of its pending event, or none. An operation on a
handle changes the period of no other. A pool that few handles use does not run out of places. -/

namespace TimerPool

variable {n : Nat} {Handle Task : Type*} {T T' : Timers n Handle Task} {h h' : Handle} {s : Fin n} {t : Int}
  {p : BitVec 32}

/-- The period of the event of the handle, while one is pending. -/
def Timers.period (T : Timers n Handle Task) (h : Handle) : Option (BitVec 32) :=
  (T.handle h).bind fun s => (T.event s).map Event.period

theorem Coherent.period_isSome (hc : Coherent T) (h : Handle) : (T.period h).isSome = (T.handle h).isSome := by
  unfold Timers.period
  cases hs : T.handle h with
  | none => rfl
  | some s =>
      obtain ⟨e, he, -⟩ := hc.used hs
      simp [he]

theorem period_of_null (hs : T.handle h = none) : T.period h = none := by rw [Timers.period, hs, Option.bind_none]

/-- Changes at one place are not seen by the handles that refer to others. -/
theorem period_congr (hhandle : T'.handle h = T.handle h) (hevent : ∀ s', s' ≠ s → T'.event s' = T.event s')
    (hne : T.handle h ≠ some s) : T'.period h = T.period h := by
  unfold Timers.period
  rw [hhandle]
  cases hs : T.handle h with
  | none => rfl
  | some s' =>
      have hother : s' ≠ s := fun heq => hne (by rw [hs, heq])
      rw [Option.bind_some, Option.bind_some, hevent s' hother]

/-- The place of another handle is another place. -/
theorem Coherent.handle_ne (hc : Coherent T) (hs : T.handle h = some s) (hne : h' ≠ h) : T.handle h' ≠ some s :=
  fun hs' => hne (hc.handle_injective hs' hs)

theorem Coherent.handle_ne_free (hc : Coherent T) (hfree : T.event s = none) (h : Handle) : T.handle h ≠ some s := by
  intro hs
  obtain ⟨e, he, -⟩ := hc.used hs
  rw [hfree] at he
  exact Option.some_ne_none e he.symm

variable [DecidableEq Handle]

/-! ### Scheduling and cancelling -/

theorem schedule_of (hs : T.freeGet = some s) (h : Handle) (p : BitVec 32) :
    T.schedule h p = (T.put s (some ⟨.inl h, p, false⟩)).setHandle h (some s) := by
  simp [Timers.schedule, Timers.post, hs]

theorem period_schedule (hfree : T.freeGet.isSome = true) : (T.schedule h p).period h = some p := by
  obtain ⟨s, hs⟩ := Option.isSome_iff_exists.mp hfree
  rw [schedule_of hs]
  simp [Timers.period, Timers.setHandle]

theorem Coherent.period_schedule_ne (hc : Coherent T) (hne : h' ≠ h) :
    (T.schedule h p).period h' = T.period h' := by
  cases hs : T.freeGet with
  | none =>
      have hevent : (T.schedule h p).event = T.event := by simp [Timers.schedule, Timers.post, hs, Timers.setHandle]
      rw [Timers.period, schedule_handle_ne T p hne, hevent, Timers.period]
  | some s =>
      refine period_congr (s := s) (schedule_handle_ne T p hne) (fun s' hs' => ?_)
        (hc.handle_ne_free (freeGet_free hs) h')
      rw [schedule_of hs]
      exact Function.update_of_ne hs' _ _

theorem Coherent.period_start_ne (hc : Coherent T) (hne : h' ≠ h) : (T.start h p).period h' = T.period h' := by
  unfold Timers.start
  split_ifs
  · exact hc.period_schedule_ne hne
  · rfl

/-- Between two callbacks a pending event is cancelled. -/
theorem InOrder.stop_of (hT : InOrder none T) (hs : T.handle h = some s) :
    T.stop h = (T.put s none).setHandle h none := by
  obtain ⟨e, he, -⟩ := hT.coherent.used hs
  have hidle : e.isBusy = false :=
    Bool.eq_false_iff.mpr fun hbusy => Option.some_ne_none s (hT.quiet s e he hbusy).symm
  rw [Timers.stop, hs, Option.isSome_some, if_pos rfl]
  exact cancel_of hs he hidle

theorem InOrder.period_stop_ne (hT : InOrder none T) (hne : h' ≠ h) : (T.stop h).period h' = T.period h' := by
  cases hs : T.handle h with
  | none => rw [Timers.stop, hs, Option.isSome_none, if_neg Bool.false_ne_true]
  | some s =>
      refine period_congr (s := s) (stop_handle_ne T hne) (fun s' hs' => ?_) (hT.coherent.handle_ne hs hne)
      rw [hT.stop_of hs]
      exact Function.update_of_ne hs' _ _

/-! ### Callbacks -/

/-- The timer list serves the event at `s`, and its callback returns `t`, having nulled the handle if it ends. -/
def Timers.serve (T : Timers n Handle Task) (h : Handle) (s : Fin n) (t : Int) : Timers n Handle Task :=
  (if t < 0 then (T.enter s).forget h else T.enter s).leave s t

theorem Coherent.serve_of (hc : Coherent T) (hs : T.handle h = some s) : ∃ e, T.event s = some e ∧
    e.callback = .inl h ∧ T.serve h s t = if t < 0 then (T.put s none).setHandle h none
      else T.put s (some { e with period := if t = 0 then e.period else BitVec.ofInt 32 t, isBusy := false }) := by
  obtain ⟨e, he, hcallback⟩ := hc.used hs
  refine ⟨e, he, hcallback, ?_⟩
  have henter : T.enter s = T.put s (some { e with isBusy := true }) := by rw [Timers.enter, he]
  rw [Timers.serve, henter]
  split_ifs with hneg hzero
  · simp [Timers.leave, Timers.forget, Timers.setHandle, Timers.put, hneg]
  · simp [Timers.leave, Timers.put, hzero]
  · simp [Timers.leave, Timers.put, hneg, hzero]

theorem Coherent.period_serve (hc : Coherent T) (hs : T.handle h = some s) : (T.serve h s t).period h =
    if t < 0 then none else if t = 0 then T.period h else some (BitVec.ofInt 32 t) := by
  obtain ⟨e, he, -, hserve⟩ := hc.serve_of (t := t) hs
  rw [hserve]
  split_ifs <;> simp [Timers.period, Timers.setHandle, hs, he]

theorem Coherent.serve_handle (hc : Coherent T) (hs : T.handle h = some s) :
    (T.serve h s t).handle h = if t < 0 then none else some s := by
  obtain ⟨e, -, -, hserve⟩ := hc.serve_of (t := t) hs
  by_cases hneg : t < 0
  · rw [hserve, if_pos hneg, if_pos hneg]
    exact Function.update_self _ _ _
  · rw [hserve, if_neg hneg, if_neg hneg]
    exact hs

theorem Coherent.serve_handle_ne (hc : Coherent T) (hs : T.handle h = some s) (hne : h' ≠ h) :
    (T.serve h s t).handle h' = T.handle h' := by
  obtain ⟨e, -, -, hserve⟩ := hc.serve_of (t := t) hs
  by_cases hneg : t < 0
  · rw [hserve, if_pos hneg]
    exact Function.update_of_ne hne _ _
  · rw [hserve, if_neg hneg]
    rfl

theorem Coherent.serve_event_ne (hc : Coherent T) (hs : T.handle h = some s) {s' : Fin n} (hne : s' ≠ s) :
    (T.serve h s t).event s' = T.event s' := by
  obtain ⟨e, -, -, hserve⟩ := hc.serve_of (t := t) hs
  by_cases hneg : t < 0
  · rw [hserve, if_pos hneg]
    exact Function.update_of_ne hne _ _
  · rw [hserve, if_neg hneg]
    exact Function.update_of_ne hne _ _

theorem Coherent.period_serve_ne (hc : Coherent T) (hs : T.handle h = some s) (hne : h' ≠ h) :
    (T.serve h s t).period h' = T.period h' :=
  period_congr (hc.serve_handle_ne hs hne) (fun _ hs' => hc.serve_event_ne hs hs') (hc.handle_ne hs hne)

/-! ### Room -/

/-- The places in use are those of `base` and those of the handles `users`. -/
def Confined (base : Finset (Fin n)) (users : Finset Handle) (T : Timers n Handle Task) : Prop :=
  ∀ s, T.event s ≠ none → s ∈ base ∨ ∃ h ∈ users, T.handle h = some s

variable {base : Finset (Fin n)} {users : Finset Handle}

/-- A user without an event leaves a place free. -/
theorem Confined.freeGet (hconf : Confined base users T) (hh : h ∈ users) (hnull : T.handle h = none)
    (hroom : base.card + users.card ≤ n) : T.freeGet.isSome = true := by
  by_contra hfull
  have hused : ∀ s, T.event s ≠ none := by
    intro s hs
    apply hfull
    rw [Timers.freeGet, List.find?_isSome]
    exact ⟨s, List.mem_finRange s, Option.isNone_iff_eq_none.mpr hs⟩
  have hcover : (Finset.univ : Finset (Fin n)) ⊆ base ∪ (users.erase h).biUnion fun h' => (T.handle h').toFinset := by
    intro s _
    rw [Finset.mem_union, Finset.mem_biUnion]
    refine (hconf s (hused s)).imp_right fun ⟨h', hh', hs⟩ => ⟨h', Finset.mem_erase.mpr ⟨?_, hh'⟩, ?_⟩
    · rintro rfl
      exact Option.some_ne_none s (hs.symm.trans hnull)
    · rw [Option.mem_toFinset]
      exact hs
  have hone : ∀ h' ∈ users.erase h, (T.handle h').toFinset.card ≤ 1 := by
    intro h' _
    rw [Option.card_toFinset]
    cases T.handle h' <;> simp
  have hcount := calc
    n = (Finset.univ : Finset (Fin n)).card := (Finset.card_fin n).symm
    _ ≤ base.card + ((users.erase h).biUnion fun h' => (T.handle h').toFinset).card :=
      (Finset.card_le_card hcover).trans (Finset.card_union_le _ _)
    _ ≤ base.card + (users.erase h).card * 1 := by gcongr; exact Finset.card_biUnion_le_card_mul _ _ _ hone
    _ < base.card + users.card := by
      rw [mul_one]
      exact Nat.add_lt_add_left (Finset.card_erase_lt_of_mem hh) _
  omega

theorem Confined.schedule (hconf : Confined base users T) (hh : h ∈ users) (hnull : T.handle h = none)
    (p : BitVec 32) : Confined base users (T.schedule h p) := by
  intro s' hs'
  have hkeep : ∀ h', T.handle h' = some s' → (T.schedule h p).handle h' = some s' := by
    intro h' hold
    have hne : h' ≠ h := by
      rintro rfl
      exact Option.some_ne_none s' (hold.symm.trans hnull)
    rw [schedule_handle_ne T p hne, hold]
  have hold : T.event s' ≠ none → s' ∈ base ∨ ∃ h' ∈ users, (T.schedule h p).handle h' = some s' := fun hused =>
    (hconf s' hused).imp_right fun ⟨h', hh', h''⟩ => ⟨h', hh', hkeep h' h''⟩
  cases hfree : T.freeGet with
  | none =>
      apply hold
      have hevent : (T.schedule h p).event = T.event := by simp [Timers.schedule, Timers.post, hfree, Timers.setHandle]
      rwa [hevent] at hs'
  | some s =>
      by_cases heq : s' = s
      · subst heq
        refine .inr ⟨h, hh, ?_⟩
        rw [schedule_of hfree]
        exact Function.update_self _ _ _
      · apply hold
        rw [schedule_of hfree] at hs'
        rwa [show ((T.put s (some ⟨.inl h, p, false⟩)).setHandle h (some s)).event s' = T.event s' from
          Function.update_of_ne heq _ _] at hs'

/-- Freeing the place of a handle. -/
theorem Confined.unlink (hconf : Confined base users T) (hs : T.handle h = some s) :
    Confined base users ((T.put s none).setHandle h none) := by
  intro s' hs'
  have hne : s' ≠ s := by
    rintro rfl
    exact hs' (Function.update_self _ _ _)
  have hused : T.event s' ≠ none := by
    rwa [show ((T.put s none).setHandle h none).event s' = T.event s' from Function.update_of_ne hne _ _] at hs'
  refine (hconf s' hused).imp_right fun ⟨h', hh', hold⟩ => ⟨h', hh', ?_⟩
  have hother : h' ≠ h := by
    rintro rfl
    exact hne (Option.some_injective _ (hold.symm.trans hs))
  exact (Function.update_of_ne hother _ _).trans hold

theorem Confined.stop (hconf : Confined base users T) (hT : InOrder none T) (h : Handle) :
    Confined base users (T.stop h) := by
  cases hs : T.handle h with
  | none => rwa [Timers.stop, hs, Option.isSome_none, if_neg Bool.false_ne_true]
  | some s =>
      rw [hT.stop_of hs]
      exact hconf.unlink hs

theorem Confined.serve (hconf : Confined base users T) (hc : Coherent T) (hs : T.handle h = some s) (t : Int) :
    Confined base users (T.serve h s t) := by
  obtain ⟨e, he, -, hserve⟩ := hc.serve_of (t := t) hs
  by_cases hneg : t < 0
  · rw [hserve, if_pos hneg]
    exact hconf.unlink hs
  · rw [hserve, if_neg hneg]
    intro s' hs'
    refine hconf s' fun hnone => hs' ?_
    have hne : s' ≠ s := by
      rintro rfl
      exact Option.some_ne_none e (he.symm.trans hnone)
    exact (Function.update_of_ne hne _ _).trans hnone

end TimerPool
