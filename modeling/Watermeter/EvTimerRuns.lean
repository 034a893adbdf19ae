import Watermeter.EvTimerTime

/-! The timers over whole runs: no callback is called early, none that is due is left out, and the device sleeps no longer
than until the next. -/

namespace Watermeter.TimerList

open TickClock Transition

variable {ι : Type*} [DecidableEq ι] {s : Timers ι} {evt : ι} {a : Act ι}

/-! ### The nearest timer -/

omit [DecidableEq ι] in
theorem nearestFrom_le (timeout : ι → Nat) (nearest : ι) (list : List ι) :
    (Timers.nearestFrom timeout nearest list = nearest ∨ Timers.nearestFrom timeout nearest list ∈ list) ∧
      timeout (Timers.nearestFrom timeout nearest list) ≤ timeout nearest ∧
      ∀ evt ∈ list, timeout (Timers.nearestFrom timeout nearest list) ≤ timeout evt := by
  induction list generalizing nearest with
  | nil => exact ⟨Or.inl rfl, le_refl _, fun evt hmem => absurd hmem List.not_mem_nil⟩
  | cons head rest ih =>
      rw [Timers.nearestFrom]
      obtain ⟨hmem, hle, hall⟩ := ih (if timeout head < timeout nearest then head else nearest)
      by_cases hlt : timeout head < timeout nearest
      · rw [if_pos hlt] at hmem hle hall ⊢
        refine ⟨Or.inr ?_, by omega, List.forall_mem_cons.mpr ⟨hle, hall⟩⟩
        rcases hmem with heq | hmem
        · rw [heq]
          exact List.mem_cons_self
        · exact List.mem_cons_of_mem _ hmem
      · rw [if_neg hlt] at hmem hle hall ⊢
        exact ⟨hmem.imp_right (List.mem_cons_of_mem _), hle, List.forall_mem_cons.mpr ⟨by omega, hall⟩⟩

omit [DecidableEq ι] in
theorem nearestOf_least {timeout : ι → Nat} {list : List ι} (h : Timers.nearestOf timeout list = some evt) :
    evt ∈ list ∧ ∀ evt' ∈ list, timeout evt ≤ timeout evt' := by
  cases list with
  | nil => cases h
  | cons head rest =>
      obtain ⟨hmem, -, hall⟩ := nearestFrom_le timeout head (head :: rest)
      rw [← Option.some.inj h]
      refine ⟨?_, hall⟩
      rcases hmem with heq | hmem
      · rw [heq]
        exact List.mem_cons_self
      · exact hmem

/-- `timer_nearest` is up to date. -/
def Fresh (s : Timers ι) : Prop := s.nearest = Timers.nearestOf (fun evt => (s.event evt).timeout) s.list

/-- What the main loop does between the timers and a sleep. -/
def Act.Between : Act ι → Prop
  | .pass _ => True
  | .onTimer .. => True
  | .unonTimer _ => True
  | _ => False

theorem Fresh.step (hs : Fresh s) (ha : a.Between) : Fresh (step s a) := by
  have hstop : ∀ evt, Fresh (s.unonTimer evt) := by
    intro evt
    unfold Timers.unonTimer
    split
    · rfl
    · exact hs
  cases a with
  | pass ticks => exact hs
  | onTimer evt timeout =>
      show Fresh (s.onTimer evt timeout)
      unfold Timers.onTimer
      split <;> rfl
  | unonTimer evt =>
      rw [TimerList.step]
      cases s.mode with
      | idle => exact hstop evt
      | loop timerEvt prevHead => exact hs
      | callback timerEvt prevHead =>
          dsimp only
          split
          · exact hs
          · exact hstop evt
  | process => exact ha.elim
  | executeCB => exact ha.elim
  | returned t => exact ha.elim
  | lowPowerEnter ticks ticks32k => exact ha.elim

/-! ### The loop leaves nothing out -/

/-- A timer is set for some time. -/
def Act.Positive : Act ι → Prop
  | .onTimer _ timeout => 0 < timeout
  | _ => True

/-- Every timer has a period, and the loop has come so far that none before it is due. -/
structure Swept (s : Timers ι) : Prop where
  period : ∀ evt ∈ s.list, 0 < (s.event evt).period
  cursor : s.mode = .idle ∨ ∃ pre post, s.list = pre ++ post ∧ s.mode.at = post.head? ∧
    ∀ evt ∈ pre, 0 < (s.event evt).timeout

theorem Swept.started (hs : Swept s) (evt : ι) {timeout : Nat} (hpos : 0 < timeout) : Swept (s.onTimer evt timeout) := by
  have hself : ((s.onTimer evt timeout).event evt).period = timeout ∧ ((s.onTimer evt timeout).event evt).timeout = timeout := by
    unfold Timers.onTimer
    split
    · show (Function.update s.event evt _ evt).period = timeout ∧ (Function.update s.event evt _ evt).timeout = timeout
      rw [Function.update_self]
      exact ⟨rfl, rfl⟩
    · show (Function.update s.event evt _ evt).period = timeout ∧ (Function.update s.event evt _ evt).timeout = timeout
      rw [Function.update_self]
      split <;> exact ⟨rfl, rfl⟩
  have hevent : ∀ evt', ((s.onTimer evt timeout).event evt' = s.event evt') ∨
      0 < ((s.onTimer evt timeout).event evt').period ∧ 0 < ((s.onTimer evt timeout).event evt').timeout := by
    intro evt'
    by_cases heq : evt' = evt
    · rw [heq, hself.1, hself.2]
      exact Or.inr ⟨hpos, hpos⟩
    · exact Or.inl (s.onTimer_other timeout heq)
  have hlist := s.onTimer_list evt timeout
  have hmode := (s.onTimer_rest evt timeout).2.2.2
  refine ⟨fun evt' hmem => ?_, ?_⟩
  · by_cases heq : evt' = evt
    · rw [heq, hself.1]
      exact hpos
    · have hin : evt' ∈ s.list := by
        rw [hlist] at hmem
        split at hmem
        · exact hmem
        · exact (List.mem_cons.mp hmem).resolve_left heq
      rw [s.onTimer_other timeout heq]
      exact hs.period evt' hin
  rw [hmode]
  refine hs.cursor.imp_right fun ⟨pre, post, hsplit, hat, hpre⟩ => ?_
  have hkeep : ∀ evt' ∈ pre, 0 < ((s.onTimer evt timeout).event evt').timeout := by
    intro evt' hmem
    rcases hevent evt' with hsame | ⟨-, htimeout⟩
    · rw [hsame]
      exact hpre evt' hmem
    · exact htimeout
  by_cases hin : evt ∈ s.list
  · rw [if_pos hin] at hlist
    exact ⟨pre, post, hlist.trans hsplit, hat, hkeep⟩
  · rw [if_neg hin] at hlist
    refine ⟨evt :: pre, post, by rw [hlist, hsplit, List.cons_append], hat, List.forall_mem_cons.mpr ⟨?_, hkeep⟩⟩
    rw [hself.2]
    exact hpos

theorem Swept.stopped (hs : Swept s) (hnodup : s.list.Nodup)
    (hother : s.mode = .idle ∨ ∃ timerEvt, s.mode.at = some timerEvt ∧ timerEvt ≠ evt) : Swept (s.unonTimer evt) := by
  have hlist := s.unonTimer_list evt
  have hmode := (s.unonTimer_rest evt).2.2.2
  refine ⟨fun evt' hmem => ?_, ?_⟩
  · rw [hlist] at hmem
    obtain ⟨hne, hin⟩ := hnodup.mem_erase_iff.mp hmem
    rw [s.unonTimer_other hne]
    exact hs.period evt' hin
  rw [hmode, hlist]
  rcases hs.cursor with hidle | ⟨pre, post, hsplit, hat, hpre⟩
  · exact Or.inl hidle
  rcases hother with hidle | ⟨timerEvt, htimer, hne⟩
  · exact Or.inl hidle
  -- the timer is before the one that the loop is at, or behind it
  have hhead := htimer.symm.trans hat
  cases post with
  | nil => cases hhead
  | cons head rest =>
      obtain rfl := Option.some.inj hhead
      by_cases hmem : evt ∈ pre
      · refine Or.inr ⟨pre.erase evt, timerEvt :: rest, ?_, hat, fun evt' hmem' => ?_⟩
        · rw [hsplit, List.erase_append_left _ hmem]
        · have hnodup' := (List.nodup_append.mp (hsplit ▸ hnodup)).1
          obtain ⟨hne', hin⟩ := hnodup'.mem_erase_iff.mp hmem'
          rw [s.unonTimer_other hne']
          exact hpre evt' hin
      · refine Or.inr ⟨pre, timerEvt :: rest.erase evt, ?_, hat, fun evt' hmem' => ?_⟩
        · rw [hsplit, List.erase_append_right _ hmem, List.erase_cons_tail (by simpa using hne)]
        · rw [s.unonTimer_other fun heq : evt' = evt => hmem (heq ▸ hmem')]
          exact hpre evt' hmem'

theorem update_period (s : Timers ι) (updateTime : Nat) (evt : ι) :
    ((s.update updateTime).event evt).period = (s.event evt).period := by
  rw [Timers.update_event]
  split <;> rfl

omit [DecidableEq ι] in
theorem Swept.counted (hs : Swept s) {s' : Timers ι} (hlist : s'.list = s.list)
    (hperiod : ∀ evt, (s'.event evt).period = (s.event evt).period) : ∀ evt ∈ s'.list, 0 < (s'.event evt).period := by
  rw [hlist]
  intro evt hmem
  rw [hperiod]
  exact hs.period evt hmem

theorem Swept.processed (hs : Swept s) : Swept s.process := by
  unfold Timers.process
  split
  · exact hs
  · exact ⟨hs.counted (Timers.update_list _ _) (update_period _ _),
      Or.inr ⟨[], _, rfl, rfl, fun evt hmem => absurd hmem List.not_mem_nil⟩⟩

theorem Swept.slept (hs : Swept s) (hmode : s.mode = .idle) (ticks ticks32k : Nat) :
    Swept (s.lowPowerEnter ticks ticks32k) := by
  unfold Timers.lowPowerEnter
  split
  · exact hs
  · split
    · exact hs
    · unfold Timers.wakeupTimeUpdate
      dsimp only
      split
      · exact ⟨hs.period, Or.inl hmode⟩
      · exact ⟨hs.counted (Timers.update_list _ _) (update_period _ _), Or.inl ((Timers.update_mode _ _).trans hmode)⟩

theorem Swept.ran (hs : Swept s) (hnodup : s.list.Nodup) {timerEvt prevHead : Option ι}
    (hmode : s.mode = .loop timerEvt prevHead) : Swept (s.executeCB timerEvt prevHead) := by
  cases timerEvt with
  | none => exact ⟨hs.period, Or.inl rfl⟩
  | some evt =>
    rw [Timers.executeCB]
    rcases hs.cursor with hidle | ⟨pre, post, hsplit, hat, hpre⟩
    · cases hmode.symm.trans hidle
    rw [hmode] at hat
    by_cases hdue : (s.event evt).timeout = 0
    · rw [if_pos hdue]
      exact ⟨hs.period, Or.inr ⟨pre, post, hsplit, hat, hpre⟩⟩
    · rw [if_neg hdue]
      cases post with
      | nil => cases hat
      | cons head rest =>
          obtain rfl : evt = head := Option.some.inj hat
          refine ⟨hs.period, Or.inr ⟨pre ++ [evt], rest, by rw [List.append_assoc]; exact hsplit, ?_, ?_⟩⟩
          · show Timers.next evt s.list = rest.head?
            rw [hsplit, Timers.next_split (hsplit ▸ hnodup)]
          · intro evt' hmem
            rcases List.mem_append.mp hmem with hmem | hmem
            · exact hpre evt' hmem
            · rw [List.mem_singleton.mp hmem]
              exact Nat.pos_of_ne_zero hdue

/-- The loop goes on behind a callback. -/
theorem swept_resume {s' : Timers ι} {following prevHead : Option ι} (hperiod : ∀ evt ∈ s'.list, 0 < (s'.event evt).period)
    (hcursor : ∃ pre post, s'.list = pre ++ post ∧ following = post.head? ∧ ∀ evt ∈ pre, 0 < (s'.event evt).timeout) :
    Swept (s'.resume following prevHead) := by
  refine ⟨hperiod, Or.inr ?_⟩
  unfold Timers.resume
  dsimp only
  split
  · exact ⟨[], s'.list, rfl, rfl, fun evt hmem => absurd hmem List.not_mem_nil⟩
  · exact hcursor

theorem Swept.returned (hs : Swept s) (hnodup : s.list.Nodup) {timerEvt : ι} {prevHead : Option ι}
    (hmode : s.mode = .callback timerEvt prevHead) (t : Int) : Swept (s.returned timerEvt prevHead t) := by
  rcases hs.cursor with hidle | ⟨pre, post, hsplit, hat, hpre⟩
  · cases hmode.symm.trans hidle
  rw [hmode] at hat
  cases post with
  | nil => cases hat
  | cons head rest =>
  obtain rfl : timerEvt = head := Option.some.inj hat
  have hnodup' := hsplit ▸ hnodup
  have hnew : timerEvt ∉ pre := fun hin => (List.nodup_append.mp hnodup').2.2 _ hin _ List.mem_cons_self rfl
  have hnext : Timers.next timerEvt s.list = rest.head? := by
    rw [hsplit, Timers.next_split hnodup']
  by_cases hneg : t < 0
  · rw [Timers.returned_end hneg]
    refine swept_resume (fun evt hmem => ?_) ⟨pre, rest, ?_, hnext, fun evt hmem => ?_⟩
    · rw [s.unonTimer_list] at hmem
      obtain ⟨hne, hin⟩ := hnodup.mem_erase_iff.mp hmem
      rw [s.unonTimer_other hne]
      exact hs.period evt hin
    · rw [s.unonTimer_list, hsplit, Timers.erase_split hnodup']
    · rw [s.unonTimer_other fun heq : evt = timerEvt => hnew (heq ▸ hmem)]
      exact hpre evt hmem
  · obtain ⟨timeout, htimeout, hagain⟩ := s.returned_again timerEvt prevHead (not_lt.mp hneg)
    have hin : timerEvt ∈ s.list := hsplit ▸ List.mem_append_right _ List.mem_cons_self
    have hpos : 0 < timeout := htimeout.elim (fun heq => heq ▸ hs.period timerEvt hin) id
    rw [hagain]
    refine swept_resume (fun evt hmem => ?_) ⟨pre ++ [timerEvt], rest, by rw [List.append_assoc]; exact hsplit, hnext, ?_⟩
    · show 0 < (Function.update s.event timerEvt _ evt).period
      by_cases heq : evt = timerEvt
      · rw [heq, Function.update_self]
        exact hpos
      · rw [Function.update_of_ne heq]
        exact hs.period evt hmem
    · intro evt hmem
      show 0 < (Function.update s.event timerEvt _ evt).timeout
      by_cases heq : evt = timerEvt
      · rw [heq, Function.update_self]
        exact hpos
      · rw [Function.update_of_ne heq]
        exact hpre evt ((List.mem_append.mp hmem).resolve_right fun hlast => heq (List.mem_singleton.mp hlast))

theorem Swept.step (hs : Swept s) (hnodup : s.list.Nodup) (ha : a.Positive) : Swept (step s a) := by
  cases a with
  | pass ticks => exact ⟨hs.period, hs.cursor⟩
  | onTimer evt timeout => exact hs.started evt ha
  | unonTimer evt =>
      rw [TimerList.step]
      cases hmode : s.mode with
      | idle => exact hs.stopped hnodup (Or.inl hmode)
      | loop timerEvt prevHead => exact hs
      | callback timerEvt prevHead =>
          dsimp only
          split
          · exact hs
          · next hne => exact hs.stopped hnodup (Or.inr ⟨timerEvt, by rw [hmode]; rfl, fun heq => hne heq.symm⟩)
  | process =>
      rw [TimerList.step]
      cases s.mode with
      | idle => exact hs.processed
      | _ => exact hs
  | executeCB =>
      rw [TimerList.step]
      cases hmode : s.mode with
      | loop timerEvt prevHead => exact hs.ran hnodup hmode
      | _ => exact hs
  | returned t =>
      rw [TimerList.step]
      cases hmode : s.mode with
      | callback timerEvt prevHead => exact hs.returned hnodup hmode t
      | _ => exact hs
  | lowPowerEnter ticks ticks32k =>
      rw [TimerList.step]
      cases hmode : s.mode with
      | idle => exact hs.slept hmode ticks ticks32k
      | _ => exact hs

theorem swept_run (sysTick : Nat) (acts : List (Act ι)) (hacts : ∀ a ∈ acts, a.Sound ∧ a.Positive) :
    Swept (run step (Timers.init sysTick) acts) := by
  suffices hrun : ∀ h : History ι, Timed h → Swept h.timers → Swept (run step h.timers acts) from
    hrun (History.init sysTick) (timed_init sysTick) ⟨fun _ hmem => absurd hmem List.not_mem_nil, Or.inl rfl⟩
  induction acts with
  | nil => exact fun h ht hs => hs
  | cons a acts ih =>
      intro h ht hs
      obtain ⟨hsound, hpos⟩ := hacts a List.mem_cons_self
      have hstep : (h.step a).timers = TimerList.step h.timers a := step_timers h a
      rw [run_cons, ← hstep]
      exact ih (fun a' ha' => hacts a' (List.mem_cons_of_mem _ ha')) _ (ht.step hsound)
        (hstep ▸ hs.step ht.nodup hpos)

/-! ### Runs -/

/-- Two timers of 5 and 7 ms. -/
def twoTimers : List (Act (Fin 2)) := [.onTimer 0 5, .onTimer 1 7, .pass 16000, .process]

/-- Whatever happens, sleeps included, a callback is not called until the period has passed that its timer was set for,
up to two milliseconds. -/
theorem never_early (sysTick : Nat) (acts : List (Act ι)) (hacts : ∀ a ∈ acts, a.Sound) (evt : ι) (prevHead : Option ι)
    (hmode : (run step (Timers.init sysTick) acts).mode = .loop (some evt) prevHead)
    (hdue : ((run step (Timers.init sysTick) acts).event evt).timeout = 0) :
    let h := run History.step (History.init sysTick) acts
    h.base evt + ticksPerMs * (h.timers.event evt).period < h.timers.sysTick + 2 * ticksPerMs := by
  intro h
  have ht : Timed h := timed_run sysTick acts hacts
  have htimers : h.timers = run step (Timers.init sysTick) acts := run_timers _ acts
  rw [← htimers] at hmode hdue
  have hin : evt ∈ h.timers.list := ht.busy evt (by rw [hmode]; rfl)
  have hkept := ht.kept evt hin
  cases hrun : (h.timers.event evt).isRunning with
  | true =>
      obtain ⟨-, hearly⟩ := hkept.early hrun
      have hstamp := ht.stamp_le
      rw [hdue, Nat.sub_zero] at hearly
      omega
  | false =>
      obtain ⟨htimeout, -⟩ := hkept.new hrun
      have hpast := hkept.past
      rw [← htimeout, hdue]
      unfold ticksPerMs
      omega

theorem never_early_two :
    let h := run History.step (History.init 0) (twoTimers ++ [.executeCB, .executeCB, .executeCB, .pass 64000, .process, .executeCB])
    h.base 0 + ticksPerMs * (h.timers.event 0).period < h.timers.sysTick + 2 * ticksPerMs :=
  never_early 0 _ (by simp [twoTimers, Act.Sound]) 0 (some 1) (by decide) (by decide)

/-- Once the loop over the timers is through, none in the list is due or overdue, but for what is lost and a millisecond,
and the nearest is the one that is due first. -/
theorem none_left_out (sysTick : Nat) (acts : List (Act ι)) (hacts : ∀ a ∈ acts, a.Sound ∧ a.Positive) (prevHead : Option ι)
    (hmode : (run step (Timers.init sysTick) acts).mode = .loop none prevHead) :
    let h := run History.step (History.init sysTick) (acts ++ [.executeCB])
    h.timers.mode = .idle ∧
      (∀ evt ∈ h.timers.list, 0 < (h.timers.event evt).timeout ∧
        h.stamp < h.base evt + ticksPerMs * ((h.timers.event evt).period + 1) + h.lost evt) ∧
      ∀ evt, h.timers.nearest = some evt → evt ∈ h.timers.list ∧
        ∀ evt' ∈ h.timers.list, (h.timers.event evt).timeout ≤ (h.timers.event evt').timeout := by
  intro h
  set h₀ := run History.step (History.init sysTick) acts with hh₀
  have ht : Timed h₀ := timed_run sysTick acts fun a ha => (hacts a ha).1
  have hs := swept_run sysTick acts hacts
  have htimers : h₀.timers = run step (Timers.init sysTick) acts := run_timers _ acts
  rw [← htimers] at hmode hs
  have hlast : h = { h₀ with timers := { h₀.timers.nearestUpdate with mode := .idle } } := by
    show run History.step _ (acts ++ [.executeCB]) = _
    rw [run_append, ← hh₀, run_cons, run_nil, step_unseen h₀ rfl rfl]
    simp only [step, hmode, Timers.executeCB]
  have hpositive : ∀ evt ∈ h₀.timers.list, 0 < (h₀.timers.event evt).timeout := by
    rcases hs.cursor with hidle | ⟨pre, post, hsplit, hat, hpre⟩
    · cases hmode.symm.trans hidle
    · rw [hmode] at hat
      cases post with
      | nil =>
          rw [hsplit, List.append_nil]
          exact hpre
      | cons head rest => cases hat
  rw [hlast]
  refine ⟨rfl, fun evt hmem => ⟨hpositive evt hmem, ?_⟩, fun evt hnearest => nearestOf_least hnearest⟩
  have hpos := hpositive evt hmem
  have hkept := ht.kept evt hmem
  have hlate := hkept.late (Or.inl hpos)
  have hrem := ht.rem_lt
  show h₀.stamp < h₀.base evt + ticksPerMs * ((h₀.timers.event evt).period + 1) + h₀.lost evt
  cases hrun : (h₀.timers.event evt).isRunning with
  | true =>
      obtain ⟨hle, -⟩ := hkept.early hrun
      unfold ticksPerMs at *
      omega
  | false =>
      obtain ⟨htimeout, -⟩ := hkept.new hrun
      unfold ticksPerMs at *
      omega

theorem none_left_out_two :
    let h := run History.step (History.init 0) ((twoTimers ++ [.executeCB, .executeCB]) ++ [.executeCB])
    h.timers.mode = .idle ∧
      (∀ evt ∈ h.timers.list, 0 < (h.timers.event evt).timeout ∧
        h.stamp < h.base evt + ticksPerMs * ((h.timers.event evt).period + 1) + h.lost evt) ∧
      ∀ evt, h.timers.nearest = some evt → evt ∈ h.timers.list ∧
        ∀ evt' ∈ h.timers.list, (h.timers.event evt).timeout ≤ (h.timers.event evt').timeout :=
  none_left_out 0 _ (by simp [twoTimers, Act.Sound, Act.Positive]) (some 1) (by decide)

theorem fresh_run {acts : List (Act ι)} (hs : Fresh s) (hacts : ∀ a ∈ acts, a.Between) : Fresh (run step s acts) := by
  induction acts generalizing s with
  | nil => exact hs
  | cons a acts ih => exact ih (hs.step (hacts a List.mem_cons_self)) fun a' ha' => hacts a' (List.mem_cons_of_mem _ ha')

/-- A sleep takes no timer past its end: what is left of each that counts is what was left less the whole sleep. -/
def Timers.EndsInTime (s : Timers ι) (ticks ticks32k : Nat) : Prop :=
  ∀ evt ∈ s.list, (s.event evt).isRunning → ((s.lowPowerEnter ticks ticks32k).event evt).timeout +
    (Timers.sleepTimeGet (.ofNat 32 ticks32k)).1 = (s.event evt).timeout

/-- The main loop goes to sleep for as long as the nearest timer has, and so none is slept past. -/
theorem never_overslept (sysTick : Nat) (acts between : List (Act ι)) (prevHead : Option ι) (ticks ticks32k : Nat)
    (hmode : (run step (Timers.init sysTick) acts).mode = .loop none prevHead) (hbetween : ∀ a ∈ between, a.Between)
    (hwake : ∀ evt, (run step (Timers.init sysTick) (acts ++ .executeCB :: between)).nearest = some evt →
      (Timers.sleepTimeGet (.ofNat 32 ticks32k)).1 ≤
        ((run step (Timers.init sysTick) (acts ++ .executeCB :: between)).event evt).timeout) :
    (run step (Timers.init sysTick) (acts ++ .executeCB :: between)).EndsInTime ticks ticks32k := by
  set s := run step (Timers.init sysTick) (acts ++ .executeCB :: between) with hs
  intro evt hmem hrun
  have hfresh : Fresh s := by
    rw [hs, run_append, run_cons]
    refine fresh_run ?_ hbetween
    simp only [step, hmode, Timers.executeCB]
    rfl
  cases hnearest : s.nearest with
  | none =>
      have hempty := hnearest.symm.trans hfresh
      cases hlist : s.list with
      | nil =>
          rw [hlist] at hmem
          exact absurd hmem List.not_mem_nil
      | cons head rest =>
          rw [hlist] at hempty
          cases hempty
  | some timerEvt =>
      obtain ⟨-, hleast⟩ := nearestOf_least (hfresh.symm.trans hnearest)
      have hle := (hwake timerEvt hnearest).trans (hleast evt hmem)
      rw [Timers.lowPowerEnter, hnearest]
      dsimp only
      by_cases hdue : (s.event timerEvt).timeout = 0
      · have hzero : _ ≤ (s.event timerEvt).timeout := hwake timerEvt hnearest
        rw [if_pos hdue]
        have hnone : (Timers.sleepTimeGet (.ofNat 32 ticks32k)).1 = 0 := by omega
        rw [hnone, Nat.add_zero]
      rw [if_neg hdue, Timers.wakeupTimeUpdate]
      dsimp only
      by_cases hnone : (Timers.sleepTimeGet (.ofNat 32 ticks32k)).1 = 0 ∧ (Timers.sleepTimeGet (.ofNat 32 ticks32k)).2 = 0
      · rw [if_pos hnone, hnone.1, Nat.add_zero]
      rw [if_neg hnone]
      show ((Timers.update _ _).event evt).timeout + _ = _
      rw [Timers.update_event]
      by_cases hzero : (Timers.sleepTimeGet (.ofNat 32 ticks32k)).1 = 0
      · rw [if_neg fun hboth => hboth.1 hzero, hzero, Nat.add_zero]
      · rw [if_pos ⟨hzero, hmem⟩, Event.count, Event.elapsed]
        dsimp only
        rw [if_pos hrun, Nat.sub_add_cancel hle]

theorem never_overslept_two :
    (run step (Timers.init 0) ((twoTimers ++ [.executeCB, .executeCB]) ++ .executeCB :: [.pass 500])).EndsInTime 64000 128 :=
  never_overslept 0 _ [.pass 500] (some 1) 64000 128 (by decide) (by simp [Act.Between]) (by decide)

end Watermeter.TimerList
