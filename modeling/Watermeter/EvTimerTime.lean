import Watermeter.EvTimer

/-! What the timers count against the time that has passed. Beside the variables a run keeps the time up to which has
been counted, for each timer the time from which it counts, and the ticks since then that the looks at the clock miss. -/

namespace Watermeter.TimerList

open TickClock Transition

variable {ι : Type*} [DecidableEq ι]

/-! ### The history of a run -/

/-- A look at the clock: when, the time up to which is counted then, and the milliseconds that are. -/
structure Look where
  now : Nat
  stamp : Nat
  updateTime : Nat

/-- The look that `ev_timer_process` takes, and the one after a sleep. -/
def Timers.look (s : Timers ι) : Act ι → Option Look
  | .process => if s.mode = .idle ∧ s.clockTime ≠ s.prevSysTick then some ⟨s.sysTick, s.sysTick, s.updateTime⟩ else none
  | .lowPowerEnter ticks ticks32k =>
      let (sleepTime, sleepRemTick) := Timers.sleepTimeGet (.ofNat 32 ticks32k)
      match s.nearest with
      | none => none
      | some timerEvt =>
        if s.mode = .idle ∧ (s.event timerEvt).timeout ≠ 0 ∧ ¬ (sleepTime = 0 ∧ sleepRemTick = 0) then
          some ⟨s.sysTick + ticks, s.sysTick + ticks - sleepRemTick, sleepTime⟩
        else none
  | _ => none

/-- The timer that is set, by the program, or again when its callback returns. -/
def Timers.sets (s : Timers ι) : Act ι → Option ι
  | .onTimer evt _ => some evt
  | .returned t =>
      match s.mode with
      | .callback timerEvt _ => if 0 ≤ t then some timerEvt else none
      | _ => none
  | _ => none

/-- A run with its history: `stamp` is the time up to which has been counted, `base` the time from which a timer counts,
and `lost` the ticks since then that it misses. -/
structure History (ι : Type*) where
  timers : Timers ι
  stamp : Nat
  base : ι → Nat
  lost : ι → Nat

def History.init (sysTick : Nat) : History ι := ⟨.init sysTick, 0, fun _ => 0, fun _ => 0⟩

namespace History

/-- A timer counts from when it is set, and one that is counting already from when the clock was looked at last. One that
has not been counted for yet still counts from when it was set first. -/
def set (h : History ι) (s' : Timers ι) (evt : ι) : History ι :=
  let s := h.timers
  let base := if evt ∉ s.list then s.sysTick else if (s.event evt).isRunning then h.stamp else h.base evt
  { timers := s'
    stamp := h.stamp
    base := Function.update h.base evt base
    lost := Function.update h.lost evt (if evt ∈ s.list ∧ (s.event evt).isRunning = false then h.lost evt else 0) }

/-- The ticks since the last look that a look misses: in the loop whole turns of the register, and after a sleep the
time awake before it and what the 32 kHz counter is behind. -/
def missed (h : History ι) : Act ι → Nat
  | .process => (h.timers.sysTick - h.stamp) / 2 ^ 32 * 2 ^ 32
  | .lowPowerEnter ticks ticks32k =>
      (h.timers.sysTick - h.stamp) + (ticks - ticksPerMs / sleepTicksPerMs * (ticks32k % 2 ^ 32))
  | _ => 0

/-- A timer that is counted for the first time loses the whole turns of the register since it was set, and the others
what the look misses. -/
def looked (h : History ι) (s' : Timers ι) (l : Look) (missed : Nat) : History ι :=
  let s := h.timers
  { timers := s'
    stamp := l.stamp
    base := h.base
    lost := fun evt =>
      if evt ∈ s.list ∧ (s.event evt).isRunning = false ∧ l.updateTime ≠ 0 then (l.now - h.base evt) / 2 ^ 32 * 2 ^ 32
      else h.lost evt + missed }

def step (h : History ι) (a : Act ι) : History ι :=
  let s' := TimerList.step h.timers a
  match h.timers.sets a with
  | some evt => h.set s' evt
  | none =>
    match h.timers.look a with
    | some l => h.looked s' l (h.missed a)
    | none => { h with timers := s' }

end History

@[simp] theorem step_timers (h : History ι) (a : Act ι) : (h.step a).timers = step h.timers a := by
  unfold History.step
  split
  · rfl
  · split <;> rfl

theorem step_unseen (h : History ι) {a : Act ι} (hsets : h.timers.sets a = none) (hlook : h.timers.look a = none) :
    h.step a = { h with timers := step h.timers a } := by
  unfold History.step
  rw [hsets, hlook]

/-- The history does not change what the timers do. -/
theorem run_timers (h : History ι) (acts : List (Act ι)) :
    (run History.step h acts).timers = run step h.timers acts := by
  induction acts generalizing h with
  | nil => rfl
  | cons a acts ih => rw [run_cons, run_cons, ih, step_timers]

/-! ### One timer -/

/-- What a timer has counted: not more than has passed, up to two milliseconds, and all of it but what is lost and less
than a millisecond at either end. -/
structure Kept (stamp now rem base lost : Nat) (e : Event) : Prop where
  past : base ≤ now
  new : e.isRunning = false → e.timeout = e.period ∧ e.curSysTick = reading 32 base
  early : e.isRunning = true → e.timeout ≤ e.period ∧ base + ticksPerMs * (e.period - e.timeout) + rem < stamp + 2 * ticksPerMs
  late : 0 < e.timeout ∨ e.isRunning = false →
    stamp < base + ticksPerMs * (e.period - e.timeout) + rem + lost + ticksPerMs

variable {stamp now rem base lost : Nat} {e : Event}

theorem Kept.pass (h : Kept stamp now rem base lost e) {now' : Nat} (hle : now ≤ now') : Kept stamp now' rem base lost e :=
  ⟨h.past.trans hle, h.new, h.early, h.late⟩

/-- A timer that is set, and was not in the list. -/
theorem kept_added (hstamp : stamp ≤ now) (timeout : Nat) : Kept stamp now rem now 0 ⟨timeout, timeout, reading 32 now, false⟩ where
  past := le_refl now
  new _ := ⟨rfl, rfl⟩
  early h := absurd h Bool.false_ne_true
  late _ := by
    show stamp < now + ticksPerMs * (timeout - timeout) + rem + 0 + ticksPerMs
    unfold ticksPerMs
    omega

/-- A timer that is set again while it counts. -/
theorem kept_running (hstamp : stamp ≤ now) (hrem : rem < ticksPerMs) (hrun : e.isRunning = true) (timeout : Nat) :
    Kept stamp now rem stamp 0 { e with period := timeout, timeout := timeout } where
  past := hstamp
  new h := absurd (h.symm.trans hrun) Bool.false_ne_true
  early _ := by
    unfold ticksPerMs at *
    show timeout ≤ timeout ∧ stamp + 16000 * (timeout - timeout) + rem < stamp + 2 * 16000
    omega
  late _ := by
    show stamp < stamp + ticksPerMs * (timeout - timeout) + rem + 0 + ticksPerMs
    unfold ticksPerMs
    omega

theorem Kept.waiting (h : Kept stamp now rem base lost e) (hidle : e.isRunning = false) (timeout : Nat) :
    Kept stamp now rem base lost { e with period := timeout, timeout := timeout } where
  past := h.past
  new _ := ⟨rfl, (h.new hidle).2⟩
  early hrun := absurd (hidle.symm.trans hrun) Bool.false_ne_true
  late _ := by
    have hlate := h.late (Or.inr hidle)
    rw [(h.new hidle).1, Nat.sub_self] at hlate
    rwa [Nat.sub_self]

/-- What a look counts and what it misses is what has passed, and the time it counts up to is less than a millisecond
ago. -/
structure Look.Sound (l : Look) (stamp now rem rem' missed : Nat) : Prop where
  counted : stamp + ticksPerMs * l.updateTime + rem' + missed = l.stamp + rem
  stamp_le : l.stamp ≤ l.now
  recent : l.now < l.stamp + ticksPerMs
  later : now ≤ l.now
  rem_lt : rem' < ticksPerMs

variable {l : Look} {rem' missed : Nat}

theorem Kept.unseen (h : Kept stamp now rem base lost e) (hl : l.Sound stamp now rem rem' missed) (hzero : l.updateTime = 0) :
    Kept l.stamp l.now rem' base (lost + missed) e where
  past := h.past.trans hl.later
  new := h.new
  early hrun := by
    have hcounted := hl.counted
    obtain ⟨hle, hearly⟩ := h.early hrun
    rw [hzero] at hcounted
    exact ⟨hle, by omega⟩
  late hpos := by
    have hcounted := hl.counted
    have hlate := h.late hpos
    rw [hzero] at hcounted
    omega

theorem Kept.counted (h : Kept stamp now rem base lost e) (hl : l.Sound stamp now rem rem' missed) (hrun : e.isRunning = true) :
    Kept l.stamp l.now rem' base (lost + missed) (e.count (reading 32 l.now) l.updateTime) := by
  have hcount : e.count (reading 32 l.now) l.updateTime = { e with timeout := e.timeout - l.updateTime, isRunning := true } := by
    rw [Event.count, Event.elapsed, if_pos hrun]
  rw [hcount]
  refine ⟨h.past.trans hl.later, fun hidle => absurd hidle.symm Bool.false_ne_true, fun _ => ?_, fun hpos => ?_⟩
  · have hcounted := hl.counted
    obtain ⟨hle, hearly⟩ := h.early hrun
    unfold ticksPerMs at *
    show e.timeout - l.updateTime ≤ e.period ∧
      base + 16000 * (e.period - (e.timeout - l.updateTime)) + rem' < l.stamp + 2 * 16000
    omega
  · have hpos' : 0 < e.timeout - l.updateTime := hpos.resolve_right fun hidle => absurd hidle.symm Bool.false_ne_true
    have hlate := h.late (Or.inl (by omega))
    have hcounted := hl.counted
    obtain ⟨hle, -⟩ := h.early hrun
    unfold ticksPerMs at *
    show l.stamp < base + 16000 * (e.period - (e.timeout - l.updateTime)) + rem' + _ + 16000
    omega

/-- The first time a timer is counted for, the register tells how long ago it was set, up to whole turns. -/
theorem Kept.first (h : Kept stamp now rem base lost e) (hl : l.Sound stamp now rem rem' missed) (hidle : e.isRunning = false) :
    Kept l.stamp l.now rem' base ((l.now - base) / 2 ^ 32 * 2 ^ 32) (e.count (reading 32 l.now) l.updateTime) := by
  obtain ⟨htimeout, htick⟩ := h.new hidle
  have hpast : base ≤ l.now := h.past.trans hl.later
  have hsub : (reading 32 l.now - e.curSysTick).toNat = (l.now - base) % 2 ^ 32 := by
    rw [htick, reading_sub hpast, BitVec.toNat_ofNat]
  have hcount : e.count (reading 32 l.now) l.updateTime =
      { e with timeout := e.timeout - (l.now - base) % 2 ^ 32 / ticksPerMs, isRunning := true } := by
    rw [Event.count, Event.elapsed, hidle, if_neg Bool.false_ne_true, hsub]
  have hstamp := hl.stamp_le
  have hrecent := hl.recent
  have hrem := hl.rem_lt
  rw [hcount]
  refine ⟨hpast, fun hrun => absurd hrun.symm Bool.false_ne_true, fun _ => ?_, fun hpos => ?_⟩
  · unfold ticksPerMs at *
    show e.timeout - (l.now - base) % 2 ^ 32 / 16000 ≤ e.period ∧
      base + 16000 * (e.period - (e.timeout - (l.now - base) % 2 ^ 32 / 16000)) + rem' < l.stamp + 2 * 16000
    omega
  · have hpos' : 0 < e.timeout - (l.now - base) % 2 ^ 32 / ticksPerMs :=
      hpos.resolve_right fun hrun => absurd hrun.symm Bool.false_ne_true
    unfold ticksPerMs at *
    show l.stamp < base + 16000 * (e.period - (e.timeout - (l.now - base) % 2 ^ 32 / 16000)) + rem' + _ + 16000
    omega

/-! ### All timers -/

namespace Timers

variable {s : Timers ι} {evt evt' : ι}

omit [DecidableEq ι] in
@[simp] theorem nearestUpdate_event (s : Timers ι) : s.nearestUpdate.event = s.event := rfl

omit [DecidableEq ι] in
@[simp] theorem nearestUpdate_list (s : Timers ι) : s.nearestUpdate.list = s.list := rfl

theorem update_event (s : Timers ι) (updateTime : Nat) (evt : ι) : (s.update updateTime).event evt =
    if updateTime ≠ 0 ∧ evt ∈ s.list then (s.event evt).count s.clockTime updateTime else s.event evt := by
  unfold update
  by_cases hzero : updateTime = 0
  · rw [if_pos hzero, if_neg fun hboth => hboth.1 hzero]
  · rw [if_neg hzero]
    exact if_congr (and_iff_right hzero).symm rfl rfl

@[simp] theorem update_list (s : Timers ι) (updateTime : Nat) : (s.update updateTime).list = s.list := by
  unfold update
  split <;> rfl

@[simp] theorem update_mode (s : Timers ι) (updateTime : Nat) : (s.update updateTime).mode = s.mode := by
  unfold update
  split <;> rfl

@[simp] theorem update_remSysTick (s : Timers ι) (updateTime : Nat) : (s.update updateTime).remSysTick = s.remSysTick := by
  unfold update
  split <;> rfl

@[simp] theorem update_prevSysTick (s : Timers ι) (updateTime : Nat) :
    (s.update updateTime).prevSysTick = s.prevSysTick := by
  unfold update
  split <;> rfl

@[simp] theorem update_sysTick (s : Timers ι) (updateTime : Nat) : (s.update updateTime).sysTick = s.sysTick := by
  unfold update
  split <;> rfl

end Timers

/-- The invariant: the clock, the list, and what each timer in it has counted. -/
structure Timed (h : History ι) : Prop where
  stamp_le : h.stamp ≤ h.timers.sysTick
  prev : h.timers.prevSysTick = reading 32 h.stamp
  rem_lt : h.timers.remSysTick < ticksPerMs
  nodup : h.timers.list.Nodup
  off : ∀ evt, evt ∉ h.timers.list → (h.timers.event evt).isRunning = false
  busy : ∀ evt, h.timers.mode.at = some evt → evt ∈ h.timers.list
  kept : ∀ evt ∈ h.timers.list,
    Kept h.stamp h.timers.sysTick h.timers.remSysTick (h.base evt) (h.lost evt) (h.timers.event evt)

variable {h : History ι} {s' : Timers ι} {evt : ι}

omit [DecidableEq ι] in
theorem timed_init (sysTick : Nat) : Timed (History.init sysTick : History ι) where
  stamp_le := Nat.zero_le _
  prev := rfl
  rem_lt := Nat.zero_lt_succ _
  nodup := List.nodup_nil
  off _ _ := rfl
  busy _ hat := nomatch hat
  kept _ hmem := absurd hmem List.not_mem_nil

omit [DecidableEq ι] in
/-- Time passes, or the program goes on, and the timers are as they were. -/
theorem Timed.same (ht : Timed h) (hevent : s'.event = h.timers.event) (hlist : s'.list = h.timers.list)
    (hprev : s'.prevSysTick = h.timers.prevSysTick) (hrem : s'.remSysTick = h.timers.remSysTick)
    (hpass : h.timers.sysTick ≤ s'.sysTick) (hbusy : ∀ evt, s'.mode.at = some evt → evt ∈ s'.list) :
    Timed { h with timers := s' } where
  stamp_le := ht.stamp_le.trans hpass
  prev := hprev.trans ht.prev
  rem_lt := hrem ▸ ht.rem_lt
  nodup := hlist ▸ ht.nodup
  off := by
    rw [hlist, hevent]
    exact ht.off
  busy := hbusy
  kept := by
    rw [hlist, hevent, hrem]
    exact fun evt hmem => (ht.kept evt hmem).pass hpass

/-- The clock is looked at, and the timers in the list are counted for. -/
theorem Timed.looked (ht : Timed h) {l : Look} {missed : Nat}
    (hl : l.Sound h.stamp h.timers.sysTick h.timers.remSysTick s'.remSysTick missed) (hsys : s'.sysTick = l.now)
    (hevent : ∀ evt, s'.event evt = if l.updateTime ≠ 0 ∧ evt ∈ h.timers.list then
      (h.timers.event evt).count (reading 32 l.now) l.updateTime else h.timers.event evt)
    (hlist : s'.list = h.timers.list) (hprev : s'.prevSysTick = reading 32 l.stamp)
    (hbusy : ∀ evt, s'.mode.at = some evt → evt ∈ s'.list) : Timed (h.looked s' l missed) where
  stamp_le := hsys ▸ hl.stamp_le
  prev := hprev
  rem_lt := hl.rem_lt
  nodup := hlist ▸ ht.nodup
  off evt hmem := by
    have hoff : evt ∉ h.timers.list := hlist ▸ hmem
    show (s'.event evt).isRunning = false
    rw [hevent, if_neg fun hboth => hoff hboth.2]
    exact ht.off evt hoff
  busy := hbusy
  kept evt hmem := by
    have hin : evt ∈ h.timers.list := hlist ▸ hmem
    have hkept := ht.kept evt hin
    show Kept l.stamp s'.sysTick s'.remSysTick (h.base evt) ((h.looked s' l missed).lost evt) (s'.event evt)
    rw [hsys, hevent]
    unfold History.looked
    simp only
    by_cases hzero : l.updateTime = 0
    · rw [if_neg fun hnew => hnew.2.2 hzero, if_neg fun hboth => hboth.1 hzero]
      exact hkept.unseen hl hzero
    rw [if_pos (show l.updateTime ≠ 0 ∧ evt ∈ h.timers.list from ⟨hzero, hin⟩)]
    cases hrun : (h.timers.event evt).isRunning with
    | true =>
        rw [if_neg fun hnew => Bool.false_ne_true hnew.2.1.symm]
        exact hkept.counted hl hrun
    | false =>
        rw [if_pos ⟨hin, rfl, hzero⟩]
        exact hkept.first hl hrun

/-- A timer is taken out of the list. -/
theorem Timed.removed (ht : Timed h) (hlist : s'.list = h.timers.list.erase evt)
    (hother : ∀ evt' ≠ evt, s'.event evt' = h.timers.event evt') (hself : (s'.event evt).isRunning = false)
    (hprev : s'.prevSysTick = h.timers.prevSysTick) (hrem : s'.remSysTick = h.timers.remSysTick)
    (hsys : s'.sysTick = h.timers.sysTick) (hbusy : ∀ evt, s'.mode.at = some evt → evt ∈ s'.list) :
    Timed { h with timers := s' } where
  stamp_le := hsys ▸ ht.stamp_le
  prev := hprev.trans ht.prev
  rem_lt := hrem ▸ ht.rem_lt
  nodup := hlist ▸ ht.nodup.erase evt
  off evt' hmem := by
    by_cases heq : evt' = evt
    · rw [heq]
      exact hself
    · have hoff : evt' ∉ h.timers.list := fun hin => hmem (hlist ▸ (List.mem_erase_of_ne heq).mpr hin)
      show (s'.event evt').isRunning = false
      rw [hother evt' heq]
      exact ht.off evt' hoff
  busy := hbusy
  kept evt' hmem := by
    have hboth : evt' ≠ evt ∧ evt' ∈ h.timers.list := ht.nodup.mem_erase_iff.mp (hlist ▸ hmem)
    show Kept h.stamp s'.sysTick s'.remSysTick (h.base evt') (h.lost evt') (s'.event evt')
    rw [hother evt' hboth.1, hrem, hsys]
    exact ht.kept evt' hboth.2

/-- A timer is set. -/
theorem Timed.set (ht : Timed h) (timeout : Nat)
    (hlist : s'.list = if evt ∈ h.timers.list then h.timers.list else evt :: h.timers.list)
    (hother : ∀ evt' ≠ evt, s'.event evt' = h.timers.event evt')
    (hself : s'.event evt = if evt ∈ h.timers.list then { h.timers.event evt with period := timeout, timeout := timeout }
      else ⟨timeout, timeout, h.timers.clockTime, false⟩)
    (hprev : s'.prevSysTick = h.timers.prevSysTick) (hrem : s'.remSysTick = h.timers.remSysTick)
    (hsys : s'.sysTick = h.timers.sysTick) (hbusy : ∀ evt, s'.mode.at = some evt → evt ∈ s'.list) :
    Timed (h.set s' evt) where
  stamp_le := hsys ▸ ht.stamp_le
  prev := hprev.trans ht.prev
  rem_lt := hrem ▸ ht.rem_lt
  nodup := by
    show s'.list.Nodup
    rw [hlist]
    split
    · exact ht.nodup
    · next hoff => exact List.nodup_cons.mpr ⟨hoff, ht.nodup⟩
  off evt' hmem := by
    have hboth : evt' ≠ evt ∧ evt' ∉ h.timers.list := by
      have hmem' : evt' ∉ s'.list := hmem
      rw [hlist] at hmem'
      split at hmem'
      · next hin => exact ⟨fun heq => hmem' (heq ▸ hin), hmem'⟩
      · exact ⟨fun heq => hmem' (heq ▸ List.mem_cons_self), fun hin => hmem' (List.mem_cons_of_mem _ hin)⟩
    show (s'.event evt').isRunning = false
    rw [hother evt' hboth.1]
    exact ht.off evt' hboth.2
  busy := hbusy
  kept evt' hmem := by
    show Kept h.stamp s'.sysTick s'.remSysTick ((h.set s' evt).base evt') ((h.set s' evt).lost evt') (s'.event evt')
    unfold History.set
    simp only
    rw [hrem, hsys]
    by_cases heq : evt' = evt
    · subst heq
      rw [Function.update_self, Function.update_self, hself]
      by_cases hin : evt' ∈ h.timers.list
      · rw [if_pos hin, if_neg (not_not.mpr hin)]
        cases hrun : (h.timers.event evt').isRunning with
        | true =>
            rw [if_pos rfl, if_neg fun hboth => Bool.false_ne_true hboth.2.symm]
            exact kept_running ht.stamp_le ht.rem_lt hrun timeout
        | false =>
            rw [if_neg Bool.false_ne_true, if_pos ⟨hin, rfl⟩]
            exact (ht.kept evt' hin).waiting hrun timeout
      · rw [if_neg hin, if_pos hin, if_neg fun hboth => hin hboth.1]
        exact kept_added ht.stamp_le timeout
    · have hin : evt' ∈ h.timers.list := by
        have hmem' : evt' ∈ s'.list := hmem
        rw [hlist] at hmem'
        split at hmem'
        · exact hmem'
        · exact (List.mem_cons.mp hmem').resolve_left heq
      rw [Function.update_of_ne heq, Function.update_of_ne heq, hother evt' heq]
      exact ht.kept evt' hin

/-! ### The steps -/

namespace Timers

variable {s : Timers ι}

theorem onTimer_list (s : Timers ι) (evt : ι) (timeout : Nat) :
    (s.onTimer evt timeout).list = if evt ∈ s.list then s.list else evt :: s.list := by
  unfold onTimer
  split <;> rfl

theorem onTimer_other (s : Timers ι) {evt evt' : ι} (timeout : Nat) (hne : evt' ≠ evt) :
    (s.onTimer evt timeout).event evt' = s.event evt' := by
  unfold onTimer
  split <;> exact Function.update_of_ne hne _ _

theorem onTimer_self (s : Timers ι) {evt : ι} (timeout : Nat) (hoff : evt ∉ s.list → (s.event evt).isRunning = false) :
    (s.onTimer evt timeout).event evt =
      if evt ∈ s.list then { s.event evt with period := timeout, timeout := timeout }
      else ⟨timeout, timeout, s.clockTime, false⟩ := by
  unfold onTimer
  split
  · exact Function.update_self _ _ _
  · next hin =>
      apply (Function.update_self _ _ _).trans
      rw [hoff hin, if_neg Bool.false_ne_true]

theorem onTimer_rest (s : Timers ι) (evt : ι) (timeout : Nat) :
    (s.onTimer evt timeout).prevSysTick = s.prevSysTick ∧ (s.onTimer evt timeout).remSysTick = s.remSysTick ∧
      (s.onTimer evt timeout).sysTick = s.sysTick ∧ (s.onTimer evt timeout).mode = s.mode := by
  unfold onTimer
  split <;> exact ⟨rfl, rfl, rfl, rfl⟩

theorem unonTimer_list (s : Timers ι) (evt : ι) : (s.unonTimer evt).list = s.list.erase evt := by
  unfold unonTimer
  split
  · rfl
  · next hoff => exact (List.erase_of_not_mem hoff).symm

theorem unonTimer_other (s : Timers ι) {evt evt' : ι} (hne : evt' ≠ evt) : (s.unonTimer evt).event evt' = s.event evt' := by
  unfold unonTimer
  split
  · exact Function.update_of_ne hne _ _
  · rfl

theorem unonTimer_self (s : Timers ι) {evt : ι} (hoff : evt ∉ s.list → (s.event evt).isRunning = false) :
    ((s.unonTimer evt).event evt).isRunning = false := by
  unfold unonTimer
  split
  · show (Function.update s.event evt { s.event evt with isRunning := false, curSysTick := 0 } evt).isRunning = false
    rw [Function.update_self]
  · next hin => exact hoff hin

theorem unonTimer_rest (s : Timers ι) (evt : ι) :
    (s.unonTimer evt).prevSysTick = s.prevSysTick ∧ (s.unonTimer evt).remSysTick = s.remSysTick ∧
      (s.unonTimer evt).sysTick = s.sysTick ∧ (s.unonTimer evt).mode = s.mode := by
  unfold unonTimer
  split <;> exact ⟨rfl, rfl, rfl, rfl⟩

end Timers

/-- The 32 kHz counter is not fast. -/
def Act.Sound : Act ι → Prop
  | .lowPowerEnter ticks ticks32k => ticksPerMs / sleepTicksPerMs * ticks32k ≤ ticks
  | _ => True

theorem Timed.stopped (ht : Timed h) (hne : h.timers.mode.at ≠ some evt) :
    Timed { h with timers := h.timers.unonTimer evt } := by
  obtain ⟨hprev, hrem, hsys, hmode⟩ := h.timers.unonTimer_rest evt
  refine ht.removed (h.timers.unonTimer_list evt) (fun evt' hne => h.timers.unonTimer_other hne)
    (h.timers.unonTimer_self (ht.off evt)) hprev hrem hsys fun evt' hat => ?_
  rw [hmode] at hat
  rw [h.timers.unonTimer_list]
  have hother : evt' ≠ evt := fun heq => hne (heq.symm ▸ hat)
  exact (List.mem_erase_of_ne hother).mpr (ht.busy evt' hat)

theorem Timed.started (ht : Timed h) (evt : ι) (timeout : Nat) : Timed (h.set (h.timers.onTimer evt timeout) evt) := by
  obtain ⟨hprev, hrem, hsys, hmode⟩ := h.timers.onTimer_rest evt timeout
  refine ht.set timeout (h.timers.onTimer_list evt timeout) (fun evt' hne => h.timers.onTimer_other timeout hne)
    (h.timers.onTimer_self timeout (ht.off evt)) hprev hrem hsys fun evt' hat => ?_
  rw [hmode] at hat
  rw [h.timers.onTimer_list]
  split
  · exact ht.busy evt' hat
  · exact List.mem_cons_of_mem _ (ht.busy evt' hat)

omit [DecidableEq ι] in
/-- The ticks since the last look, up to whole turns of the register. -/
theorem Timed.sysTicks (ht : Timed h) : h.timers.sysTicks = (h.timers.sysTick - h.stamp) % 2 ^ 32 := by
  rw [Timers.sysTicks, Timers.clockTime, ht.prev, reading_sub ht.stamp_le, BitVec.toNat_ofNat]

theorem Timed.processed (ht : Timed h) (hmode : h.timers.mode = .idle) :
    Timed (h.step .process) := by
  have hstep : h.step .process = match h.timers.look .process with
      | some l => h.looked (step h.timers .process) l (h.missed .process)
      | none => { h with timers := step h.timers .process } := rfl
  have hprocess : step h.timers .process = h.timers.process := by
    simp only [step, hmode]
  rw [hstep, hprocess, Timers.look]
  by_cases hsame : h.timers.clockTime = h.timers.prevSysTick
  · rw [if_neg fun hboth => hboth.2 hsame, Timers.process, if_pos hsame]
    exact ht
  rw [if_pos ⟨hmode, hsame⟩, Timers.process, if_neg hsame]
  have hticks := ht.sysTicks
  have hrem := ht.rem_lt
  have hstamp := ht.stamp_le
  refine ht.looked ⟨?_, le_refl _, ?_, le_refl _, ?_⟩ ?_ (fun evt => ?_) ?_ ?_ fun _ hat => List.mem_of_mem_head? hat
  · rw [Timers.update_remSysTick]
    unfold Timers.updateTime History.missed ticksPerMs at *
    simp only
    omega
  · unfold ticksPerMs
    simp only
    omega
  · rw [Timers.update_remSysTick]
    exact Nat.mod_lt _ (by decide)
  · exact Timers.update_sysTick _ _
  · exact Timers.update_event _ _ evt
  · exact Timers.update_list _ _
  · exact Timers.update_prevSysTick _ _

/-- The ticks of a sleep, as the 32 kHz counter tells them. -/
theorem sleepTimeGet_ticks (ticks32k : Nat) :
    ticksPerMs * (Timers.sleepTimeGet (.ofNat 32 ticks32k)).1 + (Timers.sleepTimeGet (.ofNat 32 ticks32k)).2 =
        ticksPerMs / sleepTicksPerMs * (ticks32k % 2 ^ 32) ∧
      (Timers.sleepTimeGet (.ofNat 32 ticks32k)).2 < ticksPerMs := by
  unfold Timers.sleepTimeGet ticksPerMs sleepTicksPerMs
  simp only [BitVec.toNat_ofNat]
  omega

theorem Timed.slept (ht : Timed h) (hmode : h.timers.mode = .idle) {ticks ticks32k : Nat}
    (hslow : ticksPerMs / sleepTicksPerMs * ticks32k ≤ ticks) : Timed (h.step (.lowPowerEnter ticks ticks32k)) := by
  have hstep : h.step (.lowPowerEnter ticks ticks32k) = match h.timers.look (.lowPowerEnter ticks ticks32k) with
      | some l => h.looked (step h.timers (.lowPowerEnter ticks ticks32k)) l (h.missed (.lowPowerEnter ticks ticks32k))
      | none => { h with timers := step h.timers (.lowPowerEnter ticks ticks32k) } := rfl
  have hsleep : step h.timers (.lowPowerEnter ticks ticks32k) = h.timers.lowPowerEnter ticks ticks32k := by
    simp only [step, hmode]
  rw [hstep, hsleep, Timers.look, Timers.lowPowerEnter]
  cases h.timers.nearest with
  | none => exact ht
  | some timerEvt =>
    simp only
    by_cases hdue : (h.timers.event timerEvt).timeout = 0
    · rw [if_neg fun hall => hall.2.1 hdue, if_pos hdue]
      exact ht
    rw [if_neg hdue, Timers.wakeupTimeUpdate]
    obtain ⟨hticks, hleft⟩ := sleepTimeGet_ticks ticks32k
    have hwhole : ticksPerMs / sleepTicksPerMs * (ticks32k % 2 ^ 32) ≤ ticks :=
      (Nat.mul_le_mul_left _ (Nat.mod_le ticks32k (2 ^ 32))).trans hslow
    simp only
    by_cases hnone : (Timers.sleepTimeGet (.ofNat 32 ticks32k)).1 = 0 ∧ (Timers.sleepTimeGet (.ofNat 32 ticks32k)).2 = 0
    · rw [if_neg fun hall => hall.2.2 hnone, if_pos hnone]
      exact ht.same rfl rfl rfl rfl (Nat.le_add_right _ _) ht.busy
    rw [if_pos ⟨hmode, hdue, hnone⟩, if_neg hnone]
    have hstamp := ht.stamp_le
    have hrem := ht.rem_lt
    have hpast : (Timers.sleepTimeGet (.ofNat 32 ticks32k)).2 ≤ h.timers.sysTick + ticks := by omega
    refine ht.looked ⟨?_, Nat.sub_le _ _, ?_, Nat.le_add_right _ _, ?_⟩ ?_ (fun evt => ?_) ?_ ?_ fun _ hat => ?_
    · rw [Timers.update_remSysTick]
      unfold History.missed
      dsimp only
      omega
    · dsimp only
      omega
    · rw [Timers.update_remSysTick]
      exact hrem
    · exact Timers.update_sysTick _ _
    · exact Timers.update_event _ _ evt
    · exact Timers.update_list _ _
    · exact reading_sub hpast
    · rw [Timers.update_mode, hmode] at hat
      cases hat

namespace Timers

variable {s : Timers ι} {timerEvt : ι} {prevHead : Option ι} {t : Int}

/-- A callback whose timer goes on. -/
theorem returned_again (s : Timers ι) (timerEvt : ι) (prevHead : Option ι) (ht : 0 ≤ t) :
    ∃ timeout, (timeout = (s.event timerEvt).period ∨ 0 < timeout) ∧ s.returned timerEvt prevHead t =
      (s.put timerEvt { s.event timerEvt with period := timeout, timeout := timeout }).resume (next timerEvt s.list) prevHead := by
  by_cases hzero : t = 0
  · refine ⟨(s.event timerEvt).period, Or.inl rfl, ?_⟩
    rw [returned, if_neg (not_lt.mpr ht), if_pos hzero]
  · refine ⟨t.toNat, Or.inr (by omega), ?_⟩
    rw [returned, if_neg (not_lt.mpr ht), if_neg hzero]

/-- A callback whose timer ends. -/
theorem returned_end (ht : t < 0) :
    s.returned timerEvt prevHead t = (s.unonTimer timerEvt).resume (next timerEvt s.list) prevHead := if_pos ht

/-- The timer behind one of the list. -/
theorem next_split {pre post : List ι} (hnodup : (pre ++ timerEvt :: post).Nodup) :
    next timerEvt (pre ++ timerEvt :: post) = post.head? := by
  induction pre with
  | nil => exact if_pos rfl
  | cons evt pre ih =>
      obtain ⟨hnew, hnodup'⟩ := List.nodup_cons.mp hnodup
      have hne : evt ≠ timerEvt := fun heq => hnew (heq ▸ List.mem_append_right _ List.mem_cons_self)
      exact (if_neg hne).trans (ih hnodup')

theorem erase_split {pre post : List ι} (hnodup : (pre ++ timerEvt :: post).Nodup) :
    (pre ++ timerEvt :: post).erase timerEvt = pre ++ post := by
  have hnew : timerEvt ∉ pre := fun hin => (List.nodup_append.mp hnodup).2.2 _ hin _ List.mem_cons_self rfl
  rw [List.erase_append_right _ hnew, List.erase_cons_head]

/-- Where the loop goes on is in the list. -/
theorem resume_mem {s' : Timers ι} {following : Option ι} (hfollowing : ∀ evt, following = some evt → evt ∈ s'.list)
    (evt : ι) (hat : (s'.resume following prevHead).mode.at = some evt) : evt ∈ s'.list := by
  unfold resume at hat
  dsimp only at hat
  split at hat
  · exact List.mem_of_mem_head? hat
  · exact hfollowing evt hat

end Timers

theorem Timed.returned (ht : Timed h) {timerEvt : ι} {prevHead : Option ι} (hmode : h.timers.mode = .callback timerEvt prevHead)
    (t : Int) : Timed (h.step (.returned t)) := by
  have hin : timerEvt ∈ h.timers.list := ht.busy timerEvt (by rw [hmode]; rfl)
  have hreturn : step h.timers (.returned t) = h.timers.returned timerEvt prevHead t := by
    simp only [step, hmode]
  have hsets : h.timers.sets (.returned t) = if 0 ≤ t then some timerEvt else none := by
    simp only [Timers.sets, hmode]
  obtain ⟨pre, post, hsplit⟩ := List.append_of_mem hin
  have hnodup := hsplit ▸ ht.nodup
  unfold History.step
  rw [hsets, hreturn]
  by_cases hneg : t < 0
  · rw [if_neg (not_le.mpr hneg), Timers.returned_end hneg]
    obtain ⟨hprev, hrem, hsys, -⟩ := h.timers.unonTimer_rest timerEvt
    refine ht.removed (h.timers.unonTimer_list timerEvt) (fun evt' hne => h.timers.unonTimer_other hne)
      (h.timers.unonTimer_self (ht.off timerEvt)) hprev hrem hsys (Timers.resume_mem fun evt hfollowing => ?_)
    rw [hsplit, Timers.next_split hnodup] at hfollowing
    rw [h.timers.unonTimer_list, hsplit, Timers.erase_split hnodup]
    exact List.mem_append_right _ (List.mem_of_mem_head? hfollowing)
  · obtain ⟨timeout, -, hagain⟩ := h.timers.returned_again timerEvt prevHead (not_lt.mp hneg)
    rw [if_pos (not_lt.mp hneg), hagain]
    refine ht.set timeout (if_pos hin).symm (fun evt' hne => Function.update_of_ne hne _ _) ?_ rfl rfl rfl
      (Timers.resume_mem fun evt hfollowing => ?_)
    · rw [if_pos hin]
      exact Function.update_self _ _ _
    · rw [hsplit, Timers.next_split hnodup] at hfollowing
      show evt ∈ h.timers.list
      rw [hsplit]
      exact List.mem_append_right _ (List.mem_cons_of_mem _ (List.mem_of_mem_head? hfollowing))

theorem Timed.ran (ht : Timed h) {timerEvt prevHead : Option ι} (hmode : h.timers.mode = .loop timerEvt prevHead) :
    Timed (h.step .executeCB) := by
  have hrun : step h.timers .executeCB = h.timers.executeCB timerEvt prevHead := by
    simp only [step, hmode]
  rw [step_unseen h rfl rfl, hrun]
  cases timerEvt with
  | none => exact ht.same rfl rfl rfl rfl (le_refl _) fun _ hat => nomatch hat
  | some evt =>
    have hin : evt ∈ h.timers.list := ht.busy evt (by rw [hmode]; rfl)
    rw [Timers.executeCB]
    by_cases hdue : (h.timers.event evt).timeout = 0
    · rw [if_pos hdue]
      exact ht.same rfl rfl rfl rfl (le_refl _) fun evt' hat => Option.some.inj hat ▸ hin
    · rw [if_neg hdue]
      obtain ⟨pre, post, hsplit⟩ := List.append_of_mem hin
      refine ht.same rfl rfl rfl rfl (le_refl _) fun evt' hat => ?_
      have hnext : Timers.next evt h.timers.list = some evt' := hat
      rw [hsplit, Timers.next_split (hsplit ▸ ht.nodup)] at hnext
      show evt' ∈ h.timers.list
      rw [hsplit]
      exact List.mem_append_right _ (List.mem_cons_of_mem _ (List.mem_of_mem_head? hnext))

theorem Timed.unmoved (ht : Timed h) {a : Act ι} (hstep : TimerList.step h.timers a = h.timers)
    (hsets : h.timers.sets a = none) (hlook : h.timers.look a = none) : Timed (h.step a) := by
  rw [step_unseen h hsets hlook, hstep]
  exact ht

/-- Away from the main loop the timers are neither processed nor is there any sleep. -/
theorem idle_only (s : Timers ι) (hmode : s.mode ≠ .idle) (ticks ticks32k : Nat) :
    (step s .process = s ∧ s.look .process = none) ∧
      step s (.lowPowerEnter ticks ticks32k) = s ∧ s.look (.lowPowerEnter ticks ticks32k) = none := by
  refine ⟨⟨?_, if_neg fun hboth => hmode hboth.1⟩, ?_, ?_⟩
  · cases hcase : s.mode with
    | idle => exact absurd hcase hmode
    | _ => simp only [step, hcase]
  · cases hcase : s.mode with
    | idle => exact absurd hcase hmode
    | _ => simp only [step, hcase]
  · unfold Timers.look
    dsimp only
    split
    · rfl
    · exact if_neg fun hall => hmode hall.1

/-- One step. -/
theorem Timed.step (ht : Timed h) {a : Act ι} (ha : a.Sound) : Timed (h.step a) := by
  cases a with
  | pass ticks => exact ht.same rfl rfl rfl rfl (Nat.le_add_right _ _) ht.busy
  | onTimer evt timeout => exact ht.started evt timeout
  | unonTimer evt =>
      rw [step_unseen h rfl rfl, TimerList.step]
      cases hmode : h.timers.mode with
      | idle => exact ht.stopped (by rw [hmode]; exact (Option.some_ne_none evt).symm)
      | loop timerEvt prevHead => exact ht
      | callback timerEvt prevHead =>
          dsimp only
          split
          · exact ht
          · next hne => exact ht.stopped (by rw [hmode]; exact fun heq => hne (Option.some.inj heq).symm)
  | process =>
      by_cases hmode : h.timers.mode = .idle
      · exact ht.processed hmode
      · obtain ⟨⟨hstep, hlook⟩, -⟩ := idle_only h.timers hmode 0 0
        exact ht.unmoved hstep rfl hlook
  | executeCB =>
      cases hmode : h.timers.mode with
      | loop timerEvt prevHead => exact ht.ran hmode
      | idle => exact ht.unmoved (by simp only [TimerList.step, hmode]) rfl rfl
      | callback timerEvt prevHead => exact ht.unmoved (by simp only [TimerList.step, hmode]) rfl rfl
  | returned t =>
      cases hmode : h.timers.mode with
      | callback timerEvt prevHead => exact ht.returned hmode t
      | idle => exact ht.unmoved (by simp only [TimerList.step, hmode]) (by simp only [Timers.sets, hmode]) rfl
      | loop timerEvt prevHead =>
          exact ht.unmoved (by simp only [TimerList.step, hmode]) (by simp only [Timers.sets, hmode]) rfl
  | lowPowerEnter ticks ticks32k =>
      by_cases hmode : h.timers.mode = .idle
      · exact ht.slept hmode ha
      · obtain ⟨-, hstep, hlook⟩ := idle_only h.timers hmode ticks ticks32k
        exact ht.unmoved hstep rfl hlook

theorem timed_run (sysTick : Nat) (acts : List (Act ι)) (hacts : ∀ a ∈ acts, a.Sound) :
    Timed (run History.step (History.init sysTick) acts) := by
  suffices hrun : ∀ h : History ι, Timed h → Timed (run History.step h acts) from hrun _ (timed_init sysTick)
  induction acts with
  | nil => exact fun h ht => ht
  | cons a acts ih =>
      exact fun h ht => ih (fun a' ha' => hacts a' (List.mem_cons_of_mem _ ha')) _ (ht.step (hacts a List.mem_cons_self))

end Watermeter.TimerList
