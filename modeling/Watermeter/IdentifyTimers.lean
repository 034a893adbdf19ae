import Watermeter.LedBlink

/-! The two timers of `Identify`: that of the LED, and that of the seconds. Neither disturbs the other. -/

namespace Watermeter

open NorFlash Transition TimerPool

namespace Node

/-- The timeout of a timer that has just been set. -/
def timeout (h : Handle) (n : Node) : Nat := ((n.timers.period h).getD 0).toNat

/-- A millisecond passes for a timer with `timeout` left. -/
def expire (h : Handle) (firing : Firing) (timeout : Nat) (n : Node) : Node × Nat :=
  if (n.timers.handle h).isSome then
    if timeout ≤ 1 then (n.fire h firing, (n.fire h firing).timeout h) else (n, timeout - 1)
  else (n, timeout)

/-- The LED with its timer, which expires in `timeout` milliseconds. -/
def timed (timeout : Nat) (n : Node) : Blinker.Timed :=
  ⟨n.blinker, timeout, n.light.ledOnTime.toNat, n.light.ledOffTime.toNat⟩

/-- The milliseconds the blinking of `app_task` lasts. -/
def statusSpan (n : Node) : Nat :=
  let (times, ledOnTime, ledOffTime) := appTaskBlink n.app.ram
  times.toNat * (ledOnTime.toNat + ledOffTime.toNat)

variable {n m : Node} {s : Fin timerEventNum} {h : Handle}

/-! ### The timers of the LED and of the identify time do not disturb each other -/

theorem blinker_congr (hlight : m.light = n.light) (hpending : m.ledPending = n.ledPending) : m.blinker = n.blinker := by
  rw [blinker, blinker, hlight, hpending]

theorem timed_congr (hlight : m.light = n.light) (hpending : m.ledPending = n.ledPending) (timeout : Nat) :
    m.timed timeout = n.timed timeout := by
  rw [timed, timed, blinker_congr hlight hpending, hlight]

theorem Lit.congr (hn : Lit n) (hkept : Kept m) (hconf : Confined {0} {.timerLedEvt, .identifyTimerEvt} m.timers)
    (hlight : m.light = n.light) (hpending : m.ledPending = n.ledPending) : Lit m := by
  refine ⟨hkept, hconf, ?_, ?_⟩
  · rw [hpending, hlight]
    exact hn.shows
  · rw [hpending, hlight]
    exact hn.rests

/-- The timer of the identify time is pending as before, with the period it had. -/
structure SameSecond (n m : Node) : Prop where
  handle : m.timers.handle .identifyTimerEvt = n.timers.handle .identifyTimerEvt
  period : m.timers.period .identifyTimerEvt = n.timers.period .identifyTimerEvt
  identifyTime : m.identifyTime = n.identifyTime

theorem SameSecond.trans {k : Node} (h : SameSecond n m) (h' : SameSecond m k) : SameSecond n k :=
  ⟨h'.handle.trans h.handle, h'.period.trans h.period, h'.identifyTime.trans h.identifyTime⟩

theorem SameSecond.pending (h : SameSecond n m) : m.identifyPending = n.identifyPending := by
  rw [identifyPending, identifyPending, h.handle]

theorem lightBlinkStart_identifyTime (n : Node) (times : BitVec 8) (ledOnTime ledOffTime : BitVec 16) :
    (n.lightBlinkStart times ledOnTime ledOffTime).identifyTime = n.identifyTime := by
  unfold lightBlinkStart
  dsimp only
  split_ifs <;> rfl

theorem lightBlinkStop_identifyTime (n : Node) : n.lightBlinkStop.identifyTime = n.identifyTime := by
  unfold lightBlinkStop
  split_ifs <;> rfl

theorem appZclIdentifyCmdHandler_identifyTime (n : Node) (identifyTime : BitVec 16) :
    (n.appZclIdentifyCmdHandler identifyTime).identifyTime = identifyTime := by
  unfold appZclIdentifyCmdHandler
  dsimp only
  split_ifs
  · exact lightBlinkStop_identifyTime _
  · exact lightBlinkStart_identifyTime _ _ _ _
  · rfl

theorem sameSecond_lightBlinkStart (hn : Kept n) (times : BitVec 8) (ledOnTime ledOffTime : BitVec 16) :
    SameSecond n (n.lightBlinkStart times ledOnTime ledOffTime) := by
  obtain ⟨t, ht⟩ := lightBlinkStart_timers times ledOnTime ledOffTime n
  refine ⟨?_, ?_, ?_⟩
  · rw [ht, start_handle_ne _ _ Handle.noConfusion]
  · rw [ht, hn.inOrder.coherent.period_start_ne Handle.noConfusion]
  · exact lightBlinkStart_identifyTime n times ledOnTime ledOffTime

theorem sameSecond_lightBlinkStop (hn : Kept n) : SameSecond n n.lightBlinkStop := by
  refine ⟨?_, ?_, ?_⟩
  · rw [lightBlinkStop_timers, stop_handle_ne _ Handle.noConfusion]
  · rw [lightBlinkStop_timers, hn.inOrder.period_stop_ne Handle.noConfusion]
  · exact lightBlinkStop_identifyTime n

theorem sameSecond_fireLed (hn : Kept n) (firing : Firing) : SameSecond n (n.fire .timerLedEvt firing) := by
  cases hs : n.timers.handle .timerLedEvt with
  | none => rw [fire_of_null hs]; exact ⟨rfl, rfl, rfl⟩
  | some s =>
      rw [fireLed_of hn hs]
      exact ⟨hn.inOrder.coherent.serve_handle_ne hs Handle.noConfusion,
        hn.inOrder.coherent.period_serve_ne hs Handle.noConfusion, rfl⟩

theorem appZclIdentifyTimerCb_ends (hzero : n.identifyTime = 0) :
    n.appZclIdentifyTimerCb = (-1, n.forget .identifyTimerEvt) := if_pos (by rw [hzero]; exact BitVec.le_refl _)

theorem appZclIdentifyTimerCb_again (hne : n.identifyTime ≠ 0) :
    n.appZclIdentifyTimerCb = (0, { n with identifyTime := n.identifyTime - 1 }) := if_neg (by bv_omega)

theorem fireIdentify_of (hn : Kept n) (hs : n.timers.handle .identifyTimerEvt = some s) (firing : Firing) :
    n.fire .identifyTimerEvt firing =
      { n with
        identifyTime := if n.identifyTime = 0 then 0 else n.identifyTime - 1
        timers := n.timers.serve .identifyTimerEvt s (if n.identifyTime = 0 then -1 else 0) } := by
  rw [fire_of hn hs Handle.noConfusion]
  by_cases hzero : n.identifyTime = 0
  · simp only [callback, appZclIdentifyTimerCb_ends (n := { n with timers := n.timers.enter s }) hzero, if_pos hzero,
      Timers.serve, show (-1 : Int) < 0 by decide, if_true]
    rw [← hzero]
    rfl
  · simp only [callback, appZclIdentifyTimerCb_again (n := { n with timers := n.timers.enter s }) hzero, if_neg hzero,
      Timers.serve, lt_irrefl, if_false]

theorem fireIdentify_led (hn : Kept n) (firing : Firing) :
    (n.fire .identifyTimerEvt firing).light = n.light ∧ (n.fire .identifyTimerEvt firing).ledPending = n.ledPending := by
  cases hs : n.timers.handle .identifyTimerEvt with
  | none => rw [fire_of_null hs]; exact ⟨rfl, rfl⟩
  | some s =>
      rw [fireIdentify_of hn hs]
      refine ⟨rfl, ?_⟩
      rw [ledPending, hn.inOrder.coherent.serve_handle_ne hs Handle.noConfusion]
      rfl

theorem Lit.fireIdentify (hn : Lit n) (firing : Firing) : Lit (n.fire .identifyTimerEvt firing) := by
  obtain ⟨hlight, hpending⟩ := fireIdentify_led hn.kept firing
  refine hn.congr (kept_fire hn.kept _ firing) ?_ hlight hpending
  cases hs : n.timers.handle .identifyTimerEvt with
  | none => rw [fire_of_null hs]; exact hn.confined
  | some s =>
      rw [fireIdentify_of hn.kept hs]
      exact hn.confined.serve hn.kept.inOrder.coherent hs _

/-- The timer of the identify time stops at a second that finds 0. -/
theorem fireIdentify_ends (hn : Kept n) (hpending : n.identifyPending = true) (hzero : n.identifyTime = 0)
    (firing : Firing) : (n.fire .identifyTimerEvt firing).identifyPending = false ∧
      (n.fire .identifyTimerEvt firing).identifyTime = 0 := by
  obtain ⟨s, hs⟩ := Option.isSome_iff_exists.mp hpending
  rw [identifyPending, fireIdentify_of hn hs, hn.inOrder.coherent.serve_handle hs, if_pos hzero]
  exact ⟨rfl, if_pos hzero⟩

theorem fireIdentify_again (hn : Kept n) (hpending : n.identifyPending = true) (hne : n.identifyTime ≠ 0)
    (firing : Firing) : (n.fire .identifyTimerEvt firing).identifyPending = true ∧
      (n.fire .identifyTimerEvt firing).timers.period .identifyTimerEvt = n.timers.period .identifyTimerEvt ∧
      (n.fire .identifyTimerEvt firing).identifyTime = n.identifyTime - 1 := by
  obtain ⟨s, hs⟩ := Option.isSome_iff_exists.mp hpending
  have hc := hn.inOrder.coherent
  simp only [identifyPending, fireIdentify_of hn hs, if_neg hne, hc.serve_handle hs, hc.period_serve hs]
  exact ⟨rfl, rfl, trivial⟩

/-- Setting the timer of the identify time. -/
theorem Lit.scheduleIdentify (hn : Lit n) (hnull : n.timers.handle .identifyTimerEvt = none) (p : BitVec 32) :
    let after := n.schedule .identifyTimerEvt p
    Lit after ∧ after.light = n.light ∧ after.ledPending = n.ledPending ∧
      after.timers.period .timerLedEvt = n.timers.period .timerLedEvt ∧
      after.identifyPending = true ∧ after.timers.period .identifyTimerEvt = some p := by
  have hkept := kept_schedule hn.kept hnull p
  have hled : (n.schedule .identifyTimerEvt p).ledPending = n.ledPending :=
    congrArg Option.isSome (schedule_handle_ne n.timers p Handle.noConfusion)
  have hperiod : (n.schedule .identifyTimerEvt p).timers.period .identifyTimerEvt = some p :=
    period_schedule (hn.room (.inr rfl) hnull)
  refine ⟨hn.congr hkept (hn.confined.schedule (by decide) hnull p) rfl hled, rfl, hled, ?_, ?_, hperiod⟩
  · exact hn.kept.inOrder.coherent.period_schedule_ne Handle.noConfusion
  · rw [identifyPending, ← hkept.inOrder.coherent.period_isSome, hperiod]
    rfl

/-! ### The timeouts -/

theorem timeout_of_null (hs : n.timers.handle h = none) : n.timeout h = 0 := by
  rw [timeout, period_of_null hs]
  rfl

theorem timeout_of_period {p : BitVec 32} (hp : n.timers.period h = some p) : n.timeout h = p.toNat := by
  rw [timeout, hp, Option.getD_some]

theorem Lit.timeout_start (hn : Lit n) (hidle : n.ledPending = false) (hoff : n.light.oriSta = false)
    (times : BitVec 8) (ledOnTime ledOffTime : BitVec 16) :
    (n.lightBlinkStart times ledOnTime ledOffTime).timeout .timerLedEvt = ledOnTime.toNat := by
  have hfree := hn.room (.inl rfl) (handle_of_idle hidle)
  rw [lightBlinkStart_idle _ _ _ hidle, timeout_of_period (period_schedule hfree), hoff, if_neg Bool.false_ne_true,
    BitVec.toNat_setWidth_of_le (by omega)]

theorem Lit.timed_start_pending (hn : Lit n) (hpending : n.ledPending = true) (times : BitVec 8)
    (ledOnTime ledOffTime : BitVec 16) (timeout : Nat) :
    (n.lightBlinkStart times ledOnTime ledOffTime).timed timeout =
      { n.timed timeout with blinker := { n.blinker with left := blinks times } } := by
  have hstart : n.blinker.start (blinks times) = { n.blinker with left := blinks times } := if_pos hpending
  rw [timed, hn.blinker_start, hstart, lightBlinkStart_pending _ _ _ hpending]
  rfl

theorem Lit.timed_start_idle (hn : Lit n) (hidle : n.ledPending = false) (hoff : n.light.oriSta = false)
    (times : BitVec 8) (ledOnTime ledOffTime : BitVec 16) :
    (n.lightBlinkStart times ledOnTime ledOffTime).timed
        ((n.lightBlinkStart times ledOnTime ledOffTime).timeout .timerLedEvt) =
      ⟨⟨true, blinks times, true⟩, ledOnTime.toNat, ledOnTime.toNat, ledOffTime.toNat⟩ := by
  have hstart : n.blinker.start (blinks times) = ⟨true, blinks times, true⟩ := if_neg (Bool.eq_false_iff.mp hidle)
  rw [hn.timeout_start hidle hoff, timed, hn.blinker_start, hstart, lightBlinkStart_idle _ _ _ hidle]

theorem lightToggle_timeout {interval : BitVec 16} (hpos : 1 ≤ interval.toNat) (hc : Coherent n.timers)
    (hs : n.timers.handle .timerLedEvt = some s) :
    (n.timers.serve .timerLedEvt s (interval.toNat : Int)).period .timerLedEvt = some (interval.setWidth 32) := by
  rw [hc.period_serve hs, if_neg (not_lt.mpr (Int.natCast_nonneg _)), if_neg (by omega)]
  congr 1
  apply BitVec.eq_of_toNat_eq
  rw [BitVec.toNat_setWidth_of_le (by omega), BitVec.ofInt_natCast, BitVec.toNat_ofNat]
  exact Nat.mod_eq_of_lt (interval.isLt.trans (by decide))

/-- What the LED shows after a toggle, and the time its timer is set to. -/
theorem Lit.timeout_toggle (hn : Lit n) (hpending : n.ledPending = true) (hon : 1 ≤ n.light.ledOnTime.toNat)
    (hoff : 1 ≤ n.light.ledOffTime.toNat) (firing : Firing) {light : Light}
    (hcb : n.zclLightTimerCb = { n with light := light }.lightToggle)
    (hlightOn : light.ledOnTime = n.light.ledOnTime) (hlightOff : light.ledOffTime = n.light.ledOffTime) :
    (n.fire .timerLedEvt firing).timeout .timerLedEvt =
      (if (n.fire .timerLedEvt firing).light.led then n.light.ledOnTime else n.light.ledOffTime).toNat := by
  obtain ⟨s, hs⟩ := Option.isSome_iff_exists.mp hpending
  have hinterval : 1 ≤ (if !light.sta then n.light.ledOnTime else n.light.ledOffTime).toNat := by
    split_ifs <;> assumption
  have htime : n.zclLightTimerCb.1 = ((if !light.sta then n.light.ledOnTime else n.light.ledOffTime).toNat : Int) := by
    rw [hcb, lightToggle]
    simp only [hlightOn, hlightOff]
  have hled : (n.fire .timerLedEvt firing).light.led = !light.sta := by
    rw [fireLed_light hn.kept hpending, hcb]
    rfl
  have htimers : (n.fire .timerLedEvt firing).timers.period .timerLedEvt =
      some ((if !light.sta then n.light.ledOnTime else n.light.ledOffTime).setWidth 32) := by
    rw [fireLed_of hn.kept hs, htime]
    exact lightToggle_timeout hinterval hn.kept.inOrder.coherent hs
  rw [timeout_of_period htimers, hled, BitVec.toNat_setWidth_of_le (by omega)]

/-- The LED's timer is set to the time of what the LED shows. -/
theorem Lit.timeout_fire (hn : Lit n) (hpending : n.ledPending = true) (hon : 1 ≤ n.light.ledOnTime.toNat)
    (hoff : 1 ≤ n.light.ledOffTime.toNat) (firing : Firing) :
    (n.fire .timerLedEvt firing).timeout .timerLedEvt =
      if (n.fire .timerLedEvt firing).ledPending then
        (if (n.fire .timerLedEvt firing).light.led then n.light.ledOnTime else n.light.ledOffTime).toNat
      else 0 := by
  cases hgoes : (n.fire .timerLedEvt firing).ledPending with
  | false =>
      rw [timeout_of_null (handle_of_idle hgoes)]
      rfl
  | true =>
      rw [if_pos rfl]
      obtain ⟨-, hcb⟩ | ⟨-, -, hcb⟩ | ⟨-, -, hcb⟩ := n.zclLightTimerCb_cases
      · exact hn.timeout_toggle hpending hon hoff firing hcb rfl rfl
      · rw [hn.ledPending_fire hpending, hcb] at hgoes
        exact absurd hgoes Bool.false_ne_true
      · exact hn.timeout_toggle hpending hon hoff firing hcb rfl rfl

/-! ### The seconds -/

/-- The identify time with its timer: `due` milliseconds are left until it is 0. -/
structure Second (n : Node) (timeout due : Nat) : Prop where
  period : n.identifyPending = true → n.timers.period .identifyTimerEvt = some 1000
  timeout_pos : n.identifyPending = true → 1 ≤ timeout
  timeout_le : n.identifyPending = true → timeout ≤ 1000
  counting : n.identifyTime ≠ 0 → n.identifyPending = true
  due : due = if n.identifyTime = 0 then 0 else (n.identifyTime.toNat - 1) * 1000 + timeout

/-- The milliseconds the timer of the identify time is pending for. -/
def secondsLeft (n : Node) (timeout : Nat) : Nat :=
  if n.identifyPending then n.identifyTime.toNat * 1000 + timeout else 0

variable {timeout due : Nat}

theorem Second.congr (h : Second n timeout due) (hsame : n.SameSecond m) : Second m timeout due := by
  obtain ⟨hperiod, hpos, hle, hcounting, hdue⟩ := h
  refine ⟨?_, ?_, ?_, ?_, ?_⟩
  · rw [hsame.pending, hsame.period]; exact hperiod
  · rw [hsame.pending]; exact hpos
  · rw [hsame.pending]; exact hle
  · rw [hsame.pending, hsame.identifyTime]; exact hcounting
  · rw [hsame.identifyTime]; exact hdue

/-- The second that finds 0. -/
theorem Second.fire_ends (hn : Kept n) (h : Second n timeout due) (hpending : n.identifyPending = true)
    (hlast : timeout ≤ 1) (hzero : n.identifyTime = 0) (identify : Firing) :
    let m := n.fire .identifyTimerEvt identify
    Second m (m.timeout .identifyTimerEvt) (due - 1) ∧
      secondsLeft m (m.timeout .identifyTimerEvt) = secondsLeft n timeout - 1 := by
  obtain ⟨hends, htime⟩ := fireIdentify_ends hn hpending hzero identify
  have hvoid : ∀ {P : Prop}, (n.fire .identifyTimerEvt identify).identifyPending = true → P :=
    fun hgoes => absurd (hends.symm.trans hgoes) Bool.false_ne_true
  refine ⟨⟨hvoid, hvoid, hvoid, fun hne => absurd htime hne, ?_⟩, ?_⟩
  · rw [h.due, htime, if_pos hzero, if_pos rfl]
  · rw [secondsLeft, secondsLeft, hends, hpending, if_pos rfl, if_neg Bool.false_ne_true, hzero]
    exact (Nat.sub_eq_zero_of_le ((Nat.zero_add timeout).trans_le hlast)).symm

/-- A second is counted, and the next begins. -/
theorem Second.fire_counts (hn : Kept n) (h : Second n timeout due) (hpending : n.identifyPending = true)
    (hlast : timeout ≤ 1) (hne : n.identifyTime ≠ 0) (identify : Firing) :
    let m := n.fire .identifyTimerEvt identify
    Second m (m.timeout .identifyTimerEvt) (due - 1) ∧
      secondsLeft m (m.timeout .identifyTimerEvt) = secondsLeft n timeout - 1 := by
  obtain ⟨hgoes, hperiod, htime⟩ := fireIdentify_again hn hpending hne identify
  have htimeout : (n.fire .identifyTimerEvt identify).timeout .identifyTimerEvt = 1000 := by
    rw [timeout_of_period (hperiod.trans (h.period hpending))]
    rfl
  have hone := h.timeout_pos hpending
  have hpos : 1 ≤ n.identifyTime.toNat := by bv_omega
  have hdec : (n.identifyTime - 1).toNat = n.identifyTime.toNat - 1 := by bv_omega
  have hlastSecond : n.identifyTime - 1 = 0 ↔ n.identifyTime.toNat = 1 := by
    constructor
    · intro hzero; bv_omega
    · intro hzero; bv_omega
  dsimp only
  rw [htimeout]
  refine ⟨⟨fun _ => hperiod.trans (h.period hpending), fun _ => by decide, fun _ => le_rfl, fun _ => hgoes, ?_⟩, ?_⟩
  · rw [h.due, htime, if_neg hne, hdec]
    simp only [hlastSecond]
    split_ifs <;> omega
  · rw [secondsLeft, secondsLeft, hgoes, hpending, if_pos rfl, if_pos rfl, htime, hdec]
    omega

theorem Second.waits (h : Second n timeout due) (hpending : n.identifyPending = true) (hwaits : ¬ timeout ≤ 1) :
    Second n (timeout - 1) (due - 1) ∧ secondsLeft n (timeout - 1) = secondsLeft n timeout - 1 := by
  refine ⟨⟨h.period, fun _ => by omega, fun _ => ?_, h.counting, ?_⟩, ?_⟩
  · exact (Nat.sub_le timeout 1).trans (h.timeout_le hpending)
  · rw [h.due]
    split_ifs <;> omega
  · rw [secondsLeft, secondsLeft, if_pos hpending, if_pos hpending]
    omega

/-- A millisecond takes one of those that are left. -/
theorem Second.expire (hn : Kept n) (h : Second n timeout due) (identify : Firing) :
    let r := n.expire .identifyTimerEvt identify timeout
    Second r.1 r.2 (due - 1) ∧ secondsLeft r.1 r.2 = secondsLeft n timeout - 1 := by
  unfold Node.expire
  cases hpending : n.identifyPending with
  | false =>
      have hnull : ¬ (n.timers.handle .identifyTimerEvt).isSome = true := Bool.eq_false_iff.mp hpending
      have hleft : secondsLeft n timeout = 0 := if_neg (Bool.eq_false_iff.mp hpending)
      rw [if_neg hnull]
      refine ⟨⟨h.period, h.timeout_pos, h.timeout_le, h.counting, ?_⟩, by rw [hleft]⟩
      have hzero : n.identifyTime = 0 := by
        by_contra hne
        exact Bool.false_ne_true (hpending.symm.trans (h.counting hne))
      rw [h.due, if_pos hzero]
  | true =>
      have hset : (n.timers.handle .identifyTimerEvt).isSome = true := hpending
      rw [if_pos hset]
      by_cases hlast : timeout ≤ 1
      · rw [if_pos hlast]
        by_cases hzero : n.identifyTime = 0
        · exact h.fire_ends hn hpending hlast hzero identify
        · exact h.fire_counts hn hpending hlast hzero identify
      · rw [if_neg hlast]
        exact h.waits hpending hlast

theorem secondsLeft_congr (hsame : n.SameSecond m) (timeout : Nat) : secondsLeft m timeout = secondsLeft n timeout := by
  rw [secondsLeft, secondsLeft, hsame.pending, hsame.identifyTime]

theorem lit_expire_identify (hn : Lit n) (identify : Firing) (timeout : Nat) :
    let r := n.expire .identifyTimerEvt identify timeout
    r.1.Lit ∧ r.1.light = n.light ∧ r.1.ledPending = n.ledPending := by
  unfold expire
  split_ifs
  · exact ⟨hn.fireIdentify identify, fireIdentify_led hn.kept identify⟩
  · exact ⟨hn, rfl, rfl⟩
  · exact ⟨hn, rfl, rfl⟩

/-! ### The command -/

theorem appZclIdentifyCmdHandler_zero (n : Node) :
    n.appZclIdentifyCmdHandler 0 = ({ n with identifyTime := 0 }.stop .identifyTimerEvt).lightBlinkStop := by
  rw [appZclIdentifyCmdHandler, if_pos rfl]

theorem appZclIdentifyCmdHandler_pending {identifyTime : BitVec 16} (hne : identifyTime ≠ 0)
    (hpending : n.identifyPending = true) :
    n.appZclIdentifyCmdHandler identifyTime = { n with identifyTime := identifyTime } := by
  have hset : ¬ (n.timers.handle .identifyTimerEvt).isNone = true := by
    rw [Option.isNone_iff_eq_none, ← Option.not_isSome_iff_eq_none, not_not]
    exact hpending
  rw [appZclIdentifyCmdHandler, if_neg hne]
  exact if_neg hset

theorem appZclIdentifyCmdHandler_idle {identifyTime : BitVec 16} (hne : identifyTime ≠ 0)
    (hidle : n.identifyPending = false) :
    n.appZclIdentifyCmdHandler identifyTime =
      ({ n with identifyTime := identifyTime }.lightBlinkStart (identifyTime.setWidth 8) 500 500).schedule
        .identifyTimerEvt 1000 := by
  have hnull : (n.timers.handle .identifyTimerEvt).isNone = true :=
    Option.isNone_iff_eq_none.mpr (Option.not_isSome_iff_eq_none.mp (Bool.eq_false_iff.mp hidle))
  rw [appZclIdentifyCmdHandler, if_neg hne]
  exact if_pos hnull

/-- `Identify(0)` leaves no timer, and the LED where it rests. -/
theorem identify_zero (hn : Lit n) : (n.appZclIdentifyCmdHandler 0).Lit ∧
    (n.appZclIdentifyCmdHandler 0).ledPending = false ∧ (n.appZclIdentifyCmdHandler 0).identifyPending = false ∧
    (n.appZclIdentifyCmdHandler 0).light.oriSta = n.light.oriSta := by
  have hset : Kept { n with identifyTime := 0 } := hn.kept
  have hstopped : ({ n with identifyTime := 0 }.stop .identifyTimerEvt).Lit := by
    apply hn.congr (kept_stop hset _) (hn.confined.stop hn.kept.inOrder _) rfl
    exact congrArg Option.isSome (stop_handle_ne n.timers Handle.noConfusion)
  have hsame := sameSecond_lightBlinkStop hstopped.kept
  rw [appZclIdentifyCmdHandler_zero]
  refine ⟨hstopped.lightBlinkStop, hstopped.ledPending_stop, ?_, ?_⟩
  · rw [hsame.pending, identifyPending, stop_null hset]
    rfl
  · exact lightBlinkStop_oriSta _

/-- A command that starts the timer: an LED at rest begins to blink, one that blinks is given another count. -/
theorem Lit.identify_idle (hn : Lit n) (hoff : n.light.oriSta = false) {identifyTime : BitVec 16}
    (hne : identifyTime ≠ 0) (hidle : n.identifyPending = false) :
    let after := n.appZclIdentifyCmdHandler identifyTime
    Lit after ∧ after.light.oriSta = false ∧ after.identifyPending = true ∧
      after.timers.period .identifyTimerEvt = some 1000 ∧
      (n.ledPending = true → ∀ timeout, after.timed timeout =
        { n.timed timeout with blinker := { n.blinker with left := blinks (identifyTime.setWidth 8) } }) ∧
      (n.ledPending = false → after.timed (after.timeout .timerLedEvt) =
        ⟨⟨true, blinks (identifyTime.setWidth 8), true⟩, 500, 500, 500⟩) := by
  obtain ⟨m, hm⟩ : ∃ m : Node, m = { n with identifyTime := identifyTime } := ⟨_, rfl⟩
  have hlight : m.light = n.light := by rw [hm]
  have htimers : m.timers = n.timers := by rw [hm]
  have hled : m.ledPending = n.ledPending := by rw [ledPending, htimers]; rfl
  have hkept : Kept m := by rw [hm]; exact hn.kept
  have hset : Lit m := hn.congr hkept (by rw [htimers]; exact hn.confined) hlight hled
  have hstart := hset.lightBlinkStart (identifyTime.setWidth 8) 500 500
  have hsame := sameSecond_lightBlinkStart hset.kept (identifyTime.setWidth 8) 500 500
  have hnull : (m.lightBlinkStart (identifyTime.setWidth 8) 500 500).timers.handle .identifyTimerEvt = none := by
    rw [hsame.handle, htimers]
    exact Option.not_isSome_iff_eq_none.mp (Bool.eq_false_iff.mp hidle)
  obtain ⟨hafter, hsameLight, hsameLed, hledPeriod, hpending, hperiod⟩ := hstart.scheduleIdentify hnull 1000
  have hcommand : n.appZclIdentifyCmdHandler identifyTime =
      (m.lightBlinkStart (identifyTime.setWidth 8) 500 500).schedule .identifyTimerEvt 1000 := by
    rw [hm]
    exact appZclIdentifyCmdHandler_idle hne hidle
  dsimp only
  rw [hcommand]
  refine ⟨hafter, ?_, hpending, hperiod, fun hgoes timeout => ?_, fun hrests => ?_⟩
  · exact (lightBlinkStart_oriSta _ _ _ _).trans ((congrArg Light.oriSta hlight).trans hoff)
  · rw [timed_congr hsameLight hsameLed, hset.timed_start_pending (hled.trans hgoes), timed_congr hlight hled,
      blinker_congr hlight hled]
  · have htimeout : ((m.lightBlinkStart (identifyTime.setWidth 8) 500 500).schedule .identifyTimerEvt 1000).timeout
        .timerLedEvt = (m.lightBlinkStart (identifyTime.setWidth 8) 500 500).timeout .timerLedEvt := by
      rw [timeout, hledPeriod]
      rfl
    rw [htimeout, timed_congr hsameLight hsameLed,
      hset.timed_start_idle (hled.trans hrests) ((congrArg Light.oriSta hlight).trans hoff)]
    rfl

/-! ### The blinking of `app_task` -/

theorem appTaskBlink_cases (r : Ram) :
    appTaskBlink r = (2#8, 30#16, 250#16) ∨ appTaskBlink r = (1#8, 30#16, 30#16) := by
  unfold appTaskBlink
  split_ifs
  · exact .inl rfl
  · exact .inr rfl

/-- `app_task` on a joined device leaves the LED with its own blinking, of which a blink is short. -/
theorem Lit.appTaskLight (hn : Lit n) (hoff : n.light.oriSta = false) (hjoined : n.reporting.joined = true) :
    let after := n.appTaskLight
    Lit after ∧ after.light.oriSta = false ∧ SameSecond n after ∧
      (after.timed (after.timeout .timerLedEvt)).Running ∧ (after.timed (after.timeout .timerLedEvt)).Within 280 ∧
      (after.timed (after.timeout .timerLedEvt)).span = n.statusSpan := by
  obtain ⟨times, ledOnTime, ledOffTime, hblink⟩ : ∃ times ledOnTime ledOffTime,
      appTaskBlink n.app.ram = (times, ledOnTime, ledOffTime) := ⟨_, _, _, rfl⟩
  have hcall : n.appTaskLight = n.lightBlinkStop.lightBlinkStart times ledOnTime ledOffTime := by
    rw [appTaskLight_eq, if_pos hjoined, hblink]
  have htimes : blinks times = times.toNat ∧ 1 ≤ times.toNat ∧ 1 ≤ ledOnTime.toNat ∧ 1 ≤ ledOffTime.toNat ∧
      ledOnTime.toNat + ledOffTime.toNat ≤ 280 := by
    rcases appTaskBlink_cases n.app.ram with h | h <;> rw [hblink] at h <;> cases h <;> decide
  obtain ⟨hcount, hone, hon, hoffTime, hshort⟩ := htimes
  have hstopped := hn.lightBlinkStop
  have hrests : n.lightBlinkStop.light.oriSta = false := (lightBlinkStop_oriSta n).trans hoff
  have hsame := (sameSecond_lightBlinkStop hn.kept).trans
    (sameSecond_lightBlinkStart hstopped.kept times ledOnTime ledOffTime)
  have htimed := hstopped.timed_start_idle hn.ledPending_stop hrests times ledOnTime ledOffTime
  have hspan : n.statusSpan = times.toNat * (ledOnTime.toNat + ledOffTime.toNat) := by rw [statusSpan, hblink]
  dsimp only
  rw [hcall, htimed]
  refine ⟨hstopped.lightBlinkStart _ _ _, (lightBlinkStart_oriSta _ _ _ _).trans hrests, hsame, ?_, ?_, ?_⟩
  · exact ⟨one_le_blinks times, hon, hon, hoffTime⟩
  · exact ⟨hshort, hshort⟩
  · rw [hspan, hcount, Blinker.Timed.span_fresh hone]

end Node

end Watermeter
