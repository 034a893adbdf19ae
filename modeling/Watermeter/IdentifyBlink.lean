import Watermeter.DownloadPoll
import Watermeter.IdentifyTimers

/-! The identify time and the LED, millisecond by millisecond: `app_zclIdentifyCmdHandler` starts a timer of seconds and
a number of blinks, and `app_task` has the same LED blink for the status. -/

namespace Watermeter

open NorFlash Transition TimerPool

/-- The device with the timeouts of its two timers, and what it has been asked: the milliseconds until the identify
time is to be 0, those the LED is to blink for, and whether `Identify` was the last to ask it to. -/
structure Identifying where
  node : Node
  ledTimeout : Nat
  identifyTimeout : Nat
  due : Nat
  promised : Nat
  asked : Bool

inductive IdentifyEvent
  | identifyCmd (identifyTime : BitVec 16)
  | appTask
  | millisecond (led identify : Firing)

namespace Identifying

def started (boot : Boot) (app : App) : Identifying := ⟨Node.started boot app, 0, 0, 0, 0, false⟩

def appZclIdentifyCmdHandler (identifyTime : BitVec 16) (s : Identifying) : Identifying :=
  let node := s.node.appZclIdentifyCmdHandler identifyTime
  { node := node
    ledTimeout := if s.node.ledPending then s.ledTimeout else node.timeout .timerLedEvt
    identifyTimeout := if s.node.identifyPending then s.identifyTimeout else node.timeout .identifyTimerEvt
    -- a second that has begun goes on
    due :=
      if identifyTime = 0 then 0
      else (identifyTime.toNat - 1) * 1000 + if s.node.identifyPending then s.identifyTimeout else 1000
    promised := identifyTime.toNat * 1000
    asked := true }

def appTask (s : Identifying) : Identifying :=
  if s.node.reporting.joined then
    { s with node := s.node.appTaskLight, ledTimeout := s.node.appTaskLight.timeout .timerLedEvt, asked := false }
  else s

/-- The timer list, first for the LED. -/
def millisecond (led identify : Firing) (s : Identifying) : Identifying :=
  let (node, ledTimeout) := s.node.expire .timerLedEvt led s.ledTimeout
  let (node, identifyTimeout) := node.expire .identifyTimerEvt identify s.identifyTimeout
  { s with
    node := node, ledTimeout := ledTimeout, identifyTimeout := identifyTimeout
    due := s.due - 1, promised := s.promised - 1 }

def step (s : Identifying) : IdentifyEvent → Identifying
  | .identifyCmd identifyTime => s.appZclIdentifyCmdHandler identifyTime
  | .appTask => s.appTask
  | .millisecond led identify => s.millisecond led identify

def timed (s : Identifying) : Blinker.Timed := s.node.timed s.ledTimeout

/-- What is promised in a state: the identify time counts the seconds, the LED blinks until it is 0 and as long as it
has been asked to, and `Identify(0)` stops both. -/
structure LastsAsAsked (s : Identifying) : Prop where
  counts : s.node.identifyTime.toNat = (s.due + 999) / 1000
  blinks : s.node.identifyTime ≠ 0 → s.node.timers.handle .timerLedEvt ≠ none
  lasts : 0 < s.promised → s.node.timers.handle .timerLedEvt ≠ none
  ends : s.asked = true → s.promised = 0 → s.node.timers.handle .timerLedEvt = none
  set : ∀ identifyTime, (s.step (.identifyCmd identifyTime)).node.identifyTime = identifyTime
  stops : (s.step (.identifyCmd 0)).node.timers.handle .identifyTimerEvt = none ∧
    (s.step (.identifyCmd 0)).node.timers.handle .timerLedEvt = none ∧
    (s.step (.identifyCmd 0)).node.light.led = (s.step (.identifyCmd 0)).node.light.oriSta

/-- It is so in the state and in those that time alone leads to. -/
def Lasts (s : Identifying) : Prop :=
  ∀ firings : List (Firing × Firing), (run step s (firings.map fun f => .millisecond f.1 f.2)).LastsAsAsked

/-- A command that starts the blinking finds the LED at rest and asks for at most 256 seconds; one that comes while
the timer of the identify time is pending finds the LED blinking for just as long as it asks. A pass of `app_task`
comes when no more is left of the time asked than its own blinking lasts. -/
def KeepsBlinking (s : Identifying) : IdentifyEvent → Prop
  | .identifyCmd identifyTime => identifyTime ≠ 0 →
    if s.node.identifyPending then s.timed.span = identifyTime.toNat * 1000
    else s.node.ledPending = false ∧ identifyTime.toNat ≤ 256
  | .appTask => s.node.reporting.joined = true → s.promised ≤ s.node.statusSpan
  | .millisecond _ _ => True

variable {s : Identifying}

/-- The state between two events: the timers are those the variables say. -/
structure Timely (s : Identifying) : Prop where
  lit : s.node.Lit
  off : s.node.light.oriSta = false
  running : s.node.ledPending = true → s.timed.Running
  second : s.node.Second s.identifyTimeout s.due

theorem timely_started (boot : Boot) (app : App) : (started boot app).Timely where
  lit := Node.lit_started boot app
  off := rfl
  running := fun h => absurd h Bool.false_ne_true
  second := ⟨fun h => absurd h Bool.false_ne_true, fun h => absurd h Bool.false_ne_true,
    fun h => absurd h Bool.false_ne_true, fun h => absurd rfl h, rfl⟩

/-! ### A millisecond -/

/-- The node after a millisecond of the LED's timer. -/
theorem Timely.expire_led (hs : s.Timely) (led : Firing) :
    let r := s.node.expire .timerLedEvt led s.ledTimeout
    r.1.Lit ∧ r.1.light.oriSta = false ∧ s.node.SameSecond r.1 ∧
      r.1.timed r.2 = s.timed.tick := by
  unfold Node.expire Blinker.Timed.tick
  cases hpending : s.node.ledPending with
  | false =>
      have hnull : ¬ (s.node.timers.handle .timerLedEvt).isSome = true := Bool.eq_false_iff.mp hpending
      have hidle : ¬ s.timed.blinker.pending = true := Bool.eq_false_iff.mp hpending
      rw [if_neg hnull, if_neg hidle]
      exact ⟨hs.lit, hs.off, ⟨rfl, rfl, rfl⟩, rfl⟩
  | true =>
      have hset : (s.node.timers.handle .timerLedEvt).isSome = true := hpending
      have hgoes : s.timed.blinker.pending = true := hpending
      have hrun := hs.running hpending
      rw [if_pos hset, if_pos hgoes]
      by_cases hlast : s.ledTimeout ≤ 1
      · have hlast' : s.timed.timeout ≤ 1 := hlast
        rw [if_pos hlast, if_pos hlast']
        have hblinker := hs.lit.blinker_fire led
        obtain ⟨hori, hon, hoff⟩ := Node.fireLed_stays hs.lit.kept led
        have htimeout := hs.lit.timeout_fire hpending hrun.awayTime hrun.backTime led
        refine ⟨hs.lit.fireLed led, hori.trans hs.off, Node.sameSecond_fireLed hs.lit.kept led, ?_⟩
        have haway : (s.node.fire .timerLedEvt led).blinker.away = (s.node.fire .timerLedEvt led).light.led := by
          simp [Node.blinker, hori, hs.off]
        have hfired : s.timed.fire = ⟨s.node.blinker.fire,
            if s.node.blinker.fire.pending then
              if s.node.blinker.fire.away then s.node.light.ledOnTime.toNat else s.node.light.ledOffTime.toNat
            else 0, s.node.light.ledOnTime.toNat, s.node.light.ledOffTime.toNat⟩ := rfl
        rw [hfired, Node.timed, ← hblinker, htimeout, hon, hoff, haway, apply_ite BitVec.toNat]
        rfl
      · have hlast' : ¬ s.timed.timeout ≤ 1 := hlast
        rw [if_neg hlast, if_neg hlast']
        exact ⟨hs.lit, hs.off, ⟨rfl, rfl, rfl⟩, rfl⟩

theorem Timely.millisecond (hs : s.Timely) (led identify : Firing) :
    (s.millisecond led identify).Timely ∧ (s.millisecond led identify).timed = s.timed.tick ∧
      (s.millisecond led identify).node.secondsLeft (s.millisecond led identify).identifyTimeout =
        s.node.secondsLeft s.identifyTimeout - 1 := by
  obtain ⟨hlit, hoff, hsame, htick⟩ := hs.expire_led led
  obtain ⟨hsecond, hleft⟩ := (hs.second.congr hsame).expire hlit.kept identify
  obtain ⟨hlit', hlight, hpending⟩ := Node.lit_expire_identify hlit identify s.identifyTimeout
  have htimed : (s.millisecond led identify).timed = s.timed.tick := by
    rw [← htick]
    exact Node.timed_congr hlight hpending _
  have hrun : (s.millisecond led identify).node.ledPending = true → (s.millisecond led identify).timed.Running := by
    have hgoes : (s.millisecond led identify).node.ledPending = (s.millisecond led identify).timed.blinker.pending := rfl
    rw [hgoes, htimed]
    exact Blinker.Timed.running_tick hs.running
  refine ⟨⟨hlit', ?_, hrun, hsecond⟩, htimed, ?_⟩
  · exact (congrArg Light.oriSta hlight).trans hoff
  · rw [← Node.secondsLeft_congr hsame]
    exact hleft

/-! ### The commands, and `app_task` -/

theorem Timely.identify_zero (hs : s.Timely) : (s.appZclIdentifyCmdHandler 0).Timely ∧
    (s.appZclIdentifyCmdHandler 0).timed.span = 0 := by
  obtain ⟨hlit, hled, hidentify, hori⟩ := Node.identify_zero hs.lit
  have hvoid : ∀ {P : Prop}, (s.node.appZclIdentifyCmdHandler 0).ledPending = true → P :=
    fun hgoes => absurd (hled.symm.trans hgoes) Bool.false_ne_true
  have hvoid' : ∀ {P : Prop}, (s.node.appZclIdentifyCmdHandler 0).identifyPending = true → P :=
    fun hgoes => absurd (hidentify.symm.trans hgoes) Bool.false_ne_true
  have htime := s.node.appZclIdentifyCmdHandler_identifyTime 0
  refine ⟨⟨hlit, hori.trans hs.off, hvoid, ⟨hvoid', hvoid', hvoid', fun hne => absurd htime hne, ?_⟩⟩, ?_⟩
  · exact (if_pos htime).symm
  · exact if_neg (Bool.eq_false_iff.mp hled)

/-- A command that comes while the timer is pending changes the identify time only. -/
theorem Timely.identify_pending (hs : s.Timely) {identifyTime : BitVec 16} (hne : identifyTime ≠ 0)
    (hpending : s.node.identifyPending = true) : (s.appZclIdentifyCmdHandler identifyTime).Timely ∧
      (s.appZclIdentifyCmdHandler identifyTime).timed.span = s.timed.span := by
  have hnode : (s.appZclIdentifyCmdHandler identifyTime).node = { s.node with identifyTime := identifyTime } :=
    Node.appZclIdentifyCmdHandler_pending hne hpending
  have htimeout : (s.appZclIdentifyCmdHandler identifyTime).identifyTimeout = s.identifyTimeout := if_pos hpending
  have hledPending : (s.appZclIdentifyCmdHandler identifyTime).node.ledPending = s.node.ledPending := by
    rw [hnode]
    rfl
  have hled : s.node.ledPending = true → (s.appZclIdentifyCmdHandler identifyTime).timed = s.timed := by
    intro hgoes
    have hledTimeout : (s.appZclIdentifyCmdHandler identifyTime).ledTimeout = s.ledTimeout := if_pos hgoes
    rw [timed, hnode, hledTimeout]
    rfl
  refine ⟨⟨?_, ?_, fun hgoes => ?_, ?_⟩, ?_⟩
  · rw [hnode]
    exact hs.lit.congr hs.lit.kept hs.lit.confined rfl rfl
  · rw [hnode]
    exact hs.off
  · rw [hledPending] at hgoes
    rw [hled hgoes]
    exact hs.running hgoes
  · have hdue : (s.appZclIdentifyCmdHandler identifyTime).due = (identifyTime.toNat - 1) * 1000 + s.identifyTimeout := by
      change (if identifyTime = 0 then 0 else _) = _
      rw [if_neg hne, if_pos hpending]
    rw [htimeout, hdue, hnode]
    exact ⟨hs.second.period, hs.second.timeout_pos, hs.second.timeout_le, fun _ => hpending, (if_neg hne).symm⟩
  · cases hgoes : s.node.ledPending with
    | true => rw [hled hgoes]
    | false =>
        have hatrest : s.timed.blinker.pending = false := hgoes
        rw [Blinker.Timed.span_idle hatrest]
        exact Blinker.Timed.span_idle (hledPending.trans hgoes)

/-- A command that starts the timer: an LED at rest begins to blink, one that blinks is given another count. -/
theorem Timely.identify_idle (hs : s.Timely) {identifyTime : BitVec 16} (hne : identifyTime ≠ 0)
    (hidle : s.node.identifyPending = false) : (s.appZclIdentifyCmdHandler identifyTime).Timely ∧
      (s.appZclIdentifyCmdHandler identifyTime).timed =
        if s.node.ledPending then
          { s.timed with blinker := { s.timed.blinker with left := blinks (identifyTime.setWidth 8) } }
        else ⟨⟨true, blinks (identifyTime.setWidth 8), true⟩, 500, 500, 500⟩ := by
  obtain ⟨hlit, hoff, hpending, hperiod, hgoesOn, hbegins⟩ := hs.lit.identify_idle hs.off hne hidle
  have htimeout : (s.appZclIdentifyCmdHandler identifyTime).identifyTimeout = 1000 := by
    change (if s.node.identifyPending then _ else Node.timeout _ _) = _
    rw [hidle, if_neg Bool.false_ne_true, Node.timeout_of_period hperiod]
    rfl
  have hdue : (s.appZclIdentifyCmdHandler identifyTime).due = (identifyTime.toNat - 1) * 1000 + 1000 := by
    change (if identifyTime = 0 then 0 else _) = _
    rw [if_neg hne, hidle]
    rfl
  have htime : (s.appZclIdentifyCmdHandler identifyTime).node.identifyTime = identifyTime :=
    s.node.appZclIdentifyCmdHandler_identifyTime identifyTime
  have htimed : (s.appZclIdentifyCmdHandler identifyTime).timed =
      if s.node.ledPending then
        { s.timed with blinker := { s.timed.blinker with left := blinks (identifyTime.setWidth 8) } }
      else ⟨⟨true, blinks (identifyTime.setWidth 8), true⟩, 500, 500, 500⟩ := by
    change Node.timed (if s.node.ledPending then _ else Node.timeout _ _) _ = _
    cases hled : s.node.ledPending with
    | true => exact hgoesOn hled s.ledTimeout
    | false => exact hbegins hled
  refine ⟨⟨hlit, hoff, fun _ => ?_, ?_⟩, htimed⟩
  · rw [htimed]
    split_ifs with hled
    · obtain ⟨-, htimeout, haway, hback⟩ := hs.running hled
      exact ⟨one_le_blinks _, htimeout, haway, hback⟩
    · have hpos : 1 ≤ 500 := by decide
      exact ⟨one_le_blinks _, hpos, hpos, hpos⟩
  · rw [htimeout, hdue]
    exact ⟨fun _ => hperiod, fun _ => by decide, fun _ => le_rfl, fun _ => hpending, by rw [htime, if_neg hne]⟩

/-- `app_task` on a joined device leaves the LED with its own blinking. -/
theorem Timely.appTask_joined (hs : s.Timely) (hjoined : s.node.reporting.joined = true) : s.appTask.Timely ∧
    s.node.SameSecond s.appTask.node ∧ s.appTask.timed.span = s.node.statusSpan ∧ s.appTask.timed.Within 280 := by
  obtain ⟨hlit, hoff, hsame, hrun, hwithin, hspan⟩ := hs.lit.appTaskLight hs.off hjoined
  have happTask : s.appTask = { s with
      node := s.node.appTaskLight, ledTimeout := s.node.appTaskLight.timeout .timerLedEvt, asked := false } :=
    if_pos hjoined
  rw [happTask]
  exact ⟨⟨hlit, hoff, fun _ => hrun, hs.second.congr hsame⟩, hsame, hspan, hwithin⟩

/-! ### What has been asked -/

/-- What is asked of the device agrees with its timers in every state between two events. -/
structure Asked (s : Identifying) : Prop where
  timely : s.Timely
  due_le : s.due ≤ s.promised
  left : s.promised ≤ s.node.secondsLeft s.identifyTimeout
  status : s.asked = false → s.node.ledPending = true → s.timed.Within 280

theorem asked_started (boot : Boot) (app : App) : (started boot app).Asked :=
  ⟨timely_started boot app, le_rfl, le_rfl, fun _ h => absurd h Bool.false_ne_true⟩

theorem Asked.millisecond (hs : s.Asked) (led identify : Firing) : (s.millisecond led identify).Asked := by
  obtain ⟨htimely, htimed, hleft⟩ := hs.timely.millisecond led identify
  refine ⟨htimely, Nat.sub_le_sub_right hs.due_le 1, ?_, fun hasked hgoes => ?_⟩
  · rw [hleft]
    exact Nat.sub_le_sub_right hs.left 1
  · have hgoes' : (s.millisecond led identify).timed.blinker.pending = true := hgoes
    rw [htimed] at hgoes' ⊢
    cases hpending : s.node.ledPending with
    | true => exact (hs.status hasked hpending).tick
    | false =>
        have hidle : ¬ s.timed.blinker.pending = true := Bool.eq_false_iff.mp hpending
        rw [Blinker.Timed.tick, if_neg hidle] at hgoes'
        exact absurd hgoes' hidle

theorem Timely.identifyCmd (hs : s.Timely) (identifyTime : BitVec 16) :
    (s.appZclIdentifyCmdHandler identifyTime).Timely := by
  by_cases hzero : identifyTime = 0
  · rw [hzero]
    exact hs.identify_zero.1
  cases hpending : s.node.identifyPending with
  | true => exact (hs.identify_pending hzero hpending).1
  | false => exact (hs.identify_idle hzero hpending).1

theorem Asked.identifyCmd (hs : s.Asked) (identifyTime : BitVec 16) :
    (s.appZclIdentifyCmdHandler identifyTime).Asked := by
  have hasked : (s.appZclIdentifyCmdHandler identifyTime).asked = true := rfl
  have hpromised : (s.appZclIdentifyCmdHandler identifyTime).promised = identifyTime.toNat * 1000 := rfl
  have hstatus : (s.appZclIdentifyCmdHandler identifyTime).asked = false →
      (s.appZclIdentifyCmdHandler identifyTime).node.ledPending = true →
        (s.appZclIdentifyCmdHandler identifyTime).timed.Within 280 :=
    fun h => absurd (h.symm.trans hasked) Bool.false_ne_true
  have htimely := hs.timely.identifyCmd identifyTime
  refine ⟨htimely, ?_, ?_, hstatus⟩
  · rw [hpromised]
    change (if identifyTime = 0 then 0 else _) ≤ _
    split_ifs with hzero hpending
    · exact Nat.zero_le _
    · have hle := hs.timely.second.timeout_le hpending
      have hpos : 1 ≤ identifyTime.toNat := by bv_omega
      omega
    · have hpos : 1 ≤ identifyTime.toNat := by bv_omega
      omega
  · rw [hpromised]
    by_cases hzero : identifyTime = 0
    · rw [hzero]
      exact Nat.zero_le _
    have htime : (s.appZclIdentifyCmdHandler identifyTime).node.identifyTime = identifyTime :=
      s.node.appZclIdentifyCmdHandler_identifyTime identifyTime
    have hpending := htimely.second.counting (by rw [htime]; exact hzero)
    rw [Node.secondsLeft, if_pos hpending, htime]
    exact Nat.le_add_right _ _

theorem appTask_apart (hjoined : ¬ s.node.reporting.joined = true) : s.appTask = s := if_neg hjoined

theorem Asked.appTask (hs : s.Asked) : s.appTask.Asked := by
  by_cases hjoined : s.node.reporting.joined = true
  · obtain ⟨htimely, hsame, -, hwithin⟩ := hs.timely.appTask_joined hjoined
    have hstays : s.appTask.due = s.due ∧ s.appTask.promised = s.promised ∧
        s.appTask.identifyTimeout = s.identifyTimeout := by
      rw [Identifying.appTask, if_pos hjoined]
      exact ⟨rfl, rfl, rfl⟩
    obtain ⟨hdue, hpromised, htimeout⟩ := hstays
    refine ⟨htimely, ?_, ?_, fun _ _ => hwithin⟩
    · rw [hdue, hpromised]
      exact hs.due_le
    · rw [hpromised, htimeout, Node.secondsLeft_congr hsame]
      exact hs.left
  · rwa [appTask_apart hjoined]

theorem Asked.step (hs : s.Asked) (e : IdentifyEvent) : (s.step e).Asked := by
  cases e with
  | identifyCmd identifyTime => exact hs.identifyCmd identifyTime
  | appTask => exact hs.appTask
  | millisecond led identify => exact hs.millisecond led identify

/-- What time alone does. -/
theorem Asked.elapse (hs : s.Asked) (firings : List (Firing × Firing)) :
    let later := run Identifying.step s (firings.map fun f => .millisecond f.1 f.2)
    later.Asked ∧ later.timed.span = s.timed.span - firings.length ∧ later.promised = s.promised - firings.length ∧
      later.due = s.due - firings.length ∧ later.asked = s.asked := by
  induction firings generalizing s with
  | nil => exact ⟨hs, rfl, rfl, rfl, rfl⟩
  | cons f firings ih =>
      obtain ⟨hlater, hspan, hpromised, hdue, hasked⟩ := ih (hs.millisecond f.1 f.2)
      obtain ⟨-, htimed, -⟩ := hs.timely.millisecond f.1 f.2
      rw [htimed, Blinker.Timed.span_tick hs.timely.running, Nat.sub_sub] at hspan
      rw [List.length_cons, Nat.add_comm]
      exact ⟨hlater, hspan, hpromised.trans (Nat.sub_sub _ _ _), hdue.trans (Nat.sub_sub _ _ _), hasked⟩

theorem Timely.handle_ne_none_iff (hs : s.Timely) : s.node.timers.handle .timerLedEvt ≠ none ↔ 0 < s.timed.span := by
  rw [Blinker.Timed.span_pos hs.running, Option.ne_none_iff_isSome]
  rfl

theorem Asked.counts (hs : s.Asked) : s.node.identifyTime.toNat = (s.due + 999) / 1000 := by
  rw [hs.timely.second.due]
  split_ifs with hzero
  · rw [hzero]
    rfl
  · have hpending := hs.timely.second.counting hzero
    have hpos := hs.timely.second.timeout_pos hpending
    have hle := hs.timely.second.timeout_le hpending
    have hne : 1 ≤ s.node.identifyTime.toNat := by bv_omega
    omega

theorem Asked.lastsAsAsked_iff (hs : s.Asked) : s.LastsAsAsked ↔
    (0 < s.promised → 0 < s.timed.span) ∧ (s.asked = true → s.promised = 0 → s.timed.span = 0) := by
  have hled := hs.timely.handle_ne_none_iff
  have hnull : s.node.timers.handle .timerLedEvt = none ↔ s.timed.span = 0 := by
    rw [← not_iff_not, ← ne_eq, hled, Nat.pos_iff_ne_zero]
  constructor
  · intro h
    exact ⟨fun hpromised => hled.mp (h.lasts hpromised), fun hasked hzero => hnull.mp (h.ends hasked hzero)⟩
  · rintro ⟨hlasts, hends⟩
    refine ⟨hs.counts, fun hne => hled.mpr (hlasts ?_), fun hpromised => hled.mpr (hlasts hpromised),
      fun hasked hzero => hnull.mpr (hends hasked hzero), s.node.appZclIdentifyCmdHandler_identifyTime, ?_⟩
    · have hcounts := hs.counts
      have hdue := hs.due_le
      have hpos : 1 ≤ s.node.identifyTime.toNat := by bv_omega
      omega
    · obtain ⟨hlit, hidle, hidentify, -⟩ := Node.identify_zero hs.timely.lit
      have hnone : ∀ {o : Option (Fin timerEventNum)}, o.isSome = false → o = none :=
        fun h => Option.not_isSome_iff_eq_none.mp (Bool.eq_false_iff.mp h)
      exact ⟨hnone hidentify, hnone hidle, hlit.rests hidle⟩

/-- A pass of the timer list in which nothing happens but the callback. -/
def quietFiring : Firing := ⟨false, false, 0, fun _ => 3000, openStart, Node.emptyBoot⟩

/-- The LED goes on for as long as it has been asked to exactly when no less is left of its blinking, and no more if it
is the blinking that was asked for. -/
theorem Asked.lasts_iff (hs : s.Asked) :
    s.Lasts ↔ s.promised ≤ s.timed.span ∧ (s.asked = true → s.timed.span ≤ s.promised) := by
  have hlater : ∀ firings : List (Firing × Firing),
      (run Identifying.step s (firings.map fun f => .millisecond f.1 f.2)).LastsAsAsked ↔
        (0 < s.promised - firings.length → 0 < s.timed.span - firings.length) ∧
          (s.asked = true → s.promised - firings.length = 0 → s.timed.span - firings.length = 0) := by
    intro firings
    obtain ⟨hasked, hspan, hpromised, -, hsame⟩ := hs.elapse firings
    rw [hasked.lastsAsAsked_iff, hspan, hpromised, hsame]
  constructor
  · intro h
    have hafter : ∀ k, (0 < s.promised - k → 0 < s.timed.span - k) ∧
        (s.asked = true → s.promised - k = 0 → s.timed.span - k = 0) := by
      intro k
      have hk := (hlater (List.replicate k (quietFiring, quietFiring))).mp (h _)
      rwa [List.length_replicate] at hk
    refine ⟨?_, fun hasked => ?_⟩
    · by_contra hless
      have hends := (hafter s.timed.span).1 (by omega)
      omega
    · have hends := (hafter s.promised).2 hasked (Nat.sub_self _)
      omega
  · rintro ⟨hle, hge⟩ firings
    rw [hlater]
    exact ⟨fun _ => by omega, fun hasked _ => by have := hge hasked; omega⟩

/-- The time asked, in the byte of `light_blink_start`. -/
theorem blinks_setWidth (identifyTime : BitVec 16) : blinks (identifyTime.setWidth 8) =
    if identifyTime.toNat % 256 = 0 then 256 else identifyTime.toNat % 256 := by
  have hbyte : (identifyTime.setWidth 8).toNat = identifyTime.toNat % 256 := BitVec.toNat_setWidth 8 identifyTime
  have hzero : identifyTime.setWidth 8 = 0 ↔ identifyTime.toNat % 256 = 0 := by
    rw [← hbyte]
    exact ⟨fun h => congrArg BitVec.toNat h, fun h => BitVec.eq_of_toNat_eq h⟩
  simp only [blinks, hbyte, hzero]

/-- While the timer of the seconds is idle an LED that blinks shows the status. -/
theorem Asked.status_of_idle (hs : s.Asked) (hlasts : s.Lasts) (hidle : s.node.identifyPending = false)
    (hled : s.node.ledPending = true) : s.timed.Within 280 := by
  refine hs.status ?_ hled
  by_contra hidentify
  have hspan := (hs.lasts_iff.mp hlasts).2 (Bool.eq_true_of_not_eq_false hidentify)
  have hleft := hs.left
  rw [Node.secondsLeft, hidle, if_neg Bool.false_ne_true] at hleft
  have hgoes := hs.timely.handle_ne_none_iff.mp (Option.ne_none_iff_isSome.mpr hled)
  omega

/-- A blink of the status is far from a second, so a new count does not make it last as many seconds. -/
theorem status_cut_short {t : Blinker.Timed} (hwithin : t.Within 280) {identifyTime : BitVec 16} (hne : identifyTime ≠ 0) :
    Blinker.Timed.span { t with blinker := { t.blinker with left := blinks (identifyTime.setWidth 8) } } ≠
      identifyTime.toNat * 1000 := by
  have hrestarted : Blinker.Timed.Within 280
      { t with blinker := { t.blinker with left := blinks (identifyTime.setWidth 8) } } :=
    ⟨hwithin.present, hwithin.blink⟩
  have hspan := hrestarted.span_le (one_le_blinks _)
  have hpos : identifyTime.toNat ≠ 0 := by bv_omega
  have hless : blinks (identifyTime.setWidth 8) ≤ identifyTime.toNat := by
    rw [blinks_setWidth]
    split_ifs <;> omega
  intro hseconds
  rw [hseconds] at hspan
  dsimp only at hspan
  omega

theorem Asked.lasts_identify_iff (hs : s.Asked) (hlasts : s.Lasts) (identifyTime : BitVec 16) :
    (s.appZclIdentifyCmdHandler identifyTime).Lasts ↔ s.KeepsBlinking (.identifyCmd identifyTime) := by
  have hpromised : (s.appZclIdentifyCmdHandler identifyTime).promised = identifyTime.toNat * 1000 := rfl
  have hasked : (s.appZclIdentifyCmdHandler identifyTime).asked = true := rfl
  have hexact : (s.appZclIdentifyCmdHandler identifyTime).Lasts ↔
      (s.appZclIdentifyCmdHandler identifyTime).timed.span = identifyTime.toNat * 1000 := by
    rw [(hs.identifyCmd identifyTime).lasts_iff, hpromised]
    exact ⟨fun h => le_antisymm (h.2 hasked) h.1, fun h => ⟨h.ge, fun _ => h.le⟩⟩
  rw [hexact, KeepsBlinking]
  by_cases hzero : identifyTime = 0
  · refine iff_of_true ?_ fun hne => absurd hzero hne
    rw [hzero]
    exact hs.timely.identify_zero.2
  rw [imp_iff_right hzero]
  cases hpending : s.node.identifyPending with
  | true => rw [if_pos rfl, (hs.timely.identify_pending hzero hpending).2]
  | false =>
      rw [if_neg Bool.false_ne_true, (hs.timely.identify_idle hzero hpending).2]
      cases hled : s.node.ledPending with
      | false =>
          have hne : identifyTime.toNat ≠ 0 := by bv_omega
          rw [if_neg Bool.false_ne_true, and_iff_right rfl, Blinker.Timed.span_fresh (one_le_blinks _), blinks_setWidth]
          split_ifs <;> omega
      | true =>
          rw [if_pos rfl]
          refine iff_of_false ?_ fun h => Bool.false_ne_true h.1.symm
          exact status_cut_short (hs.status_of_idle hlasts hpending hled) hzero

theorem Asked.lasts_step_iff (hs : s.Asked) (hlasts : s.Lasts) (e : IdentifyEvent) :
    (s.step e).Lasts ↔ s.KeepsBlinking e := by
  cases e with
  | identifyCmd identifyTime => exact hs.lasts_identify_iff hlasts identifyTime
  | appTask =>
      change s.appTask.Lasts ↔ (s.node.reporting.joined = true → s.promised ≤ s.node.statusSpan)
      by_cases hjoined : s.node.reporting.joined = true
      · obtain ⟨-, -, hspan, -⟩ := hs.timely.appTask_joined hjoined
        have hstays : s.appTask.promised = s.promised ∧ s.appTask.asked = false := by
          rw [Identifying.appTask, if_pos hjoined]
          exact ⟨rfl, rfl⟩
        rw [hs.appTask.lasts_iff, hspan, hstays.1, hstays.2, imp_iff_right hjoined]
        exact and_iff_left fun h => absurd h Bool.false_ne_true
      · rw [appTask_apart hjoined]
        exact iff_of_true hlasts fun h => absurd h hjoined
  | millisecond led identify => exact iff_of_true (fun firings => hlasts ((led, identify) :: firings)) trivial

theorem lasts_started (boot : Boot) (app : App) : (started boot app).Lasts :=
  (asked_started boot app).lasts_iff.mpr ⟨Nat.zero_le _, fun h => absurd h Bool.false_ne_true⟩

/-- Identify lasts as long as asked, in every state of a run and from it on, exactly when each step keeps the LED
blinking. -/
theorem identify_lasts_iff (boot : Boot) (app : App) (events : List IdentifyEvent) :
    Along Identifying.step (fun s e => (s.step e).Lasts) (started boot app) events ↔
      Along Identifying.step KeepsBlinking (started boot app) events :=
  along_iff (fun (s : Identifying) e (h : s.Asked ∧ s.Lasts) hlasts => ⟨h.1.step e, hlasts⟩)
    (fun _ e h => h.1.lasts_step_iff h.2 e) ⟨asked_started boot app, lasts_started boot app⟩

/-- Five minutes are asked for, and 44 seconds pass. -/
def fiveMinutes : List IdentifyEvent :=
  .identifyCmd 300 :: (List.replicate 44000 (quietFiring, quietFiring)).map fun f => .millisecond f.1 f.2

/-- 300 is 44 in the byte of the count: the LED has stopped, with 256 seconds of the identify time to go. -/
theorem five_minutes_cut_short : ¬ ∀ (boot : Boot) (app : App) (events : List IdentifyEvent),
    (run Identifying.step (started boot app) events).LastsAsAsked := by
  intro h
  have hcut := h Node.emptyBoot emptyApp fiveMinutes
  rw [fiveMinutes, run_cons] at hcut
  generalize hfirings : List.replicate 44000 (quietFiring, quietFiring) = firings at hcut
  have hlength : firings.length = 44000 := by rw [← hfirings, List.length_replicate]
  have hstart := asked_started Node.emptyBoot emptyApp
  have hasked := hstart.identifyCmd 300
  have hsome : (300 : BitVec 16) ≠ 0 := by decide
  obtain ⟨-, htimed⟩ := hstart.timely.identify_idle hsome rfl
  obtain ⟨hlater, hspan, hpromised, -, -⟩ := hasked.elapse firings
  have hfresh : ((started Node.emptyBoot emptyApp).appZclIdentifyCmdHandler 300).timed.span = 44 * (500 + 500) := by
    rw [htimed]
    exact Blinker.Timed.span_fresh (by decide)
  have hleft : ((started Node.emptyBoot emptyApp).appZclIdentifyCmdHandler 300).promised = 300 * 1000 := rfl
  rw [hfresh, hlength] at hspan
  rw [hleft, hlength] at hpromised
  have hgoes := (hlater.lastsAsAsked_iff.mp hcut).1 (by omega)
  omega

end Identifying

end Watermeter
