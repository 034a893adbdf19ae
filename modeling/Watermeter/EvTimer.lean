import Mathlib.Data.List.Basic
import Mathlib.Logic.Function.Basic
import Watermeter.TickClock
import Watermeter.Transition

/-! The timers of `ev_timer.c` in time: what they count of the system timer, of which a register shows the last 32 bits,
and of the sleep, which the 32 kHz counter measures. A callback may take time and set or stop timers, so that the loop
that runs the callbacks is a machine of single steps. -/

namespace Watermeter.TimerList

open TickClock

/-- `S_TIMER_CLOCK_1US * 1000`: ticks of the system timer. -/
def ticksPerMs : Nat := 16000

/-- The ticks of the 32 kHz counter in a millisecond. -/
def sleepTicksPerMs : Nat := 32

/-- `ev_timer_event_t`. -/
structure Event where
  timeout : Nat
  period : Nat
  curSysTick : BitVec 32
  isRunning : Bool
  deriving DecidableEq, Repr

/-- What `ev_timer_update` counts for a timer: all of the time, or what has passed since it was registered. -/
def Event.elapsed (e : Event) (curSysTick : BitVec 32) (updateTime : Nat) : Nat :=
  if e.isRunning then updateTime else (curSysTick - e.curSysTick).toNat / ticksPerMs

def Event.count (e : Event) (curSysTick : BitVec 32) (updateTime : Nat) : Event :=
  { e with timeout := e.timeout - e.elapsed curSysTick updateTime, isRunning := true }

/-- Where the program is: not among the timers, in the loop of `ev_timer_executeCB`, or in a callback that was called
from there, with `timerEvt` and `prev_head`. -/
inductive Mode (ι : Type*)
  | idle
  | loop (timerEvt prevHead : Option ι)
  | callback (timerEvt : ι) (prevHead : Option ι)
  deriving DecidableEq, Repr

/-- The timer that the loop is at. -/
def Mode.at {ι : Type*} : Mode ι → Option ι
  | .idle => none
  | .loop timerEvt _ => timerEvt
  | .callback timerEvt _ => some timerEvt

/-- The variables of the module, and the time that the system timer has counted. `list` is the chain from
`timer_head`. -/
structure Timers (ι : Type*) where
  event : ι → Event
  list : List ι
  nearest : Option ι
  prevSysTick : BitVec 32
  remSysTick : Nat
  sysTick : Nat
  mode : Mode ι

variable {ι : Type*} [DecidableEq ι]

/-- After `ev_timer_init`, with the system timer at `sysTick`. -/
def Timers.init (sysTick : Nat) : Timers ι := ⟨fun _ => ⟨0, 0, 0, false⟩, [], none, 0, 0, sysTick, .idle⟩

namespace Timers

/-- `clock_time`. -/
def clockTime (s : Timers ι) : BitVec 32 := reading 32 s.sysTick

def put (s : Timers ι) (evt : ι) (e : Event) : Timers ι := { s with event := Function.update s.event evt e }

/-- The loop of `ev_timer_nearestUpdate`. -/
def nearestFrom (timeout : ι → Nat) : ι → List ι → ι
  | nearest, [] => nearest
  | nearest, timerEvt :: rest =>
      nearestFrom timeout (if timeout timerEvt < timeout nearest then timerEvt else nearest) rest

/-- The nearest of the timers in the list. -/
def nearestOf (timeout : ι → Nat) : List ι → Option ι
  | [] => none
  | head :: rest => some (nearestFrom timeout head (head :: rest))

/-- `ev_timer_nearestUpdate`. -/
def nearestUpdate (s : Timers ι) : Timers ι :=
  { s with nearest := nearestOf (fun evt => (s.event evt).timeout) s.list }

/-- `ev_on_timer`. -/
def onTimer (s : Timers ι) (evt : ι) (timeout : Nat) : Timers ι :=
  let e := { s.event evt with period := timeout, timeout := timeout }
  if evt ∈ s.list then (s.put evt e).nearestUpdate
  else
    let e := if e.isRunning then e else { e with curSysTick := s.clockTime }
    { s.put evt e with list := evt :: s.list }.nearestUpdate

/-- `ev_unon_timer`, with the part of `ev_timer_poolDelUpdate` that counts. -/
def unonTimer (s : Timers ι) (evt : ι) : Timers ι :=
  if evt ∈ s.list then
    { s.put evt { s.event evt with isRunning := false, curSysTick := 0 } with list := s.list.erase evt }.nearestUpdate
  else s

/-- `ev_timer_update`. -/
def update (s : Timers ι) (updateTime : Nat) : Timers ι :=
  if updateTime = 0 then s
  else
    { s with event := fun evt =>
        if evt ∈ s.list then (s.event evt).count s.clockTime updateTime else s.event evt }

/-- The timer that follows in the list. -/
def next (evt : ι) : List ι → Option ι
  | [] => none
  | head :: rest => if head = evt then rest.head? else next evt rest

def sysTicks (s : Timers ι) : Nat := (s.clockTime - s.prevSysTick).toNat

/-- The milliseconds that `ev_timer_process` counts. -/
def updateTime (s : Timers ι) : Nat :=
  s.sysTicks / ticksPerMs + (s.remSysTick + s.sysTicks % ticksPerMs) / ticksPerMs

/-- `ev_timer_process`, up to the loop of `ev_timer_executeCB`. -/
def process (s : Timers ι) : Timers ι :=
  if s.clockTime = s.prevSysTick then s
  else
    let remSysTick := (s.remSysTick + s.sysTicks % ticksPerMs) % ticksPerMs
    let s := { s with prevSysTick := s.clockTime, remSysTick := remSysTick }.update s.updateTime
    { s with mode := .loop s.list.head? s.list.head? }

/-- One turn of the loop of `ev_timer_executeCB`, up to the callback if there is one to be called, and the end of the
function behind it. -/
def executeCB (s : Timers ι) : Option ι → Option ι → Timers ι
  | none, _ => { s.nearestUpdate with mode := .idle }
  | some timerEvt, prevHead =>
      if (s.event timerEvt).timeout = 0 then { s with mode := .callback timerEvt prevHead }
      else { s with mode := .loop (next timerEvt s.list) prevHead }

/-- The loop goes on behind a callback, from the head if that has changed. -/
def resume (s : Timers ι) (following prevHead : Option ι) : Timers ι :=
  { s with mode := if prevHead ≠ s.list.head? then .loop s.list.head? s.list.head? else .loop following prevHead }

/-- The callback has returned `t`. What follows in the list is read off a timer that may just have been taken out. -/
def returned (s : Timers ι) (timerEvt : ι) (prevHead : Option ι) (t : Int) : Timers ι :=
  let following := next timerEvt s.list
  let e := s.event timerEvt
  if t < 0 then (s.unonTimer timerEvt).resume following prevHead
  else if t = 0 then (s.put timerEvt { e with timeout := e.period }).resume following prevHead
  else (s.put timerEvt { e with period := t.toNat, timeout := t.toNat }).resume following prevHead

/-- `drv_pm_sleepTime_get`: the milliseconds of a sleep, and the ticks of the system timer that are left. -/
def sleepTimeGet (sleepTick32k : BitVec 32) : Nat × Nat :=
  (sleepTick32k.toNat / sleepTicksPerMs, sleepTick32k.toNat % sleepTicksPerMs * (ticksPerMs / sleepTicksPerMs))

/-- `drv_pm_wakeupTimeUpdate`, after so many ticks of the 32 kHz counter. -/
def wakeupTimeUpdate (s : Timers ι) (sleepTick32k : BitVec 32) : Timers ι :=
  let (sleepTime, sleepRemTick) := sleepTimeGet sleepTick32k
  if sleepTime = 0 ∧ sleepRemTick = 0 then s
  else { s.update sleepTime with prevSysTick := s.clockTime - .ofNat 32 sleepRemTick }

/-- `drv_pm_lowPowerEnter` with nothing else to do: a sleep that the nearest timer or a pin ends, over so many ticks of
the system timer and of the 32 kHz counter. Without a timer the sleep is one from which the device starts anew. -/
def lowPowerEnter (s : Timers ι) (ticks ticks32k : Nat) : Timers ι :=
  match s.nearest with
  | none => s
  | some timerEvt =>
    if (s.event timerEvt).timeout = 0 then s
    else { s with sysTick := s.sysTick + ticks }.wakeupTimeUpdate (.ofNat 32 ticks32k)

end Timers

/-- What happens next: time passes, a timer is set or stopped, the main loop comes to the timers or goes to sleep, and
inside of `ev_timer_executeCB` the loop goes on or the callback returns. -/
inductive Act (ι : Type*)
  | pass (ticks : Nat)
  | onTimer (evt : ι) (timeout : Nat)
  | unonTimer (evt : ι)
  | process
  | executeCB
  | returned (t : Int)
  | lowPowerEnter (ticks ticks32k : Nat)

/-- Nothing happens where the program is elsewhere. A timer is not stopped in the middle of the loop, nor by its own
callback, for which it is busy. -/
def step (s : Timers ι) : Act ι → Timers ι
  | .pass ticks => { s with sysTick := s.sysTick + ticks }
  | .onTimer evt timeout => s.onTimer evt timeout
  | .unonTimer evt =>
      match s.mode with
      | .idle => s.unonTimer evt
      | .loop .. => s
      | .callback timerEvt _ => if evt = timerEvt then s else s.unonTimer evt
  | .process =>
      match s.mode with
      | .idle => s.process
      | _ => s
  | .executeCB =>
      match s.mode with
      | .loop timerEvt prevHead => s.executeCB timerEvt prevHead
      | _ => s
  | .returned t =>
      match s.mode with
      | .callback timerEvt prevHead => s.returned timerEvt prevHead t
      | _ => s
  | .lowPowerEnter ticks ticks32k =>
      match s.mode with
      | .idle => s.lowPowerEnter ticks ticks32k
      | _ => s

end Watermeter.TimerList
