import Watermeter.LeakAlarm
import Mathlib.Algebra.Ring.Parity

/-! The episodes of the two leak detectors on a device that stays joined, and the commands to the valves. Between two
passes the network may write any attribute. -/

namespace Watermeter

open Debounce

/-- What the network writes before a pass, and the pins the pass reads. -/
structure JoinedPass where
  written : LeakAttrs → LeakAttrs
  wleak1Gpio : Bool
  wleak2Gpio : Bool

def JoinedPass.input (pass : JoinedPass) : LeakInput := ⟨pass.wleak1Gpio, pass.wleak2Gpio, true⟩

namespace LeakHistory

def written (write : LeakAttrs → LeakAttrs) (s : LeakHistory) : LeakHistory :=
  { s with leak := { s.leak with attrs := write s.leak.attrs } }

/-- The state before pass `t`. -/
def before (ep4SwitchActions ep5SwitchActions : BitVec 8) (passes : Nat → JoinedPass) : Nat → LeakHistory
  | 0 => .start ep4SwitchActions ep5SwitchActions
  | t + 1 => ((LeakHistory.before ep4SwitchActions ep5SwitchActions passes t).written (passes t).written).step (passes t).input

/-- The state the handler finds in pass `t`. -/
def found (ep4SwitchActions ep5SwitchActions : BitVec 8) (passes : Nat → JoinedPass) (t : Nat) : LeakHistory :=
  (LeakHistory.before ep4SwitchActions ep5SwitchActions passes t).written (passes t).written

end LeakHistory

/-- The two endpoints that drive a valve. -/
inductive Valve
  | ep4
  | ep5
  deriving DecidableEq, Repr

def Valve.endpoint : Valve → BitVec 8
  | .ep4 => watermeterEndpoint4
  | .ep5 => watermeterEndpoint5

def LeakAttrs.switchActions (attrs : LeakAttrs) : Valve → BitVec 8
  | .ep4 => attrs.ep4SwitchActions
  | .ep5 => attrs.ep5SwitchActions

/-- The On/Off commands among the calls that come from an endpoint. -/
def sentFrom (valve : Valve) (calls : List LeakCall) : List (BitVec 8) :=
  calls.filterMap fun call =>
    match call with
    | .onOff endpoint command _ => if endpoint = valve.endpoint then some command else none
    | _ => none

/-- The command of a switch action; reserved values have none. -/
def selectedCommand (switchActions : BitVec 8) : Option (BitVec 8) :=
  if switchActions = zclSwitchActionOnOff then some zclCmdOnoffOff
  else if switchActions = zclSwitchActionOffOn then some zclCmdOnoffOn
  else if switchActions = zclSwitchActionToggle then some zclCmdOnoffToggle
  else none

/-- The calls of one detector in a pass. -/
def detectorCalls (s : Leak) (input : LeakInput) : LeakChannel → List LeakCall
  | .first => (leakChannel input.wleak1Gpio input.joined s.waterleakDebounce1 s.attrs).2.2
  | .second =>
    (leakChannel input.wleak2Gpio input.joined s.waterleakDebounce2
      (leakChannel input.wleak1Gpio input.joined s.waterleakDebounce1 s.attrs).2.1).2.2

/-- The samples of a detector, closed while its contacts are wet. -/
def wetSamples (passes : Nat → JoinedPass) (ch : LeakChannel) (t : Nat) : Bool := !(passes t).input.gpio ch

/-- Up to time `len` the debounce value of a detector never leaves one of its ends and comes back to it without having
been at the other: no opening that starts at 32 is made up for by closed samples before the open ones are 31 ahead, and
no closing that starts at 1 by open ones before the closed ones are. -/
def Glitchless (passes : Nat → JoinedPass) (ch : LeakChannel) (len : Nat) : Prop :=
  ∀ s n, s + n ≤ len →
    (level 32 (wetSamples passes ch) 1 s = 32 → ¬ Dip 32 (wetSamples passes ch) s n) ∧
      (level 32 (wetSamples passes ch) 1 s = 1 → ¬ Dip 32 (fun t => !wetSamples passes ch t) s n)

variable {ep4SwitchActions ep5SwitchActions : BitVec 8} {passes : Nat → JoinedPass}

/-! ### The commands of a pass -/

theorem handler_calls (s : Leak) (input : LeakInput) :
    (waterleakHandler input s).2 = detectorCalls s input .first ++ detectorCalls s input .second := rfl

theorem sentFrom_append (valve : Valve) (xs ys : List LeakCall) :
    sentFrom valve (xs ++ ys) = sentFrom valve xs ++ sentFrom valve ys := List.filterMap_append

/-- A valve's own command, by its switch action. -/
theorem sentFrom_leakCommand (valve valve' : Valve) (switchActions : BitVec 8) :
    sentFrom valve (leakCommand valve'.endpoint switchActions) =
      if valve = valve' then (selectedCommand switchActions).toList else [] := by
  have hown : valve'.endpoint = valve.endpoint ↔ valve = valve' := by
    cases valve <;> cases valve' <;> decide
  unfold leakCommand selectedCommand
  split_ifs <;> simp_all [sentFrom, cmdOnOff]

theorem sentFrom_changeStatus (valve : Valve) (attrs : LeakAttrs) (zoneStatus : BitVec 16) :
    sentFrom valve (changeStatus attrs zoneStatus).2 = [] := rfl

theorem sentFrom_detected (valve : Valve) (attrs : LeakAttrs) :
    sentFrom valve (leakDetected true attrs).2 = (selectedCommand (attrs.switchActions valve)).toList := by
  have h4 := sentFrom_leakCommand valve .ep4 attrs.ep4SwitchActions
  have h5 := sentFrom_leakCommand valve .ep5 attrs.ep5SwitchActions
  have hcalls : (leakDetected true attrs).2 = leakCommand (Valve.endpoint .ep4) attrs.ep4SwitchActions ++
      leakCommand (Valve.endpoint .ep5) attrs.ep5SwitchActions ++
        (changeStatus attrs (attrs.zoneStatus ||| zoneStatusBitAlarm1)).2 := rfl
  rw [hcalls, sentFrom_append, sentFrom_append, h4, h5, sentFrom_changeStatus]
  cases valve <;> simp [LeakAttrs.switchActions]

/-- A detector commands the valves in the pass in which it gets wet. -/
theorem sentFrom_channel {debounce : BitVec 8} (h : DebounceInRange debounce) (gpio : Bool) (valve : Valve)
    (attrs : LeakAttrs) :
    sentFrom valve (leakChannel gpio true debounce attrs).2.2 =
        (if Reaches 32 (!gpio) debounce.toNat then (selectedCommand (attrs.switchActions valve)).toList else []) ∧
      (leakChannel gpio true debounce attrs).2.1.switchActions valve = attrs.switchActions valve := by
  have hdetected := sentFrom_detected valve attrs
  rw [(leakChannel_eq h gpio true attrs).2]
  split_ifs
  · refine ⟨hdetected, ?_⟩
    cases valve <;> rfl
  · refine ⟨sentFrom_changeStatus valve attrs _, ?_⟩
    cases valve <;> rfl
  · exact ⟨rfl, rfl⟩

theorem sentFrom_detector {s : LeakHistory} (h : s.InRange) {input : LeakInput} (hjoined : input.joined = true)
    (ch : LeakChannel) (valve : Valve) :
    sentFrom valve (detectorCalls s.leak input ch) =
      if Wets s.leak input ch then (selectedCommand (s.leak.attrs.switchActions valve)).toList else [] := by
  obtain ⟨wleak1Gpio, wleak2Gpio, joined⟩ := input
  cases hjoined
  obtain ⟨hfirst, hkept⟩ := sentFrom_channel (h .first) wleak1Gpio valve s.leak.attrs
  cases ch with
  | first => exact hfirst
  | second =>
      obtain ⟨hsecond, -⟩ := sentFrom_channel (h .second) wleak2Gpio valve
        (leakChannel wleak1Gpio true s.leak.waterleakDebounce1 s.leak.attrs).2.1
      have hkept' : (leakChannel wleak1Gpio true s.leak.waterleakDebounce1 s.leak.attrs).2.1.switchActions valve =
          s.leak.attrs.switchActions valve := hkept
      rw [hkept'] at hsecond
      exact hsecond

/-- A pass leaves the switch actions as they are. -/
theorem step_switchActions {s : LeakHistory} (h : s.InRange) {input : LeakInput} (hjoined : input.joined = true)
    (valve : Valve) : (s.step input).leak.attrs.switchActions valve = s.leak.attrs.switchActions valve := by
  obtain ⟨wleak1Gpio, wleak2Gpio, joined⟩ := input
  cases hjoined
  have hfirst := (sentFrom_channel (h .first) wleak1Gpio valve s.leak.attrs).2
  have hsecond := (sentFrom_channel (h .second) wleak2Gpio valve
    (leakChannel wleak1Gpio true s.leak.waterleakDebounce1 s.leak.attrs).2.1).2
  exact hsecond.trans hfirst

/-! ### The debounce values over a run -/

theorem before_inRange (t : Nat) : (LeakHistory.before ep4SwitchActions ep5SwitchActions passes t).InRange := by
  induction t with
  | zero => exact start_inRange _ _
  | succ t ih =>
      have hfound : (LeakHistory.found ep4SwitchActions ep5SwitchActions passes t).InRange := by
        intro ch
        cases ch with
        | first => exact ih .first
        | second => exact ih .second
      exact step_inRange hfound _

theorem found_inRange (t : Nat) : (LeakHistory.found ep4SwitchActions ep5SwitchActions passes t).InRange := by
  have hbefore : (LeakHistory.before ep4SwitchActions ep5SwitchActions passes t).InRange := before_inRange t
  intro ch
  cases ch with
  | first => exact hbefore .first
  | second => exact hbefore .second

theorem found_debounce (t : Nat) (ch : LeakChannel) :
    (LeakHistory.found ep4SwitchActions ep5SwitchActions passes t).leak.debounce ch =
      (LeakHistory.before ep4SwitchActions ep5SwitchActions passes t).leak.debounce ch := by
  cases ch <;> rfl

/-- The debounce value of a detector is the counter of its samples. -/
theorem before_debounce (t : Nat) (ch : LeakChannel) :
    ((LeakHistory.before ep4SwitchActions ep5SwitchActions passes t).leak.debounce ch).toNat =
      level 32 (wetSamples passes ch) 1 t := by
  induction t with
  | zero => cases ch <;> rfl
  | succ t ih =>
      have hrange : DebounceInRange ((LeakHistory.found ep4SwitchActions ep5SwitchActions passes t).leak.debounce ch) :=
        found_inRange t ch
      rw [level_succ, ← ih, ← found_debounce]
      cases ch with
      | first => exact (leakChannel_eq hrange _ _ _).1
      | second => exact (leakChannel_eq hrange _ _ _).1

theorem found_wets (t : Nat) (ch : LeakChannel) :
    Wets (LeakHistory.found ep4SwitchActions ep5SwitchActions passes t).leak (passes t).input ch ↔
      Reaches 32 (wetSamples passes ch t) (level 32 (wetSamples passes ch) 1 t) := by
  rw [Wets, found_debounce, before_debounce]
  rfl

theorem found_dries (t : Nat) (ch : LeakChannel) :
    Dries (LeakHistory.found ep4SwitchActions ep5SwitchActions passes t).leak (passes t).input ch ↔
      Clears (wetSamples passes ch t) (level 32 (wetSamples passes ch) 1 t) := by
  rw [Dries, found_debounce, before_debounce]
  rfl

/-- A detector is leaking when the end it last reached is the wet one. -/
theorem found_leaking (t : Nat) (ch : LeakChannel) :
    (LeakHistory.found ep4SwitchActions ep5SwitchActions passes t).leaking ch = pending 32 (wetSamples passes ch) 1 t := by
  induction t with
  | zero => rfl
  | succ t ih =>
      have hwets := @found_wets ep4SwitchActions ep5SwitchActions passes t ch
      have hdries := @found_dries ep4SwitchActions ep5SwitchActions passes t ch
      rw [pending, ← ih]
      simp only [← hwets, ← hdries]
      rfl

/-! ### Episodes -/

/-- On a device that stays joined, whatever the network writes: each onset sends from either endpoint the command of its
switch action, none for a reserved value, a clear sends none, and as long as the samples of a detector have no glitch
at an end its onsets and clears alternate, beginning with an onset. -/
theorem episodes_command (ep4SwitchActions ep5SwitchActions : BitVec 8) (passes : Nat → JoinedPass) (t : Nat)
    (ch : LeakChannel) :
    let s := LeakHistory.found ep4SwitchActions ep5SwitchActions passes t
    (∀ valve, sentFrom valve (detectorCalls s.leak (passes t).input ch) =
      if Wets s.leak (passes t).input ch then (selectedCommand (s.leak.attrs.switchActions valve)).toList else []) ∧
    (waterleakHandler (passes t).input s.leak).2 =
      detectorCalls s.leak (passes t).input .first ++ detectorCalls s.leak (passes t).input .second ∧
    (Glitchless passes ch (t + 1) →
      (Wets s.leak (passes t).input ch → s.leaking ch = false) ∧
        (Dries s.leak (passes t).input ch → s.leaking ch = true)) := by
  intro s
  refine ⟨fun valve => ?_, handler_calls _ _, fun hglitch => ⟨fun hwet => ?_, fun hdry => ?_⟩⟩
  · exact sentFrom_detector (found_inRange t) rfl ch valve
  · rw [found_leaking]
    exact ((found_wets t ch).mp hwet).not_pending (by omega) fun u n hle hat => (hglitch u n hle).1 hat
  · rw [found_leaking]
    exact ((found_dries t ch).mp hdry).pending (by omega) fun u n hle hat => (hglitch u n hle).2 hat

/-- A wet detector that is read dry once, and wet again. -/
def glitchPasses (t : Nat) : JoinedPass := ⟨id, t == 31, true⟩

/-- The coordinator has written a reserved value, and the detector gets wet. -/
def reservedPasses (_ : Nat) : JoinedPass := ⟨fun attrs => { attrs with ep4SwitchActions := 3#8 }, false, true⟩

/-- A glitch at the wet end is another onset, and with a reserved value an onset commands nothing. -/
theorem episodes_not_kept :
    (¬ ∀ (ep4SwitchActions ep5SwitchActions : BitVec 8) (passes : Nat → JoinedPass) (t : Nat) (ch : LeakChannel),
      let s := LeakHistory.found ep4SwitchActions ep5SwitchActions passes t
      (Wets s.leak (passes t).input ch → s.leaking ch = false) ∧
        (Dries s.leak (passes t).input ch → s.leaking ch = true)) ∧
    ¬ ∀ (ep4SwitchActions ep5SwitchActions : BitVec 8) (passes : Nat → JoinedPass) (t : Nat) (ch : LeakChannel)
      (valve : Valve), let s := LeakHistory.found ep4SwitchActions ep5SwitchActions passes t
      Wets s.leak (passes t).input ch → (sentFrom valve (detectorCalls s.leak (passes t).input ch)).length = 1 := by
  refine ⟨fun h => ?_, fun h => ?_⟩
  · have hwet := (h 0#8 0#8 glitchPasses 32 .first).1 (by decide +kernel)
    have hleaking : (LeakHistory.found 0#8 0#8 glitchPasses 32).leaking .first = true := by decide +kernel
    exact absurd (hwet.symm.trans hleaking) (by decide)
  · have hone := h 0#8 0#8 reservedPasses 30 .first .ep4 (by decide +kernel)
    have hnone : sentFrom .ep4 (detectorCalls (LeakHistory.found 0#8 0#8 reservedPasses 30).leak
        (reservedPasses 30).input .first) = [] := by decide +kernel
    rw [hnone] at hone
    exact absurd hone (by decide)

/-! ### The valves -/

/-- What an actuator makes of a command; `true` is on. -/
def obey (position : Bool) (command : BitVec 8) : Bool :=
  if command = zclCmdOnoffOff then false
  else if command = zclCmdOnoffOn then true
  else if command = zclCmdOnoffToggle then !position
  else position

/-- The position of an actuator on that endpoint before pass `t`. -/
def actuatorAt (ep4SwitchActions ep5SwitchActions : BitVec 8) (passes : Nat → JoinedPass) (valve : Valve) (start : Bool) :
    Nat → Bool
  | 0 => start
  | t + 1 =>
    (sentFrom valve (waterleakHandler (passes t).input
      (LeakHistory.found ep4SwitchActions ep5SwitchActions passes t).leak).2).foldl obey
        (actuatorAt ep4SwitchActions ep5SwitchActions passes valve start t)

/-- The onsets of both detectors before pass `t`. -/
def onsetsBefore (ep4SwitchActions ep5SwitchActions : BitVec 8) (passes : Nat → JoinedPass) : Nat → Nat
  | 0 => 0
  | t + 1 =>
    onsetsBefore ep4SwitchActions ep5SwitchActions passes t +
      (if Wets (LeakHistory.found ep4SwitchActions ep5SwitchActions passes t).leak (passes t).input .first then 1 else 0) +
      (if Wets (LeakHistory.found ep4SwitchActions ep5SwitchActions passes t).leak (passes t).input .second then 1 else 0)

/-- The position the first command puts an actuator in that starts in `start`. -/
def leakPosition (switchActions : BitVec 8) (start : Bool) : Bool := ((selectedCommand switchActions).toList).foldl obey start

/-- The actuator is moved once for each onset. -/
theorem actuator_onsets (valve : Valve) (start : Bool) {switchActions : BitVec 8}
    (hfixed : ∀ t, (LeakHistory.found ep4SwitchActions ep5SwitchActions passes t).leak.attrs.switchActions valve = switchActions)
    (t : Nat) :
    actuatorAt ep4SwitchActions ep5SwitchActions passes valve start t =
      (leakPosition switchActions)^[onsetsBefore ep4SwitchActions ep5SwitchActions passes t] start := by
  induction t with
  | zero => rfl
  | succ t ih =>
      have hdetector := fun ch => sentFrom_detector (@found_inRange ep4SwitchActions ep5SwitchActions passes t)
        (show (passes t).input.joined = true from rfl) ch valve
      rw [actuatorAt, ih, handler_calls, sentFrom_append, List.foldl_append, hdetector, hdetector, hfixed, onsetsBefore]
      split_ifs <;> simp only [Nat.add_zero, Function.iterate_succ_apply'] <;> rfl

theorem onsets_pos {t : Nat} (h : 0 < onsetsBefore ep4SwitchActions ep5SwitchActions passes t) :
    ∃ n, onsetsBefore ep4SwitchActions ep5SwitchActions passes t = n + 1 := ⟨_, (Nat.succ_pred_eq_of_pos h).symm⟩

/-- On a device that stays joined, with a fixed switch action that is not reserved: an actuator that is switched off or
on is in the leak position from the first onset on, and one that is toggled is there after an odd number of onsets. -/
theorem actuator_position (ep4SwitchActions ep5SwitchActions : BitVec 8) (passes : Nat → JoinedPass) (valve : Valve)
    (start : Bool) {switchActions : BitVec 8}
    (hfixed : ∀ t, (LeakHistory.found ep4SwitchActions ep5SwitchActions passes t).leak.attrs.switchActions valve = switchActions)
    (hvalid : selectedCommand switchActions ≠ none) (t : Nat) :
    (switchActions ≠ zclSwitchActionToggle → 0 < onsetsBefore ep4SwitchActions ep5SwitchActions passes t →
      actuatorAt ep4SwitchActions ep5SwitchActions passes valve start t = leakPosition switchActions start) ∧
    (switchActions = zclSwitchActionToggle →
      (actuatorAt ep4SwitchActions ep5SwitchActions passes valve start t = leakPosition switchActions start ↔
        Odd (onsetsBefore ep4SwitchActions ep5SwitchActions passes t))) := by
  rw [actuator_onsets valve start hfixed t]
  refine ⟨fun hkind honset => ?_, fun hkind => ?_⟩
  · obtain ⟨n, hn⟩ := onsets_pos honset
    have hconst : ∀ position, leakPosition switchActions position = leakPosition switchActions start := by
      intro position
      by_cases hoff : switchActions = zclSwitchActionOnOff
      · rw [hoff]
        rfl
      · by_cases hon : switchActions = zclSwitchActionOffOn
        · rw [hon]
          rfl
        · exact absurd (by rw [selectedCommand, if_neg hoff, if_neg hon, if_neg hkind]) hvalid
    rw [hn, Function.iterate_succ_apply', hconst]
  · have hflip : leakPosition switchActions = not := by
      rw [hkind]
      rfl
    rw [hflip]
    refine ⟨fun hat => ?_, fun hodd => by rw [Bool.involutive_not.iterate_odd hodd]⟩
    by_contra hodd
    rw [Bool.involutive_not.iterate_even (Nat.not_odd_iff_even.mp hodd)] at hat
    exact absurd hat (by cases start <;> decide)

/-- The second detector gets wet a pass after the first. -/
def overlapPasses (t : Nat) : JoinedPass := ⟨id, false, t == 0⟩

theorem overlap_fixed (t : Nat) :
    (LeakHistory.found ep4SwitchActions ep5SwitchActions overlapPasses t).leak.attrs.switchActions .ep4 = ep4SwitchActions := by
  induction t with
  | zero => rfl
  | succ t ih => exact (step_switchActions (found_inRange t) rfl .ep4).trans ih

/-- Two leaks that overlap keep a valve shut that is switched off. -/
theorem overlap_stays_shut :
    actuatorAt zclSwitchActionOnOff 0#8 overlapPasses .ep4 true 40 = false := by
  have hposition := (actuator_position zclSwitchActionOnOff 0#8 overlapPasses .ep4 true overlap_fixed (by decide) 40).1
  exact hposition (by decide) (by decide +kernel)

/-- Toggled, it is open again while both detectors are wet. -/
theorem overlap_opens_again : ¬ ∀ (ep4SwitchActions ep5SwitchActions : BitVec 8) (passes : Nat → JoinedPass) (valve : Valve)
    (start : Bool) (switchActions : BitVec 8),
    (∀ t, (LeakHistory.found ep4SwitchActions ep5SwitchActions passes t).leak.attrs.switchActions valve = switchActions) →
    selectedCommand switchActions ≠ none → leakPosition switchActions start = !start →
    ∀ t, 0 < onsetsBefore ep4SwitchActions ep5SwitchActions passes t →
      (∃ ch, (LeakHistory.before ep4SwitchActions ep5SwitchActions passes t).leaking ch = true) →
      actuatorAt ep4SwitchActions ep5SwitchActions passes valve start t = leakPosition switchActions start := by
  intro h
  have hshut := h zclSwitchActionToggle 0#8 overlapPasses .ep4 true zclSwitchActionToggle overlap_fixed (by decide)
    rfl 32 (by decide +kernel) ⟨.first, by decide +kernel⟩
  have hopen : actuatorAt zclSwitchActionToggle 0#8 overlapPasses .ep4 true 32 = true := by decide +kernel
  exact absurd (hopen.symm.trans hshut) (by decide)

end Watermeter
