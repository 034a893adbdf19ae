import Watermeter.StoreSpec
import Watermeter.Debounce

/-! `app_counter.c`: the two pulse counters, their debouncing and the totals they add to. -/

namespace Watermeter

/-- `water_counter_t`. -/
structure WaterCounter where
  counter : BitVec 8
  debounce : BitVec 8
  deriving DecidableEq, Repr

/-- The levels `drv_gpio_read` gives; a closed contact reads low. -/
structure Pins where
  hotGpio : Bool
  coldGpio : Bool
  deriving DecidableEq, Repr

/-- The metering attributes of the endpoints 1 to 3 that the application sets. -/
structure Metering where
  hotWaterCounter : BitVec 48
  coldWaterCounter : BitVec 48
  hotWaterPreset : BitVec 32
  coldWaterPreset : BitVec 32
  waterStepPreset : BitVec 16
  deriving DecidableEq, Repr

/-- The variables of the counters and of the store, and the attributes. -/
structure Meter where
  hotCounter : WaterCounter
  coldCounter : WaterCounter
  ram : Ram
  attrs : Metering

def debounceCounter : BitVec 8 := 32#8

def countersOverflow : BitVec 32 := 100000000#32

def checkCounterOverflow (checkCount : BitVec 32) : BitVec 32 :=
  if countersOverflow ≤ checkCount then checkCount - countersOverflow else checkCount

/-- The counter of one pin after the start, with the bit of the pin's level before deep sleep. -/
def initCounter (gpio deepSleep before : Bool) : WaterCounter :=
  if !gpio then ⟨if deepSleep && before then 1#8 else 0#8, debounceCounter⟩ else ⟨0#8, 1#8⟩

/-- `init_counters`, with the register `CHK_DEEP_SLEEP`. -/
def initCounters (regDeepSleep : BitVec 8) (pins : Pins) (s : Meter) : Meter :=
  { s with
    hotCounter := initCounter pins.hotGpio (regDeepSleep.getLsbD 2) (regDeepSleep.getLsbD 0)
    coldCounter := initCounter pins.coldGpio (regDeepSleep.getLsbD 2) (regDeepSleep.getLsbD 1) }

/-- One poll of one pin. -/
def pollCounter (gpio : Bool) (c : WaterCounter) : WaterCounter :=
  if !gpio then
    if c.debounce ≠ debounceCounter then
      if c.debounce + 1 = debounceCounter then ⟨c.counter + 1, c.debounce + 1⟩
      else { c with debounce := c.debounce + 1 }
    else c
  else if c.debounce ≠ 1#8 then { c with debounce := c.debounce - 1 }
  else c

/-- The total with the pulses added. -/
def addPulses (total : BitVec 32) (litersPerPulse counter : BitVec 8) : BitVec 32 :=
  checkCounterOverflow (total + litersPerPulse.setWidth 32 * counter.setWidth 32)

def Meter.takeHot (s : Meter) : Meter :=
  if s.hotCounter.counter ≠ 0 then
    let total := addPulses s.ram.watermeterConfig.counterHotWater s.ram.watermeterConfig.litersPerPulse s.hotCounter.counter
    { s with
      ram := { s.ram with watermeterConfig := { s.ram.watermeterConfig with counterHotWater := total } }
      hotCounter := { s.hotCounter with counter := 0#8 }
      attrs := { s.attrs with hotWaterCounter := total.setWidth 48 } }
  else s

def Meter.takeCold (s : Meter) : Meter :=
  if s.coldCounter.counter ≠ 0 then
    let total := addPulses s.ram.watermeterConfig.counterColdWater s.ram.watermeterConfig.litersPerPulse s.coldCounter.counter
    { s with
      ram := { s.ram with watermeterConfig := { s.ram.watermeterConfig with counterColdWater := total } }
      coldCounter := { s.coldCounter with counter := 0#8 }
      attrs := { s.attrs with coldWaterCounter := total.setWidth 48 } }
  else s

/-- Both pins are polled before any pulse is taken. -/
def Meter.polled (pins : Pins) (s : Meter) : Meter :=
  { s with
    hotCounter := pollCounter pins.hotGpio s.hotCounter
    coldCounter := pollCounter pins.coldGpio s.coldCounter }

/-- `counters_handler`: the variables it leaves, the calls of the store, and whether it saved. -/
def countersHandler (pins : Pins) (s : Meter) : Meter × List Op × Bool :=
  let polled := s.polled pins
  let taken := polled.takeHot.takeCold
  if polled.hotCounter.counter ≠ 0 ∨ polled.coldCounter.counter ≠ 0 then
    ({ taken with ram := (writeConfig taken.ram).1 }, (writeConfig taken.ram).2, true)
  else (taken, [], false)

/-! ### One pin and one total -/

inductive Channel
  | hot
  | cold
  deriving DecidableEq, Repr

def Pins.gpio (pins : Pins) : Channel → Bool
  | .hot => pins.hotGpio
  | .cold => pins.coldGpio

def Meter.counter (s : Meter) : Channel → WaterCounter
  | .hot => s.hotCounter
  | .cold => s.coldCounter

/-- The water of one channel in the configuration. -/
def Config.water (c : Config) : Channel → BitVec 32
  | .hot => c.counterHotWater
  | .cold => c.counterColdWater

def Meter.water (s : Meter) (ch : Channel) : BitVec 32 := s.ram.watermeterConfig.water ch

def Meter.litersPerPulse (s : Meter) : BitVec 8 := s.ram.watermeterConfig.litersPerPulse

/-- The pass counts a pulse. -/
def Counts (s : Meter) (pins : Pins) (ch : Channel) : Prop :=
  (pollCounter (pins.gpio ch) (s.counter ch)).counter ≠ (s.counter ch).counter

variable {s : Meter} {pins : Pins} {ch : Channel} {gpio : Bool} {c : WaterCounter}

theorem polled_counter (s : Meter) (pins : Pins) (ch : Channel) :
    (s.polled pins).counter ch = pollCounter (pins.gpio ch) (s.counter ch) := by
  cases ch <;> rfl

theorem writeConfig_water (r : Ram) (ch : Channel) :
    (writeConfig r).1.watermeterConfig.water ch = r.watermeterConfig.water ch ∧
      (writeConfig r).1.watermeterConfig.litersPerPulse = r.watermeterConfig.litersPerPulse := by
  obtain ⟨hhot, hcold, hstep⟩ := Totals.mk.inj (writeConfig_totals r)
  cases ch with
  | hot => exact ⟨hhot, hstep⟩
  | cold => exact ⟨hcold, hstep⟩

theorem WaterCounter.cleared {c : WaterCounter} (h : c.counter = 0#8) : { c with counter := 0#8 } = c := by
  cases c
  cases h
  rfl

theorem takeHot_hot (s : Meter) :
    s.takeHot.hotCounter = { s.hotCounter with counter := 0#8 } ∧
      s.takeHot.water .hot =
        if s.hotCounter.counter ≠ 0 then addPulses (s.water .hot) s.litersPerPulse s.hotCounter.counter
        else s.water .hot := by
  unfold Meter.takeHot
  split
  · exact ⟨rfl, rfl⟩
  · next h => exact ⟨(WaterCounter.cleared (not_not.mp h)).symm, rfl⟩

theorem takeHot_other (s : Meter) :
    s.takeHot.coldCounter = s.coldCounter ∧ s.takeHot.water .cold = s.water .cold ∧
      s.takeHot.litersPerPulse = s.litersPerPulse := by
  unfold Meter.takeHot
  split <;> exact ⟨rfl, rfl, rfl⟩

theorem takeCold_cold (s : Meter) :
    s.takeCold.coldCounter = { s.coldCounter with counter := 0#8 } ∧
      s.takeCold.water .cold =
        if s.coldCounter.counter ≠ 0 then addPulses (s.water .cold) s.litersPerPulse s.coldCounter.counter
        else s.water .cold := by
  unfold Meter.takeCold
  split
  · exact ⟨rfl, rfl⟩
  · next h => exact ⟨(WaterCounter.cleared (not_not.mp h)).symm, rfl⟩

theorem takeCold_other (s : Meter) :
    s.takeCold.hotCounter = s.hotCounter ∧ s.takeCold.water .hot = s.water .hot ∧
      s.takeCold.litersPerPulse = s.litersPerPulse := by
  unfold Meter.takeCold
  split <;> exact ⟨rfl, rfl, rfl⟩

/-- Taking the counts adds to each total its own pulses and leaves no pulse behind. -/
theorem taken_channel (s : Meter) (ch : Channel) :
    s.takeHot.takeCold.counter ch = { s.counter ch with counter := 0#8 } ∧
      s.takeHot.takeCold.litersPerPulse = s.litersPerPulse ∧
      s.takeHot.takeCold.water ch =
        if (s.counter ch).counter ≠ 0 then addPulses (s.water ch) s.litersPerPulse (s.counter ch).counter
        else s.water ch := by
  obtain ⟨hhot, hhotWater⟩ := takeHot_hot s
  obtain ⟨hcold, hcoldWater, hstep⟩ := takeHot_other s
  obtain ⟨hcold', hcoldWater'⟩ := takeCold_cold s.takeHot
  obtain ⟨hhot', hhotWater', hstep'⟩ := takeCold_other s.takeHot
  cases ch with
  | hot => exact ⟨hhot'.trans hhot, hstep'.trans hstep, hhotWater'.trans hhotWater⟩
  | cold =>
    rw [hcold, hcoldWater, hstep] at hcoldWater'
    exact ⟨hcold'.trans (by rw [hcold]; rfl), hstep'.trans hstep, hcoldWater'⟩

/-- A pass polls each pin, adds the pulses of a channel to its own total and leaves the step alone. -/
theorem countersHandler_channel (pins : Pins) (s : Meter) (ch : Channel) :
    (countersHandler pins s).1.counter ch = { pollCounter (pins.gpio ch) (s.counter ch) with counter := 0#8 } ∧
      (countersHandler pins s).1.litersPerPulse = s.litersPerPulse ∧
      (countersHandler pins s).1.water ch =
        if (pollCounter (pins.gpio ch) (s.counter ch)).counter ≠ 0 then
          addPulses (s.water ch) s.litersPerPulse (pollCounter (pins.gpio ch) (s.counter ch)).counter
        else s.water ch := by
  obtain ⟨hcounter, hstep, hwater⟩ := taken_channel (s.polled pins) ch
  rw [polled_counter] at hcounter hwater
  obtain ⟨hsaved, hlpp⟩ := writeConfig_water (s.polled pins).takeHot.takeCold.ram ch
  simp only [countersHandler]
  by_cases hsave : (s.polled pins).hotCounter.counter ≠ 0 ∨ (s.polled pins).coldCounter.counter ≠ 0
  · rw [if_pos hsave]
    refine ⟨Eq.trans ?_ hcounter, hlpp.trans hstep, hsaved.trans hwater⟩
    cases ch <;> rfl
  · rw [if_neg hsave]
    exact ⟨hcounter, hstep, hwater⟩

/-! ### The debounce counter -/

/-- A debounce value that has been started stays between its ends. -/
def DebounceInRange (debounce : BitVec 8) : Prop := 1 ≤ debounce.toNat ∧ debounce.toNat ≤ 32

namespace DebounceInRange

variable {debounce : BitVec 8} (h : DebounceInRange debounce)

theorem eq_top : debounce = debounceCounter ↔ debounce.toNat = 32 := (BitVec.toNat_inj (y := debounceCounter)).symm

theorem eq_one : debounce = 1#8 ↔ debounce.toNat = 1 := (BitVec.toNat_inj (y := 1#8)).symm

include h

theorem toNat_up : (debounce + 1).toNat = debounce.toNat + 1 := by
  have hadd : (debounce + 1).toNat = (debounce.toNat + 1) % 256 := BitVec.toNat_add _ _
  obtain ⟨-, hhigh⟩ := h
  omega

theorem toNat_down : (debounce - 1).toNat = debounce.toNat - 1 :=
  BitVec.toNat_sub_of_le (y := 1#8) (BitVec.le_def.mpr h.1)

theorem up_eq_top : debounce + 1 = debounceCounter ↔ debounce.toNat + 1 = 32 := by
  rw [eq_top, h.toNat_up]

theorem down_eq_one : debounce - 1 = 1#8 ↔ debounce.toNat = 2 := by
  rw [eq_one, h.toNat_down]
  omega

end DebounceInRange

def WaterCounter.InRange (c : WaterCounter) : Prop := DebounceInRange c.debounce

theorem initCounter_inRange (gpio deepSleep before : Bool) : (initCounter gpio deepSleep before).InRange := by
  cases gpio
  · exact ⟨Nat.le_of_ble_eq_true rfl, Nat.le_of_ble_eq_true rfl⟩
  · exact ⟨Nat.le_of_ble_eq_true rfl, Nat.le_of_ble_eq_true rfl⟩

theorem pollCounter_debounce (h : c.InRange) :
    (pollCounter gpio c).debounce.toNat = Debounce.poll 32 (!gpio) c.debounce.toNat := by
  unfold pollCounter Debounce.poll
  cases gpio
  · simp only [Bool.not_false, if_true, ne_eq, DebounceInRange.eq_top]
    by_cases hat : c.debounce.toNat = 32
    · simp [hat]
    · simp only [hat, not_false_eq_true, if_true, if_false]
      split <;> exact h.toNat_up
  · simp only [Bool.not_true, Bool.false_eq_true, if_false, ne_eq, DebounceInRange.eq_one]
    by_cases hat : c.debounce.toNat = 1
    · simp [hat]
    · simp only [hat, not_false_eq_true, if_true, if_false]
      exact h.toNat_down

theorem pollCounter_inRange (h : c.InRange) : (pollCounter gpio c).InRange := by
  unfold WaterCounter.InRange DebounceInRange
  rw [pollCounter_debounce h]
  exact Debounce.poll_range h

/-- A poll counts a pulse when it takes the debounce value to its upper end, and never else. -/
theorem pollCounter_counter (h : c.InRange) :
    (pollCounter gpio c).counter =
      if Debounce.Reaches 32 (!gpio) c.debounce.toNat then c.counter + 1 else c.counter := by
  unfold pollCounter Debounce.Reaches
  cases gpio
  · simp only [Bool.not_false, if_true, ne_eq, DebounceInRange.eq_top, h.up_eq_top, true_and]
    by_cases hat : c.debounce.toNat + 1 = 32
    · have hne : c.debounce.toNat ≠ 32 := by omega
      simp [hat, hne]
    · simp only [hat, if_false]
      split <;> rfl
  · simp only [Bool.not_true, Bool.false_eq_true, if_false, false_and]
    split <;> rfl

theorem counts_iff (h : (s.counter ch).InRange) :
    Counts s pins ch ↔ Debounce.Reaches 32 (!pins.gpio ch) (s.counter ch).debounce.toNat := by
  unfold Counts
  rw [pollCounter_counter h]
  split
  · next hreach =>
    refine iff_of_true (fun heq => ?_) hreach
    simp at heq
  · next hnot => exact iff_of_false (fun hne => hne rfl) hnot

end Watermeter
