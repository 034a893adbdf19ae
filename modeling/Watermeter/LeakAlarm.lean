import Watermeter.Leak
import Watermeter.Transition

/-! The alarm bit of the IAS zone over runs of `waterleak_handler`. The two detectors share the bit, and an
edge is told to the network only in the pass in which it falls. -/

namespace Watermeter

open Debounce Transition

inductive LeakChannel
  | first
  | second
  deriving DecidableEq, Repr

def LeakInput.gpio (input : LeakInput) : LeakChannel → Bool
  | .first => input.wleak1Gpio
  | .second => input.wleak2Gpio

def Leak.debounce (s : Leak) : LeakChannel → BitVec 8
  | .first => s.waterleakDebounce1
  | .second => s.waterleakDebounce2

/-- The pass in which a detector is found wet. -/
def Wets (s : Leak) (input : LeakInput) (ch : LeakChannel) : Prop := Reaches 32 (!input.gpio ch) (s.debounce ch).toNat

/-- The pass in which a detector is found dry. -/
def Dries (s : Leak) (input : LeakInput) (ch : LeakChannel) : Prop := Clears (!input.gpio ch) (s.debounce ch).toNat

instance (s : Leak) (input : LeakInput) (ch : LeakChannel) : Decidable (Wets s input ch) :=
  inferInstanceAs (Decidable (Reaches _ _ _))

instance (s : Leak) (input : LeakInput) (ch : LeakChannel) : Decidable (Dries s input ch) :=
  inferInstanceAs (Decidable (Clears _ _))

/-- The variables, and for each detector its episode: whether it is leaking, the calls since its onset, and
whether a detector has got wet in a pass of a joined device since then (history variables). -/
structure LeakHistory where
  leak : Leak
  leaking : LeakChannel → Bool
  since : LeakChannel → List LeakCall
  told : LeakChannel → Bool
  /-- Whether of the edges that fell while the device was joined the last one was wet. -/
  standing : Bool

namespace LeakHistory

def start (ep4SwitchActions ep5SwitchActions : BitVec 8) : LeakHistory :=
  ⟨leakStart ep4SwitchActions ep5SwitchActions, fun _ => false, fun _ => [], fun _ => false, false⟩

def step (s : LeakHistory) (input : LeakInput) : LeakHistory where
  leak := (waterleakHandler input s.leak).1
  leaking ch := if Wets s.leak input ch then true else if Dries s.leak input ch then false else s.leaking ch
  since ch :=
    if Wets s.leak input ch ∧ s.leaking ch = false then (waterleakHandler input s.leak).2
    else s.since ch ++ (waterleakHandler input s.leak).2
  told ch :=
    if input.joined = true ∧ (Wets s.leak input .first ∨ Wets s.leak input .second) then true
    else if Wets s.leak input ch ∧ s.leaking ch = false then false
    else s.told ch
  -- the second detector is the later one of a pass
  standing :=
    if input.joined then
      if Wets s.leak input .second then true
      else if Dries s.leak input .second then false
      else if Wets s.leak input .first then true
      else if Dries s.leak input .first then false
      else s.standing
    else s.standing

def alarm1 (s : LeakHistory) : Bool := s.leak.attrs.zoneStatus.getLsbD 0

def InRange (s : LeakHistory) : Prop := ∀ ch, DebounceInRange (s.leak.debounce ch)

end LeakHistory

variable {s : LeakHistory} {input : LeakInput} {ch : LeakChannel}

/-! ### One pass -/

theorem getLsbD_alarm1 (zoneStatus : BitVec 16) :
    (zoneStatus ||| zoneStatusBitAlarm1).getLsbD 0 = true ∧ (zoneStatus &&& ~~~zoneStatusBitAlarm1).getLsbD 0 = false := by
  simp only [BitVec.getLsbD_or, BitVec.getLsbD_and]
  exact ⟨Bool.or_true _, Bool.and_false _⟩

/-- The other bits go through both branches. -/
theorem others_alarm1 (zoneStatus : BitVec 16) :
    (zoneStatus ||| zoneStatusBitAlarm1) &&& ~~~zoneStatusBitAlarm1 = zoneStatus &&& ~~~zoneStatusBitAlarm1 ∧
      (zoneStatus &&& ~~~zoneStatusBitAlarm1) &&& ~~~zoneStatusBitAlarm1 = zoneStatus &&& ~~~zoneStatusBitAlarm1 := by
  constructor <;>
  · apply BitVec.eq_of_getLsbD_eq
    intro i hi
    simp only [BitVec.getLsbD_and, BitVec.getLsbD_or, BitVec.getLsbD_not]
    cases zoneStatus.getLsbD i <;> cases zoneStatusBitAlarm1.getLsbD i <;> simp

/-- What a detector makes of the alarm bit and of the others. -/
theorem leakChannel_status {debounce : BitVec 8} (h : DebounceInRange debounce) (gpio joined : Bool) (attrs : LeakAttrs) :
    (leakChannel gpio joined debounce attrs).2.1.zoneStatus.getLsbD 0 =
        (if Reaches 32 (!gpio) debounce.toNat ∧ joined = true then true
        else if Clears (!gpio) debounce.toNat ∧ joined = true then false
        else attrs.zoneStatus.getLsbD 0) ∧
      (leakChannel gpio joined debounce attrs).2.1.zoneStatus &&& ~~~zoneStatusBitAlarm1 =
        attrs.zoneStatus &&& ~~~zoneStatusBitAlarm1 := by
  rw [(leakChannel_eq h gpio joined attrs).2]
  obtain ⟨hset, hclear⟩ := getLsbD_alarm1 attrs.zoneStatus
  obtain ⟨hothers, hothers'⟩ := others_alarm1 attrs.zoneStatus
  cases joined with
  | false => split_ifs <;> simp_all [leakDetected, leakCleared]
  | true =>
    by_cases hwet : Reaches 32 (!gpio) debounce.toNat
    · simp only [hwet, and_self, if_true]
      exact ⟨hset, hothers⟩
    · by_cases hdry : Clears (!gpio) debounce.toNat
      · simp only [hwet, hdry, and_self, false_and, if_true, if_false]
        exact ⟨hclear, hothers'⟩
      · simp only [hwet, hdry, false_and, if_false]
        exact ⟨trivial, trivial⟩

/-- The second detector has the last word on the alarm bit. -/
theorem step_alarm1 (h : s.InRange) (input : LeakInput) :
    (s.step input).alarm1 =
        (if Wets s.leak input .second ∧ input.joined = true then true
        else if Dries s.leak input .second ∧ input.joined = true then false
        else if Wets s.leak input .first ∧ input.joined = true then true
        else if Dries s.leak input .first ∧ input.joined = true then false
        else s.alarm1) ∧
      (s.step input).leak.attrs.zoneStatus &&& ~~~zoneStatusBitAlarm1 =
        s.leak.attrs.zoneStatus &&& ~~~zoneStatusBitAlarm1 := by
  obtain ⟨hbit₁, hothers₁⟩ := leakChannel_status (h .first) input.wleak1Gpio input.joined s.leak.attrs
  obtain ⟨hbit₂, hothers₂⟩ := leakChannel_status (h .second) input.wleak2Gpio input.joined
    (leakChannel input.wleak1Gpio input.joined (s.leak.debounce .first) s.leak.attrs).2.1
  rw [hbit₁] at hbit₂
  exact ⟨hbit₂, hothers₂.trans hothers₁⟩

theorem step_inRange (h : s.InRange) (input : LeakInput) : (s.step input).InRange := by
  intro ch
  cases ch with
  | first => exact leakChannel_inRange (h .first) _ _ _
  | second => exact leakChannel_inRange (h .second) _ _ _

theorem start_inRange (ep4 ep5 : BitVec 8) : (LeakHistory.start ep4 ep5).InRange := by
  intro ch
  cases ch <;> exact ⟨Nat.le_of_ble_eq_true rfl, Nat.le_of_ble_eq_true rfl⟩

/-- A pin is either closed or open in a pass. -/
theorem Wets.not_dries (h : Wets s.leak input ch) : ¬ Dries s.leak input ch := by
  rintro ⟨hopen, -⟩
  exact absurd (h.1.symm.trans hopen) (by decide)

/-! ### The alarm bit while joined -/

/-- The alarm bit says whether a detector is leaking, and the other bits are as they were. -/
def AlarmRight (s : LeakHistory) : Prop :=
  (s.alarm1 = true ↔ ∃ ch, s.leaking ch = true) ∧
    s.leak.attrs.zoneStatus &&& ~~~zoneStatusBitAlarm1 = zoneStatusBitRestoreNotify

/-- A detector falls dry over a leak of the other one. When both change in one pass, the second is the later. -/
def ClearsOverLeak (s : LeakHistory) (input : LeakInput) : Prop :=
  (Dries s.leak input .second ∧
    (Wets s.leak input .first ∨ s.leaking .first = true ∧ ¬ Dries s.leak input .first)) ∨
  (Dries s.leak input .first ∧ s.leaking .second = true ∧ ¬ Wets s.leak input .second ∧ ¬ Dries s.leak input .second)

/-- A pass of a device that is joined, on the levels of the two pins. -/
def joinedStep (s : LeakHistory) (pins : Bool × Bool) : LeakHistory := s.step ⟨pins.1, pins.2, true⟩

theorem exists_channel {p : LeakChannel → Prop} : (∃ ch, p ch) ↔ p .first ∨ p .second := by
  constructor
  · rintro ⟨ch, h⟩
    cases ch with
    | first => exact Or.inl h
    | second => exact Or.inr h
  · rintro (h | h)
    · exact ⟨_, h⟩
    · exact ⟨_, h⟩

theorem alarmRight_step (hrange : s.InRange) (h : AlarmRight s) (pins : Bool × Bool) :
    AlarmRight (joinedStep s pins) ↔ ¬ ClearsOverLeak s ⟨pins.1, pins.2, true⟩ := by
  obtain ⟨hbit, hothers⟩ := step_alarm1 hrange ⟨pins.1, pins.2, true⟩
  have hnow := h.1
  unfold AlarmRight joinedStep ClearsOverLeak
  rw [hbit, hothers]
  rw [exists_channel] at hnow ⊢
  have hleaking : ∀ ch, (s.step ⟨pins.1, pins.2, true⟩).leaking ch =
      if Wets s.leak ⟨pins.1, pins.2, true⟩ ch then true
      else if Dries s.leak ⟨pins.1, pins.2, true⟩ ch then false else s.leaking ch := fun _ => rfl
  rw [hleaking, hleaking]
  simp only [and_true, h.2]
  by_cases hw₂ : Wets s.leak ⟨pins.1, pins.2, true⟩ .second
  · have hd₂ := hw₂.not_dries
    simp [hw₂, hd₂]
  · by_cases hd₂ : Dries s.leak ⟨pins.1, pins.2, true⟩ .second
    · by_cases hw₁ : Wets s.leak ⟨pins.1, pins.2, true⟩ .first
      · simp [hw₂, hd₂, hw₁]
      · by_cases hd₁ : Dries s.leak ⟨pins.1, pins.2, true⟩ .first <;> simp [hw₂, hd₂, hw₁, hd₁]
    · by_cases hw₁ : Wets s.leak ⟨pins.1, pins.2, true⟩ .first
      · have hd₁ := hw₁.not_dries
        simp [hw₂, hd₂, hw₁, hd₁]
      · by_cases hd₁ : Dries s.leak ⟨pins.1, pins.2, true⟩ .first
        · simp [hw₂, hd₂, hw₁, hd₁]
        · simp [hw₂, hd₂, hw₁, hd₁, hnow]

/-- On a device that is joined from the start, after every pass the alarm bit is right exactly when no
detector ever falls dry over a leak of the other. -/
theorem alarm_right_iff (ep4SwitchActions ep5SwitchActions : BitVec 8) (samples : List (Bool × Bool)) :
    Along joinedStep (fun s pins => AlarmRight (joinedStep s pins)) (.start ep4SwitchActions ep5SwitchActions) samples ↔
      Along joinedStep (fun s pins => ¬ ClearsOverLeak s ⟨pins.1, pins.2, true⟩)
        (.start ep4SwitchActions ep5SwitchActions) samples := by
  have hstep : ∀ s pins, s.InRange ∧ AlarmRight s → AlarmRight (joinedStep s pins) →
      (joinedStep s pins).InRange ∧ AlarmRight (joinedStep s pins) :=
    fun s pins h hright => ⟨step_inRange h.1 _, hright⟩
  refine along_iff hstep (fun s pins h => alarmRight_step h.1 h.2 pins) ⟨start_inRange _ _, ?_⟩
  refine ⟨iff_of_false (by simp [LeakHistory.alarm1, LeakHistory.start, leakStart, zoneStatusBitRestoreNotify]) ?_, ?_⟩
  · rintro ⟨ch, h⟩
    cases h
  · show zoneStatusBitRestoreNotify &&& ~~~zoneStatusBitAlarm1 = zoneStatusBitRestoreNotify
    decide

/-- Both detectors are wet and the first one dries: the bit is cleared over the second. -/
theorem first_clears_over_second :
    ¬ Along joinedStep (fun s pins => AlarmRight (joinedStep s pins)) (.start 0#8 0#8)
      (List.replicate 31 (false, false) ++ List.replicate 31 (true, false)) := by
  intro h
  rw [show List.replicate 31 (true, false) = List.replicate 30 (true, false) ++ [(true, false)] from
    List.replicate_succ', ← List.append_assoc] at h
  have hright := h.last.1
  have hleaking : (joinedStep (run joinedStep (.start 0#8 0#8)
      (List.replicate 31 (false, false) ++ List.replicate 30 (true, false))) (true, false)).leaking .second = true := by
    decide +kernel
  have hclear : (joinedStep (run joinedStep (.start 0#8 0#8)
      (List.replicate 31 (false, false) ++ List.replicate 30 (true, false))) (true, false)).alarm1 = false := by
    decide +kernel
  exact absurd (hclear.symm.trans (hright.mpr ⟨_, hleaking⟩)) (by decide)

/-! ### Edges around joining -/

/-- The alarm bit has been set and a notification with it has been sent. -/
def Alarmed (calls : List LeakCall) : Prop :=
  (∃ zoneStatus, .setZoneStatus zoneStatus ∈ calls ∧ zoneStatus.getLsbD 0 = true) ∧
    ∃ endpoint dstEpInfo noti, .statusChangeNotification endpoint dstEpInfo noti ∈ calls ∧ noti.zoneStatus.getLsbD 0 = true

/-- Every leak has raised its alarm since its onset. -/
def LeaksRaised (s : LeakHistory) : Prop := ∀ ch, s.leaking ch = true → Alarmed (s.since ch)

/-- Without a leak there is no alarm. -/
def NoAlarmLeft (s : LeakHistory) : Prop := (∀ ch, s.leaking ch = false) → s.alarm1 = false

/-- A leak has raised its alarm exactly when a detector has got wet on a joined device since its onset, and
without a leak the bit is set exactly while an onset that was told has had no end that was told. -/
def LeaksTold (s : LeakHistory) : Prop :=
  (∀ ch, s.leaking ch = true → (Alarmed (s.since ch) ↔ s.told ch = true)) ∧
    ((∀ ch, s.leaking ch = false) → (s.alarm1 = true ↔ s.standing = true))

/-- The zone status is set with the alarm bit in it. -/
def SetsAlarm (calls : List LeakCall) : Prop :=
  ∃ zoneStatus, .setZoneStatus zoneStatus ∈ calls ∧ zoneStatus.getLsbD 0 = true

theorem setsAlarm_append {calls later : List LeakCall} :
    SetsAlarm (calls ++ later) ↔ SetsAlarm calls ∨ SetsAlarm later := by
  unfold SetsAlarm
  simp only [List.mem_append, or_and_right, exists_or]

theorem Alarmed.append_left {calls : List LeakCall} (h : Alarmed calls) (later : List LeakCall) :
    Alarmed (calls ++ later) := by
  obtain ⟨⟨zoneStatus, hset, hbit⟩, endpoint, dst, noti, hsent, hnoti⟩ := h
  exact ⟨⟨zoneStatus, List.mem_append_left _ hset, hbit⟩, endpoint, dst, noti, List.mem_append_left _ hsent, hnoti⟩

theorem Alarmed.append_right {calls : List LeakCall} (h : Alarmed calls) (earlier : List LeakCall) :
    Alarmed (earlier ++ calls) := by
  obtain ⟨⟨zoneStatus, hset, hbit⟩, endpoint, dst, noti, hsent, hnoti⟩ := h
  exact ⟨⟨zoneStatus, List.mem_append_right _ hset, hbit⟩, endpoint, dst, noti, List.mem_append_right _ hsent, hnoti⟩

theorem alarmed_detected (attrs : LeakAttrs) : Alarmed (leakDetected true attrs).2 := by
  have hbit := (getLsbD_alarm1 attrs.zoneStatus).1
  refine Alarmed.append_right ⟨⟨_, List.mem_cons_self, hbit⟩, _, _, _, List.mem_cons_of_mem _ List.mem_cons_self, hbit⟩ _

theorem alarmed_channel {debounce : BitVec 8} (h : DebounceInRange debounce) {gpio : Bool}
    (hwet : Reaches 32 (!gpio) debounce.toNat) (attrs : LeakAttrs) :
    Alarmed (leakChannel gpio true debounce attrs).2.2 := by
  rw [(leakChannel_eq h gpio true attrs).2, if_pos hwet]
  exact alarmed_detected attrs

/-- A leak found in a pass of a joined device is told in the pass. -/
theorem alarmed_handler (hrange : s.InRange) (hwet : Wets s.leak input ch) (hjoined : input.joined = true) :
    Alarmed (waterleakHandler input s.leak).2 := by
  obtain ⟨wleak1Gpio, wleak2Gpio, joined⟩ := input
  cases hjoined
  cases ch with
  | first => exact (alarmed_channel (hrange .first) hwet _).append_left _
  | second => exact (alarmed_channel (hrange .second) hwet _).append_right _

/-- A detector that does not get wet, or does so on a device that is not joined, sets no alarm. -/
theorem channel_quiet {debounce : BitVec 8} (h : DebounceInRange debounce) {gpio joined : Bool}
    (hquiet : joined = true → ¬ Reaches 32 (!gpio) debounce.toNat) (attrs : LeakAttrs) :
    ¬ SetsAlarm (leakChannel gpio joined debounce attrs).2.2 := by
  rw [(leakChannel_eq h gpio joined attrs).2]
  rintro ⟨zoneStatus, hset, hbit⟩
  cases joined with
  | false =>
    split_ifs at hset <;> cases hset
  | true =>
    rw [if_neg (hquiet rfl)] at hset
    split_ifs at hset with hdry
    · rcases List.mem_cons.mp hset with heq | hset
      · cases heq
        exact absurd (hbit.symm.trans (getLsbD_alarm1 attrs.zoneStatus).2) (by decide)
      · cases List.mem_singleton.mp hset
    · cases hset

theorem handler_quiet (hrange : s.InRange) (hquiet : input.joined = true → ∀ ch, ¬ Wets s.leak input ch) :
    ¬ SetsAlarm (waterleakHandler input s.leak).2 := by
  intro h
  rcases setsAlarm_append.mp h with h | h
  · exact channel_quiet (hrange .first) (fun hjoined => hquiet hjoined .first) _ h
  · exact channel_quiet (hrange .second) (fun hjoined => hquiet hjoined .second) _ h

/-! ### What has been told since an onset -/

/-- In every episode the history variable says what the calls say. -/
def SinceTold (s : LeakHistory) : Prop :=
  ∀ ch, (s.told ch = true → Alarmed (s.since ch)) ∧ (s.told ch = false → ¬ SetsAlarm (s.since ch))

theorem sinceTold_step (hrange : s.InRange) (h : SinceTold s) (input : LeakInput) : SinceTold (s.step input) := by
  intro ch
  have hsince : (s.step input).since ch =
      if Wets s.leak input ch ∧ s.leaking ch = false then (waterleakHandler input s.leak).2
      else s.since ch ++ (waterleakHandler input s.leak).2 := rfl
  by_cases hnow : input.joined = true ∧ ∃ ch, Wets s.leak input ch
  · obtain ⟨hjoined, wet, hwet⟩ := hnow
    have htold : (s.step input).told ch = true := by
      cases wet <;> simp [LeakHistory.step, hjoined, hwet]
    have halarmed := alarmed_handler hrange hwet hjoined
    refine ⟨fun _ => ?_, fun hf => absurd (htold.symm.trans hf) (by decide)⟩
    rw [hsince]
    split_ifs
    · exact halarmed
    · exact halarmed.append_right _
  · have hquiet : input.joined = true → ∀ ch, ¬ Wets s.leak input ch :=
      fun hjoined wet hwet => hnow ⟨hjoined, wet, hwet⟩
    have htold : (s.step input).told ch =
        if Wets s.leak input ch ∧ s.leaking ch = false then false else s.told ch := by
      apply if_neg
      intro htells
      rcases htells.2 with hwet | hwet
      · exact hquiet htells.1 _ hwet
      · exact hquiet htells.1 _ hwet
    rw [htold, hsince]
    by_cases honset : Wets s.leak input ch ∧ s.leaking ch = false
    · rw [if_pos honset, if_pos honset]
      exact ⟨nofun, fun _ => handler_quiet hrange hquiet⟩
    · rw [if_neg honset, if_neg honset]
      refine ⟨fun ht => ((h ch).1 ht).append_left _, fun hf hsets => ?_⟩
      rcases setsAlarm_append.mp hsets with hsets | hsets
      · exact (h ch).2 hf hsets
      · exact handler_quiet hrange hquiet hsets

/-- The bit follows the edges that were told. -/
theorem standing_step (hrange : s.InRange) (h : s.alarm1 = s.standing) (input : LeakInput) :
    (s.step input).alarm1 = (s.step input).standing := by
  rw [(step_alarm1 hrange input).1, h]
  cases hjoined : input.joined <;> simp [LeakHistory.step, hjoined]

/-- In every run of passes, joined or not, the alarms are those of the edges that fell while joined. -/
theorem leaks_told (ep4SwitchActions ep5SwitchActions : BitVec 8) (inputs : List LeakInput) :
    LeaksTold (run LeakHistory.step (.start ep4SwitchActions ep5SwitchActions) inputs) := by
  have hinv : ∀ s : LeakHistory, s.InRange ∧ SinceTold s ∧ s.alarm1 = s.standing →
      SinceTold (run LeakHistory.step s inputs) ∧
        (run LeakHistory.step s inputs).alarm1 = (run LeakHistory.step s inputs).standing := by
    induction inputs with
    | nil => exact fun _ h => h.2
    | cons input inputs ih =>
      rintro s ⟨hrange, hsince, hstanding⟩
      exact ih _ ⟨step_inRange hrange input, sinceTold_step hrange hsince input, standing_step hrange hstanding input⟩
  have hstart : SinceTold (.start ep4SwitchActions ep5SwitchActions) := by
    refine fun ch => ⟨nofun, ?_⟩
    rintro - ⟨zoneStatus, hset, -⟩
    cases hset
  obtain ⟨hsince, hstanding⟩ := hinv _ ⟨start_inRange _ _, hstart, by
    simp [LeakHistory.alarm1, LeakHistory.start, leakStart, zoneStatusBitRestoreNotify]⟩
  refine ⟨fun ch _ => ⟨fun halarmed => ?_, (hsince ch).1⟩, fun _ => by rw [hstanding]⟩
  by_contra htold
  exact (hsince ch).2 (Bool.eq_false_iff.mpr htold) halarmed.1

/-- A detector that gets wet before the device has joined is told to nobody by the pass after joining, and one
that dries while the device is out of the network leaves the alarm bit set. -/
theorem leaks_lost_around_joining :
    (¬ ∀ (ep4SwitchActions ep5SwitchActions : BitVec 8) (inputs : List LeakInput) (last : LeakInput),
      last.joined = true →
        LeaksRaised (run LeakHistory.step (.start ep4SwitchActions ep5SwitchActions) (inputs ++ [last]))) ∧
    ¬ ∀ (ep4SwitchActions ep5SwitchActions : BitVec 8) (inputs : List LeakInput) (last : LeakInput),
      last.joined = true →
        NoAlarmLeft (run LeakHistory.step (.start ep4SwitchActions ep5SwitchActions) (inputs ++ [last])) := by
  constructor
  · intro h
    have hlost := h 0#8 0#8 (List.replicate 31 ⟨false, true, false⟩) ⟨false, true, true⟩ rfl .first (by decide +kernel)
    obtain ⟨⟨zoneStatus, hset, -⟩, -⟩ := hlost
    have hnone : (run LeakHistory.step (.start 0#8 0#8) (List.replicate 31 ⟨false, true, false⟩ ++
        [⟨false, true, true⟩])).since .first = [] := by
      decide +kernel
    rw [hnone] at hset
    cases hset
  · intro h
    have hclear := h 0#8 0#8
      (List.replicate 31 ⟨false, true, true⟩ ++ List.replicate 30 ⟨true, true, true⟩ ++ [⟨true, true, false⟩])
      ⟨true, true, true⟩ rfl
    have hset : (run LeakHistory.step (.start 0#8 0#8)
        (List.replicate 31 ⟨false, true, true⟩ ++ List.replicate 30 ⟨true, true, true⟩ ++ [⟨true, true, false⟩] ++
          [⟨true, true, true⟩])).alarm1 = true := by
      decide +kernel
    have hnone : ∀ ch, (run LeakHistory.step (.start 0#8 0#8)
        (List.replicate 31 ⟨false, true, true⟩ ++ List.replicate 30 ⟨true, true, true⟩ ++ [⟨true, true, false⟩] ++
          [⟨true, true, true⟩])).leaking ch = false := by
      intro ch
      cases ch <;> decide +kernel
    exact absurd (hset.symm.trans (hclear hnone)) (by decide)

end Watermeter
