import Watermeter.ReportableChange
import Watermeter.Transition

/-! The data of the records of a write command. The stack lays them out one behind the other; `app_zclWriteReqCmd` reads
every value at the head of the list. -/

namespace Watermeter

open NorFlash Transition

/-- A record of a write command as it is sent: its data has the size that its type says. -/
structure SentRec where
  attrID : BitVec 16
  dataType : BitVec 8
  data : List Byte
  sized : data.length = (zclGetAttrSize dataType fun k => data.getD k 0#8).toNat

/-- The list that `zcl_parseInWriteCmd` builds: behind the data of a record lie those of the records after it. -/
def zclParseInWriteCmd : List SentRec → List WriteRec
  | [] => []
  | r :: recs => ⟨r.attrID, r.dataType, r.data ++ recs.flatMap SentRec.data⟩ :: zclParseInWriteCmd recs

namespace SentRec

def IsHotPreset (r : SentRec) : Prop := r.attrID = zclAttridCustomHotWaterPreset ∧ r.dataType = zclDataTypeUint32

def IsColdPreset (r : SentRec) : Prop := r.attrID = zclAttridCustomColdWaterPreset ∧ r.dataType = zclDataTypeUint32

def IsStepPreset (r : SentRec) : Prop := r.attrID = zclAttridCustomWaterStepPreset ∧ r.dataType = zclDataTypeUint16

instance (r : SentRec) : Decidable r.IsHotPreset := inferInstanceAs (Decidable (_ ∧ _))

instance (r : SentRec) : Decidable r.IsColdPreset := inferInstanceAs (Decidable (_ ∧ _))

instance (r : SentRec) : Decidable r.IsStepPreset := inferInstanceAs (Decidable (_ ∧ _))

/-- The record with its own data and nothing behind it. -/
def alone (r : SentRec) : WriteRec := ⟨r.attrID, r.dataType, r.data⟩

end SentRec

/-- The bytes at the head of the list, which `attr->attrData` points at. -/
def listHead (recs : List SentRec) : WriteRec := ⟨0, 0, recs.flatMap SentRec.data⟩

/-- The records one after the other, each as a command of its own. -/
def writeSingly (recs : List SentRec) (s : Meter) : Meter :=
  run (fun s r => (appZclWriteReqCmd watermeterEndpoint3 zclClusterSeMetering (zclParseInWriteCmd [r]) s).1) s recs

/-- The total that a preset comes to with a step. -/
def presetTotal (litersPerPulse : BitVec 8) (waterValue : BitVec 32) : BitVec 32 :=
  checkCounterOverflow (roundedPreset litersPerPulse waterValue)

/-- The step that the records leave when the data of each is read by `read`. -/
def stepAfter (read : SentRec → WriteRec) (litersPerPulse : BitVec 8) (recs : List SentRec) : BitVec 8 :=
  run (fun step r => if r.IsStepPreset then (roundedStep (read r).buildU16).setWidth 8 else step) litersPerPulse recs

/-- The last record of each kind sets the same value from the head of the list as from its own data: the step comes to
the same, and so does the total once each preset is rounded with the step in force there. -/
structure HeadSuffices (litersPerPulse : BitVec 8) (recs : List SentRec) : Prop where
  step : ∀ xs r ys, recs = xs ++ r :: ys → r.IsStepPreset → (∀ r' ∈ ys, ¬ r'.IsStepPreset) →
    roundedStep (listHead recs).buildU16 = roundedStep r.alone.buildU16
  hot : ∀ xs r ys, recs = xs ++ r :: ys → r.IsHotPreset → (∀ r' ∈ ys, ¬ r'.IsHotPreset) →
    presetTotal (stepAfter (fun _ => listHead recs) litersPerPulse xs) (listHead recs).buildU32 =
      presetTotal (stepAfter SentRec.alone litersPerPulse xs) r.alone.buildU32
  cold : ∀ xs r ys, recs = xs ++ r :: ys → r.IsColdPreset → (∀ r' ∈ ys, ¬ r'.IsColdPreset) →
    presetTotal (stepAfter (fun _ => listHead recs) litersPerPulse xs) (listHead recs).buildU32 =
      presetTotal (stepAfter SentRec.alone litersPerPulse xs) r.alone.buildU32

/-! ### Both readings as one loop -/

/-- The loop, with the data of each record read by `read`. -/
def writeRead (read : SentRec → WriteRec) (s : Meter) (r : SentRec) : Meter := writeMeterAttr (read r) s r.alone

variable {read read' : SentRec → WriteRec} {s s' : Meter} {recs xs ys : List SentRec} {r : SentRec}

/-- Of a record it is handling, the loop looks at the attribute and the type. -/
theorem writeMeterAttr_congr {first attr attr' : WriteRec} (hid : attr.attrID = attr'.attrID)
    (htype : attr.dataType = attr'.dataType) : writeMeterAttr first s attr = writeMeterAttr first s attr' := by
  simp only [writeMeterAttr, hid, htype]

/-- Of the first record, it looks at the bytes. -/
theorem writeMeterAttr_first {first first' attr : WriteRec} (hdata : first.attrData = first'.attrData) :
    writeMeterAttr first s attr = writeMeterAttr first' s attr := by
  simp only [writeMeterAttr, WriteRec.buildU32, WriteRec.buildU16, WriteRec.byte, hdata]

theorem foldl_parsed (first : WriteRec) (s : Meter) (recs : List SentRec) :
    (zclParseInWriteCmd recs).foldl (writeMeterAttr first) s = run (writeRead fun _ => first) s recs := by
  induction recs generalizing s with
  | nil => rfl
  | cons r recs ih =>
    rw [zclParseInWriteCmd, List.foldl_cons, ih, run_cons]
    exact congrArg (fun s => run _ s recs) (writeMeterAttr_congr rfl rfl)

theorem write_head (s : Meter) (recs : List SentRec) :
    (appZclWriteReqCmd watermeterEndpoint3 zclClusterSeMetering (zclParseInWriteCmd recs) s).1 =
      run (writeRead fun _ => listHead recs) s recs := by
  rw [appZclWriteReqCmd, if_pos ⟨rfl, rfl⟩]
  cases recs with
  | nil => rfl
  | cons r recs =>
    rw [← foldl_parsed, zclParseInWriteCmd, writeMeterAttrs]
    congr 1

theorem write_singly (s : Meter) (recs : List SentRec) : writeSingly recs s = run (writeRead SentRec.alone) s recs := by
  rw [writeSingly]
  congr 1
  funext s r
  rw [write_head]
  exact writeMeterAttr_first (List.flatMap_singleton SentRec.data r)

/-! ### What a record sets -/

def Meter.hotParts (s : Meter) : BitVec 32 × BitVec 32 × BitVec 48 :=
  (s.ram.watermeterConfig.counterHotWater, s.attrs.hotWaterPreset, s.attrs.hotWaterCounter)

def Meter.coldParts (s : Meter) : BitVec 32 × BitVec 32 × BitVec 48 :=
  (s.ram.watermeterConfig.counterColdWater, s.attrs.coldWaterPreset, s.attrs.coldWaterCounter)

def Meter.stepParts (s : Meter) : BitVec 8 × BitVec 16 := (s.litersPerPulse, s.attrs.waterStepPreset)

/-- What no record sets. -/
def Meter.otherParts (s : Meter) : WaterCounter × WaterCounter × Ram :=
  (s.hotCounter, s.coldCounter, { s.ram with watermeterConfig := s.ram.watermeterConfig.setTotals ⟨0, 0, 0⟩ })

/-- The parts are the whole. -/
theorem Meter.ext_parts (hhot : s.hotParts = s'.hotParts) (hcold : s.coldParts = s'.coldParts)
    (hstep : s.stepParts = s'.stepParts) (hother : s.otherParts = s'.otherParts) : s = s' := by
  obtain ⟨hotCounter, coldCounter, ⟨⟨⟩, _, _, _⟩, ⟨⟩⟩ := s
  obtain ⟨hotCounter', coldCounter', ⟨⟨⟩, _, _, _⟩, ⟨⟩⟩ := s'
  simp only [hotParts, coldParts, stepParts, otherParts, litersPerPulse, Config.setTotals, Prod.mk.injEq, Ram.mk.injEq,
    Config.mk.injEq] at hhot hcold hstep hother
  simp only [Meter.mk.injEq, Ram.mk.injEq, Config.mk.injEq, Metering.mk.injEq]
  tauto

theorem preset_distinct (r : SentRec) :
    ¬ (r.IsHotPreset ∧ r.IsColdPreset) ∧ ¬ (r.IsHotPreset ∧ r.IsStepPreset) ∧ ¬ (r.IsColdPreset ∧ r.IsStepPreset) := by
  have hhotCold : zclAttridCustomHotWaterPreset ≠ zclAttridCustomColdWaterPreset := by decide
  have hhotStep : zclAttridCustomHotWaterPreset ≠ zclAttridCustomWaterStepPreset := by decide
  have hcoldStep : zclAttridCustomColdWaterPreset ≠ zclAttridCustomWaterStepPreset := by decide
  exact ⟨fun h => hhotCold (h.1.1.symm.trans h.2.1), fun h => hhotStep (h.1.1.symm.trans h.2.1),
    fun h => hcoldStep (h.1.1.symm.trans h.2.1)⟩

/-- A record as one of the three kinds, or none. -/
theorem writeRead_eq (read : SentRec → WriteRec) (s : Meter) (r : SentRec) :
    writeRead read s r =
      if r.IsHotPreset then s.presetHot (read r).buildU32
      else if r.IsColdPreset then s.presetCold (read r).buildU32
      else if r.IsStepPreset then s.presetStep (read r).buildU16
      else s := rfl

/-- The records of a kind preset one total and its attributes, and no other record touches these. -/
structure Presets (kind : SentRec → Prop) (parts : Meter → BitVec 32 × BitVec 32 × BitVec 48) : Prop where
  set : ∀ (read : SentRec → WriteRec) (s : Meter) (r : SentRec), kind r → parts (writeRead read s r) =
    let total := presetTotal s.litersPerPulse (read r).buildU32
    (total, total, total.setWidth 48)
  kept : ∀ (read : SentRec → WriteRec) (s : Meter) (r : SentRec), ¬ kind r → parts (writeRead read s r) = parts s

theorem presets_hot : Presets SentRec.IsHotPreset Meter.hotParts := by
  constructor
  · intro read s r h
    rw [writeRead_eq, if_pos h]
    rfl
  · intro read s r h
    rw [writeRead_eq, if_neg h]
    split_ifs <;> rfl

theorem presets_cold : Presets SentRec.IsColdPreset Meter.coldParts := by
  constructor
  · intro read s r h
    rw [writeRead_eq, if_neg fun hhot => (preset_distinct r).1 ⟨hhot, h⟩, if_pos h]
    rfl
  · intro read s r h
    rw [writeRead_eq, if_neg h]
    split_ifs <;> rfl

theorem stepParts_set (s : Meter) (r : SentRec) (h : r.IsStepPreset) :
    (writeRead read s r).stepParts =
      ((roundedStep (read r).buildU16).setWidth 8, roundedStep (read r).buildU16) := by
  rw [writeRead_eq, if_neg fun hhot => (preset_distinct r).2.1 ⟨hhot, h⟩,
    if_neg fun hcold => (preset_distinct r).2.2 ⟨hcold, h⟩, if_pos h]
  rfl

theorem stepParts_kept (s : Meter) (r : SentRec) (h : ¬ r.IsStepPreset) :
    (writeRead read s r).stepParts = s.stepParts := by
  rw [writeRead_eq, if_neg h]
  split_ifs <;> rfl

theorem otherParts_kept (read : SentRec → WriteRec) (s : Meter) (r : SentRec) :
    (writeRead read s r).otherParts = s.otherParts := by
  rw [writeRead_eq]
  split_ifs <;> rfl

theorem otherParts_run (read : SentRec → WriteRec) (s : Meter) (recs : List SentRec) :
    (run (writeRead read) s recs).otherParts = s.otherParts := by
  have hkeep (s : Meter) (r : SentRec) (_ : ¬ False) : (writeRead read s r).otherParts = s.otherParts :=
    otherParts_kept read s r
  exact run_unset hkeep s fun _ _ => id

/-- The step in force after the records is that of `stepAfter`. -/
theorem litersPerPulse_run (read : SentRec → WriteRec) (s : Meter) (recs : List SentRec) :
    (run (writeRead read) s recs).litersPerPulse = stepAfter read s.litersPerPulse recs := by
  induction recs generalizing s with
  | nil => rfl
  | cons r recs ih =>
    rw [run_cons, ih, stepAfter, stepAfter, run_cons]
    congr 1
    split
    · next h => exact congrArg Prod.fst (stepParts_set s r h)
    · next h => exact congrArg Prod.fst (stepParts_kept s r h)

/-! ### The two readings -/

theorem Presets.agree_iff {kind : SentRec → Prop} {parts : Meter → BitVec 32 × BitVec 32 × BitVec 48}
    (h : Presets kind parts) (s : Meter) (recs : List SentRec) :
    parts (run (writeRead read) s recs) = parts (run (writeRead read') s recs) ↔
      ∀ xs r ys, recs = xs ++ r :: ys → kind r → (∀ r' ∈ ys, ¬ kind r') →
        presetTotal (stepAfter read s.litersPerPulse xs) (read r).buildU32 =
          presetTotal (stepAfter read' s.litersPerPulse xs) (read' r).buildU32 := by
  rw [run_agree_iff (h.set read) (h.kept read) (h.set read') (h.kept read')]
  simp only [litersPerPulse_run, Prod.mk.injEq]
  refine forall₃_congr fun xs r ys => imp_congr_right fun _ => imp_congr_right fun _ => imp_congr_right fun _ => ?_
  exact ⟨fun heq => heq.1, fun heq => ⟨heq, heq, congrArg _ heq⟩⟩

theorem step_agree_iff (s : Meter) (recs : List SentRec) :
    (run (writeRead read) s recs).stepParts = (run (writeRead read') s recs).stepParts ↔
      ∀ xs r ys, recs = xs ++ r :: ys → r.IsStepPreset → (∀ r' ∈ ys, ¬ r'.IsStepPreset) →
        roundedStep (read r).buildU16 = roundedStep (read' r).buildU16 := by
  rw [run_agree_iff stepParts_set stepParts_kept stepParts_set stepParts_kept]
  simp only [Prod.mk.injEq]
  refine forall₃_congr fun xs r ys => imp_congr_right fun _ => imp_congr_right fun _ => imp_congr_right fun _ => ?_
  exact ⟨fun h => h.2, fun h => ⟨congrArg _ h, h⟩⟩

/-- A command to the settings does what its records do one by one exactly when the head of the list suffices. -/
theorem own_data_iff (recs : List SentRec) (s : Meter) :
    (appZclWriteReqCmd watermeterEndpoint3 zclClusterSeMetering (zclParseInWriteCmd recs) s).1 = writeSingly recs s ↔
      HeadSuffices s.litersPerPulse recs := by
  rw [write_head, write_singly]
  constructor
  · intro heq
    exact ⟨(step_agree_iff s recs).mp (congrArg Meter.stepParts heq),
      (presets_hot.agree_iff s recs).mp (congrArg Meter.hotParts heq),
      (presets_cold.agree_iff s recs).mp (congrArg Meter.coldParts heq)⟩
  · rintro ⟨hstep, hhot, hcold⟩
    apply Meter.ext_parts
    · exact (presets_hot.agree_iff s recs).mpr hhot
    · exact (presets_cold.agree_iff s recs).mpr hcold
    · exact (step_agree_iff s recs).mpr hstep
    · rw [otherParts_run, otherParts_run]

/-! ### Two presets in one command -/

def sentU32 (attrID : BitVec 16) (b₀ b₁ b₂ b₃ : Byte) : SentRec :=
  ⟨attrID, zclDataTypeUint32, [b₀, b₁, b₂, b₃], rfl⟩

/-- 1000 litres of hot and 2000 litres of cold water in one command: both totals become 1000. -/
theorem own_data_not_used : ¬ ∀ (recs : List SentRec) (s : Meter),
    (appZclWriteReqCmd watermeterEndpoint3 zclClusterSeMetering (zclParseInWriteCmd recs) s).1 = writeSingly recs s := by
  intro hsame
  have htwo := hsame [sentU32 zclAttridCustomHotWaterPreset 0xE8#8 0x03#8 0#8 0#8,
      sentU32 zclAttridCustomColdWaterPreset 0xD0#8 0x07#8 0#8 0#8]
    ⟨⟨0#8, 1#8⟩, ⟨0#8, 1#8⟩, ⟨defaultRecord Ram.zero, false, 0, 0⟩, ⟨0, 0, 0, 0, 10⟩⟩
  have hcold := congrArg (fun s => s.ram.watermeterConfig.counterColdWater) htwo
  revert hcold
  decide

end Watermeter
