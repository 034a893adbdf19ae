import Watermeter.Reporting

/-! The law of a change that is worth a report, which the stack's test follows for the unsigned types up to 32 bits, and
where the application's own test for 48 bits departs from it. -/

namespace Watermeter

/-- An unsigned value of up to 48 bits, with zeros in front. -/
def value48 (dataType : BitVec 8) (value : AnalogData) : BitVec 48 :=
  if dataType = zclDataTypeUint8 then (value 0).setWidth 48
  else if dataType = zclDataTypeUint16 then (u16 (value 0) (value 1)).setWidth 48
  else if dataType = zclDataTypeUint24 then (u24 (value 0) (value 1) (value 2)).setWidth 48
  else if dataType = zclDataTypeUint32 then (u32 (value 0) (value 1) (value 2) (value 3)).setWidth 48
  else (u48 (value 0) (value 1) (value 2) (value 3) (value 4) (value 5)).setWidth 48

/-- `|C - P|`. -/
def change {w : Nat} (P C : BitVec w) : Nat := ((C.toNat : Int) - P.toNat).natAbs

/-- The values differ, and by `R` or more. -/
def WorthReport {w : Nat} (P C R : BitVec w) : Prop := P ≠ C ∧ R.toNat ≤ change P C

instance {w : Nat} (P C R : BitVec w) : Decidable (WorthReport P C R) := inferInstanceAs (Decidable (_ ∧ _))

variable {w : Nat} {P C R : BitVec w}

theorem unsignedChange_iff : unsignedChange P C R = true ↔ WorthReport P C R := by
  have hne : P ≠ C ↔ P.toNat ≠ C.toNat := not_congr BitVec.toNat_inj.symm
  rw [WorthReport, change, hne, unsignedChange]
  split
  · next hlt =>
    have hsub := BitVec.toNat_sub_of_le (BitVec.le_of_lt hlt)
    rw [BitVec.lt_def] at hlt
    rw [decide_eq_true_iff, BitVec.le_def, hsub]
    omega
  · next hge =>
    rw [BitVec.lt_def] at hge
    split
    · next hlt =>
      have hsub := BitVec.toNat_sub_of_le (BitVec.le_of_lt hlt)
      rw [BitVec.lt_def] at hlt
      rw [decide_eq_true_iff, BitVec.le_def, hsub]
      omega
    · next hge' =>
      rw [BitVec.lt_def] at hge'
      simp only [Bool.false_eq_true, false_iff, not_and]
      omega

/-- More zeros in front change nothing. -/
theorem worthReport_setWidth {v : Nat} (h : w ≤ v) :
    WorthReport (P.setWidth v) (C.setWidth v) (R.setWidth v) ↔ WorthReport P C R := by
  have hvalue (x : BitVec w) : (x.setWidth v).toNat = x.toNat := BitVec.toNat_setWidth_of_le h
  have hne : P.setWidth v ≠ C.setWidth v ↔ P ≠ C := by
    rw [ne_eq, ne_eq, ← BitVec.toNat_inj, hvalue, hvalue, BitVec.toNat_inj]
  rw [WorthReport, WorthReport, change, change, hvalue, hvalue, hvalue, hne]

variable (curValue prevValue reportableChange : AnalogData)

theorem reportableChangeValueChk_law {dataType : BitVec 8}
    (h : dataType ∈ [zclDataTypeUint8, zclDataTypeUint16, zclDataTypeUint24, zclDataTypeUint32]) :
    reportableChangeValueChk dataType curValue prevValue reportableChange = true ↔
      WorthReport (value48 dataType prevValue) (value48 dataType curValue) (value48 dataType reportableChange) := by
  simp only [List.mem_cons, List.not_mem_nil, or_false] at h
  rcases h with rfl | rfl | rfl | rfl
  · exact unsignedChange_iff.trans (worthReport_setWidth (by decide)).symm
  · exact unsignedChange_iff.trans (worthReport_setWidth (by decide)).symm
  · exact unsignedChange_iff.trans (worthReport_setWidth (by decide)).symm
  · exact unsignedChange_iff.trans (worthReport_setWidth (by decide)).symm

/-- The test for 48 bits wants more than `R`. -/
theorem appReportableChangeValueChk_uint48 :
    appReportableChangeValueChk zclDataTypeUint48 curValue prevValue reportableChange = true ↔
      (value48 zclDataTypeUint48 reportableChange).toNat <
        change (value48 zclDataTypeUint48 prevValue) (value48 zclDataTypeUint48 curValue) := by
  have hvalue (x : BitVec 48) : ((x.setWidth 64).setWidth 48).toNat = (x.setWidth 64).toNat := by
    rw [BitVec.toNat_setWidth, BitVec.toNat_setWidth_of_le (by decide)]
    exact Nat.mod_eq_of_lt x.isLt
  have hbuild (v : AnalogData) : (value48 zclDataTypeUint48 v).toNat = (u48 (v 0) (v 1) (v 2) (v 3) (v 4) (v 5)).toNat :=
    hvalue _
  rw [change, hbuild, hbuild, hbuild, appReportableChangeValueChk, if_pos rfl]
  dsimp only
  split
  · next hle =>
    have hsub := BitVec.toNat_sub_of_le hle
    rw [BitVec.le_def] at hle
    rw [decide_eq_true_iff, BitVec.lt_def, hsub]
    omega
  · next hlt =>
    have hsub := BitVec.toNat_sub_of_le (BitVec.le_of_lt (BitVec.not_le.mp hlt))
    rw [BitVec.le_def] at hlt
    rw [decide_eq_true_iff, BitVec.lt_def, hsub]
    omega

/-- The application's test for 48 bits follows the law exactly where the change is not the reportable change itself,
unless that is 0; the stack's test for the other unsigned types follows it throughout. -/
theorem change48_law_iff :
    ((appReportableChangeValueChk zclDataTypeUint48 curValue prevValue reportableChange = true ↔
        WorthReport (value48 zclDataTypeUint48 prevValue) (value48 zclDataTypeUint48 curValue)
          (value48 zclDataTypeUint48 reportableChange)) ↔
      value48 zclDataTypeUint48 reportableChange = 0 ∨
        change (value48 zclDataTypeUint48 prevValue) (value48 zclDataTypeUint48 curValue) ≠
          (value48 zclDataTypeUint48 reportableChange).toNat) ∧
    ∀ dataType ∈ [zclDataTypeUint8, zclDataTypeUint16, zclDataTypeUint24, zclDataTypeUint32],
      (reportableChangeValueChk dataType curValue prevValue reportableChange = true ↔
        WorthReport (value48 dataType prevValue) (value48 dataType curValue) (value48 dataType reportableChange)) := by
  refine ⟨?_, fun dataType h => reportableChangeValueChk_law curValue prevValue reportableChange h⟩
  rw [appReportableChangeValueChk_uint48]
  generalize value48 zclDataTypeUint48 prevValue = P
  generalize value48 zclDataTypeUint48 curValue = C
  generalize value48 zclDataTypeUint48 reportableChange = R
  have hne : P ≠ C ↔ P.toNat ≠ C.toNat := not_congr BitVec.toNat_inj.symm
  have hzero : R = 0 ↔ R.toNat = 0 := BitVec.toNat_inj.symm
  rw [WorthReport, change, hne, hzero]
  omega

/-- A counter that goes from 0 to 10 litres, with a reportable change of 10 litres. -/
theorem change48_unlawful : ¬ ∀ curValue prevValue reportableChange : AnalogData,
    appReportableChangeValueChk zclDataTypeUint48 curValue prevValue reportableChange = true ↔
      WorthReport (value48 zclDataTypeUint48 prevValue) (value48 zclDataTypeUint48 curValue)
        (value48 zclDataTypeUint48 reportableChange) := by
  intro hlaw
  have hten := hlaw (fun k => if k = 0 then 10#8 else 0#8) (fun _ => 0#8) (fun k => if k = 0 then 10#8 else 0#8)
  revert hten
  decide

end Watermeter
