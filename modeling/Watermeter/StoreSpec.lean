import Watermeter.DevConfig
import Watermeter.RingLog
import Mathlib.Tactic.Ring

/-! What each function of the store does, by the branch it takes: where the pointer goes, which record is
written, what the flash holds afterwards and which record the scan selects. -/

namespace Watermeter

open NorFlash RingLog

/-! ### Driver calls -/

theorem perform_eq_apply {mv : Nat} (h : batterySafetyThreshold ≤ mv) (v : Nvm) (op : Op) :
    op.perform mv v = op.apply v := by
  have hnot : ¬ mv < batterySafetyThreshold := by omega
  cases op <;> simp [Op.perform, hnot]

theorem powered_const {mv : Nat} (h : batterySafetyThreshold ≤ mv) : Powered fun _ => mv := fun _ => h

theorem performAll_eq_applyAll {supply : Supply} (h : Powered supply) (v : Nvm) (ops : List Op) :
    performAll supply v ops = applyAll v ops := by
  induction ops generalizing supply v with
  | nil => rfl
  | cons op ops ih =>
      rw [performAll, perform_eq_apply (h 0), ih fun i => h (i + 1)]
      rfl

/-- A driver call has its effect or none. -/
theorem perform_cases (mv : Nat) (v : Nvm) (op : Op) : op.perform mv v = v ∨ op.perform mv v = op.apply v := by
  by_cases h : mv < batterySafetyThreshold
  · cases op with
    | nvFlashWriteNew c => exact Or.inr rfl
    | flashEraseSector addr => exact Or.inr rfl
    | flashErase addr => exact Or.inl (if_pos h)
    | flashWrite addr buf => exact Or.inl (if_pos h)
  · exact Or.inr (perform_eq_apply (by omega) v op)

/-- What every driver call keeps, a sequence of calls keeps, at any supply. -/
theorem performAll_induction {P : Nvm → Prop} {ops : List Op}
    (hstep : ∀ v op, op ∈ ops → P v → P (op.apply v)) (supply : Supply) {v : Nvm} (hv : P v) :
    P (performAll supply v ops) := by
  induction ops generalizing supply v with
  | nil => exact hv
  | cons op ops ih =>
      refine ih (fun v op hmem => hstep v op (List.mem_cons_of_mem _ hmem)) _ ?_
      rcases perform_cases (supply 0) v op with heq | heq
      · rw [heq]; exact hv
      · rw [heq]; exact hstep v op List.mem_cons_self hv

/-! ### Addresses -/

@[simp] theorem ringPages_eq : ringPages = 832 := rfl

@[simp] theorem sectorPages_eq : sectorPages = 16 := rfl

theorem userStart_le (b : Bank) : b.userStart ≤ 0x40000 := by cases b <;> decide

theorem userStart_mod (b : Bank) : b.userStart % 4096 = 0 := by cases b <;> rfl

theorem toNat_pageAddr {b : Bank} {q : Nat} (hq : q < 832) :
    (BitVec.ofNat 32 (pageAddr b q)).toNat = pageAddr b q := by
  have hle := userStart_le b
  rw [BitVec.toNat_ofNat, pageAddr, flashPageSize]
  omega

theorem toNat_userStart (b : Bank) : (BitVec.ofNat 32 b.userStart).toNat = b.userStart := by
  cases b <;> rfl

theorem toNat_userEnd (b : Bank) : (BitVec.ofNat 32 b.userEnd).toNat = b.userEnd := by
  cases b <;> rfl

@[simp] theorem pageAddr_zero (b : Bank) : pageAddr b 0 = b.userStart := by simp [pageAddr]

theorem pageAddr_succ (b : Bank) (q : Nat) : pageAddr b q + flashPageSize = pageAddr b (q + 1) := by
  unfold pageAddr; ring

/-- A page opens a sector when its number is a multiple of 16. -/
theorem pageAddr_mod_sector (b : Bank) (q : Nat) : pageAddr b q % 4096 = 0 ↔ q % 16 = 0 := by
  have hmod := userStart_mod b
  unfold pageAddr flashPageSize
  omega

/-- The variables hold the bounds of the region of a device that boots from `b`. -/
structure Bounds (b : Bank) (r : Ram) : Prop where
  start : r.configAddrStart = .ofNat 32 b.userStart
  stop : r.configAddrEnd = .ofNat 32 b.userEnd

/-- The pointer is on page `p` of that region. -/
structure Placed (b : Bank) (p : Nat) (r : Ram) : Prop extends Bounds b r where
  page : p < 832
  pointer : r.watermeterConfig.flashAddrStart = .ofNat 32 (pageAddr b p)

theorem Placed.toNat_pointer {b : Bank} {p : Nat} {r : Ram} (h : Placed b p r) :
    r.watermeterConfig.flashAddrStart.toNat = pageAddr b p := by
  rw [h.pointer, toNat_pageAddr h.page]

theorem getUserDataAddr_bounds {m : Mem} {b : Bank} (h : mcuBootAddrGet m = b.base) (r : Ram) :
    Bounds b (getUserDataAddr m r) := by
  unfold getUserDataAddr
  rw [h]
  cases b <;> exact ⟨rfl, rfl⟩

@[simp] theorem getUserDataAddr_config (m : Mem) (r : Ram) :
    (getUserDataAddr m r).watermeterConfig = r.watermeterConfig := by
  unfold getUserDataAddr; split <;> rfl

@[simp] theorem getUserDataAddr_default (m : Mem) (r : Ram) :
    (getUserDataAddr m r).defaultConfig = r.defaultConfig := by
  unfold getUserDataAddr; split <;> rfl

/-- The pointer moves to the next page of the ring. -/
theorem Placed.nextFlashAddr {b : Bank} {p : Nat} {r : Ram} (h : Placed b p r) :
    nextFlashAddr r = .ofNat 32 (pageAddr b (succSlot 832 p)) := by
  have hp := h.page
  have hle := userStart_le b
  have hadd : r.watermeterConfig.flashAddrStart + .ofNat 32 flashPageSize
      = BitVec.ofNat 32 (pageAddr b (p + 1)) := by
    rw [h.pointer, ← BitVec.ofNat_add, pageAddr_succ]
  have hend : BitVec.ofNat 32 (pageAddr b (p + 1)) = r.configAddrEnd ↔ p + 1 = 832 := by
    rw [h.stop, ← BitVec.toNat_inj, toNat_userEnd, BitVec.toNat_ofNat]
    unfold pageAddr Bank.userEnd flashPageSize userDataSize
    omega
  unfold Watermeter.nextFlashAddr succSlot
  simp only [hadd, hend]
  split
  · rw [h.start, pageAddr_zero]
  · rfl

theorem Placed.toNat_nextFlashAddr {b : Bank} {p : Nat} {r : Ram} (h : Placed b p r) :
    (Watermeter.nextFlashAddr r).toNat = pageAddr b (succSlot 832 p) := by
  rw [h.nextFlashAddr, toNat_pageAddr (succSlot_lt h.page)]

theorem Placed.nextFlashAddr_mod {b : Bank} {p : Nat} {r : Ram} (h : Placed b p r) :
    Watermeter.nextFlashAddr r % .ofNat 32 flashSectorSize = 0 ↔ succSlot 832 p % 16 = 0 := by
  rw [← pageAddr_mod_sector b, ← h.toNat_nextFlashAddr, ← BitVec.toNat_inj, BitVec.toNat_umod]
  rfl

theorem top_mask (x : BitVec 32) : x &&& topMask = x := BitVec.and_allOnes

theorem nextConfig_valid {r : Ram} (h : r.watermeterConfig.id = idConfig) : (nextConfig r).Valid :=
  Config.sealed_valid h

@[simp] theorem nextConfig_top (r : Ram) : (nextConfig r).top = r.watermeterConfig.top + 1 := top_mask _

@[simp] theorem nextConfig_totals (r : Ram) : (nextConfig r).totals = r.watermeterConfig.totals := rfl

@[simp] theorem nextConfig_newOta (r : Ram) : (nextConfig r).newOta = r.watermeterConfig.newOta := rfl

@[simp] theorem nextConfig_id (r : Ram) : (nextConfig r).id = r.watermeterConfig.id := rfl

@[simp] theorem nextConfig_flashAddrStart (r : Ram) : (nextConfig r).flashAddrStart = nextFlashAddr r := rfl

end Watermeter
