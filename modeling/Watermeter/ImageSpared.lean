import Watermeter.OtaClient
import Watermeter.FlashConfinement

/-! Which calls keep out of the image of a download, and what the events of the store leave of its bytes: a
record in the NV item, a page behind the image, a switch that does not take and a block that does. -/

namespace Watermeter

open NorFlash RingLog Transition

variable {b : Bank} {p : Nat} {c : Config} {r : Ram} {v : Nvm} {supply : Supply}

/-- The call erases and programs nothing of the `size` bytes from `base`. -/
def Op.Avoids (base size : Nat) : Op → Prop
  | nvFlashWriteNew _ => True
  | flashEraseSector addr => base + size ≤ addr - addr % flashSectorSize ∨ addr - addr % flashSectorSize + flashSectorSize ≤ base
  | flashErase addr => base + size ≤ addr - addr % flashSectorSize ∨ addr - addr % flashSectorSize + flashSectorSize ≤ base
  | flashWrite addr buf => base + size ≤ addr ∨ addr + buf.length ≤ base

/-- The calls of the store in this step keep out of an image of `size` bytes in the inactive bank. -/
def StoreAvoids (size : Nat) (s : OtaDevice) (e : Supply × OtaEvent) : Prop :=
  ∀ op ∈ (s.storeOps e.1 e.2).2.2, op.Avoids (imageBase (s.bootAddr e.1 e.2)) size

theorem Op.Avoids.apply {base size x : Nat} {op : Op} (h : op.Avoids base size) (v : Nvm) (hl : base ≤ x)
    (hr : x < base + size) : (op.apply v).flash x = v.flash x := by
  cases op with
  | nvFlashWriteNew c => rfl
  | flashEraseSector addr => exact erase_outside (by unfold Op.Avoids at h; omega)
  | flashErase addr => exact erase_outside (by unfold Op.Avoids at h; omega)
  | flashWrite addr buf => exact program_outside (by unfold Op.Avoids at h; omega)

theorem avoids_performAll {base size : Nat} {ops : List Op} (hops : ∀ op ∈ ops, op.Avoids base size)
    (supply : Supply) (v : Nvm) {x : Nat} (hl : base ≤ x) (hr : x < base + size) :
    (performAll supply v ops).flash x = v.flash x :=
  performAll_induction (P := fun w => w.flash x = v.flash x)
    (fun w op hmem h => ((hops op hmem).apply w hl hr).trans h) supply rfl

/-- In ring mode the calls keep out of an image that ends before the next page. -/
theorem pageOps_avoids {q base size : Nat} (h : base + size ≤ pageAddr b q) : ∀ op ∈ pageOps b q c, op.Avoids base size := by
  intro op hop
  by_cases hopen : q % 16 = 0
  · have haligned : pageAddr b q % flashSectorSize = 0 := (pageAddr_mod_sector b q).mpr hopen
    rw [pageOps_opened hopen] at hop
    rcases List.mem_cons.mp hop with rfl | hop
    · exact Or.inl (by rw [haligned]; exact h)
    · rw [List.mem_singleton.mp hop]
      exact Or.inl h
  · rw [pageOps_inner hopen] at hop
    rw [List.mem_singleton.mp hop]
    exact Or.inl h

/-- The step keeps out of an image of `size` bytes, and leaves an update as it was. -/
structure LeavesImage (size : Nat) (s : OtaDevice) (e : Supply × OtaEvent) : Prop where
  avoids : StoreAvoids size s e
  addr : (s.step e).mcuBootAddr = s.mcuBootAddr
  image : ∀ i, i < size →
    (s.step e).nvm.flash (imageBase s.mcuBootAddr + i) = s.nvm.flash (imageBase s.mcuBootAddr + i)
  update : s.ram.watermeterConfig.newOta ≠ 0 → (s.step e).ram.watermeterConfig.newOta ≠ 0

theorem leavesImage_of {s : OtaDevice} {e : OtaEvent} {size : Nat} {r : Ram} {ops : List Op}
    (hops : s.storeOps supply e = (s.nvm, r, ops)) (hreset : s.resets supply e = false)
    (havoid : ∀ op ∈ ops, op.Avoids (imageBase s.mcuBootAddr) size)
    (hupdate : s.ram.watermeterConfig.newOta ≠ 0 → r.watermeterConfig.newOta ≠ 0) :
    LeavesImage size s (supply, e) := by
  have haddr : s.bootAddr supply e = s.mcuBootAddr := by rw [OtaDevice.bootAddr, hreset]; rfl
  have hstep := OtaDevice.step_eq hops
  refine ⟨?_, ?_, fun i hi => ?_, fun ho => ?_⟩
  · intro op hop
    rw [haddr]
    rw [hops] at hop
    exact havoid op hop
  · rw [hstep, hreset]
    rfl
  · rw [hstep]
    exact avoids_performAll havoid supply s.nvm (by omega) (by omega)
  · rw [hstep]
    exact hupdate ho

theorem writeConfig_newOta (r : Ram) : (writeConfig r).1.watermeterConfig.newOta = r.watermeterConfig.newOta := by
  unfold writeConfig
  split_ifs <;> rfl

theorem leavesImage_set (s : OtaDevice) (supply : Supply) (t : Totals) (size : Nat) :
    LeavesImage size s (supply, .set t) :=
  leavesImage_of (r := (s.setTotals t).ram) rfl rfl (fun _ hop => absurd hop List.not_mem_nil) id

theorem leavesImage_start {s : OtaDevice} (hd : s.ram.defaultConfig = false) (supply : Supply) (size : Nat) :
    LeavesImage size s (supply, .start) ∧ (s.step (supply, .start)).ram.watermeterConfig.newOta ≠ 0 := by
  have hone : (1 : BitVec 8) ≠ 0 := by decide
  have hops : s.storeOps supply .start = (s.nvm, _) :=
    congrArg (Prod.mk s.nvm) (OtaDevice.writeConfig_started hd)
  refine ⟨leavesImage_of hops rfl (fun op hop => ?_) fun _ => hone, ?_⟩
  · rw [List.mem_singleton.mp hop]
    exact trivial
  · rw [OtaDevice.step_eq hops]
    exact hone

/-- A save keeps out of the image while an update runs, and else if its page lies behind the image. -/
theorem leavesImage_save {s : OtaDevice} (h : Sited b s) (supply : Supply) {size : Nat}
    (hnext : s.ram.watermeterConfig.newOta = 0 → imageBase s.mcuBootAddr + size ≤ (nextFlashAddr s.ram).toNat) :
    LeavesImage size s (supply, .save) := by
  obtain ⟨p, hplaced⟩ := h.placed
  have hops : s.storeOps supply .save = (s.nvm, (writeConfig s.ram).1, (writeConfig s.ram).2) := rfl
  refine leavesImage_of hops rfl ?_ fun ho => by rw [writeConfig_newOta]; exact ho
  by_cases ho : s.ram.watermeterConfig.newOta = 0
  · have hpage := hnext ho
    rw [hplaced.toNat_nextFlashAddr] at hpage
    rw [writeConfig_ring hplaced h.written ho]
    exact pageOps_avoids hpage
  · rw [writeConfig_ota h.written ho]
    intro op hop
    rw [List.mem_singleton.mp hop]
    exact trivial

/-- A run of the store keeps out of an image of `size` bytes, and the first `pos` bytes of the bank stay. -/
structure ImageLeft (size pos : Nat) (s : OtaDevice) (events : List (Supply × OtaEvent)) : Prop where
  avoids : Along OtaDevice.step (StoreAvoids size) s events
  addr : (run OtaDevice.step s events).mcuBootAddr = s.mcuBootAddr
  image : ∀ i, i < pos → (run OtaDevice.step s events).nvm.flash (imageBase s.mcuBootAddr + i) =
    s.nvm.flash (imageBase s.mcuBootAddr + i)

/-- What every event of the store keeps, a run of them keeps. -/
theorem leavesImage_run {size : Nat} {s : OtaDevice} {events : List (Supply × OtaEvent)}
    (h : Along OtaDevice.step (LeavesImage size) s events) :
    ImageLeft size size s events ∧
      (s.ram.watermeterConfig.newOta ≠ 0 → (run OtaDevice.step s events).ram.watermeterConfig.newOta ≠ 0) := by
  induction events generalizing s with
  | nil => exact ⟨⟨trivial, rfl, fun _ _ => rfl⟩, id⟩
  | cons e events ih =>
      obtain ⟨hstep, hrest⟩ := h
      obtain ⟨⟨havoids, haddr, himage⟩, hupdate⟩ := ih hrest
      rw [hstep.addr] at himage
      refine ⟨⟨⟨hstep.avoids, havoids⟩, haddr.trans hstep.addr, fun i hi => ?_⟩, fun ho => hupdate (hstep.update ho)⟩
      exact (himage i hi).trans (hstep.image i hi)

/-- A switch that does not take leaves the bank of the image, if its first flag byte is withheld. -/
theorem switched_keeps {s : OtaDevice} (h : Sited b s) (hstay : s.resets supply .success = false) {i : Nat}
    (hi : i < flashOtaImageMaxSize) (hflag : i = flashTlnkFlagOffset →
      s.nvm.flash (imageBase s.mcuBootAddr + i) = 0xFF#8) :
    (s.switched supply).flash (imageBase s.mcuBootAddr + i) = s.nvm.flash (imageBase s.mcuBootAddr + i) := by
  have hbank := b.userStart_cases
  have hswitched : (s.switched supply).flash =
      (otaMcuReboot b.base (clientSupply supply) s.nvm.flash).2 := by rw [OtaDevice.switched, h.addr]
  rw [h.addr, imageBase_eq] at *
  unfold flashOtaImageMaxSize at hi
  rw [hswitched]
  by_cases hbyte : i = flashTlnkFlagOffset
  · have hones := hflag hbyte
    subst hbyte
    rcases otaMcuReboot_cases b (clientSupply supply) s.nvm.flash with hout | ⟨-, hne⟩ | ⟨hout, -⟩
    · rw [hout]
    · unfold flashTlnkFlagOffset at hones
      rw [hones] at hne
      exact absurd rfl hne
    · rw [OtaDevice.resets, h.addr, hout] at hstay
      cases hstay
  · unfold flashTlnkFlagOffset at hbyte
    exact otaMcuReboot_frame b (clientSupply supply) s.nvm.flash (by omega) (by omega)

theorem getD_withheld {pos j : Nat} {data : List Byte} (hj : j < data.length) :
    (withheld pos data).getD j 0xFF#8 = if pos + j = flashTlnkFlagOffset then 0xFF#8 else data.getD j 0#8 := by
  have hget : ∀ d : Byte, data.getD j d = data[j] := fun d => by
    rw [List.getD_eq_getElem?_getD, List.getElem?_eq_getElem hj, Option.getD_some]
  unfold withheld
  by_cases hflag : pos ≤ flashTlnkFlagOffset
  · rw [if_pos hflag, List.getD_eq_getElem?_getD, List.getElem?_set]
    by_cases hbyte : pos + j = flashTlnkFlagOffset
    · rw [if_pos hbyte, if_pos (by omega), if_pos (by omega), Option.getD_some]
    · rw [if_neg hbyte, if_neg (by omega), ← List.getD_eq_getElem?_getD, hget, hget]
  · rw [if_neg hflag, if_neg (by omega), hget, hget]

/-- A block that has been checked is on the flash, and nothing before it has changed. -/
theorem block_written {s : OtaDevice} {pos i : Nat} {data : List Byte} (hupdate : s.ram.watermeterConfig.newOta ≠ 0)
    (hin : pos + data.length ≤ flashOtaImageMaxSize)
    (hcheck : (flashWriteWithCheck (clientSupply supply 0) s.nvm.flash (imageBase s.mcuBootAddr + pos)
      (withheld pos data)).1 = true) :
    (s.step (supply, .block pos data)).mcuBootAddr = s.mcuBootAddr ∧
    (s.step (supply, .block pos data)).ram = s.ram ∧
    (i < pos → (s.step (supply, .block pos data)).nvm.flash (imageBase s.mcuBootAddr + i) =
      s.nvm.flash (imageBase s.mcuBootAddr + i)) ∧
    (pos ≤ i → i < pos + data.length → (s.step (supply, .block pos data)).nvm.flash (imageBase s.mcuBootAddr + i) =
      if i = flashTlnkFlagOffset then 0xFF#8 else data.getD (i - pos) 0#8) := by
  have hmv : ¬ clientSupply supply 0 < batterySafetyThreshold := by
    intro hmv
    rw [flashWriteWithCheck, if_pos hmv] at hcheck
    cases hcheck
  rw [flashWriteWithCheck, if_neg hmv] at hcheck
  have hread := eq_of_beq hcheck
  have hops : s.storeOps supply (.block pos data) =
      ({ s.nvm with flash := program s.nvm.flash (imageBase s.mcuBootAddr + pos) (withheld pos data) }, s.ram, []) := by
    rw [OtaDevice.storeOps, if_pos ⟨hupdate, hin⟩, flashWriteWithCheck, if_neg hmv]
  rw [OtaDevice.step_eq hops]
  refine ⟨rfl, rfl, fun hi => ?_, fun hl hr => ?_⟩
  · exact program_outside (Or.inl (by omega))
  · have hbyte := read_eq_iff.mp hread (i - pos) (by rw [length_withheld]; omega)
    rw [getD_withheld (by omega), Nat.add_sub_cancel' hl, Nat.add_assoc, Nat.add_sub_cancel' hl] at hbyte
    exact hbyte

end Watermeter
