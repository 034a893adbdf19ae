import Watermeter.StoreSpec

/-! What the writes of the store leave on flash. Each of them is the same change: the sector is erased
when the page opens it, then the record is programmed into the page. -/

namespace Watermeter

open NorFlash RingLog

variable {b : Bank} {p q j : Nat} {m : Mem} {c : Config} {r : Ram} {v : Nvm}

/-- The flash once page `q` has been turned to. -/
def openPage (b : Bank) (q : Nat) (m : Mem) : Mem :=
  if q % sectorPages = 0 then erase m (pageAddr b q) flashSectorSize else m

/-- The flash once record `c` has been written into page `q`. -/
def writeRecord (b : Bank) (q : Nat) (c : Config) (m : Mem) : Mem :=
  program (openPage b q m) (pageAddr b q) c.toBytes

/-- The flash once the whole region has been cleared. -/
def clearRegion (b : Bank) (m : Mem) : Mem := erase m b.userStart userDataSize

/-! ### From driver calls to the flash -/

theorem flashEraseSector_page (hq : q % 16 = 0) :
    flashEraseSector m (pageAddr b q) = erase m (pageAddr b q) flashSectorSize := by
  unfold flashEraseSector
  rw [show pageAddr b q % flashSectorSize = 0 from (pageAddr_mod_sector b q).mpr hq, Nat.sub_zero]

theorem openPage_opened (hq : q % 16 = 0) : openPage b q m = erase m (pageAddr b q) flashSectorSize :=
  if_pos hq

theorem openPage_inner (hq : q % 16 ≠ 0) : openPage b q m = m := if_neg hq

theorem applyAll_append (v : Nvm) (xs ys : List Op) : applyAll v (xs ++ ys) = applyAll (applyAll v xs) ys :=
  List.foldl_append

/-- The calls that put record `c` into page `q`: the sector is erased when the page opens it. -/
def pageOps (b : Bank) (q : Nat) (c : Config) : List Op :=
  (if q % sectorPages = 0 then [.flashErase (pageAddr b q)] else []) ++ [.flashWrite (pageAddr b q) c.toBytes]

theorem pageOps_opened (hq : q % 16 = 0) (c : Config) :
    pageOps b q c = [.flashErase (pageAddr b q), .flashWrite (pageAddr b q) c.toBytes] := by
  rw [pageOps, sectorPages_eq, if_pos hq]; rfl

theorem pageOps_inner (hq : q % 16 ≠ 0) (c : Config) :
    pageOps b q c = [.flashWrite (pageAddr b q) c.toBytes] := by
  rw [pageOps, sectorPages_eq, if_neg hq]; rfl

theorem applyAll_pageOps (v : Nvm) (b : Bank) (q : Nat) (c : Config) :
    applyAll v (pageOps b q c) = { v with flash := writeRecord b q c v.flash } := by
  by_cases hopen : q % 16 = 0
  · rw [pageOps_opened hopen, writeRecord, openPage_opened hopen, ← flashEraseSector_page hopen]
    rfl
  · rw [pageOps_inner hopen, writeRecord, openPage_inner hopen]
    rfl

/-- In ring mode `write_config` puts the next record into the next page. -/
theorem writeConfig_ring (hr : Placed b p r) (hd : r.defaultConfig = false)
    (ho : r.watermeterConfig.newOta = 0) :
    writeConfig r = ({ r with watermeterConfig := nextConfig r }, pageOps b (succSlot 832 p) (nextConfig r)) := by
  rw [writeConfig, if_neg (by simp [hd]), if_pos ho]
  simp only [hr.nextFlashAddr_mod, hr.toNat_nextFlashAddr]
  rfl

/-- With `default_config` set it writes the NV item and the first page. -/
theorem writeConfig_default (hd : r.defaultConfig = true)
    (hp : r.watermeterConfig.flashAddrStart = .ofNat 32 b.userStart) :
    writeConfig r =
      ({ r with watermeterConfig := r.watermeterConfig.sealed, defaultConfig := false },
        .nvFlashWriteNew r.watermeterConfig.sealed :: pageOps b 0 r.watermeterConfig.sealed) := by
  have haddr : r.watermeterConfig.sealed.flashAddrStart.toNat = pageAddr b 0 := by
    rw [Config.sealed_flashAddrStart, hp, toNat_userStart, pageAddr_zero]
  rw [writeConfig, if_pos hd, pageOps_opened (Nat.zero_mod 16)]
  simp only [writeRestoreConfig, haddr]
  rfl

/-- In OTA mode it writes the NV item only. -/
theorem writeConfig_ota (hd : r.defaultConfig = false) (ho : r.watermeterConfig.newOta ≠ 0) :
    writeConfig r =
      ({ r with watermeterConfig := r.watermeterConfig.sealed }, [.nvFlashWriteNew r.watermeterConfig.sealed]) := by
  rw [writeConfig, if_neg (by simp [hd]), if_neg ho]
  rfl

/-- Erasing sector after sector erases the whole, with either call. -/
theorem applyAll_sectors {op : Nat → Op} (hop : ∀ a v, (op a).apply v = { v with flash := flashEraseSector v.flash a })
    (v : Nvm) (b : Bank) (n : Nat) :
    applyAll v ((List.range n).map fun i => op (b.userStart + flashSectorSize * i)) =
      { v with flash := erase v.flash b.userStart (flashSectorSize * n) } := by
  induction n with
  | zero =>
      have hnone : erase v.flash b.userStart 0 = v.flash := funext fun x => erase_outside (by omega)
      rw [Nat.mul_zero, hnone]
      rfl
  | succ n ih =>
      rw [List.range_succ, List.map_append, applyAll_append, ih]
      simp only [List.map_cons, List.map_nil, applyAll, List.foldl_cons, List.foldl_nil, hop, flashEraseSector]
      have haligned : (b.userStart + flashSectorSize * n) % flashSectorSize = 0 := by
        have hmod := userStart_mod b
        unfold flashSectorSize
        omega
      rw [haligned, Nat.sub_zero]
      rw [erase_append, ← Nat.mul_succ]

theorem applyAll_clearUserData (v : Nvm) (b : Bank) :
    applyAll v (clearUserData (.ofNat 32 b.userStart)) = { v with flash := clearRegion b v.flash } := by
  unfold clearUserData
  rw [toNat_userStart]
  exact applyAll_sectors (fun _ _ => rfl) v b 52

/-- Starting anew clears the region and writes the default record. -/
theorem reinitConfig_eq (hr : Bounds b r) :
    reinitConfig r =
      ({ r with watermeterConfig := (defaultRecord r).sealed, defaultConfig := false },
        clearUserData (.ofNat 32 b.userStart) ++
          .nvFlashWriteNew (defaultRecord r).sealed :: pageOps b 0 (defaultRecord r).sealed) := by
  have hwrite := writeConfig_default (b := b)
    (r := { r with watermeterConfig := defaultRecord r, defaultConfig := true }) rfl hr.start
  rw [reinitConfig, initDefaultConfig, hwrite, hr.start]

theorem applyAll_nvThen (v : Nvm) (b : Bank) (q : Nat) (c : Config) :
    applyAll v (.nvFlashWriteNew c :: pageOps b q c) = ⟨writeRecord b q c v.flash, some c⟩ := by
  rw [applyAll, List.foldl_cons]
  exact applyAll_pageOps _ b q c

/-! ### The bytes of a page -/

theorem writeRecord_page : pageAddr b q + c.toBytes.length = pageAddr b q + 28 := rfl

theorem openPage_before {x : Nat} (hx : x < pageAddr b q) : openPage b q m x = m x := by
  unfold openPage
  split
  · exact erase_outside (Or.inl hx)
  · rfl

theorem openPage_after {x : Nat} (hx : pageAddr b q + 4096 ≤ x) : openPage b q m x = m x := by
  unfold openPage
  split
  · exact erase_outside (Or.inr hx)
  · rfl

theorem writeRecord_before {x : Nat} (hx : x < pageAddr b q) : writeRecord b q c m x = m x := by
  rw [writeRecord, program_outside (Or.inl hx), openPage_before hx]

/-- Behind the record the page is as it was turned to. -/
theorem writeRecord_behind {x : Nat} (hx : pageAddr b q + 28 ≤ x) :
    writeRecord b q c m x = openPage b q m x :=
  program_outside (Or.inr hx)

theorem writeRecord_outside (hq : q < 832) {x : Nat} (hx : x < b.userStart ∨ b.userEnd ≤ x) :
    writeRecord b q c m x = m x := by
  have hpage : b.userStart ≤ pageAddr b q ∧ pageAddr b q + 256 ≤ b.userEnd := by
    unfold pageAddr Bank.userEnd flashPageSize userDataSize
    omega
  rcases hx with hbelow | habove
  · exact writeRecord_before (by omega)
  · rw [writeRecord_behind (by omega)]
    by_cases hopen : q % 16 = 0
    · apply openPage_after
      unfold pageAddr Bank.userEnd flashPageSize userDataSize at *
      omega
    · rw [openPage_inner hopen]

/-- The other pages keep their bytes, but for those of a sector that is opened. -/
theorem writeRecord_other (hj : j ≠ q) (hkeep : q % 16 = 0 → j < q ∨ q + 16 ≤ j) {x : Nat}
    (hl : pageAddr b j ≤ x) (hr : x < pageAddr b j + 256) : writeRecord b q c m x = m x := by
  have hpage : pageAddr b j + 256 ≤ pageAddr b q ∨ pageAddr b q + 256 ≤ pageAddr b j := by
    unfold pageAddr flashPageSize
    omega
  rcases hpage with hbefore | hafter
  · exact writeRecord_before (by omega)
  · rw [writeRecord_behind (by omega)]
    by_cases hopen : q % 16 = 0
    · apply openPage_after
      have hfar := hkeep hopen
      unfold pageAddr flashPageSize at *
      omega
    · rw [openPage_inner hopen]

theorem writeRecord_erased (hopen : q % 16 = 0) (hj : q < j) (hjs : j < q + 16) :
    Erased (writeRecord b q c m) (pageAddr b j) 256 := by
  intro x hl hr
  have hpage : pageAddr b q + 256 ≤ pageAddr b j ∧ pageAddr b j + 256 ≤ pageAddr b q + 4096 := by
    unfold pageAddr flashPageSize
    omega
  rw [writeRecord_behind (by omega), openPage_opened hopen]
  exact erase_inside (by omega) (by unfold flashSectorSize; omega)

/-- Erasing a page's sector makes room for any record. -/
theorem fits_openPage (hopen : q % 16 = 0) : Fits (openPage b q m) (pageAddr b q) c.toBytes := by
  apply Erased.fits
  rw [openPage_opened hopen]
  exact (erased_erase m _ _).mono (Nat.le_refl _) (by rw [writeRecord_page]; unfold flashSectorSize; omega)

theorem readConfig_writeRecord (hfit : Fits (openPage b q m) (pageAddr b q) c.toBytes) :
    readConfig (writeRecord b q c m) (pageAddr b q) = c :=
  readConfig_program hfit

/-- On the records of the ring a write is a write of the log. -/
theorem put_writeRecord (hfit : Fits (openPage b q m) (pageAddr b q) c.toBytes) (hc : c.Valid) :
    Put 832 16 (ringLog m b) (ringLog (writeRecord b q c m) b) q c where
  here := recordAt_program hfit hc
  opened := by
    intro hopen j hj hjs
    apply recordAt_of_erased
    exact (writeRecord_erased hopen hj hjs).mono (Nat.le_refl _) (by unfold sizeofConfig; omega)
  kept := by
    intro j _ hj hkeep
    refine recordAt_congr fun x hl hr => writeRecord_other hj hkeep hl ?_
    unfold sizeofConfig at hr
    omega

theorem clearRegion_erased (hj : j < 832) : Erased (clearRegion b m) (pageAddr b j) 256 := by
  refine (erased_erase m b.userStart userDataSize).mono ?_ ?_
  · unfold pageAddr; omega
  · unfold pageAddr flashPageSize userDataSize; omega

theorem clearRegion_outside {x : Nat} (hx : x < b.userStart ∨ b.userEnd ≤ x) : clearRegion b m x = m x :=
  erase_outside hx

/-- In a cleared region the first record stands alone. -/
theorem ringLog_writeRecord_clear (hj : 0 < j) (hj' : j < 832) :
    ringLog (writeRecord b 0 c (clearRegion b m)) b j = none := by
  apply recordAt_of_erased
  have herased : Erased (writeRecord b 0 c (clearRegion b m)) (pageAddr b j) 256 := by
    by_cases hsector : j < 16
    · exact writeRecord_erased (Nat.zero_mod 16) hj (by omega)
    · apply (clearRegion_erased (m := m) hj').congr
      intro x hl hr
      exact writeRecord_other (by omega) (fun _ => Or.inr (by omega)) hl hr
  exact herased.mono (Nat.le_refl _) (by unfold sizeofConfig; omega)

end Watermeter
