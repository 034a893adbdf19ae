import Watermeter.TornRecord

/-! The memory of a device that is off, and what its next start makes of it: a first start that has not been
completed, the NV item of an update, or a ring whose records end on some page. -/

namespace Watermeter

open NorFlash RingLog

variable {b : Bank} {p q j k : Nat} {m m' : Mem} {c : Config} {r : Ram} {v : Nvm} {supply : Supply} {t : Totals}

/-- There is no valid NV item, or a ring without a first page: the first start has not been completed. -/
def Unset (b : Bank) (v : Nvm) : Prop :=
  (∀ c, v.userCfg = some c → ¬ c.Valid) ∨
    RingItem v ∧ (readConfig v.flash b.userStart).id ≠ idConfig ∧ FlagClear b v.flash

/-- A start from `b` gives the totals `t`. -/
inductive Recoverable (b : Bank) (v : Nvm) (t : Totals) : Prop
  | first (hunset : Unset b v) (ht : t = defaultTotals)
  | update (c : Config) (hitem : v.userCfg = some c) (hvalid : c.Valid) (hota : c.newOta ≠ 0)
      (hsafe : FlagSafe b v.flash) (ht : c.totals = t)
  | ring (p : Nat) (c : Config) (hitem : RingItem v) (hpage : p < 832) (hnewest : Newest b p c v.flash)
      (hclear : FlagClear b v.flash) (ht : c.totals = t)

theorem mcuBootAddrGet_clear (h : mcuBootAddrGet m = b.base) (hclear : FlagClear b m')
    (hout : ∀ x, x < b.userStart ∨ b.userEnd ≤ x → m' x = m x) : mcuBootAddrGet m' = b.base := by
  refine mcuBootAddrGet_safe h hclear.safe fun x hl hr => hout x ?_
  have hbank := b.userStart_cases
  unfold Bank.userEnd userDataSize
  omega

/-- What a record on the first page leaves, whole or torn in its checksum. -/
theorem recoverable_torn (hboot : mcuBootAddrGet m = b.base) (hitem : RingItem v) (hflash : v.flash = tornPage b j c m)
    (h : Whole j c) (hid : c.id = idConfig) (hring : c.newOta = 0) (haddr : c.flashAddrStart = .ofNat 32 b.userStart) :
    mcuBootAddrGet v.flash = b.base ∧ Recoverable b v c.totals := by
  obtain ⟨crc, hnewest⟩ := torn_newest (b := b) (m := m) h hid hring
  have hclear := torn_clear (b := b) (m := m) h haddr
  rw [← hflash] at hnewest hclear
  refine ⟨mcuBootAddrGet_clear hboot hclear fun x hx => ?_, .ring 0 _ hitem (by omega) hnewest hclear rfl⟩
  rw [hflash]
  exact torn_outside hx

/-! ### Starts cut short -/

theorem whole_sealed : Whole j c.sealed ↔ Whole j c := Iff.rfl

/-- The sector of a page is erased, and `j` bytes are on it. -/
theorem page_torn (hq : q % 16 = 0) (v : Nvm) (bs : List Byte) (j : Nat) :
    applyAll v (cutShort 1 j [.flashErase (pageAddr b q), .flashWrite (pageAddr b q) bs]) =
      { v with flash := program (openPage b q v.flash) (pageAddr b q) (bs.take j) } := by
  rw [openPage_opened hq, ← flashEraseSector_page hq]
  rfl

/-- The NV item is written and the first page erased, and `j` bytes of the record are on it. -/
theorem nv_torn (hs : Powered supply) (v : Nvm) (b : Bank) (j : Nat) (c : Config) :
    performAll supply v (cutShort 2 j (.nvFlashWriteNew c :: pageOps b 0 c)) = ⟨tornPage b j c v.flash, some c⟩ := by
  have hpage := page_torn (b := b) (Nat.zero_mod 16) ⟨v.flash, some c⟩ c.toBytes j
  rw [performAll_eq_applyAll hs, pageOps_opened (Nat.zero_mod 16), tornPage]
  exact hpage

/-- The way back from an update into the ring. -/
theorem restore_cut (hboot : mcuBootAddrGet v.flash = b.base) (hs : Powered supply) (hcfg : v.userCfg = some c)
    (hc : c.Valid) (ho : c.newOta ≠ 0) (hsafe : FlagSafe b v.flash) (hr : Bounds b r) {c' : Config}
    (hc' : c' = (restoredRecord c r).sealed) (hk : k = 0 ∨ k = 2 ∧ Whole j (restoredRecord c r)) :
    mcuBootAddrGet (performAll supply v (cutShort k j (.nvFlashWriteNew c' :: pageOps b 0 c'))).flash = b.base ∧
      Recoverable b (performAll supply v (cutShort k j (.nvFlashWriteNew c' :: pageOps b 0 c'))) c.totals := by
  rcases hk with rfl | ⟨rfl, hwhole⟩
  · exact ⟨hboot, .update c hcfg hc ho hsafe rfl⟩
  have hitem : RingItem ⟨tornPage b j c' v.flash, some c'⟩ := by
    rw [hc']
    exact ⟨_, rfl, Config.sealed_valid hc.1, rfl⟩
  rw [nv_torn hs]
  have htotals : c.totals = c'.totals := by rw [hc']; rfl
  rw [htotals]
  subst hc'
  exact recoverable_torn hboot hitem rfl (whole_sealed.mpr hwhole) hc.1 rfl hr.start

theorem erased_unmarked (h : Erased m b.userStart 4096) :
    (readConfig m b.userStart).id ≠ idConfig ∧ FlagClear b m :=
  ⟨readConfig_id_of_erased (h.mono (Nat.le_refl _) (by unfold sizeofConfig; omega)),
    Or.inr ⟨h _ (by omega) (by omega), h _ (by omega) (by omega)⟩⟩

/-- The region is cleared sector by sector, from the first on. -/
theorem unset_clear (hboot : mcuBootAddrGet v.flash = b.base) (h : Unset b v) {n : Nat} (hn : n ≤ 52) :
    mcuBootAddrGet (erase v.flash b.userStart (flashSectorSize * n)) = b.base ∧
      Unset b { v with flash := erase v.flash b.userStart (flashSectorSize * n) } := by
  rcases Nat.eq_zero_or_pos n with rfl | hpos
  · have hsame : erase v.flash b.userStart (flashSectorSize * 0) = v.flash := funext fun x => erase_outside (by omega)
    rw [hsame]
    exact ⟨hboot, h⟩
  · have herased : Erased (erase v.flash b.userStart (flashSectorSize * n)) b.userStart 4096 :=
      (erased_erase v.flash _ _).mono (Nat.le_refl _) (by unfold flashSectorSize; omega)
    obtain ⟨hunmarked, hclear⟩ := erased_unmarked herased
    refine ⟨mcuBootAddrGet_clear hboot hclear fun x hx => erase_outside ?_,
      h.imp_right fun hring => ⟨hring.1, hunmarked, hclear⟩⟩
    unfold Bank.userEnd userDataSize at hx
    unfold flashSectorSize
    omega

theorem clearUserData_take (b : Bank) (hk : k ≤ 52) (v : Nvm) :
    applyAll v ((clearUserData (.ofNat 32 b.userStart)).take k) =
      { v with flash := erase v.flash b.userStart (flashSectorSize * k) } := by
  have hsectors : (clearUserData (.ofNat 32 b.userStart)).take k =
      (List.range k).map fun i => Op.flashEraseSector (b.userStart + flashSectorSize * i) := by
    rw [clearUserData, toNat_userStart, ← List.map_take, List.take_range, show userDataSize / flashSectorSize = 52 from rfl,
      Nat.min_eq_left hk]
  rw [hsectors]
  exact applyAll_sectors (fun _ _ => rfl) v b k

theorem length_clearUserData (b : Bank) : (clearUserData (.ofNat 32 b.userStart)).length = 52 := by
  rw [clearUserData, List.length_map, List.length_range]
  rfl

/-- The first initialisation. -/
theorem init_cut (hboot : mcuBootAddrGet v.flash = b.base) (hs : Powered supply) (h : Unset b v) (hr : Bounds b r)
    (hlen : k < 55) (hk : k = 54 → j < 4 ∨ Whole j (defaultRecord r)) :
    mcuBootAddrGet (performAll supply v (cutShort k j (reinitConfig r).2)).flash = b.base ∧
      Recoverable b (performAll supply v (cutShort k j (reinitConfig r).2)) defaultTotals := by
  rw [reinitConfig_eq hr, performAll_eq_applyAll hs]
  set c := (defaultRecord r).sealed with hc
  have hclear := length_clearUserData b
  by_cases hfirst : k < 52
  · have hcut : cutShort k j (clearUserData (.ofNat 32 b.userStart) ++ .nvFlashWriteNew c :: pageOps b 0 c) =
        (clearUserData (.ofNat 32 b.userStart)).take k := by
      rw [cutShort_append_left (by rw [hclear]; exact hfirst), cutShort_take]
      intro op hop
      obtain ⟨i, -, rfl⟩ := List.mem_map.mp hop
      rfl
    obtain ⟨hboot', hunset⟩ := unset_clear hboot h (Nat.le_of_lt hfirst)
    rw [hcut, clearUserData_take b (Nat.le_of_lt hfirst)]
    exact ⟨hboot', .first hunset rfl⟩
  obtain ⟨i, rfl⟩ := Nat.exists_eq_add_of_le (Nat.not_lt.mp hfirst)
  obtain ⟨hboot', hunset⟩ := unset_clear hboot h (Nat.le_refl 52)
  have hregion : erase v.flash b.userStart (flashSectorSize * 52) = clearRegion b v.flash := rfl
  have hunmarked := erased_unmarked (b := b) (m := clearRegion b v.flash)
    ((erased_erase v.flash _ _).mono (Nat.le_refl _) (by unfold userDataSize; omega))
  rw [hregion] at hboot' hunset
  have hright := cutShort_append_right (clearUserData (.ofNat 32 b.userStart)) i j (.nvFlashWriteNew c :: pageOps b 0 c)
  rw [hclear] at hright
  rw [hright, applyAll_append, applyAll_clearUserData, pageOps_opened (Nat.zero_mod 16)]
  have hitem : ∀ m, RingItem ⟨m, some c⟩ := fun m => ⟨c, rfl, Config.sealed_valid rfl, rfl⟩
  obtain rfl | rfl | rfl : i = 0 ∨ i = 1 ∨ i = 2 := by omega
  · exact ⟨hboot', .first hunset rfl⟩
  · exact ⟨hboot', .first (Or.inr ⟨hitem _, hunmarked⟩) rfl⟩
  · have hcut : applyAll { v with flash := clearRegion b v.flash } (cutShort 2 j
        [.nvFlashWriteNew c, .flashErase (pageAddr b 0), .flashWrite (pageAddr b 0) c.toBytes]) =
          ⟨tornPage b j c (clearRegion b v.flash), some c⟩ :=
      page_torn (Nat.zero_mod 16) ⟨clearRegion b v.flash, some c⟩ c.toBytes j
    rw [hcut]
    rcases hk rfl with hj | hwhole
    · have htorn := torn_unmarked (b := b) (m := clearRegion b v.flash) (c := c) hj
      exact ⟨mcuBootAddrGet_clear hboot' htorn.2 fun x hx => torn_outside hx, .first (Or.inr ⟨hitem _, htorn⟩) rfl⟩
    · exact recoverable_torn hboot' (hitem _) rfl (whole_sealed.mpr hwhole) rfl rfl hr.start

end Watermeter
