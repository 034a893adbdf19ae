import Watermeter.OtaInvariant

/-! Which pages the store programs. The pointer's sector is erased behind it and a sector is erased when the
pointer enters it, so every record goes into an erased page, as long as no scan has run past the newest
record into records that an earlier ring left behind. -/

namespace Watermeter

open NorFlash RingLog Transition

/-- Every page programmed by the calls is erased when its turn comes, and so read back as written. -/
def ProgramsErased : Nvm → List Op → Prop
  | _, [] => True
  | v, .flashWrite addr buf :: ops =>
    (Erased v.flash addr buf.length ∧ read (program v.flash addr buf) addr buf.length = buf) ∧
      ProgramsErased ((Op.flashWrite addr buf).apply v) ops
  | v, op :: ops => ProgramsErased (op.apply v) ops

/-- The first page starts a ring, and the page after the pointer holds a valid record of the next number. -/
def StaleAhead (s : OtaDevice) : Prop :=
  s.ram.watermeterConfig.newOta = 0 ∧
    (readConfig s.nvm.flash s.ram.configAddrStart.toNat).id = idConfig ∧
    s.ram.watermeterConfig.flashAddrStart.toNat + flashPageSize < s.ram.configAddrEnd.toNat ∧
    Continues Config.top s.ram.watermeterConfig
      (recordAt s.nvm.flash (s.ram.watermeterConfig.flashAddrStart.toNat + flashPageSize))

/-- The store programs erased pages only in this step. -/
def CleanStep (s : OtaDevice) (e : Supply × OtaEvent) : Prop :=
  ProgramsErased (s.storeOps e.1 e.2).1 (s.storeOps e.1 e.2).2.2

/-- The supply is good, and no power cycle finds a stale record ahead of the pointer. -/
def NoneStale (s : OtaDevice) (e : Supply × OtaEvent) : Prop :=
  Powered e.1 ∧ (e.2 = .reboot → ¬ StaleAhead s)

variable {b : Bank} {p q : Nat} {m : Mem} {c : Config} {s : OtaDevice} {supply : Supply} {v : Nvm}

theorem programsErased_pageOps (hpage : q % 16 ≠ 0 → Erased v.flash (pageAddr b q) 256) (c : Config) :
    ProgramsErased v (pageOps b q c) := by
  have hback : ∀ w : Nvm, Erased w.flash (pageAddr b q) 256 →
      ProgramsErased w [.flashWrite (pageAddr b q) c.toBytes] := by
    intro w herased
    have hroom : Erased w.flash (pageAddr b q) c.toBytes.length :=
      herased.mono (Nat.le_refl _) (by rw [writeRecord_page]; omega)
    exact ⟨⟨hroom, read_program_eq_iff.mpr hroom.fits⟩, trivial⟩
  by_cases hopen : q % 16 = 0
  · rw [pageOps_opened hopen]
    apply hback ((Op.flashErase (pageAddr b q)).apply v)
    show Erased (flashEraseSector v.flash (pageAddr b q)) _ _
    rw [flashEraseSector_page hopen]
    exact (erased_erase _ _ _).mono (Nat.le_refl _) (by unfold flashSectorSize; omega)
  · rw [pageOps_inner hopen]
    exact hback v (hpage hopen)

theorem programsErased_restart (v : Nvm) (b : Bank) (c c' : Config) :
    ProgramsErased v (.nvFlashWriteNew c :: pageOps b 0 c') :=
  programsErased_pageOps (v := (Op.nvFlashWriteNew c).apply v) (fun h => absurd rfl h) c'

theorem programsErased_sectors (addr : Nat → Nat) {ops : List Op} (hops : ∀ v, ProgramsErased v ops)
    (is : List Nat) (v : Nvm) : ProgramsErased v (is.map (fun i => .flashEraseSector (addr i)) ++ ops) := by
  induction is generalizing v with
  | nil => exact hops v
  | cons i is ih => exact ih _

theorem programsErased_reinit (hboot : mcuBootAddrGet v.flash = b.base) (r : Ram)
    (hinit : initConfig v r = reinitConfig (getUserDataAddr v.flash r)) :
    ProgramsErased v (initConfig v r).2 := by
  rw [hinit, reinitConfig_eq (getUserDataAddr_bounds hboot r)]
  exact programsErased_sectors _ (fun v => programsErased_restart v b _ _) _ v

/-! ### The invariant -/

/-- Either the ring is in use, whole or with its first page lost, or an update is running. -/
def Sound (s : OtaDevice) : Prop :=
  (∃ b p c, RingUse b p c s ∧
    (Chain Config.top (ringLog s.nvm.flash b) p c ∨ PageErased b s.nvm.flash 0)) ∨
  ∃ b c, OtaUse b c s

theorem pageErased_lost (h : PageErased b m 0) : (readConfig m b.userStart).id ≠ idConfig := by
  rw [← pageAddr_zero]
  exact readConfig_id_of_erased (h.mono (Nat.le_refl _) (by unfold sizeofConfig; omega))

/-- At a good supply an accepted image costs the ring its first page. -/
theorem pageErased_accept (hs : Powered supply) (v : Nvm) (b : Bank) (imageSize : Nat) :
    PageErased b (performAll supply v (imageSectors b.base imageSize)).flash 0 := by
  unfold imageSectors
  rw [List.range_succ_eq_map, List.map_cons, performAll, perform_eq_apply (hs 0)]
  refine performAll_induction (P := fun w => PageErased b w.flash 0) ?_ _ ?_
  · rintro w op hop herased
    obtain ⟨i, -, rfl⟩ := List.mem_map.mp hop
    exact Erased.erase herased _ _
  · show Erased (flashEraseSector v.flash _) _ _
    rw [imageBase_eq, Nat.mul_zero, Nat.add_zero, ← pageAddr_zero, flashEraseSector_page (Nat.zero_mod 16)]
    exact (erased_erase _ _ _).mono (Nat.le_refl _) (by unfold flashSectorSize; omega)

/-- Whatever is known of the first page of the ring outlives a save. -/
theorem RingUse.save_head (h : RingUse b p c s) (hs : Powered supply)
    (hhead : Chain Config.top (ringLog s.nvm.flash b) p c ∨ PageErased b s.nvm.flash 0) :
    Chain Config.top (ringLog (s.step (supply, .save)).nvm.flash b) (succSlot 832 p) (nextConfig s.ram) ∨
      PageErased b (s.step (supply, .save)).nvm.flash 0 := by
  have hroom : Room b p s.toDevice := h.tail.fits _
  have hput := h.toRingMode.put hs hroom
  have hflash : (s.step (supply, .save)).nvm.flash = (s.toDevice.writeConfig supply).nvm.flash := rfl
  rw [hflash]
  rcases hhead with hchain | herased
  · exact Or.inl (hput.chain h.page hchain ((nextConfig_top _).trans (by rw [h.number])))
  · by_cases hwrap : succSlot 832 p = 0
    · rw [hwrap] at hput ⊢
      exact Or.inl (.first hput.here)
    · apply Or.inr
      rw [h.writeConfig_eq hs]
      apply herased.congr
      intro x hl hr
      exact writeRecord_other (fun h0 => hwrap h0.symm) (fun _ => Or.inl (by omega)) hl hr

/-- A power cycle without a stale record ahead: the ring is found again or started anew. -/
theorem RingUse.reboot_cases (h : RingUse b p c s)
    (hhead : Chain Config.top (ringLog s.nvm.flash b) p c ∨ PageErased b s.nvm.flash 0)
    (hstale : ¬ StaleAhead s) :
    (Chain Config.top (ringLog s.nvm.flash b) p c ∧
      ¬ Continues Config.top c (ringLog s.nvm.flash b (p + 1)) ∧ p < 831) ∨
    initConfig s.nvm Ram.zero = reinitConfig (getUserDataAddr s.nvm.flash Ram.zero) := by
  rcases hhead with hchain | herased
  swap
  · exact Or.inr (initConfig_lost h.boot h.item (pageErased_lost herased) _)
  by_cases hlast : p = 831
  · subst hlast
    exact Or.inr (initConfig_exhausted h.boot h.item hchain _)
  have hp : p < 831 := by
    have hpage := h.page
    omega
  refine Or.inl ⟨hchain, fun hnext => hstale ⟨h.mode, ?_, ?_, ?_⟩, hp⟩
  · obtain ⟨r₀, hfirst⟩ := hchain.head
    obtain ⟨hread, hvalid⟩ := recordAt_eq_some.mp hfirst
    rw [h.start, toNat_userStart, ← pageAddr_zero, hread]
    exact hvalid.1
  · rw [h.toNat_pointer, h.stop, toNat_userEnd, pageAddr_succ]
    unfold pageAddr Bank.userEnd flashPageSize userDataSize
    omega
  · rw [h.toNat_pointer, pageAddr_succ]
    obtain ⟨r', hr', hseq⟩ := hnext
    exact ⟨r', hr', hseq.trans (by rw [h.number])⟩

theorem RingWhole.sound (h : RingWhole b p c s) : Sound s := Or.inl ⟨b, p, c, h.toRingUse, Or.inl h.chain⟩

/-- The invariant survives every step. -/
theorem Sound.step (h : Sound s) {e : Supply × OtaEvent} (he : NoneStale s e) : Sound (s.step e) := by
  obtain ⟨supply, e⟩ := e
  obtain ⟨hs, hreboot⟩ := he
  rcases h with ⟨b, p, c, huse, hhead⟩ | ⟨b, c, huse⟩
  · cases e with
    | set t => exact Or.inl ⟨b, p, c, huse.step_set supply t, hhead⟩
    | save => exact Or.inl ⟨b, _, _, huse.step_save hs, huse.save_head hs hhead⟩
    | reboot =>
        rcases huse.reboot_cases hhead (hreboot rfl) with ⟨hchain, hstop, hp⟩ | hinit
        · rw [huse.step_reboot_found supply hchain hstop hp]
          exact (huse.found supply hchain hstop hp).1.sound
        · rw [huse.step_reboot_lost supply hinit]
          exact (ringWhole_reinit huse.boot hs hinit).sound
    | accept imageSize =>
        refine Or.inl ⟨b, p, c, huse.step_accept supply imageSize, ?_⟩
        by_cases hsize : imageSize ≤ flashOtaImageMaxSize
        · have herased := pageErased_accept (fun i => hs (i + 100)) s.nvm b imageSize
          simp only [OtaDevice.step, OtaDevice.storeOps, if_pos hsize, huse.addr]
          exact Or.inr herased
        · simp only [OtaDevice.step, OtaDevice.storeOps, if_neg hsize]
          exact hhead
    | start =>
        obtain ⟨c', -, hota⟩ := huse.step_start supply
        exact Or.inr ⟨b, c', hota⟩
    | block offset data => rw [huse.step_block]; exact Or.inl ⟨b, p, c, huse, hhead⟩
    | abort => rw [huse.step_abort]; exact Or.inl ⟨b, p, c, huse, hhead⟩
    | success => rw [huse.step_success]; exact Or.inl ⟨b, p, c, huse, hhead⟩
  · cases e with
    | set t => exact Or.inr ⟨b, c, huse.step_set supply t⟩
    | save => exact Or.inr ⟨b, huse.step_save supply⟩
    | reboot =>
        obtain ⟨c', -, -, hwhole⟩ := huse.step_reboot hs
        exact hwhole.sound
    | accept imageSize => exact Or.inr ⟨b, c, huse.step_accept supply imageSize⟩
    | start =>
        obtain ⟨c', -, hota⟩ := huse.step_start supply
        exact Or.inr ⟨b, c', hota⟩
    | block offset data => exact Or.inr ⟨b, c, huse.step_block supply offset data⟩
    | abort =>
        obtain ⟨c', -, -, hwhole⟩ := huse.step_abort hs
        exact hwhole.sound
    | success =>
        cases hreset : s.resets supply .success with
        | false => exact Or.inr ⟨b, c, huse.step_success_stay hreset⟩
        | true =>
            obtain ⟨c', -, -, hwhole⟩ := huse.step_success_switch hs hreset
            exact hwhole.sound

theorem programsErased_item (v : Nvm) (c : Config) : ProgramsErased v [.nvFlashWriteNew c] := trivial

theorem programsErased_restore (hboot : mcuBootAddrGet v.flash = b.base) (hcfg : v.userCfg = some c)
    (hc : c.Valid) (ho : c.newOta ≠ 0) (r : Ram) : ProgramsErased v (initConfig v r).2 := by
  rw [initConfig_restore_eq hboot hcfg hc ho]
  exact programsErased_restart v b _ _

theorem RingUse.cleanStep (h : RingUse b p c s) {e : OtaEvent}
    (hhead : Chain Config.top (ringLog s.nvm.flash b) p c ∨ PageErased b s.nvm.flash 0)
    (hreboot : e = .reboot → ¬ StaleAhead s) : CleanStep s (supply, e) := by
  unfold CleanStep
  cases e with
  | set t => exact trivial
  | save =>
      show ProgramsErased s.nvm (writeConfig s.ram).2
      rw [writeConfig_ring h.toPlaced h.written h.mode]
      exact programsErased_pageOps h.tail.next _
  | reboot =>
      show ProgramsErased s.nvm (initConfig s.nvm Ram.zero).2
      rcases h.reboot_cases hhead (hreboot rfl) with ⟨hchain, hstop, hp⟩ | hinit
      · rw [initConfig_found h.boot h.item hchain hstop hp]
        exact trivial
      · exact programsErased_reinit h.boot _ hinit
  | accept imageSize =>
      simp only [OtaDevice.storeOps]
      split <;> exact trivial
  | start =>
      simp only [OtaDevice.storeOps, OtaDevice.writeConfig_started h.written]
      exact programsErased_item _ _
  | block offset data =>
      simp only [OtaDevice.storeOps]
      split <;> exact trivial
  | abort =>
      simp only [OtaDevice.storeOps, if_neg (not_not.mpr h.mode)]
      exact trivial
  | success =>
      have hrefused : otaMcuReboot b.base (clientSupply supply) s.nvm.flash = (false, s.nvm.flash) :=
        otaMcuReboot_refused h.clear.ne_magic
      simp only [OtaDevice.storeOps, OtaDevice.resets, h.addr, hrefused]
      exact trivial

theorem OtaUse.cleanStep (h : OtaUse b c s) (hs : Powered supply) (e : OtaEvent) : CleanStep s (supply, e) := by
  unfold CleanStep
  cases e with
  | set t => exact trivial
  | save =>
      show ProgramsErased s.nvm (writeConfig s.ram).2
      rw [writeConfig_ota h.written h.mode]
      exact programsErased_item _ _
  | reboot => exact programsErased_restore h.boot h.item h.valid h.ota _
  | accept imageSize =>
      simp only [OtaDevice.storeOps]
      split <;> exact trivial
  | start =>
      simp only [OtaDevice.storeOps, OtaDevice.writeConfig_started h.written]
      exact programsErased_item _ _
  | block offset data =>
      simp only [OtaDevice.storeOps]
      split <;> exact trivial
  | abort =>
      simp only [OtaDevice.storeOps, if_pos h.mode]
      exact programsErased_restore h.boot h.item h.valid h.ota _
  | success =>
      cases hreset : s.resets supply .success with
      | false =>
          rw [OtaDevice.storeOps, hreset]
          exact trivial
      | true =>
          have hitem : (s.switched supply).userCfg = some c := h.item
          rw [OtaDevice.storeOps, hreset, if_pos rfl]
          exact programsErased_restore (h.switched_boot hs hreset) hitem h.valid h.ota _

/-- In every state of the invariant the store programs erased pages only. -/
theorem Sound.cleanStep (h : Sound s) {e : Supply × OtaEvent} (he : NoneStale s e) : CleanStep s e := by
  rcases h with ⟨b, p, c, huse, hhead⟩ | ⟨b, c, huse⟩
  · exact huse.cleanStep hhead he.2
  · exact huse.cleanStep he.1 e.2

end Watermeter
