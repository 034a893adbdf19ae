import Watermeter.Recoverable
import Watermeter.StoreProgramRuns

/-! Runs in which the power may fail at any point. A device that is on keeps its records in the ring or in the NV
item; one that is off has a memory its next start recovers, to the totals from before or to those being written. -/

namespace Watermeter

open NorFlash RingLog Transition

variable {b : Bank} {p q j k : Nat} {m m' : Mem} {c : Config} {r : Ram} {v : Nvm} {supply : Supply} {t : Totals}

/-- The device is on, with its ring in use and either read to the pointer or without a first page, or with an
update running. -/
inductive Running (s : OtaDevice) : Prop
  | ring (b : Bank) (p : Nat) (held : RingHeld b p s) (read : (∃ c, Newest b p c s.nvm.flash ∧
      c.top = s.ram.watermeterConfig.top ∧ c.totals = s.passed) ∨ (readConfig s.nvm.flash b.userStart).id ≠ idConfig)
  | update (b : Bank) (c : Config) (use : OtaUse b c s)

theorem RingWhole.newest {s : OtaDevice} (h : RingWhole b 0 c s) : Newest b 0 c s.nvm.flash where
  chain := chain_read h.chain
  stop _ := h.tail.ends rfl c
  ring := h.ring

theorem RingWhole.running {s : OtaDevice} (h : RingWhole b 0 c s) : Running s :=
  .ring b 0 h.toRingHeld (Or.inl ⟨c, h.newest, h.number, h.held⟩)

/-! ### Starts -/

theorem Unset.init (hboot : mcuBootAddrGet v.flash = b.base) (h : Unset b v) :
    initConfig v Ram.zero = reinitConfig (getUserDataAddr v.flash Ram.zero) := by
  rcases h with hinvalid | ⟨hitem, hunmarked, -⟩
  · exact initConfig_invalid hinvalid Ram.zero
  · exact initConfig_lost hboot hitem hunmarked Ram.zero

/-- The ring of a start is not on the last page. -/
def Inside (b : Bank) (v : Nvm) : Prop := RingItem v → ∀ c, ¬ Chain Config.top (ringRead v.flash b) 831 c

theorem Recoverable.found (hboot : mcuBootAddrGet v.flash = b.base) (hitem : RingItem v) (hpage : p < 832)
    (hnewest : Newest b p c v.flash) (hinside : Inside b v) : p < 831 ∧ initConfig v Ram.zero =
      ({ getUserDataAddr v.flash Ram.zero with
        watermeterConfig := { c with flashAddrStart := .ofNat 32 (pageAddr b p) } }, []) := by
  have hp : p < 831 := by
    by_contra hlast
    obtain rfl : p = 831 := by omega
    exact hinside hitem c hnewest.chain
  exact ⟨hp, initConfig_read hboot hitem hnewest.chain (hnewest.stop hp) hp Ram.zero⟩

theorem Recoverable.totals (hboot : mcuBootAddrGet v.flash = b.base) (h : Recoverable b v t) (hinside : Inside b v) :
    (initConfig v Ram.zero).1.watermeterConfig.totals = t := by
  cases h with
  | first hunset ht =>
      rw [hunset.init hboot, reinitConfig_eq (getUserDataAddr_bounds hboot Ram.zero), ht]
      rfl
  | update c hitem hvalid hota hsafe ht =>
      rw [initConfig_restore_eq hboot hitem hvalid hota, ← ht]
      rfl
  | ring p c hitem hpage hnewest hclear ht =>
      rw [(Recoverable.found hboot hitem hpage hnewest hinside).2, ← ht]
      rfl

/-- A start that is not cut short recovers the totals, and leaves a device that goes on with them. -/
theorem Recoverable.start (hboot : mcuBootAddrGet v.flash = b.base) (h : Recoverable b v t) (hs : Powered supply)
    (hinside : Inside b v) : Running (startUp supply b Ram.zero v t) := by
  cases h with
  | first hunset ht =>
      rw [ht]
      exact (ringWhole_reinit hboot hs (hunset.init hboot)).running
  | update c hitem hvalid hota hsafe ht =>
      obtain ⟨c', -, -, hwhole⟩ := ringWhole_restored hboot hs hitem hvalid hota Ram.zero
      rw [ht] at hwhole
      exact hwhole.running
  | ring p c hitem hpage hnewest hclear ht =>
      obtain ⟨-, hfound⟩ := Recoverable.found hboot hitem hpage hnewest hinside
      have hbounds := getUserDataAddr_bounds hboot Ram.zero
      have hstart : startUp supply b Ram.zero v t = ⟨⟨{ getUserDataAddr v.flash Ram.zero with
          watermeterConfig := { c with flashAddrStart := .ofNat 32 (pageAddr b p) } }, v⟩, b.base, t⟩ := by
        rw [startUp, Device.initConfig, hfound]
        rfl
      rw [hstart]
      exact .ring b p
        { start := hbounds.start
          stop := hbounds.stop
          page := hpage
          pointer := rfl
          boot := hboot
          written := getUserDataAddr_default _ _
          ident := hnewest.ident
          mode := hnewest.ring
          item := hitem
          addr := rfl
          clear := hclear } (Or.inl ⟨c, hnewest, rfl, ht⟩)

/-- A start that is cut short leaves a memory that recovers the same totals. -/
theorem Recoverable.cut (hboot : mcuBootAddrGet v.flash = b.base) (h : Recoverable b v t) (hs : Powered supply)
    (hinside : Inside b v) (hlen : k < (initConfig v Ram.zero).2.length) (hrestore : UpdateItem v → RestoreSpared v k j)
    (hinit : ¬ UpdateItem v → InitSpared v k j) :
    mcuBootAddrGet (performAll supply v (cutShort k j (initConfig v Ram.zero).2)).flash = b.base ∧
      Recoverable b (performAll supply v (cutShort k j (initConfig v Ram.zero).2)) t := by
  have hbounds := getUserDataAddr_bounds hboot Ram.zero
  cases h with
  | first hunset ht =>
      have hnot : ¬ UpdateItem v := by
        rintro ⟨c, hcfg, hvalid, hota⟩
        rcases hunset with hinvalid | ⟨⟨c', hcfg', -, hring⟩, -⟩
        · exact hinvalid c hcfg hvalid
        · rw [hcfg] at hcfg'
          rw [← Option.some.inj hcfg'] at hring
          exact hota hring
      rw [hunset.init hboot] at hlen ⊢
      have hcount : (reinitConfig (getUserDataAddr v.flash Ram.zero)).2.length = 55 := by
        rw [reinitConfig_eq hbounds, List.length_append, length_clearUserData, pageOps_opened (Nat.zero_mod 16)]
        rfl
      rw [hcount] at hlen
      rw [ht]
      exact init_cut hboot hs hunset hbounds hlen (hinit hnot)
  | update c hitem hvalid hota hsafe ht =>
      rw [initConfig_restore_eq hboot hitem hvalid hota, ← ht]
      exact restore_cut hboot hs hitem hvalid hota hsafe hbounds rfl (hrestore ⟨c, hitem, hvalid, hota⟩ c hitem)
  | ring p c hitem hpage hnewest hclear ht =>
      rw [(Recoverable.found hboot hitem hpage hnewest hinside).2] at hlen
      exact absurd hlen (Nat.not_lt_zero k)

/-! ### Saves in the ring -/

section Save

variable {s : OtaDevice} (h : RingHeld b p s)
include h

theorem RingHeld.next_eq_start : nextFlashAddr s.ram = s.ram.configAddrStart ↔ succSlot 832 p = 0 := by
  rw [← BitVec.toNat_inj, h.toNat_nextFlashAddr, h.start, toNat_userStart]
  unfold pageAddr flashPageSize
  omega

theorem RingHeld.ends (hends : Ends m s.ram) (hq : succSlot 832 p < 831) :
    ¬ Continues Config.top (nextConfig s.ram) (ringLog m b (succSlot 832 p + 1)) := by
  have hle := userStart_le b
  have hpage : (nextFlashAddr s.ram).toNat + flashPageSize = pageAddr b (succSlot 832 p + 1) := by
    rw [h.toNat_nextFlashAddr, pageAddr_succ]
  rw [ringLog, ← hpage]
  apply hends
  intro hlast
  have hnat := congrArg BitVec.toNat hlast
  rw [h.stop, toNat_userEnd, h.nextFlashAddr, ← BitVec.ofNat_add, pageAddr_succ, BitVec.toNat_ofNat] at hnat
  unfold pageAddr Bank.userEnd flashPageSize userDataSize at hnat
  omega

/-- What a save leaves of the ring. -/
theorem RingHeld.save_read (hspared : SaveSpared s.nvm.flash s.ram)
    (hread : (∃ c, Newest b p c s.nvm.flash ∧ c.top = s.ram.watermeterConfig.top ∧ c.totals = s.passed) ∨
      (readConfig s.nvm.flash b.userStart).id ≠ idConfig) :
    Newest b (succSlot 832 p) (nextConfig s.ram) (writeRecord b (succSlot 832 p) (nextConfig s.ram) s.nvm.flash) ∨
      (readConfig (writeRecord b (succSlot 832 p) (nextConfig s.ram) s.nvm.flash) b.userStart).id ≠ idConfig := by
  have hvalid := nextConfig_valid h.ident
  by_cases hfirst : succSlot 832 p = 0
  · rw [hfirst]
    exact Or.inl (newest_first hvalid h.mode)
  rcases hread with ⟨c, hnewest, htop, -⟩ | hunmarked
  · refine Or.inl (hnewest.save h.page ?_ hvalid h.mode (by rw [nextConfig_top, htop]) fun hinner hq => ?_)
    · by_cases hopen : succSlot 832 p % 16 = 0
      · exact fits_openPage hopen
      · have hfits := (hspared fun hmod => hopen (h.nextFlashAddr_mod.mp hmod)).1
        rw [h.toNat_nextFlashAddr] at hfits
        rw [openPage_inner hopen]
        exact hfits
    · exact h.ends (hspared fun hmod => hinner (h.nextFlashAddr_mod.mp hmod)).2 hq
  · apply Or.inr
    rw [readConfig_congr fun x _ hr => writeRecord_before ?_]
    · exact hunmarked
    · unfold pageAddr flashPageSize
      unfold sizeofConfig at hr
      omega

/-- The memory of a ring that is read to the pointer. -/
theorem RingHeld.recoverable (hmarked : Marked s.nvm.flash)
    (hread : (∃ c, Newest b p c s.nvm.flash ∧ c.top = s.ram.watermeterConfig.top ∧ c.totals = s.passed) ∨
      (readConfig s.nvm.flash b.userStart).id ≠ idConfig) : Recoverable b s.nvm s.passed := by
  obtain ⟨c, hnewest, -, htotals⟩ := hread.resolve_right (not_not.mpr (hmarked b h.boot))
  exact .ring p c h.item h.page hnewest h.clear htotals

/-- A torn page behind the first leaves the way to the bank. -/
theorem RingHeld.torn_boot {bs : List Byte} (hq : succSlot 832 p = p + 1) (hlen : bs.length ≤ 256)
    (hflash : v.flash = program (openPage b (p + 1) s.nvm.flash) (pageAddr b (p + 1)) bs) :
    (∀ x, x < pageAddr b (p + 1) → v.flash x = s.nvm.flash x) ∧ FlagClear b v.flash ∧
      mcuBootAddrGet v.flash = b.base := by
  have hslot := succSlot_lt h.page
  rw [hq] at hslot
  have hbefore : ∀ x, x < pageAddr b (p + 1) → v.flash x = s.nvm.flash x := fun x hx => by
    rw [hflash, program_outside (Or.inl hx), openPage_before hx]
  have hpage : b.userStart + 256 ≤ pageAddr b (p + 1) ∧ pageAddr b (p + 1) + 256 ≤ b.userEnd := by
    unfold pageAddr Bank.userEnd flashPageSize userDataSize
    omega
  have hclear : FlagClear b v.flash := by
    unfold FlagClear
    rw [hbefore _ (by omega), hbefore _ (by omega)]
    exact h.clear
  refine ⟨hbefore, hclear, mcuBootAddrGet_clear h.boot hclear fun x hx => ?_⟩
  rcases hx with hbelow | habove
  · exact hbefore x (by omega)
  · rw [hflash, program_outside (Or.inr (by omega))]
    by_cases hopen : (p + 1) % 16 = 0
    · have hsector : pageAddr b (p + 1) + 4096 ≤ b.userEnd := by
        unfold pageAddr Bank.userEnd flashPageSize userDataSize
        omega
      exact openPage_after (by omega)
    · rw [openPage_inner hopen]

/-- A page behind the first that is torn holds the record that was to be written, or none that counts. -/
theorem RingHeld.torn_next {bs : List Byte} (hnewest : Newest b p c s.nvm.flash) (htop : c.top = s.ram.watermeterConfig.top)
    (htotals : c.totals = s.passed) (hq : succSlot 832 p = p + 1)
    (htorn : ∀ c', recordAt (program (openPage b (p + 1) s.nvm.flash) (pageAddr b (p + 1)) bs) (pageAddr b (p + 1)) = some c' →
      c'.top = (nextConfig s.ram).top → c' = nextConfig s.ram ∧ Ends (openPage b (p + 1) s.nvm.flash) s.ram)
    (hlen : bs.length ≤ 256) (hitem : RingItem v)
    (hflash : v.flash = program (openPage b (p + 1) s.nvm.flash) (pageAddr b (p + 1)) bs) :
    mcuBootAddrGet v.flash = b.base ∧
      ∃ t, Recoverable b v t ∧ (t = s.passed ∨ t = s.ram.watermeterConfig.totals) := by
  have hslot := succSlot_lt h.page
  rw [hq] at hslot
  obtain ⟨hbefore, hclear, hboot⟩ := h.torn_boot hq hlen hflash
  refine ⟨hboot, ?_⟩
  by_cases hnext : Continues Config.top c (ringLog v.flash b (p + 1))
  · obtain ⟨c', hlog, hseq⟩ := hnext
    rw [ringLog, hflash] at hlog
    obtain ⟨rfl, hends⟩ := htorn c' hlog (by rw [hseq, htop, nextConfig_top])
    have hchain : Chain Config.top (ringRead v.flash b) (p + 1) (nextConfig s.ram) := by
      refine .next (hnewest.chain.congr fun i hi => ringRead_congr fun x _ hr => hbefore x ?_) ?_ hseq
      · unfold pageAddr flashPageSize sizeofConfig at *
        omega
      · rw [hflash]
        exact hlog
    refine ⟨_, .ring (p + 1) (nextConfig s.ram) hitem hslot ⟨hchain, fun hlast => ?_, h.mode⟩ hclear rfl, Or.inr rfl⟩
    have hsame : ringLog v.flash b (p + 1 + 1) = ringLog (openPage b (p + 1) s.nvm.flash) b (p + 1 + 1) := by
      apply recordAt_congr
      intro x hl _
      rw [hflash]
      refine program_outside (Or.inr ?_)
      unfold pageAddr flashPageSize at *
      omega
    have hstop := h.ends hends (by rw [hq]; exact hlast)
    rw [hq] at hstop
    rw [hsame]
    exact hstop
  · refine ⟨_, .ring p c hitem h.page (hnewest.keep hbefore fun _ => hnext) hclear htotals, Or.inl rfl⟩

/-- A save to the first page is cut before its erase, or leaves the whole record. -/
theorem RingHeld.save_cut_first (hfirst : succSlot 832 p = 0)
    (hread : (∃ c, Newest b p c s.nvm.flash ∧ c.top = s.ram.watermeterConfig.top ∧ c.totals = s.passed) ∨
      (readConfig s.nvm.flash b.userStart).id ≠ idConfig)
    (hspared : k = 0 ∧ Marked s.nvm.flash ∨ k = 1 ∧ Whole j (nextConfig s.ram)) :
    mcuBootAddrGet (applyAll s.nvm (cutShort k j (pageOps b 0 (nextConfig s.ram)))).flash = b.base ∧
      ∃ t, Recoverable b (applyAll s.nvm (cutShort k j (pageOps b 0 (nextConfig s.ram)))) t ∧
        (t = s.passed ∨ t = s.ram.watermeterConfig.totals) := by
  have haddr := h.nextConfig_addr
  rw [hfirst, pageAddr_zero] at haddr
  rw [pageOps_opened (Nat.zero_mod 16)]
  rcases hspared with ⟨rfl, hmarked⟩ | ⟨rfl, hwhole⟩
  · exact ⟨h.boot, s.passed, h.recoverable hmarked hread, Or.inl rfl⟩
  · have hcut : applyAll s.nvm (cutShort 1 j
        [.flashErase (pageAddr b 0), .flashWrite (pageAddr b 0) (nextConfig s.ram).toBytes]) =
        { s.nvm with flash := tornPage b j (nextConfig s.ram) s.nvm.flash } := page_torn (Nat.zero_mod 16) _ _ _
    rw [hcut]
    obtain ⟨hboot, hrecover⟩ := recoverable_torn (v := { s.nvm with flash := tornPage b j (nextConfig s.ram) s.nvm.flash })
      h.boot h.item rfl hwhole h.ident h.mode haddr
    exact ⟨hboot, _, hrecover, Or.inr rfl⟩

/-- A save to a later page is cut before its erase, or leaves that page torn. -/
theorem RingHeld.save_cut_next (hq : succSlot 832 p = p + 1)
    (hread : (∃ c, Newest b p c s.nvm.flash ∧ c.top = s.ram.watermeterConfig.top ∧ c.totals = s.passed) ∨
      (readConfig s.nvm.flash b.userStart).id ≠ idConfig)
    (hspared : if nextFlashAddr s.ram % .ofNat 32 flashSectorSize = 0 then
        Marked s.nvm.flash ∧ (k = 1 → TornSpared (flashEraseSector s.nvm.flash (nextFlashAddr s.ram).toNat) s.ram j)
      else Marked s.nvm.flash ∧ TornSpared s.nvm.flash s.ram j)
    (hlen : k < (pageOps b (p + 1) (nextConfig s.ram)).length) :
    mcuBootAddrGet (applyAll s.nvm (cutShort k j (pageOps b (p + 1) (nextConfig s.ram)))).flash = b.base ∧
      ∃ t, Recoverable b (applyAll s.nvm (cutShort k j (pageOps b (p + 1) (nextConfig s.ram)))) t ∧
        (t = s.passed ∨ t = s.ram.watermeterConfig.totals) := by
  have hbytes : ((nextConfig s.ram).toBytes.take j).length ≤ 256 := by
    rw [List.length_take, Config.length_toBytes]
    exact (Nat.min_le_right _ _).trans (by decide)
  have haddr := h.toNat_nextFlashAddr
  have hmod := h.nextFlashAddr_mod
  rw [hq] at haddr hmod
  by_cases hopen : (p + 1) % 16 = 0
  · rw [if_pos (hmod.mpr hopen)] at hspared
    obtain ⟨hmarked, htorn⟩ := hspared
    rw [pageOps_opened hopen] at hlen ⊢
    obtain rfl | rfl : k = 0 ∨ k = 1 := by
      have hcount : k < 2 := hlen
      omega
    · exact ⟨h.boot, s.passed, h.recoverable hmarked hread, Or.inl rfl⟩
    · obtain ⟨c, hnewest, htop, htotals⟩ := hread.resolve_right (not_not.mpr (hmarked b h.boot))
      have htorn' := htorn rfl
      unfold TornSpared at htorn'
      rw [haddr, flashEraseSector_page hopen, ← openPage_opened hopen] at htorn'
      rw [page_torn hopen]
      exact h.torn_next hnewest htop htotals hq htorn' hbytes h.item rfl
  · rw [if_neg fun hzero => hopen (hmod.mp hzero)] at hspared
    obtain ⟨hmarked, htorn⟩ := hspared
    rw [pageOps_inner hopen] at hlen ⊢
    obtain rfl : k = 0 := by
      have hcount : k < 1 := hlen
      omega
    obtain ⟨c, hnewest, htop, htotals⟩ := hread.resolve_right (not_not.mpr (hmarked b h.boot))
    unfold TornSpared at htorn
    rw [haddr, ← openPage_inner (b := b) (m := s.nvm.flash) hopen] at htorn
    refine h.torn_next hnewest htop htotals hq htorn hbytes h.item ?_
    rw [openPage_inner hopen]
    rfl

/-- A save that is cut short leaves a memory that recovers the totals from before or the new ones. -/
theorem RingHeld.save_cut (hs : Powered supply)
    (hread : (∃ c, Newest b p c s.nvm.flash ∧ c.top = s.ram.watermeterConfig.top ∧ c.totals = s.passed) ∨
      (readConfig s.nvm.flash b.userStart).id ≠ idConfig)
    (hspared : SaveCutSpared s.nvm.flash s.ram k j)
    (hlen : k < (pageOps b (succSlot 832 p) (nextConfig s.ram)).length) :
    mcuBootAddrGet (performAll supply s.nvm (cutShort k j (pageOps b (succSlot 832 p) (nextConfig s.ram)))).flash = b.base ∧
      ∃ t, Recoverable b (performAll supply s.nvm (cutShort k j (pageOps b (succSlot 832 p) (nextConfig s.ram)))) t ∧
        (t = s.passed ∨ t = s.ram.watermeterConfig.totals) := by
  rw [performAll_eq_applyAll hs]
  unfold SaveCutSpared at hspared
  by_cases hfirst : succSlot 832 p = 0
  · rw [if_pos (h.next_eq_start.mpr hfirst)] at hspared
    rw [hfirst]
    exact h.save_cut_first hfirst hread hspared
  · rw [if_neg fun heq => hfirst (h.next_eq_start.mp heq)] at hspared
    have hq : succSlot 832 p = p + 1 := by
      unfold succSlot at hfirst ⊢
      split at hfirst
      · exact absurd rfl hfirst
      · next hlast => rw [if_neg hlast]
    rw [hq] at hlen ⊢
    exact h.save_cut_next hq hread hspared hlen

end Save

end Watermeter
