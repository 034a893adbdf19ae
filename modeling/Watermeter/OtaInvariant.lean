import Watermeter.OtaDevice

/-! What holds between events: the device either keeps its records in the ring or has an update running and
keeps them in the NV item, and nothing the client does to the inactive bank changes the bank it boots
from. -/

namespace Watermeter

open NorFlash RingLog

variable {b : Bank} {p : Nat} {m m' : Mem} {c : Config} {s : OtaDevice} {supply : Supply}

/-! ### The header of the inactive bank -/

/-- The header as the ring leaves it: a record lies over the flag, or it is erased. -/
def FlagClear (b : Bank) (m : Mem) : Prop :=
  m (b.userStart + 9) = 0#8 ∨ m (b.userStart + 8) = 0xFF#8 ∧ m (b.userStart + 9) = 0xFF#8

theorem FlagClear.safe (h : FlagClear b m) : FlagSafe b m := by
  intro _
  rcases h with h | ⟨h, -⟩
  · rw [h]; exact Or.inr (by decide)
  · rw [h]; exact Or.inl (by decide)

theorem FlagClear.ne_magic (h : FlagClear b m) : m (b.userStart + 9) ≠ 0x4e#8 := by
  rcases h with h | ⟨-, h⟩
  · rw [h]; decide
  · rw [h]; decide

theorem FlagSafe.ne_flag (h : FlagSafe b m) (hb : b = .high) : read32 m (b.userStart + 8) ≠ tlStartUpFlagWhole := by
  intro hflag
  obtain ⟨h0, h1, -, -⟩ := read32_flag hflag
  rcases h hb with hne | hne
  · exact hne h0
  · exact hne (by rw [show b.userStart + 9 = b.userStart + 8 + 1 by omega, h1]; rfl)

theorem mcuBootAddrGet_safe (h : mcuBootAddrGet m = b.base) (hsafe : FlagSafe b m')
    (hbase : ∀ x, b.base + 8 ≤ x → x < b.base + 12 → m' x = m x) : mcuBootAddrGet m' = b.base := by
  have hflag : read32 m' (b.base + 8) = read32 m (b.base + 8) :=
    read32_congr fun x hl hr => hbase x hl (by omega)
  cases b with
  | low =>
      rw [mcuBootAddrGet_low] at h ⊢
      exact hflag.trans h
  | high =>
      rw [mcuBootAddrGet_high] at h ⊢
      exact ⟨hsafe.ne_flag rfl, hflag.trans h.2⟩

theorem flagClear_writeRecord {q : Nat} (h : FlagClear b m)
    (hc : c.flashAddrStart = .ofNat 32 (pageAddr b q)) : FlagClear b (writeRecord b q c m) := by
  rcases Nat.eq_zero_or_pos q with rfl | hpos
  · exact Or.inl (writeRecord_byte hc)
  · have hbefore : ∀ k, k < 256 → writeRecord b q c m (b.userStart + k) = m (b.userStart + k) := by
      intro k hk
      apply writeRecord_before
      unfold pageAddr flashPageSize
      omega
    unfold FlagClear
    rw [hbefore 8 (by omega), hbefore 9 (by omega)]
    exact h

/-! ### The client at work -/

/-- Sector by sector the memory is as it was or erased, and only from `a` on for 53 sectors. -/
structure SectorsErased (a : Nat) (m m' : Mem) : Prop where
  outside : ∀ x, x < a ∨ a + 0x35000 ≤ x → m' x = m x
  sector : ∀ k, (∀ x, a + 4096 * k ≤ x → x < a + 4096 * k + 4096 → m' x = m x) ∨
    Erased m' (a + 4096 * k) 4096

theorem SectorsErased.refl (a : Nat) (m : Mem) : SectorsErased a m m :=
  ⟨fun _ _ => rfl, fun _ => Or.inl fun _ _ _ => rfl⟩

theorem SectorsErased.erase {a : Nat} (h : SectorsErased a m m') {n : Nat} (hn : n < 53) :
    SectorsErased a m (NorFlash.erase m' (a + 4096 * n) 4096) where
  outside x hx := (erase_outside (by omega)).trans (h.outside x hx)
  sector k := by
    by_cases hk : k = n
    · subst hk
      exact Or.inr (erased_erase _ _ _)
    · rcases h.sector k with hsame | herased
      · refine Or.inl fun x hl hr => (erase_outside ?_).trans (hsame x hl hr)
        omega
      · exact Or.inr (herased.erase _ _)

/-- A page lies in one sector. -/
theorem SectorsErased.page (h : SectorsErased b.userStart m m') (j : Nat) :
    (∀ x, pageAddr b j ≤ x → x < pageAddr b j + 256 → m' x = m x) ∨ Erased m' (pageAddr b j) 256 := by
  have hpage : b.userStart + 4096 * (j / 16) ≤ pageAddr b j ∧
      pageAddr b j + 256 ≤ b.userStart + 4096 * (j / 16) + 4096 := by
    unfold pageAddr flashPageSize
    omega
  rcases h.sector (j / 16) with hsame | herased
  · exact Or.inl fun x hl hr => hsame x (by omega) (by omega)
  · exact Or.inr (herased.mono (by omega) (by omega))

theorem SectorsErased.base (h : SectorsErased b.userStart m m') {x : Nat} (hl : b.base + 8 ≤ x)
    (hr : x < b.base + 12) : m' x = m x := by
  have hbank := b.userStart_cases
  exact h.outside x (by omega)

theorem SectorsErased.header (h : SectorsErased b.userStart m m') :
    m' (b.userStart + 8) = m (b.userStart + 8) ∧ m' (b.userStart + 9) = m (b.userStart + 9) ∨
      m' (b.userStart + 8) = 0xFF#8 ∧ m' (b.userStart + 9) = 0xFF#8 := by
  rcases h.sector 0 with hsame | herased
  · exact Or.inl ⟨hsame _ (by omega) (by omega), hsame _ (by omega) (by omega)⟩
  · exact Or.inr ⟨herased _ (by omega) (by omega), herased _ (by omega) (by omega)⟩

theorem SectorsErased.flagSafe (h : SectorsErased b.userStart m m') (hsafe : FlagSafe b m) : FlagSafe b m' := by
  intro hb
  rcases h.header with ⟨h8, h9⟩ | ⟨h8, -⟩
  · rw [h8, h9]; exact hsafe hb
  · rw [h8]; exact Or.inl (by decide)

theorem SectorsErased.flagClear (h : SectorsErased b.userStart m m') (hclear : FlagClear b m) :
    FlagClear b m' := by
  rcases h.header with ⟨h8, h9⟩ | hff
  · unfold FlagClear
    rw [h8, h9]
    exact hclear
  · exact Or.inr hff

theorem imageBase_eq (b : Bank) : imageBase b.base = b.userStart := by cases b <;> rfl

/-- Accepting an image erases sectors, as far as the supply allows. -/
theorem sectorsErased_accept (supply : Supply) (v : Nvm) {imageSize : Nat} (hsize : imageSize ≤ flashOtaImageMaxSize) :
    SectorsErased b.userStart v.flash (performAll supply v (imageSectors b.base imageSize)).flash ∧
      (performAll supply v (imageSectors b.base imageSize)).userCfg = v.userCfg := by
  refine performAll_induction (P := fun w => SectorsErased b.userStart v.flash w.flash ∧ w.userCfg = v.userCfg)
    ?_ supply ⟨.refl _ _, rfl⟩
  rintro w op hop ⟨herased, hcfg⟩
  obtain ⟨i, hi, rfl⟩ := List.mem_map.mp hop
  rw [List.mem_range] at hi
  unfold flashOtaImageMaxSize at hsize
  unfold flashSectorSize at hi
  refine ⟨?_, hcfg⟩
  have haligned : (b.userStart + 4096 * i) % 4096 = 0 := by
    have hmod := userStart_mod b
    omega
  show SectorsErased _ _ (flashEraseSector w.flash (imageBase b.base + flashSectorSize * i))
  rw [imageBase_eq, flashEraseSector, flashSectorSize, haligned, Nat.sub_zero]
  exact herased.erase (by omega)

@[simp] theorem length_withheld (offset : Nat) (data : List Byte) : (withheld offset data).length = data.length := by
  unfold withheld
  split
  · exact List.length_set
  · rfl

theorem withheld_flag {offset : Nat} {data : List Byte} (ho : offset ≤ 8) (hlen : 8 < offset + data.length) :
    (withheld offset data).getD (8 - offset) 0xFF#8 = 0xFF#8 := by
  rw [withheld, flashTlnkFlagOffset, if_pos ho, List.getD, List.getElem?_set_self (by omega)]
  rfl

/-- What a block may change: it stays in the bank, keeps the withheld byte and can only clear bits. -/
theorem block_spec (mv : Nat) (m : Mem) {offset : Nat} {data : List Byte}
    (hlen : offset + data.length ≤ flashOtaImageMaxSize) :
    let m' := (flashWriteWithCheck mv m (b.userStart + offset) (withheld offset data)).2
    (∀ x, x < b.userStart ∨ b.userEnd ≤ x → m' x = m x) ∧ (FlagSafe b m → FlagSafe b m') := by
  intro m'
  by_cases hmv : mv < batterySafetyThreshold
  · have heq : m' = m := by simp only [m', flashWriteWithCheck, if_pos hmv]
    rw [heq]
    exact ⟨fun _ _ => rfl, id⟩
  have heq : m' = program m (b.userStart + offset) (withheld offset data) := by
    simp only [m', flashWriteWithCheck, if_neg hmv]
  rw [heq]
  unfold flashOtaImageMaxSize at hlen
  refine ⟨fun x hx => program_outside ?_, fun hsafe hb => ?_⟩
  · rw [length_withheld]
    unfold Bank.userEnd userDataSize at hx
    omega
  · have hbyte : program m (b.userStart + offset) (withheld offset data) (b.userStart + 8) = m (b.userStart + 8) := by
      by_cases hin : offset ≤ 8 ∧ 8 < offset + data.length
      · rw [show b.userStart + 8 = b.userStart + offset + (8 - offset) by omega,
          program_inside (by rw [length_withheld]; omega), withheld_flag hin.1 hin.2]
        exact BitVec.and_allOnes
      · exact program_outside (by rw [length_withheld]; omega)
    rw [hbyte]
    exact (hsafe hb).imp_right program_and_mask

/-! ### The two modes -/

def PageErased (b : Bank) (m : Mem) (q : Nat) : Prop := Erased m (pageAddr b q) 256

theorem PageErased.log {m : Mem} {q : Nat} (h : PageErased b m q) : ringLog m b q = none :=
  recordAt_of_erased (h.mono (Nat.le_refl _) (by unfold sizeofConfig; omega))

/-- Within the sector of the pointer no record comes after it. -/
theorem TailErased.ends {m : Mem} (h : TailErased b p m) (hsector : (p + 1) / 16 = p / 16) (r : Config) :
    ¬ Continues Config.top r (ringLog m b (p + 1)) :=
  not_continues_of_none (PageErased.log (h (p + 1) (Nat.lt_succ_self p) hsector))

/-- The ring is in use, whatever its pages hold. -/
structure RingHeld (b : Bank) (p : Nat) (s : OtaDevice) : Prop extends RingMode b p s.toDevice where
  addr : s.mcuBootAddr = b.base
  clear : FlagClear b s.nvm.flash

/-- The ring is in use. Up to the pointer every page either still holds its record of the chain that ends
with `c`, the record last written, or has been erased by the client. -/
structure RingUse (b : Bank) (p : Nat) (c : Config) (s : OtaDevice) : Prop extends RingHeld b p s where
  tail : TailErased b p s.nvm.flash
  number : c.top = s.ram.watermeterConfig.top
  ring : c.newOta = 0
  held : c.totals = s.passed
  kept : Kept Config.top (ringLog s.nvm.flash b) (PageErased b s.nvm.flash) p c

/-- An update is running: the NV item holds the record `c` last written, and says so. -/
structure OtaUse (b : Bank) (c : Config) (s : OtaDevice) : Prop extends Bounds b s.ram where
  boot : mcuBootAddrGet s.nvm.flash = b.base
  addr : s.mcuBootAddr = b.base
  safe : FlagSafe b s.nvm.flash
  written : s.ram.defaultConfig = false
  ident : s.ram.watermeterConfig.id = idConfig
  mode : s.ram.watermeterConfig.newOta ≠ 0
  item : s.nvm.userCfg = some c
  valid : c.Valid
  ota : c.newOta ≠ 0
  held : c.totals = s.passed

/-- The ring is in use and nothing of it is lost. -/
structure RingWhole (b : Bank) (p : Nat) (c : Config) (s : OtaDevice) : Prop extends RingUse b p c s where
  chain : Chain Config.top (ringLog s.nvm.flash b) p c

theorem RingWhole.of_stored (h : RingMode b p s.toDevice) (hst : Stored b p c s.toDevice)
    (haddr : s.mcuBootAddr = b.base) (htail : TailErased b p s.nvm.flash) (hclear : FlagClear b s.nvm.flash)
    (hheld : c.totals = s.passed) : RingWhole b p c s :=
  { h with
    addr := haddr
    tail := htail
    clear := hclear
    number := hst.number
    ring := hst.ring
    held := hheld
    kept := .of_chain hst.chain _
    chain := hst.chain }

namespace RingHeld

variable (h : RingHeld b p s)
include h

theorem step_set (supply : Supply) (t : Totals) : RingHeld b p (s.step (supply, .set t)) :=
  { h with }

theorem save_eq (hs : Powered supply) :
    s.step (supply, .save) =
      ⟨⟨{ s.ram with watermeterConfig := nextConfig s.ram },
        { s.nvm with flash := writeRecord b (succSlot 832 p) (nextConfig s.ram) s.nvm.flash }⟩,
        s.mcuBootAddr, (nextConfig s.ram).totals⟩ := by
  have hops : s.storeOps supply .save =
      (s.nvm, { s.ram with watermeterConfig := nextConfig s.ram }, pageOps b (succSlot 832 p) (nextConfig s.ram)) :=
    congrArg (Prod.mk s.nvm) (writeConfig_ring h.toPlaced h.written h.mode)
  have hne : pageOps b (succSlot 832 p) (nextConfig s.ram) ≠ [] := by simp [pageOps]
  rw [OtaDevice.step_eq hops, performAll_eq_applyAll hs, applyAll_pageOps, if_neg hne]
  rfl

theorem step_save (hs : Powered supply) : RingHeld b (succSlot 832 p) (s.step (supply, .save)) := by
  have hmode := h.toRingMode.save hs
  rw [h.toRingMode.writeConfig_eq hs] at hmode
  rw [h.save_eq hs]
  exact { hmode with
    addr := h.addr
    clear := flagClear_writeRecord h.clear h.nextConfig_addr }

/-- The client erases sectors under the ring. -/
theorem accept_eq (supply : Supply) (imageSize : Nat) :
    ∃ m', SectorsErased b.userStart s.nvm.flash m' ∧
      s.step (supply, .accept imageSize) = { s with nvm := { s.nvm with flash := m' } } := by
  by_cases hsize : imageSize ≤ flashOtaImageMaxSize
  · obtain ⟨herased, hcfg⟩ := sectorsErased_accept (b := b) (clientSupply supply) s.nvm hsize
    refine ⟨_, herased, ?_⟩
    simp only [OtaDevice.step, OtaDevice.storeOps, if_pos hsize, h.addr, ← hcfg]
    rfl
  · refine ⟨_, .refl _ _, ?_⟩
    simp only [OtaDevice.step, OtaDevice.storeOps, if_neg hsize]
    rfl

theorem step_accept (supply : Supply) (imageSize : Nat) : RingHeld b p (s.step (supply, .accept imageSize)) := by
  obtain ⟨m', herased, hstep⟩ := h.accept_eq supply imageSize
  rw [hstep]
  exact { h with
    boot := mcuBootAddrGet_safe h.boot (herased.flagSafe h.clear.safe) fun x hl hr => herased.base hl hr
    clear := herased.flagClear h.clear }

theorem step_block (supply : Supply) (offset : Nat) (data : List Byte) : s.step (supply, .block offset data) = s := by
  have hnot : ¬ (s.ram.watermeterConfig.newOta ≠ 0 ∧ offset + data.length ≤ flashOtaImageMaxSize) :=
    fun hota => hota.1 h.mode
  simp only [OtaDevice.step, OtaDevice.storeOps, if_neg hnot]
  rfl

theorem step_abort (supply : Supply) : s.step (supply, .abort) = s := by
  simp only [OtaDevice.step, OtaDevice.storeOps, if_neg (not_not.mpr h.mode)]
  rfl

/-- The header of the ring is no image: the client does not switch to it. -/
theorem success_refused (supply : Supply) :
    otaMcuReboot s.mcuBootAddr (clientSupply supply) s.nvm.flash = (false, s.nvm.flash) := by
  rw [h.addr]
  exact otaMcuReboot_refused h.clear.ne_magic

theorem step_success (supply : Supply) : s.step (supply, .success) = s := by
  have hrefused := h.success_refused supply
  have hops : s.storeOps supply .success = (s.nvm, s.ram, []) := by
    simp only [OtaDevice.storeOps, OtaDevice.resets, OtaDevice.switched, hrefused]
    rfl
  rw [OtaDevice.step_eq hops, OtaDevice.resets, hrefused]
  rfl

/-- The update starts: from now on the NV item holds the record. -/
theorem step_start (supply : Supply) :
    ∃ c', c'.top = s.ram.watermeterConfig.top ∧ OtaUse b c' (s.step (supply, .start)) := by
  have hone : (1 : BitVec 8) ≠ 0 := by decide
  have hops : s.storeOps supply .start = (s.nvm, _) :=
    congrArg (Prod.mk s.nvm) (OtaDevice.writeConfig_started h.written)
  rw [OtaDevice.step_eq hops]
  exact ⟨(otaStarted s.ram).watermeterConfig.sealed, rfl,
    { start := h.start
      stop := h.stop
      boot := h.boot
      addr := h.addr
      safe := h.clear.safe
      written := h.written
      ident := h.ident
      mode := hone
      item := rfl
      valid := Config.sealed_valid h.ident
      ota := hone
      held := rfl }⟩

end RingHeld

namespace RingUse

variable (h : RingUse b p c s)
include h

theorem step_set (supply : Supply) (t : Totals) : RingUse b p c (s.step (supply, .set t)) :=
  { h with }

theorem step_save (hs : Powered supply) :
    RingUse b (succSlot 832 p) (nextConfig s.ram) (s.step (supply, .save)) := by
  have hheld := h.toRingHeld.step_save hs
  have hroom : Room b p s.toDevice := h.tail.fits _
  have hput := put_writeRecord hroom (nextConfig_valid h.ident)
  rw [h.toRingHeld.save_eq hs] at hheld ⊢
  refine
    { hheld with
      tail := h.tail.writeRecord _
      number := rfl
      ring := h.mode
      held := rfl
      kept := ?_ }
  apply hput.kept_chain h.page h.kept ((nextConfig_top _).trans (by rw [h.number]))
  intro i hi herased
  exact herased.congr fun x hl hr => writeRecord_other (by omega) (fun _ => Or.inl hi) hl hr

/-- The client erases under the ring: pages are lost, the pointer and the sector it writes in stay. -/
theorem step_accept (supply : Supply) (imageSize : Nat) : RingUse b p c (s.step (supply, .accept imageSize)) := by
  obtain ⟨m', herased, hstep⟩ := h.toRingHeld.accept_eq supply imageSize
  have hheld := h.toRingHeld.step_accept supply imageSize
  rw [hstep] at hheld ⊢
  refine
    { hheld with
      tail := fun j hj hsec => ?_
      number := h.number
      ring := h.ring
      held := h.held
      kept := h.kept.mono fun i _ => ?_ }
  · rcases herased.page j with hsame | hff
    · exact (h.tail j hj hsec).congr hsame
    · exact hff
  · rcases herased.page i with hsame | hff
    · refine Or.inl ⟨recordAt_congr fun x hl hr => hsame x hl ?_, fun hlost => hlost.congr hsame⟩
      unfold sizeofConfig at hr
      omega
    · exact Or.inr hff

end RingUse

/-! ### Starting up -/

section Startup

variable {v : Nvm} {r : Ram}

/-- The state in which a record has just been written into the first page. -/
theorem ringWhole_firstPage (hboot : mcuBootAddrGet m = b.base) (hbounds : Bounds b r) (hc : c.Valid)
    (haddr : c.flashAddrStart = .ofNat 32 b.userStart) (hring : c.newOta = 0) :
    RingWhole b 0 c ⟨⟨{ r with watermeterConfig := c, defaultConfig := false }, ⟨writeRecord b 0 c m, some c⟩⟩,
      b.base, c.totals⟩ := by
  obtain ⟨hmode, hstored⟩ := firstPage hboot hbounds hc haddr hring
  refine .of_stored hmode hstored rfl (tailErased_opened (Nat.zero_mod 16) _ _) (Or.inl ?_) rfl
  exact writeRecord_byte (by rw [haddr, pageAddr_zero])

/-- The state `init_config` leaves with these variables and this memory. -/
def startUp (supply : Supply) (b : Bank) (r : Ram) (v : Nvm) (passed : Totals) : OtaDevice :=
  ⟨Device.initConfig supply ⟨r, v⟩, b.base, passed⟩

/-- A start from the NV item gives its totals. -/
theorem startUp_totals (hboot : mcuBootAddrGet v.flash = b.base) (hcfg : v.userCfg = some c) (hc : c.Valid)
    (ho : c.newOta ≠ 0) (r : Ram) (t : Totals) : (startUp supply b r v t).ram.watermeterConfig.totals = c.totals := by
  show (initConfig v r).1.watermeterConfig.totals = _
  rw [initConfig_restore_eq hboot hcfg hc ho]
  rfl

theorem ringWhole_restored (hboot : mcuBootAddrGet v.flash = b.base) (hs : Powered supply)
    (hcfg : v.userCfg = some c) (hc : c.Valid) (ho : c.newOta ≠ 0) (r : Ram) :
    ∃ c', c'.totals = c.totals ∧ c'.top = c.top ∧ RingWhole b 0 c' (startUp supply b r v c.totals) := by
  have hbounds := getUserDataAddr_bounds hboot r
  refine ⟨(restoredRecord c (getUserDataAddr v.flash r)).sealed, rfl, rfl, ?_⟩
  rw [startUp, initConfig_restored hboot hs hcfg hc ho]
  exact ringWhole_firstPage hboot hbounds (Config.sealed_valid hc.1) hbounds.start rfl

theorem ringWhole_reinit (hboot : mcuBootAddrGet v.flash = b.base) (hs : Powered supply)
    (hinit : initConfig v r = reinitConfig (getUserDataAddr v.flash r)) :
    RingWhole b 0 (firstRecord b) (startUp supply b r v defaultTotals) := by
  have hbounds := getUserDataAddr_bounds hboot r
  rw [startUp, initConfig_eq_reinit hinit, reinit_eq hbounds hs]
  exact ringWhole_firstPage (mcuBootAddrGet_clearRegion hboot) hbounds (firstRecord_valid b) rfl rfl

/-- A ring that is found whole, with its pointer off the last page and no further record of its count behind
it, goes on as it was. -/
theorem RingUse.found (h : RingUse b p c s) (supply : Supply)
    (hchain : Chain Config.top (ringLog s.nvm.flash b) p c)
    (hstop : ¬ Continues Config.top c (ringLog s.nvm.flash b (p + 1))) (hp : p < 831) :
    RingWhole b p c (startUp supply b Ram.zero s.nvm s.passed) ∧
      (startUp supply b Ram.zero s.nvm s.passed).ram.watermeterConfig.totals = s.passed := by
  obtain ⟨hmode, hstored, hnvm, htot⟩ :=
    Stored.reboot (r := Ram.zero) supply h.boot h.item hchain h.ring hstop hp rfl
  have hflash : (startUp supply b Ram.zero s.nvm s.passed).nvm = s.nvm := hnvm
  refine ⟨.of_stored hmode hstored rfl ?_ ?_ h.held, htot.trans h.held⟩
  · rw [hflash]; exact h.tail
  · rw [hflash]; exact h.clear

end Startup

/-! ### An update running -/

namespace OtaUse

variable (h : OtaUse b c s)
include h

theorem step_set (supply : Supply) (t : Totals) : OtaUse b c (s.step (supply, .set t)) :=
  { h with }

/-- The record goes into the NV item, whatever the supply. -/
theorem writes_item {r : Ram} (hr : Bounds b r) (hd : r.defaultConfig = false)
    (hid : r.watermeterConfig.id = idConfig) (ho : r.watermeterConfig.newOta ≠ 0) :
    OtaUse b r.watermeterConfig.sealed
      { s with
        ram := { r with watermeterConfig := r.watermeterConfig.sealed }
        nvm := { s.nvm with userCfg := some r.watermeterConfig.sealed }
        passed := r.watermeterConfig.totals } where
  start := hr.start
  stop := hr.stop
  boot := h.boot
  addr := h.addr
  safe := h.safe
  written := hd
  ident := (Config.sealed_id _).trans hid
  mode := (Config.sealed_newOta _).trans_ne ho
  item := rfl
  valid := Config.sealed_valid hid
  ota := (Config.sealed_newOta _).trans_ne ho
  held := Config.sealed_totals _

theorem step_save (supply : Supply) : ∃ c', OtaUse b c' (s.step (supply, .save)) := by
  have hwrite := writeConfig_ota h.written h.mode
  refine ⟨s.ram.watermeterConfig.sealed, ?_⟩
  have hstep := h.writes_item h.toBounds h.written h.ident h.mode
  simp only [OtaDevice.step, OtaDevice.storeOps, hwrite]
  exact hstep

theorem step_start (supply : Supply) :
    ∃ c', c'.top = s.ram.watermeterConfig.top ∧ OtaUse b c' (s.step (supply, .start)) := by
  have hops : s.storeOps supply .start = (s.nvm, _) :=
    congrArg (Prod.mk s.nvm) (OtaDevice.writeConfig_started h.written)
  have hwritten : OtaUse b (otaStarted s.ram).watermeterConfig.sealed _ :=
    h.writes_item (r := otaStarted s.ram) ⟨h.start, h.stop⟩ h.written h.ident (by show (1 : BitVec 8) ≠ 0; decide)
  rw [OtaDevice.step_eq hops]
  exact ⟨(otaStarted s.ram).watermeterConfig.sealed, Config.sealed_top _, hwritten⟩

theorem step_accept (supply : Supply) (imageSize : Nat) : OtaUse b c (s.step (supply, .accept imageSize)) := by
  by_cases hsize : imageSize ≤ flashOtaImageMaxSize
  swap
  · have hstep : s.step (supply, .accept imageSize) = s := by
      simp only [OtaDevice.step, OtaDevice.storeOps, if_neg hsize]
      rfl
    rw [hstep]
    exact h
  obtain ⟨herased, hcfg⟩ := sectorsErased_accept (b := b) (clientSupply supply) s.nvm hsize
  have hstep : s.step (supply, .accept imageSize) =
      { s with nvm := performAll (clientSupply supply) s.nvm (imageSectors b.base imageSize) } := by
    simp only [OtaDevice.step, OtaDevice.storeOps, if_pos hsize, h.addr]
    rfl
  rw [hstep]
  exact
    { h with
      boot := mcuBootAddrGet_safe h.boot (herased.flagSafe h.safe) fun x hl hr => herased.base hl hr
      safe := herased.flagSafe h.safe
      item := hcfg.trans h.item }

theorem step_block (supply : Supply) (offset : Nat) (data : List Byte) :
    OtaUse b c (s.step (supply, .block offset data)) := by
  by_cases hlen : offset + data.length ≤ flashOtaImageMaxSize
  swap
  · have hstep : s.step (supply, .block offset data) = s := by
      simp only [OtaDevice.step, OtaDevice.storeOps, if_neg fun hw => hlen (And.right hw)]
      rfl
    rw [hstep]
    exact h
  obtain ⟨hout, hsafe⟩ := block_spec (b := b) (clientSupply supply 0) s.nvm.flash hlen
  have hstep : s.step (supply, .block offset data) =
      { s with nvm := { s.nvm with flash :=
        (flashWriteWithCheck (clientSupply supply 0) s.nvm.flash (b.userStart + offset) (withheld offset data)).2 } } := by
    simp only [OtaDevice.step, OtaDevice.storeOps, if_pos (And.intro h.mode hlen), h.addr, imageBase_eq]
    rfl
  rw [hstep]
  refine
    { h with
      boot := mcuBootAddrGet_safe h.boot (hsafe h.safe) fun x hl hr => hout x ?_
      safe := hsafe h.safe }
  have hbank := b.userStart_cases
  unfold Bank.userEnd userDataSize
  omega

theorem abort_eq (supply : Supply) : s.step (supply, .abort) = startUp supply b s.ram s.nvm c.totals := by
  have hrestore := initConfig_restore_eq h.boot h.item h.valid h.ota s.ram
  simp only [OtaDevice.step, OtaDevice.storeOps, if_pos h.mode, OtaDevice.resets, h.addr, startUp,
    Device.initConfig, hrestore]
  rfl

/-- An update that fails puts the record back into the ring. -/
theorem step_abort (hs : Powered supply) :
    ∃ c', c'.totals = c.totals ∧ c'.top = c.top ∧ RingWhole b 0 c' (s.step (supply, .abort)) := by
  rw [h.abort_eq]
  exact ringWhole_restored h.boot hs h.item h.valid h.ota s.ram

theorem reboot_eq (supply : Supply) : s.step (supply, .reboot) = startUp supply b Ram.zero s.nvm c.totals := by
  have hrestore := initConfig_restore_eq h.boot h.item h.valid h.ota Ram.zero
  simp only [OtaDevice.step, OtaDevice.storeOps, OtaDevice.resets, h.boot, startUp, Device.initConfig, hrestore]
  rfl

theorem step_reboot (hs : Powered supply) :
    ∃ c', c'.totals = c.totals ∧ c'.top = c.top ∧ RingWhole b 0 c' (s.step (supply, .reboot)) := by
  rw [h.reboot_eq]
  exact ringWhole_restored h.boot hs h.item h.valid h.ota Ram.zero

/-- An image that is refused, or a flag that does not take, leaves the update running. -/
theorem step_success_stay (hreset : s.resets supply .success = false) :
    OtaUse b c (s.step (supply, .success)) := by
  have hres : (otaMcuReboot b.base (clientSupply supply) s.nvm.flash).1 = false := by
    rw [← h.addr]
    exact hreset
  have hops : s.storeOps supply .success = (s.switched supply, s.ram, []) := by
    rw [OtaDevice.storeOps, hreset]
    rfl
  have hstep : s.step (supply, .success) = { s with nvm := s.switched supply } := by
    rw [OtaDevice.step_eq hops, hreset]
    rfl
  have hsafe : FlagSafe b (otaMcuReboot b.base (clientSupply supply) s.nvm.flash).2 := by
    rcases otaMcuReboot_cases b (clientSupply supply) s.nvm.flash with heq | ⟨heq, hne⟩ | ⟨heq, -⟩
    · rw [heq]; exact h.safe
    · rw [heq]
      refine fun _ => Or.inl ?_
      show program _ _ _ _ ≠ _
      rw [program_byte]
      exact hne
    · rw [heq] at hres; cases hres
  have hsw : s.switched supply =
      { s.nvm with flash := (otaMcuReboot b.base (clientSupply supply) s.nvm.flash).2 } := by
    rw [OtaDevice.switched, h.addr]
  rw [hstep, hsw]
  refine
    { h with
      boot := mcuBootAddrGet_safe h.boot hsafe fun x hl hr => ?_
      safe := hsafe }
  have hbank := b.userStart_cases
  rcases otaMcuReboot_cases b (clientSupply supply) s.nvm.flash with heq | ⟨heq, -⟩ | ⟨heq, -⟩
  · rw [heq]
  · rw [heq]
    exact program_byte_ne _ (by omega)
  · rw [heq] at hres; cases hres

theorem switched_boot (hs : Powered supply) (hreset : s.resets supply .success = true) :
    mcuBootAddrGet (s.switched supply).flash = b.other.base := by
  have hres : (otaMcuReboot b.base (clientSupply supply) s.nvm.flash).1 = true := by
    rw [← h.addr]
    exact hreset
  rw [OtaDevice.switched, h.addr]
  exact (otaMcuReboot_switch (hs 101) hres).1

theorem success_eq (hs : Powered supply) (hreset : s.resets supply .success = true) :
    s.step (supply, .success) = startUp supply b.other Ram.zero (s.switched supply) c.totals := by
  have hboot := h.switched_boot hs hreset
  have hitem : (s.switched supply).userCfg = some c := h.item
  have hrestore := initConfig_restore_eq hboot hitem h.valid h.ota Ram.zero
  have hops : s.storeOps supply .success = (s.switched supply, initConfig (s.switched supply) Ram.zero) := by
    rw [OtaDevice.storeOps, hreset, if_pos rfl]
  rw [hrestore] at hops
  rw [OtaDevice.step_eq hops, if_pos hreset, hboot, startUp, Device.initConfig, hrestore]
  rfl

/-- A switch starts the device from the other bank, with the record in the first page of its ring. -/
theorem step_success_switch (hs : Powered supply) (hreset : s.resets supply .success = true) :
    ∃ c', c'.totals = c.totals ∧ c'.top = c.top ∧ RingWhole b.other 0 c' (s.step (supply, .success)) := by
  have hitem : (s.switched supply).userCfg = some c := h.item
  rw [h.success_eq hs hreset]
  exact ringWhole_restored (h.switched_boot hs hreset) hs hitem h.valid h.ota Ram.zero

end OtaUse

/-- A power cycle that begins anew. -/
theorem OtaDevice.reboot_lost (hboot : mcuBootAddrGet s.nvm.flash = b.base) (supply : Supply)
    (hinit : initConfig s.nvm Ram.zero = reinitConfig (getUserDataAddr s.nvm.flash Ram.zero)) :
    s.step (supply, .reboot) = startUp supply b Ram.zero s.nvm defaultTotals := by
  have hops := reinitConfig_eq (getUserDataAddr_bounds hboot Ram.zero)
  have hne : (initConfig s.nvm Ram.zero).2 ≠ [] := by
    rw [hinit, hops]
    simp
  have htot : (initConfig s.nvm Ram.zero).1.watermeterConfig.totals = defaultTotals := by
    rw [hinit, hops]
    rfl
  simp only [OtaDevice.step, OtaDevice.storeOps, OtaDevice.resets, hboot, startUp, Device.initConfig, if_neg hne,
    htot, if_true]

namespace RingUse

variable (h : RingUse b p c s)
include h

theorem step_reboot_found (supply : Supply) (hchain : Chain Config.top (ringLog s.nvm.flash b) p c)
    (hstop : ¬ Continues Config.top c (ringLog s.nvm.flash b (p + 1))) (hp : p < 831) :
    s.step (supply, .reboot) = startUp supply b Ram.zero s.nvm s.passed := by
  have hfound := initConfig_found h.boot h.item hchain hstop hp Ram.zero
  simp only [OtaDevice.step, OtaDevice.storeOps, OtaDevice.resets, h.boot, startUp, Device.initConfig, hfound]
  rfl

theorem step_reboot_lost (supply : Supply)
    (hinit : initConfig s.nvm Ram.zero = reinitConfig (getUserDataAddr s.nvm.flash Ram.zero)) :
    s.step (supply, .reboot) = startUp supply b Ram.zero s.nvm defaultTotals :=
  OtaDevice.reboot_lost h.boot supply hinit

end RingUse

end Watermeter
