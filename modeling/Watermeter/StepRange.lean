import Watermeter.SettingsDurable
import Watermeter.CounterTotals

/-! The step as a divisor. A command sets it to 1 or to one of the tens up to 100, and so it is in RAM, in the NV item
and in every page of the ring that a start may read. The first page of the ring is read without its checksum, and a
record may meet a page that is not erased; where cells decide, the step may be any. -/

namespace Watermeter

open NorFlash RingLog Transition

/-- The steps that `app_zclWriteReqCmd` sets. -/
def usableSteps : List (BitVec 8) := 1#8 :: (List.range 10).map fun k => .ofNat 8 (10 * (k + 1))

def Config.Usable (c : Config) : Prop := c.litersPerPulse ∈ usableSteps

/-- The records `init_config` may load: that of the NV item while it says that an update is running, else one on the
first page of the ring, looked at for its identifier only, or a valid one on a later page. -/
def Selectable (v : Nvm) (c : Config) : Prop :=
  (v.userCfg = some c ∧ c.Valid ∧ c.newOta ≠ 0) ∨
    RingItem v ∧ ∃ b : Bank, mcuBootAddrGet v.flash = b.base ∧ ∃ q, q < 832 ∧ ringRead v.flash b q = some c

/-- The step in RAM is usable, and so is that of every record a start may load. -/
def StepsUsable (s : OtaDevice) : Prop := s.ram.watermeterConfig.Usable ∧ ∀ c, Selectable s.nvm c → c.Usable

/-- What a block or the end of the image adds to a page does not make a valid record. -/
def ImageUnlike (s : OtaDevice) (e : Supply × OtaEvent) : Prop :=
  ∀ offset data, e.2 = .block offset data → ∀ (b : Bank) q c, q < 832 →
    ringLog (s.step e).nvm.flash b q = some c → ringLog s.nvm.flash b q = some c

/-- In the middle of a sector the cells take the record as it is, or hold no valid record afterwards. -/
def Unmixed (m : Mem) (r : Ram) : Prop :=
  nextFlashAddr r % .ofNat 32 flashSectorSize ≠ 0 →
    ∀ c, recordAt (program m (nextFlashAddr r).toNat (nextConfig r).toBytes) (nextFlashAddr r).toNat = some c →
      c = nextConfig r

/-- The supply is good where the store writes, and no record is mixed with what is on its page. -/
def StepKept (s : OtaDevice) (e : Supply × OtaEvent) : Prop :=
  ((∃ op ∈ (s.storeOps e.1 e.2).2.2, op.OnFlash) → Powered e.1) ∧
    (e.2 = .save → s.ram.watermeterConfig.newOta = 0 → Unmixed s.nvm.flash s.ram)

variable {b b' : Bank} {p q : Nat} {m m' : Mem} {c : Config} {s : OtaDevice} {supply : Supply} {v : Nvm}

/-! ### The steps of a command -/

theorem usable_ne_zero (h : c.Usable) : c.litersPerPulse ≠ 0 := by
  have hnot : (0#8 : BitVec 8) ∉ usableSteps := by decide
  exact fun hzero => hnot (by rw [← show c.litersPerPulse = 0#8 from hzero]; exact h)

theorem usable_first (b : Bank) : (firstRecord b).Usable := by
  show litersPerPulseDefault ∈ usableSteps
  decide

/-- The narrowing to 8 bits loses nothing. -/
theorem roundedStep_usable (waterStep : BitVec 16) : (roundedStep waterStep).setWidth 8 ∈ usableSteps := by
  have htens : ∀ k, k ≤ 10 → (let x : BitVec 16 := if BitVec.ofNat 16 (10 * k) = 0#16 then 1#16 else .ofNat 16 (10 * k)
      ((if 100#16 < x then 100#16 else x).setWidth 8 : BitVec 8)) ∈ usableSteps := by decide
  have hdiv : waterStep / 10#16 * 10#16 = .ofNat 16 (10 * (waterStep.toNat / 10)) := by
    apply BitVec.eq_of_toNat_eq
    rw [BitVec.toNat_mul, BitVec.toNat_udiv, BitVec.toNat_ofNat, Nat.mul_comm]
    rfl
  rw [roundedStep, hdiv]
  rcases Nat.lt_or_ge 10 (waterStep.toNat / 10) with hlarge | hsmall
  · have hlt := waterStep.isLt
    have hvalue : (BitVec.ofNat 16 (10 * (waterStep.toNat / 10))).toNat = 10 * (waterStep.toNat / 10) := by
      rw [BitVec.toNat_ofNat]
      omega
    have hne : BitVec.ofNat 16 (10 * (waterStep.toNat / 10)) ≠ 0#16 := by
      intro hzero
      rw [hzero] at hvalue
      have hz : (0#16).toNat = 0 := rfl
      omega
    have hcap : 100#16 < BitVec.ofNat 16 (10 * (waterStep.toNat / 10)) := by
      rw [BitVec.lt_def, hvalue]
      show 100 < _
      omega
    simp only [if_neg hne, if_pos hcap]
    decide
  · exact htens _ hsmall

theorem writeMeterAttr_usable {m : Meter} (h : m.ram.watermeterConfig.Usable) (first attr : WriteRec) :
    (writeMeterAttr first m attr).ram.watermeterConfig.Usable := by
  unfold writeMeterAttr
  split
  · exact h
  split
  · exact h
  split
  · exact roundedStep_usable first.buildU16
  · exact h

theorem writeMeterAttrs_usable {m : Meter} (h : m.ram.watermeterConfig.Usable) (first : WriteRec) (attrs : List WriteRec) :
    (attrs.foldl (writeMeterAttr first) m).ram.watermeterConfig.Usable := by
  induction attrs generalizing m with
  | nil => exact h
  | cons attr attrs ih => exact ih (writeMeterAttr_usable h first attr)

/-! ### The pages of a ring -/

/-- A valid record on a page after the first has a usable step and is of a ring. -/
def PagesUsable (m : Mem) : Prop :=
  ∀ (b : Bank) q c, 0 < q → q < 832 → ringLog m b q = some c → c.Usable ∧ c.newOta = 0

/-- And so has what is read from the first page. -/
def HeadUsable (b : Bank) (m : Mem) : Prop := ∀ c, ringRead m b 0 = some c → c.Usable ∧ c.newOta = 0

theorem PagesUsable.of_read (h : PagesUsable m) (hhead : HeadUsable b m) (hq : q < 832) (hread : ringRead m b q = some c) :
    c.Usable ∧ c.newOta = 0 := by
  cases q with
  | zero => exact hhead c hread
  | succ q => exact h b (q + 1) c (Nat.succ_pos q) hq hread

/-- The first 28 bytes of a page are in no other ring's region. -/
theorem pageAddr_other (hq : q < 832) {x : Nat} (hl : pageAddr b.other q ≤ x) (hr : x < pageAddr b.other q + 256) :
    x < b.userStart ∨ b.userStart + 0x40000 ≤ x := by
  have hpage : b.other.userStart = b.base := by rw [Bank.userStart, Bank.other_other]
  have hbank := b.userStart_cases
  unfold pageAddr flashPageSize at hl hr
  omega

theorem Bank.eq_or_other (b b' : Bank) : b' = b ∨ b' = b.other := by
  cases b <;> cases b' <;> first | exact Or.inl rfl | exact Or.inr rfl

/-- Page by page the memory holds the record it held, or none. -/
theorem PagesUsable.of_pages (h : PagesUsable m)
    (hpages : ∀ (b : Bank) q, 0 < q → q < 832 → ringLog m' b q = ringLog m b q ∨ ringLog m' b q = none) :
    PagesUsable m' := by
  intro b q c hpos hq hlog
  rcases hpages b q hpos hq with hsame | hnone
  · exact h b q c hpos hq (hsame.symm.trans hlog)
  · rw [hnone] at hlog
    cases hlog

theorem ringLog_congr (h : ∀ x, pageAddr b q ≤ x → x < pageAddr b q + 256 → m' x = m x) :
    ringLog m' b q = ringLog m b q := by
  refine recordAt_congr fun x hl hr => h x hl ?_
  unfold sizeofConfig at hr
  omega

theorem PagesUsable.erased (h : PagesUsable m) (herased : SectorsErased b.userStart m m') : PagesUsable m' := by
  apply h.of_pages
  intro b' q _ hq
  rcases b.eq_or_other b' with rfl | rfl
  · rcases herased.page q with hsame | hff
    · exact Or.inl (ringLog_congr hsame)
    · exact Or.inr (PageErased.log hff)
  · refine Or.inl (ringLog_congr fun x hl hr => herased.outside x ?_)
    have hout := pageAddr_other hq hl hr
    omega

theorem HeadUsable.erased (h : HeadUsable b m) (herased : SectorsErased b.userStart m m') : HeadUsable b m' := by
  intro c hread
  obtain ⟨hconfig, hid⟩ := ringRead_zero.mp hread
  rcases herased.page 0 with hsame | hff
  · refine h c (ringRead_zero.mpr ⟨?_, hid⟩)
    rw [← hconfig, ← pageAddr_zero]
    refine (readConfig_congr fun x hl hr => hsame x hl ?_).symm
    unfold sizeofConfig at hr
    omega
  · rw [← hconfig] at hid
    exact absurd hid (pageErased_lost hff)

/-- A record written into a page: the others keep theirs or lose it. -/
theorem PagesUsable.writeRecord (h : PagesUsable m) (hq : q < 832) (hc : c.Usable) (ho : c.newOta = 0)
    (hmixed : q % 16 ≠ 0 → ∀ c', recordAt (program m (pageAddr b q) c.toBytes) (pageAddr b q) = some c' → c' = c) :
    PagesUsable (writeRecord b q c m) := by
  intro b' j c' hpos hj hlog
  rcases b.eq_or_other b' with rfl | rfl
  · by_cases hjq : j = q
    · subst hjq
      have heq : c' = c := by
        by_cases hopen : j % 16 = 0
        · exact (recordAt_eq_some.mp hlog).1.symm.trans (readConfig_writeRecord (fits_openPage hopen))
        · rw [ringLog, Watermeter.writeRecord, openPage_inner hopen] at hlog
          exact hmixed hopen c' hlog
      rw [heq]
      exact ⟨hc, ho⟩
    · by_cases hkeep : q % 16 = 0 → j < q ∨ q + 16 ≤ j
      · rw [ringLog_congr fun x hl hr => writeRecord_other hjq hkeep hl hr] at hlog
        exact h _ j c' hpos hj hlog
      · push Not at hkeep
        obtain ⟨hopen, hle, hlt⟩ := hkeep
        have hnone : ringLog (Watermeter.writeRecord b' q c m) b' j = none :=
          PageErased.log (writeRecord_erased hopen (by omega) hlt)
        rw [hnone] at hlog
        cases hlog
  · rw [ringLog_congr fun x hl hr => writeRecord_outside hq ?_] at hlog
    · exact h _ j c' hpos hj hlog
    · have hout := pageAddr_other hj hl hr
      unfold Bank.userEnd userDataSize
      omega

theorem HeadUsable.writeRecord (h : HeadUsable b m) (hc : c.Usable) (ho : c.newOta = 0) :
    HeadUsable b (writeRecord b q c m) := by
  intro c' hread
  obtain ⟨hconfig, hid⟩ := ringRead_zero.mp hread
  rcases Nat.eq_zero_or_pos q with rfl | hpos
  · have hhere := readConfig_writeRecord (b := b) (m := m) (c := c) (fits_openPage (Nat.zero_mod 16))
    rw [pageAddr_zero, hconfig] at hhere
    rw [hhere]
    exact ⟨hc, ho⟩
  · refine h c' (ringRead_zero.mpr ⟨?_, hid⟩)
    rw [← hconfig, ← pageAddr_zero]
    refine (readConfig_congr fun x hl hr => writeRecord_other (by omega) (fun _ => Or.inl hpos) hl ?_).symm
    unfold sizeofConfig at hr
    omega

theorem PagesUsable.clearRegion (h : PagesUsable m) (b : Bank) : PagesUsable (clearRegion b m) := by
  apply h.of_pages
  intro b' q _ hq
  rcases b.eq_or_other b' with rfl | rfl
  · exact Or.inr (PageErased.log (clearRegion_erased hq))
  · refine Or.inl (ringLog_congr fun x hl hr => clearRegion_outside ?_)
    have hout := pageAddr_other hq hl hr
    unfold Bank.userEnd userDataSize
    omega

/-! ### What every event keeps -/

/-- Between events: the step is usable in RAM, in what was last saved, and wherever a start may read it. -/
structure StepSound (s : OtaDevice) : Prop where
  ram : s.ram.watermeterConfig.Usable
  passed : s.passed.litersPerPulse ∈ usableSteps
  pages : PagesUsable s.nvm.flash
  mode : (∃ b p, RingHeld b p s ∧ HeadUsable b s.nvm.flash) ∨ ∃ b c, OtaUse b c s

theorem OtaUse.usable (h : OtaUse b c s) (hpassed : s.passed.litersPerPulse ∈ usableSteps) : c.Usable := by
  have hstep : c.litersPerPulse = s.passed.litersPerPulse := congrArg Totals.litersPerPulse h.held
  rw [Config.Usable, hstep]
  exact hpassed

theorem StepSound.stepsUsable (h : StepSound s) : StepsUsable s := by
  refine ⟨h.ram, ?_⟩
  rcases h.mode with ⟨b, p, hring, hhead⟩ | ⟨b, c, hota⟩
  · rintro c' (⟨hcfg, -, ho⟩ | ⟨-, b', hboot, q, hq, hread⟩)
    · obtain ⟨r, hr, -, hzero⟩ := hring.item
      rw [Option.some.inj (hcfg.symm.trans hr)] at ho
      exact absurd hzero ho
    · rw [Bank.base_injective (hboot.symm.trans hring.boot)] at hread
      exact (h.pages.of_read hhead hq hread).1
  · rintro c' (⟨hcfg, -, -⟩ | ⟨⟨r, hr, -, hzero⟩, -⟩)
    · rw [Option.some.inj (hcfg.symm.trans hota.item)]
      exact hota.usable h.passed
    · rw [Option.some.inj (hr.symm.trans hota.item)] at hzero
      exact absurd hzero hota.ota

theorem OtaDevice.step_passed (s : OtaDevice) (e : Supply × OtaEvent) :
    (s.step e).passed = s.passed ∨ (s.step e).passed = (s.step e).ram.watermeterConfig.totals := by
  unfold OtaDevice.step
  dsimp only
  split
  · exact Or.inl rfl
  · exact Or.inr rfl

/-- The rest follows from the pages, the mode and the step in RAM. -/
theorem StepSound.of_step (h : StepSound s) {e : Supply × OtaEvent} (hram : (s.step e).ram.watermeterConfig.Usable)
    (hpages : PagesUsable (s.step e).nvm.flash)
    (hmode : (∃ b p, RingHeld b p (s.step e) ∧ HeadUsable b (s.step e).nvm.flash) ∨ ∃ b c, OtaUse b c (s.step e)) :
    StepSound (s.step e) where
  ram := hram
  passed := by
    rcases s.step_passed e with hkept | hsaved
    · rw [hkept]
      exact h.passed
    · rw [hsaved]
      exact hram
  pages := hpages
  mode := hmode

theorem usable_of_totals {c c' : Config} (h : c.Usable) (htotals : c'.totals = c.totals) : c'.Usable := by
  have hstep : c'.litersPerPulse = c.litersPerPulse := congrArg Totals.litersPerPulse htotals
  rw [Config.Usable, hstep]
  exact h

/-- Without `init_config` the step in RAM stays. -/
theorem StepSound.ram_kept (h : StepSound s) {e : OtaEvent} (hloads : s.loads supply e = false) (he : ∀ t, e ≠ .set t) :
    (s.step (supply, e)).ram.watermeterConfig.Usable :=
  usable_of_totals h.ram (totals_kept hloads he)

/-- The first page as it is after a start that writes it. -/
theorem RingWhole.head (h : RingWhole b 0 c s) (hc : c.Usable) : HeadUsable b s.nvm.flash := by
  intro c' hread
  have hlog : ringRead s.nvm.flash b 0 = some c := ringRead_of_log h.chain.last
  rw [Option.some.inj (hread.symm.trans hlog)]
  exact ⟨hc, h.ring⟩

/-- A start from the NV item. -/
theorem StepSound.restored (h : StepSound s) {e : Supply × OtaEvent} (hs : Powered supply) {r : Ram}
    (hstep : s.step e = startUp supply b r v c.totals) (hboot : mcuBootAddrGet v.flash = b.base) (hcfg : v.userCfg = some c)
    (hc : c.Valid) (ho : c.newOta ≠ 0) (husable : c.Usable) (hpages : PagesUsable v.flash) : StepSound (s.step e) := by
  obtain ⟨c', htotals, -, hwhole⟩ := ringWhole_restored hboot hs hcfg hc ho r
  refine h.of_step ?_ ?_ (Or.inl ⟨b, 0, ?_⟩)
  · rw [hstep]
    exact usable_of_totals husable (startUp_totals hboot hcfg hc ho r c.totals)
  · rw [hstep, startUp, initConfig_restored hboot hs hcfg hc ho]
    exact hpages.writeRecord (by omega) husable rfl fun h => absurd rfl h
  · rw [hstep]
    exact ⟨hwhole.toRingHeld, hwhole.head (usable_of_totals husable htotals)⟩

/-- A power cycle goes on from the record that is found. -/
theorem RingHeld.step_reboot_at (h : RingHeld b p s) (supply : Supply) (hq : q < 832) (hid : c.id = idConfig)
    (hring : c.newOta = 0)
    (hinit : initConfig s.nvm Ram.zero = ({ getUserDataAddr s.nvm.flash Ram.zero with
      watermeterConfig := { c with flashAddrStart := .ofNat 32 (pageAddr b q) } }, [])) :
    RingHeld b q (s.step (supply, .reboot)) ∧
      (s.step (supply, .reboot)).ram.watermeterConfig = { c with flashAddrStart := .ofNat 32 (pageAddr b q) } ∧
      (s.step (supply, .reboot)).nvm = s.nvm := by
  have hbounds := getUserDataAddr_bounds h.boot Ram.zero
  have hops : s.storeOps supply .reboot = (s.nvm, initConfig s.nvm Ram.zero) := rfl
  rw [hinit] at hops
  rw [OtaDevice.step_eq hops]
  refine ⟨?_, rfl, rfl⟩
  exact
    { start := hbounds.start
      stop := hbounds.stop
      page := hq
      pointer := rfl
      boot := h.boot
      written := getUserDataAddr_default _ _
      ident := hid
      mode := hring
      item := h.item
      addr := h.boot
      clear := h.clear }

section Ring

variable (hsound : StepSound s) (h : RingHeld b p s) (hhead : HeadUsable b s.nvm.flash)
include hsound h hhead

theorem RingHeld.sound_save (hkept : StepKept s (supply, .save)) : StepSound (s.step (supply, .save)) := by
  obtain ⟨hpower, hunmixed⟩ := hkept
  have hs := hpower (h.save_onFlash supply)
  have hnext : (nextConfig s.ram).Usable := hsound.ram
  have hheld := h.step_save hs
  have heq := h.save_eq hs
  refine hsound.of_step ?_ ?_ (Or.inl ⟨b, _, hheld, ?_⟩)
  · rw [heq]
    exact hnext
  · rw [heq]
    apply hsound.pages.writeRecord (succSlot_lt h.page) hnext h.mode
    intro hinner
    have hcells := hunmixed rfl h.mode (mt h.nextFlashAddr_mod.mp hinner)
    rw [h.toNat_nextFlashAddr] at hcells
    exact hcells
  · rw [heq]
    exact hhead.writeRecord hnext h.mode

/-- A power cycle of a ring: a record that is read, or a new start. -/
theorem RingHeld.sound_reboot (hkept : StepKept s (supply, .reboot)) : StepSound (s.step (supply, .reboot)) := by
  have hbounds := getUserDataAddr_bounds h.boot Ram.zero
  have hops : s.storeOps supply .reboot = (s.nvm, initConfig s.nvm Ram.zero) := rfl
  rcases initConfig_ring_cases h.boot h.item Ram.zero with hinit | ⟨q, c, hq, hread, hinit⟩
  · have hnew := reinitConfig_eq hbounds
    have hpower := hkept.1
    simp only [hops, hinit, hnew] at hpower
    have hs : Powered supply := by
      obtain ⟨op, hop, hflash⟩ := nvThen_onFlash b (defaultRecord (getUserDataAddr s.nvm.flash Ram.zero)).sealed
      exact hpower ⟨op, List.mem_append_right _ hop, hflash⟩
    have hwhole := ringWhole_reinit h.boot hs hinit
    have hdevice := reinit_eq hbounds hs s.nvm
    rw [← initConfig_eq_reinit hinit] at hdevice
    have hstep := OtaDevice.reboot_lost h.boot supply hinit
    refine hsound.of_step ?_ ?_ (Or.inl ⟨b, 0, ?_⟩)
    · rw [hstep, startUp, hdevice]
      exact usable_first b
    · rw [hstep, startUp, hdevice]
      exact (hsound.pages.clearRegion b).writeRecord (by omega) (usable_first b) rfl fun h => absurd rfl h
    · rw [hstep]
      exact ⟨hwhole.toRingHeld, hwhole.head (usable_first b)⟩
  · obtain ⟨husable, hring⟩ := hsound.pages.of_read hhead (by omega) hread
    have hid : c.id = idConfig := by
      cases q with
      | zero => exact (ringRead_zero.mp hread).2
      | succ q => exact (recordAt_eq_some.mp hread).2.1
    obtain ⟨hheld, hram, hnvm⟩ := h.step_reboot_at supply (by omega) hid hring hinit
    refine hsound.of_step ?_ ?_ (Or.inl ⟨b, q, hheld, ?_⟩)
    · rw [hram]
      exact husable
    · rw [hnvm]
      exact hsound.pages
    · rw [hnvm]
      exact hhead

end Ring

/-- The client erases the sectors of an image. -/
theorem OtaDevice.accept_erases (haddr : s.mcuBootAddr = b.base) (supply : Supply) (imageSize : Nat) :
    SectorsErased b.userStart s.nvm.flash (s.step (supply, .accept imageSize)).nvm.flash := by
  by_cases hsize : imageSize ≤ flashOtaImageMaxSize
  · have hops : s.storeOps supply (.accept imageSize) =
        (performAll (clientSupply supply) s.nvm (imageSectors b.base imageSize), s.ram, []) := by
      rw [OtaDevice.storeOps, if_pos hsize, haddr]
    rw [OtaDevice.step_eq hops]
    exact (sectorsErased_accept (clientSupply supply) s.nvm hsize).1
  · have hops : s.storeOps supply (.accept imageSize) = (s.nvm, s.ram, []) := by
      rw [OtaDevice.storeOps, if_neg hsize]
    rw [OtaDevice.step_eq hops]
    exact .refl _ _

theorem RingHeld.sound (hsound : StepSound s) (h : RingHeld b p s) (hhead : HeadUsable b s.nvm.flash) {e : OtaEvent}
    (hset : ∀ t, e = .set t → t.litersPerPulse ∈ usableSteps) (hkept : StepKept s (supply, e)) :
    StepSound (s.step (supply, e)) := by
  cases e with
  | set t =>
      exact hsound.of_step (hset t rfl) hsound.pages (Or.inl ⟨b, p, h.step_set supply t, hhead⟩)
  | save => exact h.sound_save hsound hhead hkept
  | reboot => exact h.sound_reboot hsound hhead hkept
  | accept imageSize =>
      have herased := OtaDevice.accept_erases h.addr supply imageSize
      exact hsound.of_step (hsound.ram_kept rfl (by simp)) (hsound.pages.erased herased)
        (Or.inl ⟨b, p, h.step_accept supply imageSize, hhead.erased herased⟩)
  | start =>
      obtain ⟨c, -, hota⟩ := h.step_start supply
      refine hsound.of_step (hsound.ram_kept rfl (by simp)) ?_ (Or.inr ⟨b, c, hota⟩)
      rw [OtaDevice.start_flash h.written]
      exact hsound.pages
  | block offset data =>
      rw [h.step_block]
      exact hsound
  | abort =>
      rw [h.step_abort]
      exact hsound
  | success =>
      rw [h.step_success]
      exact hsound

/-- The switch to the new bank changes the headers of the banks only. -/
theorem PagesUsable.switched (h : PagesUsable s.nvm.flash) (haddr : s.mcuBootAddr = b.base) (supply : Supply) :
    PagesUsable (s.switched supply).flash := by
  refine h.of_pages fun b' q hpos hq => Or.inl (ringLog_congr fun x hl hr => ?_)
  have hbank := b.userStart_cases
  have hbank' := b'.userStart_cases
  unfold pageAddr flashPageSize at hl hr
  rw [OtaDevice.switched, haddr]
  exact otaMcuReboot_frame b _ _ (by omega) (by omega)

theorem OtaUse.sound (hsound : StepSound s) (h : OtaUse b c s) {e : OtaEvent}
    (hset : ∀ t, e = .set t → t.litersPerPulse ∈ usableSteps) (himage : ImageUnlike s (supply, e))
    (hkept : StepKept s (supply, e)) : StepSound (s.step (supply, e)) := by
  have husable := h.usable hsound.passed
  have hpower := hkept.1
  cases e with
  | set t => exact hsound.of_step (hset t rfl) hsound.pages (Or.inr ⟨b, c, h.step_set supply t⟩)
  | save =>
      obtain ⟨c', hota⟩ := h.step_save supply
      have hops : s.storeOps supply .save = (s.nvm, writeConfig s.ram) := rfl
      rw [writeConfig_ota h.written h.mode] at hops
      refine hsound.of_step (hsound.ram_kept rfl (by simp)) ?_ (Or.inr ⟨b, c', hota⟩)
      rw [OtaDevice.step_eq hops]
      exact hsound.pages
  | reboot =>
      exact hsound.restored (hpower (h.reboot_onFlash supply)) (h.reboot_eq supply) h.boot h.item h.valid h.ota husable
        hsound.pages
  | accept imageSize =>
      have herased := OtaDevice.accept_erases h.addr supply imageSize
      exact hsound.of_step (hsound.ram_kept rfl (by simp)) (hsound.pages.erased herased)
        (Or.inr ⟨b, c, h.step_accept supply imageSize⟩)
  | start =>
      obtain ⟨c', -, hota⟩ := h.step_start supply
      refine hsound.of_step (hsound.ram_kept rfl (by simp)) ?_ (Or.inr ⟨b, c', hota⟩)
      rw [OtaDevice.start_flash h.written]
      exact hsound.pages
  | block offset data =>
      refine hsound.of_step (hsound.ram_kept rfl (by simp)) (fun b' q c' hpos hq hlog => ?_)
        (Or.inr ⟨b, c, h.step_block supply offset data⟩)
      exact hsound.pages b' q c' hpos hq (himage offset data rfl b' q c' hq hlog)
  | abort =>
      exact hsound.restored (hpower (h.abort_onFlash supply)) (h.abort_eq supply) h.boot h.item h.valid h.ota husable
        hsound.pages
  | success =>
      have hswitched := hsound.pages.switched h.addr supply
      cases hreset : s.resets supply .success with
      | false =>
          have hops : s.storeOps supply .success = (s.switched supply, s.ram, []) := by
            rw [OtaDevice.storeOps, hreset]
            rfl
          refine hsound.of_step (hsound.ram_kept hreset (by simp)) ?_ (Or.inr ⟨b, c, h.step_success_stay hreset⟩)
          rw [OtaDevice.step_eq hops]
          exact hswitched
      | true =>
          have hs := hpower (h.success_onFlash hreset)
          have hitem : (s.switched supply).userCfg = some c := h.item
          exact hsound.restored hs (h.success_eq hs hreset) (h.switched_boot hs hreset) hitem h.valid h.ota husable
            hswitched

theorem StepSound.step (h : StepSound s) {e : Supply × OtaEvent} (hset : ∀ t, e.2 = .set t → t.litersPerPulse ∈ usableSteps)
    (himage : ImageUnlike s e) (hkept : StepKept s e) : StepSound (s.step e) := by
  rcases h.mode with ⟨b, p, hring, hhead⟩ | ⟨b, c, hota⟩
  · exact hring.sound h hhead hset hkept
  · exact hota.sound h hset himage hkept

/-! ### Runs of the application -/

/-- No start after the step loads a step that is not usable, and a command that comes to a record of its list has a
divisor. -/
def App.StepInRange (s : App) (e : Supply × AppEvent) : Prop :=
  StepsUsable (s.step e).toOtaDevice ∧
    ∀ endPoint clusterId first attrs, e.2 = .zclWriteReqCmd endPoint clusterId (first :: attrs) →
      ∀ k, (((first :: attrs).take k).foldl (writeMeterAttr first) s.meter).litersPerPulse ≠ 0

theorem appZclWriteReqCmd_usable {m : Meter} (h : m.ram.watermeterConfig.Usable) (endPoint : BitVec 8)
    (clusterId : BitVec 16) (attrList : List WriteRec) :
    (appZclWriteReqCmd endPoint clusterId attrList m).1.ram.watermeterConfig.Usable := by
  unfold appZclWriteReqCmd
  split
  · cases attrList with
    | nil => exact h
    | cons first attrs => exact writeMeterAttrs_usable h first (first :: attrs)
  · exact h

/-- What the application sets keeps the step usable. -/
theorem App.trace_usable {s : App} (h : s.ram.watermeterConfig.Usable) (e : AppEvent) :
    ∀ event ∈ s.trace e, ∀ t, event = .set t → t.litersPerPulse ∈ usableSteps := by
  intro event hmem t hset
  subst hset
  cases e with
  | countersHandler pins =>
      by_cases hpulse : s.Pulse pins
      · rw [App.trace_pulse hpulse] at hmem
        simp only [List.mem_cons, OtaEvent.set.injEq, reduceCtorEq, List.not_mem_nil, or_false] at hmem
        have hstep := (taken_channel (s.meter.polled pins) .hot).2.1
        rw [hmem]
        show (s.meter.polled pins).takeHot.takeCold.litersPerPulse ∈ usableSteps
        rw [hstep]
        exact h
      · rw [App.trace_no_pulse hpulse] at hmem
        cases hmem
  | zclWriteReqCmd endPoint clusterId attrList =>
      simp only [App.trace, List.mem_singleton, OtaEvent.set.injEq] at hmem
      rw [hmem]
      exact appZclWriteReqCmd_usable (m := s.meter) h endPoint clusterId attrList
  | otaProcessMsg adcData evt status up =>
      cases evt <;> simp only [App.trace] at hmem <;> split_ifs at hmem <;> simp at hmem
  | _ => simp [App.trace] at hmem

theorem App.stepSound {s : App} (h : StepSound s.toOtaDevice) {e : Supply × AppEvent}
    (he : App.Each (fun d e => ImageUnlike d e ∧ StepKept d e) s e) : StepSound (s.step e).toOtaDevice := by
  have hset : Along OtaDevice.step (fun _ e => ∀ t, e.2 = .set t → t.litersPerPulse ∈ usableSteps) s.toOtaDevice
      ((s.trace e.2).map (Prod.mk e.1)) := by
    apply along_of_forall
    intro event hmem
    obtain ⟨event, hevent, rfl⟩ := List.mem_map.mp hmem
    exact App.trace_usable h.ram e.2 event hevent
  rw [App.step_trace s e.1 e.2]
  exact Along.invariant (fun d e hd he => hd.step he.1 he.2.1 he.2.2) h (hset.and he)

theorem App.stepInRange {s : App} (h : StepSound s.toOtaDevice) {e : Supply × AppEvent}
    (he : App.Each (fun d e => ImageUnlike d e ∧ StepKept d e) s e) : s.StepInRange e := by
  refine ⟨(App.stepSound h he).stepsUsable, fun endPoint clusterId first attrs _ k => ?_⟩
  exact usable_ne_zero (writeMeterAttrs_usable (m := s.meter) h.ram first _)

/-- A first start leaves the ring sound. -/
theorem NeverStarted.stepSound (h : NeverStarted b s) (hs : Powered supply)
    (hfirmware : ∀ q, q < 832 → ringLog s.nvm.flash b.other q = none) : StepSound (s.step (supply, .reboot)) := by
  have hinit := initConfig_invalid h.item Ram.zero
  have hwhole := (h.first hs).2
  have hdevice := reinit_eq (getUserDataAddr_bounds h.boot Ram.zero) hs s.nvm
  rw [← initConfig_eq_reinit hinit] at hdevice
  have hstep := OtaDevice.reboot_lost h.boot supply hinit
  have hclear : PagesUsable (writeRecord b 0 (firstRecord b) (clearRegion b s.nvm.flash)) := by
    intro b' q c hpos hq hlog
    rcases b.eq_or_other b' with rfl | rfl
    · rw [ringLog_writeRecord_clear hpos hq] at hlog
      cases hlog
    · have hsame : ringLog (writeRecord b 0 (firstRecord b) (clearRegion b s.nvm.flash)) b.other q =
          ringLog s.nvm.flash b.other q := by
        apply ringLog_congr
        intro x hl hr
        have hout := pageAddr_other hq hl hr
        rw [writeRecord_outside (by omega), clearRegion_outside] <;>
        · unfold Bank.userEnd userDataSize
          omega
      rw [hsame, hfirmware q hq] at hlog
      cases hlog
  refine
    { ram := ?_
      passed := ?_
      pages := ?_
      mode := Or.inl ⟨b, 0, hwhole.toRingHeld, hwhole.head (usable_first b)⟩ }
  · rw [h.first_config]
    exact usable_first b
  · rw [hstep]
    exact usable_first b
  · rw [hstep, startUp, hdevice]
    exact hclear

/-- From the first start on, whatever is written to the settings: the step is usable in RAM, in every record a start
may load and before every record of a command, as long as the store does not write at a low supply or mix a record
with what is on its page. -/
theorem step_in_range {b : Bank} {s : App} (hfirst : NeverStarted b s.toOtaDevice)
    (hfirmware : ∀ q, q < 832 → ringLog s.nvm.flash b.other q = none) {supply : Supply} (hs : Powered supply)
    (up : PowerUp) {events : List (Supply × AppEvent)}
    (himages : Along App.step (App.Each ImageUnlike) (s.step (supply, .userAppInit up)) events)
    (hkept : Along App.step (App.Each StepKept) (s.step (supply, .userAppInit up)) events) :
    Along App.step App.StepInRange s ((supply, .userAppInit up) :: events) := by
  have hsound : StepSound (s.step (supply, .userAppInit up)).toOtaDevice := by
    rw [App.first_trace]
    exact hfirst.stepSound hs hfirmware
  have heach : Along App.step (App.Each fun d e => ImageUnlike d e ∧ StepKept d e) (s.step (supply, .userAppInit up)) events :=
    (himages.and hkept).mono fun _ _ he => he.1.and he.2
  refine ⟨⟨hsound.stepsUsable, nofun⟩, ?_⟩
  exact heach.promote (fun _ _ h he => App.stepSound h he) (fun _ _ h he => App.stepInRange h he) hsound

theorem imageUnlike_of_ne {e : Supply × OtaEvent} (h : ∀ offset data, e.2 ≠ .block offset data) : ImageUnlike s e :=
  fun offset data he => absurd he (h offset data)

/-- Only a block brings image bytes. -/
theorem App.imageUnlike_of_ne {s : App} {e : AppEvent} (h : ∀ offset data, e ≠ .imageBlock offset data) :
    App.Each ImageUnlike s (supply, e) := by
  have htrace : ∀ event ∈ s.trace e, ∀ offset data, event ≠ .block offset data := by
    intro event hmem offset data hblock
    subst hblock
    cases e with
    | countersHandler pins =>
        by_cases hpulse : s.Pulse pins
        · rw [App.trace_pulse hpulse] at hmem
          simp at hmem
        · rw [App.trace_no_pulse hpulse] at hmem
          cases hmem
    | imageBlock offset data => exact absurd rfl (h offset data)
    | otaProcessMsg adcData evt status up =>
        cases evt <;> simp only [App.trace] at hmem <;> split_ifs at hmem <;> simp at hmem
    | _ => simp [App.trace] at hmem
  have hall : Along OtaDevice.step (fun _ e => ∀ offset data, e.2 ≠ .block offset data) s.toOtaDevice
      ((s.trace e).map (Prod.mk supply)) := by
    apply along_of_forall
    intro event hmem
    obtain ⟨event, hevent, rfl⟩ := List.mem_map.mp hmem
    exact htrace event hevent
  exact hall.mono fun _ _ hne => Watermeter.imageUnlike_of_ne hne

/-- At a good supply only a save can mix a record. -/
theorem stepKept_of_ne (s : OtaDevice) (hs : Powered supply) {e : OtaEvent} (he : e ≠ .save) : StepKept s (supply, e) :=
  ⟨fun _ => hs, fun hsave => absurd hsave he⟩

/-- A command to the settings mixes nothing. -/
theorem App.stepKept_write (s : App) (hs : Powered supply) (endPoint : BitVec 8) (clusterId : BitVec 16)
    (attrList : List WriteRec) : App.Each StepKept s (supply, .zclWriteReqCmd endPoint clusterId attrList) :=
  ⟨stepKept_of_ne _ hs (by simp), trivial⟩

/-- Nor does the start of an update. -/
theorem App.stepKept_start (s : App) (hs : Powered supply) {adcData : Nat} (h : ¬ adcData < 2600) (up : PowerUp) :
    App.Each StepKept s (supply, .otaProcessMsg adcData .otaEvtStart zclStaSuccess up) := by
  rw [App.Each, trace_start s h]
  exact ⟨stepKept_of_ne _ hs (by simp), trivial⟩

theorem App.stepKept_init (s : App) (hs : Powered supply) (up : PowerUp) :
    App.Each StepKept s (supply, .userAppInit up) :=
  ⟨stepKept_of_ne _ hs (by simp), trivial⟩

/-- A step of 25 is rounded, and the NV item keeps it over a power cycle. -/
theorem rounded_step_in_range : Along App.step App.StepInRange emptyApp
    [(fun _ => 3000, .userAppInit ⟨0#8, ⟨true, true⟩⟩),
      (fun _ => 3000, .zclWriteReqCmd watermeterEndpoint3 zclClusterSeMetering
        [⟨zclAttridCustomWaterStepPreset, zclDataTypeUint16, [25#8, 0#8]⟩]),
      (fun _ => 3000, .otaProcessMsg 3000 .otaEvtStart zclStaSuccess ⟨0#8, ⟨true, true⟩⟩),
      (fun _ => 3000, .userAppInit ⟨0#8, ⟨true, true⟩⟩)] := by
  have hs : Powered fun _ => 3000 := powered_const (by decide)
  have hfirst : NeverStarted .low emptyApp.toOtaDevice := neverStarted_empty
  have hfirmware : ∀ q, q < 832 → ringLog emptyApp.nvm.flash Bank.low.other q = none := firmware_blank
  refine step_in_range hfirst hfirmware hs ⟨0#8, ⟨true, true⟩⟩ ⟨?_, ?_, ?_, trivial⟩ ⟨?_, ?_, ?_, trivial⟩
  · exact App.imageUnlike_of_ne nofun
  · exact App.imageUnlike_of_ne nofun
  · exact App.imageUnlike_of_ne nofun
  · exact App.stepKept_write _ hs _ _ _
  · exact App.stepKept_start _ hs (by decide) _
  · exact App.stepKept_init _ hs _

end Watermeter
