import Watermeter.StoreProgram

/-! Runs of the store from the first start. A ring that is moved to the other bank and back may meet records
it left behind, and with them a page that is not erased. -/

namespace Watermeter

open NorFlash RingLog Transition

variable {b : Bank} {p q : Nat} {m : Mem} {c : Config} {s : OtaDevice} {supply : Supply} {v : Nvm}

/-! ### What a later ring may find -/

/-- A write stays in its sector. -/
theorem writeRecord_sector {x : Nat} (hx : x < b.userStart + 4096 * (q / 16) ∨ b.userStart + 4096 * (q / 16) + 4096 ≤ x) :
    writeRecord b q c m x = m x := by
  have hpage : b.userStart + 4096 * (q / 16) ≤ pageAddr b q ∧
      pageAddr b q + 256 ≤ b.userStart + 4096 * (q / 16) + 4096 := by
    unfold pageAddr flashPageSize
    omega
  rcases hx with hbelow | habove
  · exact writeRecord_before (by omega)
  · rw [writeRecord_behind (by omega)]
    by_cases hopen : q % 16 = 0
    · apply openPage_after
      unfold pageAddr flashPageSize
      omega
    · rw [openPage_inner hopen]

theorem RingWhole.step_save (h : RingWhole b p c s) (hs : Powered supply) :
    RingWhole b (succSlot 832 p) (nextConfig s.ram) (s.step (supply, .save)) where
  toRingUse := h.toRingUse.step_save hs
  chain := by
    have hput := h.toRingMode.put hs (h.tail.fits _)
    exact hput.chain h.page h.chain ((nextConfig_top _).trans (by rw [h.number]))

/-- Saves up to page `p + n`: the numbers go with the pages, and the sectors behind are left alone. -/
theorem RingWhole.saves (h : RingWhole b p c s) (hs : Powered supply) {n : Nat} (hn : p + n < 832) :
    ∃ c', c'.top = c.top + .ofNat 32 n ∧
      RingWhole b (p + n) c' (run OtaDevice.step s (List.replicate n (supply, .save))) ∧
      ∀ x, b.userStart + 4096 * ((p + n) / 16) + 4096 ≤ x →
        (run OtaDevice.step s (List.replicate n (supply, .save))).nvm.flash x = s.nvm.flash x := by
  induction n generalizing p c s with
  | zero => exact ⟨c, (BitVec.add_zero _).symm, h, fun _ _ => rfl⟩
  | succ n ih =>
      have hnext : succSlot 832 p = p + 1 := if_neg (by omega)
      have hsave := h.step_save hs
      rw [hnext] at hsave
      obtain ⟨c', htop, hwhole, hsame⟩ := ih hsave (by omega)
      rw [show p + (n + 1) = p + 1 + n by omega]
      refine ⟨c', ?_, hwhole, fun x hx => (hsame x hx).trans ?_⟩
      · rw [htop, nextConfig_top, ← h.number, BitVec.add_assoc, Nat.add_comm n, BitVec.ofNat_add]
        rfl
      · show (s.toDevice.writeConfig supply).nvm.flash x = _
        rw [h.writeConfig_eq hs, hnext]
        exact writeRecord_sector (Or.inr (by omega))

/-- An image of 28 bytes with a header, whose checksum is over nothing. -/
def smallImage : List Byte :=
  List.replicate 8 0xFF#8 ++ [0x4b#8, 0x4e#8, 0x4c#8, 0x54#8] ++ List.replicate 12 0xFF#8 ++ [4#8, 0#8, 0#8, 0#8]

theorem otaNewImageValid_small (h : ∀ i, i < 28 → m (b.userStart + i) = (withheld 0 smallImage).getD i 0xFF#8) :
    otaNewImageValid m b.userStart = true := by
  have hword : ∀ k, k < 25 → read32 m (b.userStart + k) = u32 ((withheld 0 smallImage).getD k 0xFF#8)
      ((withheld 0 smallImage).getD (k + 1) 0xFF#8) ((withheld 0 smallImage).getD (k + 2) 0xFF#8)
      ((withheld 0 smallImage).getD (k + 3) 0xFF#8) := by
    intro k hk
    rw [read32, h k (by omega), Nat.add_assoc, h (k + 1) (by omega), Nat.add_assoc, h (k + 2) (by omega),
      Nat.add_assoc, h (k + 3) (by omega)]
  have hsize : read32 m (b.userStart + 0x18) = 4#32 := (hword 24 (by omega)).trans (by decide)
  have hmagic : read32 m (b.userStart + 8) = 0x544c4eff#32 := (hword 8 (by omega)).trans (by decide)
  have hcrc : read32 m b.userStart = 0xffffffff#32 := (hword 0 (by omega)).trans (by decide)
  have hle := userStart_le b
  have hend : (b.userStart + (4#32).toNat + (2 ^ 32 - 4)) % 2 ^ 32 = b.userStart := by
    show (b.userStart + 4 + (2 ^ 32 - 4)) % 2 ^ 32 = _
    omega
  unfold otaNewImageValid
  rw [hsize, flashTlnkFlagOffset, hmagic]
  show (if 4 ≤ flashOtaImageMaxSize then _ else _) = true
  rw [if_pos (by decide), if_neg (by decide), hend, hcrc]
  rfl

theorem otaMcuReboot_valid (hs : Powered supply) (hvalid : otaNewImageValid m b.userStart = true)
    (hflag : m (b.userStart + 8) = 0xFF#8) : (otaMcuReboot b.base supply m).1 = true := by
  have hnew : (if b.base ≠ 0 then 0 else flashAddrOfOtaImage) = b.userStart := by cases b <;> rfl
  have hcheck : flashWriteWithCheck (supply 0) m (b.userStart + flashTlnkFlagOffset) [tlImageStartFlag] =
      (true, program m (b.userStart + 8) [tlImageStartFlag]) := by
    rw [flashWriteWithCheck, if_neg (Nat.not_lt.mpr (hs 0))]
    simp only [List.length_singleton, read_byte, flashTlnkFlagOffset, program_byte, hflag]
    rfl
  simp only [otaMcuReboot, hnew, hvalid, if_true, hcheck]

/-- The second sector of the upper bank is the same. -/
def SameSector (m m' : Mem) : Prop := ∀ x, 0x41000 ≤ x → x < 0x42000 → m' x = m x

theorem SameSector.trans {m m' m'' : Mem} (h : SameSector m m') (h' : SameSector m' m'') : SameSector m m'' :=
  fun x hl hr => (h' x hl hr).trans (h x hl hr)

theorem sameSector_firstPage (b : Bank) (c : Config) (m : Mem) : SameSector m (writeRecord b 0 c m) := by
  intro x hl hr
  apply writeRecord_sector
  have hbank := b.userStart_cases
  omega

theorem OtaDevice.accept_flash (haddr : s.mcuBootAddr = b.base) (hs : Powered supply) {imageSize : Nat}
    (hle : imageSize ≤ flashOtaImageMaxSize) :
    (s.step (supply, .accept imageSize)).ram = s.ram ∧
      (s.step (supply, .accept imageSize)).nvm.flash =
        erase s.nvm.flash b.userStart (flashSectorSize * (imageSize / flashSectorSize + 1)) := by
  have hclient : Powered (clientSupply supply) := fun i => hs (i + 100)
  have hsectors := applyAll_sectors (show ∀ a v, (Op.flashErase a).apply v = _ from fun _ _ => rfl) s.nvm b
    (imageSize / flashSectorSize + 1)
  have hops : s.storeOps supply (.accept imageSize) =
      ({ s.nvm with flash := erase s.nvm.flash b.userStart (flashSectorSize * (imageSize / flashSectorSize + 1)) },
        s.ram, []) := by
    rw [OtaDevice.storeOps, if_pos hle, performAll_eq_applyAll hclient, haddr, imageSectors, imageBase_eq, hsectors]
  rw [OtaDevice.step_eq hops]
  exact ⟨rfl, rfl⟩

theorem RingUse.accept_flash (h : RingUse b p c s) (hs : Powered supply) {imageSize : Nat} (hsize : imageSize < 4096) :
    (s.step (supply, .accept imageSize)).ram = s.ram ∧
      (s.step (supply, .accept imageSize)).nvm.flash = erase s.nvm.flash b.userStart 4096 := by
  have hflash := OtaDevice.accept_flash h.addr hs
    (show imageSize ≤ flashOtaImageMaxSize by unfold flashOtaImageMaxSize; omega)
  rw [show imageSize / flashSectorSize = 0 from Nat.div_eq_of_lt hsize] at hflash
  exact hflash

theorem OtaDevice.start_flash (hd : s.ram.defaultConfig = false) (supply : Supply) :
    (s.step (supply, .start)).nvm.flash = s.nvm.flash := by
  have hops : s.storeOps supply .start = (s.nvm, _) :=
    congrArg (Prod.mk s.nvm) (OtaDevice.writeConfig_started hd)
  rw [OtaDevice.step_eq hops]
  rfl

theorem OtaUse.block_flash (h : OtaUse b c s) (hs : Powered supply) {offset : Nat} {data : List Byte}
    (hlen : offset + data.length ≤ flashOtaImageMaxSize) :
    (s.step (supply, .block offset data)).nvm.flash =
      program s.nvm.flash (b.userStart + offset) (withheld offset data) := by
  have hmv : ¬ clientSupply supply 0 < batterySafetyThreshold := Nat.not_lt.mpr (hs 100)
  simp only [OtaDevice.step, OtaDevice.storeOps, if_pos (And.intro h.mode hlen), h.addr, imageBase_eq, performAll,
    flashWriteWithCheck]
  rw [if_neg hmv]

/-- A restored record goes into the first sector. -/
theorem startUp_sector (hboot : mcuBootAddrGet v.flash = b.base) (hs : Powered supply) (hcfg : v.userCfg = some c)
    (hc : c.Valid) (ho : c.newOta ≠ 0) (r : Ram) (t : Totals) :
    SameSector v.flash (startUp supply b r v t).nvm.flash := by
  rw [startUp, initConfig_restored hboot hs hcfg hc ho]
  exact sameSector_firstPage _ _ _

theorem OtaUse.abort_sector (h : OtaUse b c s) (hs : Powered supply) :
    SameSector s.nvm.flash (s.step (supply, .abort)).nvm.flash := by
  rw [h.abort_eq]
  exact startUp_sector h.boot hs h.item h.valid h.ota _ _

theorem OtaUse.success_sector (h : OtaUse b c s) (hs : Powered supply) (hreset : s.resets supply .success = true) :
    SameSector s.nvm.flash (s.step (supply, .success)).nvm.flash := by
  have hitem : (s.switched supply).userCfg = some c := h.item
  have hswitch : SameSector s.nvm.flash (s.switched supply).flash := by
    intro x hl hr
    have hbank := b.userStart_cases
    rw [OtaDevice.switched, h.addr]
    exact otaMcuReboot_frame b _ _ (by omega) (by omega)
  rw [h.success_eq hs hreset]
  exact hswitch.trans (startUp_sector (h.switched_boot hs hreset) hs hitem h.valid h.ota _ _)

/-- A page that starts with another byte holds no record. -/
theorem recordAt_of_byte {a : Nat} (h : m a ≠ 0x10#8) : recordAt m a = none := by
  refine recordAt_eq_none.mpr fun hv => h ?_
  have hid : (readConfig m a).id = u32 (m a) (m (a + 1)) (m (a + 2)) (m (a + 3)) := rfl
  rw [← (extract_u32 (m a) (m (a + 1)) (m (a + 2)) (m (a + 3))).1, ← hid, hv.1]
  rfl

theorem ends_of_byte {q : Nat} (h : m (pageAddr b q) ≠ 0x10#8) (r : Config) : ¬ Continues Config.top r (ringLog m b q) :=
  not_continues_of_none (recordAt_of_byte h)

/-- No page that the block reaches holds a valid record afterwards. -/
def ImageClean (s : OtaDevice) (e : Supply × OtaEvent) : Prop :=
  ∀ offset data, e.2 = .block offset data → ∀ j, 256 * j < offset + data.length → offset < 256 * j + 256 →
    recordAt (s.step e).nvm.flash (imageBase s.mcuBootAddr + 256 * j) = none

theorem imageClean_of_ne {e : Supply × OtaEvent} (h : ∀ offset data, e.2 ≠ .block offset data) : ImageClean s e :=
  fun offset data he => absurd he (h offset data)

theorem imageClean_saves (supply : Supply) (n : Nat) (s : OtaDevice) :
    Along OtaDevice.step ImageClean s (List.replicate n (supply, .save)) := by
  induction n generalizing s with
  | zero => exact trivial
  | succ n ih => exact ⟨imageClean_of_ne (fun _ _ h => by cases h), ih _⟩

theorem OtaUse.imageClean (h : OtaUse b c s) {offset : Nat} {data : List Byte}
    (hbyte : ∀ j, 256 * j < offset + data.length → offset < 256 * j + 256 →
      (s.step (supply, .block offset data)).nvm.flash (b.userStart + 256 * j) ≠ 0x10#8) :
    ImageClean s (supply, .block offset data) := by
  intro offset data he j hj hoff
  cases he
  rw [h.addr, imageBase_eq]
  exact recordAt_of_byte (hbyte j hj hoff)

/-- Where the block has a zero it leaves one. -/
theorem OtaUse.block_zero (h : OtaUse b c s) (hs : Powered supply) {offset : Nat} {data : List Byte}
    (hlen : offset + data.length ≤ flashOtaImageMaxSize) {k : Nat} (hl : offset ≤ k) (hr : k < offset + data.length)
    (hzero : (withheld offset data).getD (k - offset) 0xFF#8 = 0#8) :
    (s.step (supply, .block offset data)).nvm.flash (b.userStart + k) = 0#8 := by
  rw [h.block_flash hs hlen, show b.userStart + k = b.userStart + offset + (k - offset) by omega,
    program_inside (by rw [length_withheld]; omega), hzero]
  exact BitVec.and_zero

/-- A small update that succeeds, from a ring in use. -/
def smallUpdate (supply : Supply) : List (Supply × OtaEvent) :=
  [(supply, .accept 28), (supply, .start), (supply, .block 0 smallImage), (supply, .success)]

theorem RingUse.smallUpdate (h : RingUse b p c s) (hs : Powered supply) :
    (∃ c', c'.top = s.ram.watermeterConfig.top ∧
      RingWhole b.other 0 c' (run OtaDevice.step s (smallUpdate supply))) ∧
      SameSector s.nvm.flash (run OtaDevice.step s (Watermeter.smallUpdate supply)).nvm.flash ∧
      Along OtaDevice.step ImageClean s (Watermeter.smallUpdate supply) := by
  have hbank := b.userStart_cases
  have haccept := h.step_accept supply 28
  obtain ⟨hram, herase⟩ := h.accept_flash hs (show 28 < 4096 by omega)
  obtain ⟨c₂, htop, hstart⟩ := haccept.step_start supply
  have hkeep := OtaDevice.start_flash haccept.written supply
  have hblock := hstart.step_block supply 0 smallImage
  have hprog := hstart.block_flash hs (show 0 + smallImage.length ≤ flashOtaImageMaxSize by decide)
  set s₁ := s.step (supply, .accept 28) with hs₁
  set s₂ := s₁.step (supply, .start) with hs₂
  set s₃ := s₂.step (supply, .block 0 smallImage) with hs₃
  have hbytes : ∀ i, i < 28 → s₃.nvm.flash (b.userStart + i) = (withheld 0 smallImage).getD i 0xFF#8 := by
    intro i hi
    rw [hprog, Nat.add_zero, program_inside (by rw [length_withheld]; exact hi), hkeep, herase,
      erase_inside (by omega) (by omega)]
    exact BitVec.allOnes_and
  have hreset : s₃.resets supply .success = true := by
    show (otaMcuReboot s₃.mcuBootAddr (clientSupply supply) s₃.nvm.flash).1 = true
    rw [hblock.addr]
    exact otaMcuReboot_valid (fun i => hs (i + 100)) (otaNewImageValid_small hbytes) (hbytes 8 (by omega))
  obtain ⟨c', -, htop', hwhole⟩ := hblock.step_success_switch hs hreset
  have hsame : SameSector s.nvm.flash s₃.nvm.flash := by
    intro x hl hr
    have hlen : (withheld 0 smallImage).length = 28 := length_withheld _ _
    rw [hprog, program_outside (by omega), hkeep, herase, erase_outside (by omega)]
  have hclean : ImageClean s₂ (supply, .block 0 smallImage) := by
    apply hstart.imageClean
    intro j hj _
    have hlen : smallImage.length = 28 := rfl
    obtain rfl : j = 0 := by omega
    show s₃.nvm.flash (b.userStart + 0) ≠ _
    rw [hbytes 0 (by omega)]
    decide
  refine ⟨⟨c', by rw [htop', htop, hram], hwhole⟩, hsame.trans (hblock.success_sector hs hreset), ?_⟩
  exact ⟨imageClean_of_ne (by simp), imageClean_of_ne (by simp), hclean, imageClean_of_ne (by simp), trivial⟩

/-- Page 16 of the lower bank's ring holds a record numbered 16, and the page after it is written. -/
structure Stale (m : Mem) : Prop where
  record : ∃ r, ringLog m .low 16 = some r ∧ r.top = 16#32 ∧ r.newOta = 0
  written : m 0x41100 = 0#8

theorem Stale.same (h : Stale m) {m' : Mem} (hsame : SameSector m m') : Stale m' := by
  obtain ⟨r, hr, htop⟩ := h.record
  refine ⟨⟨r, ?_, htop⟩, (hsame _ (by omega) (by omega)).trans h.written⟩
  refine (recordAt_congr fun x hl hr => ?_).trans hr
  simp only [pageAddr, flashPageSize, sizeofConfig, Bank.userStart_low] at hl hr
  exact hsame x (by omega) (by omega)

/-- A download that a power cycle interrupts. -/
def interrupted (supply : Supply) : List (Supply × OtaEvent) :=
  [(supply, .accept 0x1200), (supply, .start), (supply, .block 0 (List.replicate 0x1100 0#8)), (supply, .reboot)]

/-- The download goes on from where it was, and is given up. -/
def resumed (supply : Supply) : List (Supply × OtaEvent) :=
  [(supply, .start), (supply, .block 0x1100 [0#8]), (supply, .abort)]

theorem RingUse.interrupted (h : RingUse b p c s) (hs : Powered supply) :
    (∃ c', c'.top = c.top ∧ RingWhole b 0 c' (run OtaDevice.step s (interrupted supply))) ∧
      Along OtaDevice.step ImageClean s (Watermeter.interrupted supply) := by
  have haccept := h.step_accept supply 0x1200
  obtain ⟨c₂, htop₂, hstart⟩ := haccept.step_start supply
  have hblock := hstart.step_block supply 0 (List.replicate 0x1100 0#8)
  obtain ⟨c₄, -, htop₄, hreboot⟩ := hblock.step_reboot hs
  refine ⟨⟨c₄, ?_, hreboot⟩, imageClean_of_ne (by simp), imageClean_of_ne (by simp), ?_, imageClean_of_ne (by simp),
    trivial⟩
  · rw [htop₄, htop₂, ← haccept.number]
  apply hstart.imageClean
  intro j hj _
  rw [hstart.block_zero hs (by rw [List.length_replicate]; decide) (Nat.zero_le _) hj]
  · decide
  · rw [List.length_replicate] at hj
    rw [withheld, flashTlnkFlagOffset, if_pos (Nat.zero_le _), List.getD, List.getElem?_set_ne (by omega),
      List.getElem?_replicate, if_pos (by omega)]
    rfl

/-- Bytes behind page 16 leave the record on it. -/
theorem RingWhole.record_kept (h : RingWhole .low 16 c s) (bs : List Byte) :
    ringLog (program s.nvm.flash (0x40000 + 0x1100) bs) .low 16 = some c := by
  refine (recordAt_congr fun x hl hr => ?_).trans h.chain.last
  simp only [pageAddr, flashPageSize, sizeofConfig, Bank.userStart_low] at hl hr
  exact program_outside (Or.inl (by omega))

theorem RingWhole.resumed (h : RingWhole .low 16 c s) (htop : c.top = 16#32) (hs : Powered supply) :
    (∃ c', RingWhole .low 0 c' (run OtaDevice.step s (resumed supply))) ∧
      Stale (run OtaDevice.step s (Watermeter.resumed supply)).nvm.flash ∧
      Along OtaDevice.step ImageClean s (Watermeter.resumed supply) := by
  obtain ⟨c₁, -, hstart⟩ := h.step_start supply
  have hkeep := OtaDevice.start_flash h.written supply
  have hblock := hstart.step_block supply 0x1100 [0#8]
  have hprog := hstart.block_flash hs (show 0x1100 + [0#8].length ≤ flashOtaImageMaxSize by decide)
  rw [hkeep, Bank.userStart_low] at hprog
  obtain ⟨c₂, -, -, habort⟩ := hblock.step_abort hs
  refine ⟨⟨c₂, habort⟩, ?_, imageClean_of_ne (by simp), ?_, imageClean_of_ne (by simp), trivial⟩
  · refine Stale.same ⟨⟨c, ?_, htop, h.ring⟩, ?_⟩ (hblock.abort_sector hs)
    · rw [hprog]
      exact h.record_kept _
    · rw [hprog]
      exact (program_byte _ (0x40000 + 0x1100) 0#8).trans BitVec.and_zero
  · apply hstart.imageClean
    intro j hj hoff
    obtain rfl : j = 17 := by
      rw [List.length_singleton] at hj
      omega
    rw [hstart.block_zero hs (by decide) (by decide) (by decide) (by decide)]
    decide

/-- An accepted image erases the first page of the ring, and a start does not find the rest. -/
theorem RingUse.accept_lost (h : RingUse b p c s) (hs : Powered supply) {imageSize : Nat} (hsize : imageSize < 4096) :
    initConfig (s.step (supply, .accept imageSize)).nvm Ram.zero =
      reinitConfig (getUserDataAddr (s.step (supply, .accept imageSize)).nvm.flash Ram.zero) := by
  have haccept := h.step_accept supply imageSize
  obtain ⟨-, herase⟩ := h.accept_flash hs hsize
  have hlost : PageErased b (s.step (supply, .accept imageSize)).nvm.flash 0 := by
    rw [PageErased, herase, pageAddr_zero]
    exact (erased_erase _ _ _).mono (Nat.le_refl _) (by omega)
  exact initConfig_lost haccept.boot haccept.item (pageErased_lost hlost) Ram.zero

/-- The first start after the ring's first page was erased puts the number back. -/
theorem RingUse.erased_reboot (h : RingUse .high p c s) (hs : Powered supply) :
    RingWhole .high 0 (firstRecord .high) (run OtaDevice.step s [(supply, .accept 28), (supply, .reboot)]) ∧
      SameSector s.nvm.flash (run OtaDevice.step s [(supply, .accept 28), (supply, .reboot)]).nvm.flash := by
  have haccept := h.step_accept supply 28
  obtain ⟨-, herase⟩ := h.accept_flash hs (show 28 < 4096 by omega)
  have hinit := h.accept_lost hs (show 28 < 4096 by omega)
  have hwhole := ringWhole_reinit haccept.boot hs hinit
  rw [← haccept.step_reboot_lost supply hinit] at hwhole
  refine ⟨hwhole, fun x hl hr => ?_⟩
  show ((s.step (supply, .accept 28)).step (supply, .reboot)).nvm.flash x = _
  rw [haccept.step_reboot_lost supply hinit, startUp, initConfig_eq_reinit hinit,
    reinit_eq (getUserDataAddr_bounds haccept.boot Ram.zero) hs]
  show writeRecord .high 0 _ _ x = _
  have hend : Bank.high.userEnd = 0x34000 := rfl
  rw [writeRecord_outside (by omega) (Or.inr (by omega)), clearRegion_outside (Or.inr (by omega)), herase,
    Bank.userStart_high, erase_outside (by omega)]

/-- Fifteen saves on, a power cycle goes on from the stale record, and the next save meets a written page. -/
theorem RingWhole.stale_programmed (h : RingWhole .low 15 c s) (htop : c.top = 15#32) (hstale : Stale s.nvm.flash)
    (supply : Supply) : ¬ Along OtaDevice.step CleanStep s [(supply, .reboot), (supply, .save)] := by
  rintro ⟨-, hclean, -⟩
  revert hclean
  obtain ⟨r, hlog, hr, hring⟩ := hstale.record
  have hchain : Chain Config.top (ringLog s.nvm.flash .low) 16 r := .next h.chain hlog (by rw [hr, htop]; rfl)
  have hpage : pageAddr .low 17 = 0x41100 := by decide
  have hend : ¬ Continues Config.top r (ringLog s.nvm.flash .low 17) :=
    ends_of_byte (by rw [hpage, hstale.written]; decide) r
  have hfound := initConfig_found h.boot h.item hchain hend (by omega) Ram.zero
  have hops : s.storeOps supply .reboot = (s.nvm, initConfig s.nvm Ram.zero) := rfl
  rw [hfound] at hops
  rw [CleanStep, OtaDevice.step_eq hops]
  have hplaced : Placed .low 16 { getUserDataAddr s.nvm.flash Ram.zero with
      watermeterConfig := { r with flashAddrStart := .ofNat 32 (pageAddr .low 16) } } :=
    { start := (getUserDataAddr_bounds h.boot Ram.zero).start
      stop := (getUserDataAddr_bounds h.boot Ram.zero).stop
      page := by omega
      pointer := rfl }
  have hwrite := writeConfig_ring hplaced (getUserDataAddr_default s.nvm.flash Ram.zero) hring
  show ¬ ProgramsErased s.nvm (writeConfig _).2
  rw [hwrite, pageOps_inner (show succSlot 832 16 % 16 ≠ 0 by decide)]
  rintro ⟨⟨herased, -⟩, -⟩
  have hpage : pageAddr Bank.low (succSlot 832 16) = 0x41100 := by decide
  have hbyte := herased 0x41100 (Nat.le_of_eq hpage) (by rw [hpage, Config.length_toBytes]; decide)
  rw [hstale.written] at hbyte
  exact absurd hbyte (by decide)

/-- A run that leaves a written page behind a stale record of page 16: the record is written in the middle of
a download, two updates move the ring away and back, and the number starts again in between. -/
def staleRun (supply : Supply) : List (Supply × OtaEvent) :=
  interrupted supply ++ (List.replicate 16 (supply, .save) ++ (resumed supply ++ (smallUpdate supply ++
    ([(supply, .accept 28), (supply, .reboot)] ++ (smallUpdate supply ++ (List.replicate 15 (supply, .save) ++
      [(supply, .reboot), (supply, .save)]))))))

theorem staleRun_programs (h : RingWhole .low 0 c s) (hc : c.top = 0#32) (hs : Powered supply) :
    Along OtaDevice.step ImageClean s (staleRun supply) ∧ ¬ Along OtaDevice.step CleanStep s (staleRun supply) := by
  obtain ⟨⟨c₁, htop₁, h₁⟩, hclean₁⟩ := h.interrupted hs
  obtain ⟨c₂, htop₂, h₂, -⟩ := h₁.saves hs (n := 16) (by omega)
  obtain ⟨⟨c₃, h₃⟩, hstale₃, hclean₃⟩ := h₂.resumed (by rw [htop₂, htop₁, hc]; rfl) hs
  obtain ⟨⟨c₄, -, h₄⟩, hsame₄, hclean₄⟩ := h₃.smallUpdate hs
  obtain ⟨h₅, hsame₅⟩ := h₄.erased_reboot hs
  obtain ⟨⟨c₆, htop₆, h₆⟩, hsame₆, hclean₆⟩ := h₅.smallUpdate hs
  obtain ⟨c₇, htop₇, h₇, hsame₇⟩ := h₆.saves hs (n := 15) (by omega)
  have hstale := ((hstale₃.same hsame₄).same hsame₅).same hsame₆
  have hne : ∀ {t : OtaDevice} {e : OtaEvent}, (∀ offset data, e ≠ .block offset data) → ImageClean t (supply, e) :=
    fun h => imageClean_of_ne h
  constructor
  · simp only [staleRun, along_append]
    exact ⟨hclean₁, imageClean_saves _ _ _, hclean₃, hclean₄, ⟨hne (by simp), hne (by simp), trivial⟩, hclean₆,
      imageClean_saves _ _ _, hne (by simp), hne (by simp), trivial⟩
  · intro hall
    simp only [staleRun, along_append] at hall
    have htop : c₇.top = 15#32 := by
      rw [htop₇, htop₆, ← h₅.number]
      rfl
    have hstale₇ := hstale.same fun x hl _ => hsame₇ x (by rw [show Bank.high.other = .low from rfl]; exact hl)
    exact h₇.stale_programmed htop hstale₇ supply hall.2.2.2.2.2.2.2

/-! ### Runs -/

/-- A device that has never been started: the NV item is not there, or not valid. -/
structure NeverStarted (b : Bank) (s : OtaDevice) : Prop where
  boot : mcuBootAddrGet s.nvm.flash = b.base
  item : ∀ c, s.nvm.userCfg = some c → ¬ c.Valid

theorem NeverStarted.first (h : NeverStarted b s) (hs : Powered supply) :
    CleanStep s (supply, .reboot) ∧ RingWhole b 0 (firstRecord b) (s.step (supply, .reboot)) := by
  have hinit := initConfig_invalid h.item Ram.zero
  refine ⟨programsErased_reinit h.boot _ hinit, ?_⟩
  rw [OtaDevice.reboot_lost h.boot supply hinit]
  exact ringWhole_reinit h.boot hs hinit

/-- A device with an empty NV item, started from the lower bank. -/
def emptyDevice : OtaDevice := ⟨⟨Ram.zero, ⟨blankFlash .low, none⟩⟩, 0, defaultTotals⟩

theorem neverStarted_empty : NeverStarted .low emptyDevice :=
  ⟨mcuBootAddrGet_blankFlash .low, fun _ h => by cases h⟩

/-- The firmware of that device holds no record. -/
theorem firmware_blank (j : Nat) (_ : j < 832) : ringLog emptyDevice.nvm.flash Bank.low.other j = none := by
  apply recordAt_of_byte
  show blankFlash .low (0 + 256 * j) ≠ _
  rw [blankFlash, Bank.base_low, if_neg (by omega), if_neg (by omega), if_neg (by omega), if_neg (by omega)]
  decide

/-- From the first start on, through saves, power cycles, updates that fail and updates that succeed, the
store programs erased pages only, as long as no power cycle finds a stale record ahead of the pointer. -/
theorem run_programs_erased {b : Bank} {s : OtaDevice} (hfirst : NeverStarted b s) {supply : Supply}
    (hs : Powered supply) {events : List (Supply × OtaEvent)}
    (hrun : Along OtaDevice.step NoneStale (s.step (supply, .reboot)) events) :
    Along OtaDevice.step CleanStep s ((supply, .reboot) :: events) := by
  obtain ⟨hclean, hwhole⟩ := hfirst.first hs
  refine ⟨hclean, hrun.promote (fun s e h he => Sound.step h he) (fun s e h he => Sound.cleanStep h he) ?_⟩
  exact hwhole.sound

theorem failed_update_programs_erased : Along OtaDevice.step CleanStep emptyDevice
    [(fun _ => 3000, .reboot), (fun _ => 3000, .save), (fun _ => 3000, .accept 28), (fun _ => 3000, .start),
      (fun _ => 3000, .block 0 smallImage), (fun _ => 3000, .save), (fun _ => 3000, .abort), (fun _ => 3000, .save)] :=
  have hs : Powered fun _ => 3000 := powered_const (by decide)
  run_programs_erased neverStarted_empty hs
    ⟨⟨hs, nofun⟩, ⟨hs, nofun⟩, ⟨hs, nofun⟩, ⟨hs, nofun⟩, ⟨hs, nofun⟩, ⟨hs, nofun⟩, ⟨hs, nofun⟩, trivial⟩

/-- With firmware and images that never look like a record, a record still meets a page that is written: the
scan has gone on from a record that an older ring left. -/
theorem stale_record_programmed : ¬ ∀ (b : Bank) (s : OtaDevice), NeverStarted b s →
    (∀ j, j < 832 → ringLog s.nvm.flash b.other j = none) →
    ∀ supply events, Powered supply → (∀ e ∈ events, Powered e.1) →
      Along OtaDevice.step ImageClean (s.step (supply, .reboot)) events →
      Along OtaDevice.step CleanStep s ((supply, .reboot) :: events) := by
  intro h
  have hs : Powered fun _ => 3000 := powered_const (by decide)
  have hpowered : ∀ e ∈ staleRun fun _ => 3000, Powered e.1 := by
    intro e he
    have hsupply : e.1 = fun _ => 3000 := by
      simp only [staleRun, interrupted, resumed, smallUpdate, List.mem_append, List.mem_replicate, List.mem_cons,
        List.not_mem_nil, or_false] at he
      rcases he with (h | h | h | h) | h | (h | h | h) | (h | h | h | h) | (h | h) | (h | h | h | h) | h | h | h <;>
        first | rw [h] | rw [h.2]
    rw [hsupply]
    exact hs
  obtain ⟨-, hfirst⟩ := neverStarted_empty.first hs
  obtain ⟨himage, hbad⟩ := staleRun_programs hfirst rfl hs
  exact hbad (h .low emptyDevice neverStarted_empty firmware_blank _ _ hs hpowered himage).2

end Watermeter
