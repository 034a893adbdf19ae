import Watermeter.OtaInvariant

/-! Where the store erases and programs. The pointer is always on a page of the inactive bank, whatever the
flash holds and whichever driver calls the supply lets through, and no call completes a start-up flag there. -/

namespace Watermeter

open NorFlash RingLog Transition

variable {b : Bank} {p q : Nat} {m : Mem} {c : Config} {r : Ram} {v : Nvm} {s : OtaDevice} {supply : Supply}
  {op : Op} {ops : List Op}

/-! ### One driver call -/

/-- The call stays in the region of a device that boots from `b`: sectors of it are erased, a record starts on
a page and ends on it, and in the first page its tenth byte, over the second byte of the flag, is zero. -/
def Op.Confined (b : Bank) : Op → Prop
  | nvFlashWriteNew _ => True
  | flashEraseSector addr => addr % flashSectorSize = 0 ∧ b.userStart ≤ addr ∧ addr + flashSectorSize ≤ b.userEnd
  | flashErase addr => addr % flashSectorSize = 0 ∧ b.userStart ≤ addr ∧ addr + flashSectorSize ≤ b.userEnd
  | flashWrite addr buf => addr % flashPageSize = 0 ∧ b.userStart ≤ addr ∧ addr + flashPageSize ≤ b.userEnd ∧
      buf.length ≤ flashPageSize ∧ (addr = b.userStart → buf.getD 9 0xFF#8 = 0#8)

theorem flashEraseSector_aligned {addr : Nat} (h : addr % flashSectorSize = 0) :
    flashEraseSector m addr = erase m addr flashSectorSize := by
  rw [flashEraseSector, h, Nat.sub_zero]

theorem flashEraseSector_outside {addr x : Nat} (haligned : addr % flashSectorSize = 0) (hl : b.userStart ≤ addr)
    (hr : addr + flashSectorSize ≤ b.userEnd) (hx : x < b.userStart ∨ b.userEnd ≤ x) :
    flashEraseSector m addr x = m x := by
  rw [flashEraseSector_aligned haligned]
  exact erase_outside (by omega)

theorem flashEraseSector_header {addr : Nat} (haligned : addr % flashSectorSize = 0) (hl : b.userStart ≤ addr) :
    (∀ x, b.userStart + 8 ≤ x → x < b.userStart + 12 → flashEraseSector m addr x = m x) ∨
      flashEraseSector m addr (b.userStart + 8) = 0xFF#8 := by
  rw [flashEraseSector_aligned haligned]
  unfold flashSectorSize at *
  have hmod := userStart_mod b
  by_cases hfirst : addr = b.userStart
  · exact Or.inr (erase_inside (by omega) (by omega))
  · exact Or.inl fun x _ hr => erase_outside (by omega)

theorem Op.Confined.outside (h : op.Confined b) (v : Nvm) {x : Nat} (hx : x < b.userStart ∨ b.userEnd ≤ x) :
    (op.apply v).flash x = v.flash x := by
  cases op with
  | nvFlashWriteNew c => rfl
  | flashEraseSector addr => exact flashEraseSector_outside h.1 h.2.1 h.2.2 hx
  | flashErase addr => exact flashEraseSector_outside h.1 h.2.1 h.2.2 hx
  | flashWrite addr buf =>
      obtain ⟨-, hl, hr, hlen, -⟩ := h
      exact program_outside (by omega)

/-- The call leaves the flag of the bank alone, or spoils one of its first two bytes. -/
theorem Op.Confined.header (h : op.Confined b) (v : Nvm) :
    (∀ x, b.userStart + 8 ≤ x → x < b.userStart + 12 → (op.apply v).flash x = v.flash x) ∨
      (op.apply v).flash (b.userStart + 8) = 0xFF#8 ∨ (op.apply v).flash (b.userStart + 9) = 0#8 := by
  cases op with
  | nvFlashWriteNew c => exact Or.inl fun _ _ _ => rfl
  | flashEraseSector addr => exact (flashEraseSector_header h.1 h.2.1).imp_right Or.inl
  | flashErase addr => exact (flashEraseSector_header h.1 h.2.1).imp_right Or.inl
  | flashWrite addr buf =>
      obtain ⟨hpage, hl, -, hlen, hzero⟩ := h
      unfold flashPageSize at *
      have hmod := userStart_mod b
      by_cases hfirst : addr = b.userStart
      · subst hfirst
        have hbyte := hzero rfl
        have hin : 9 < buf.length := by
          by_contra hout
          rw [List.getD, List.getElem?_eq_none (by omega)] at hbyte
          exact absurd hbyte (by decide)
        refine Or.inr (Or.inr ?_)
        show program v.flash b.userStart buf (b.userStart + 9) = _
        rw [program_inside hin, hbyte, BitVec.and_zero]
      · exact Or.inl fun x _ hr => program_outside (by omega)

/-- Outside the region nothing has changed, and the flag of the bank is the one that was there or none. -/
structure Spared (b : Bank) (m m' : Mem) : Prop where
  outside : ∀ x, x < b.userStart ∨ b.userEnd ≤ x → m' x = m x
  word : read32 m' (b.userStart + 8) = read32 m (b.userStart + 8) ∨ read32 m' (b.userStart + 8) ≠ tlStartUpFlagWhole

theorem Spared.refl (b : Bank) (m : Mem) : Spared b m m := ⟨fun _ _ => rfl, Or.inl rfl⟩

theorem Spared.boot {m' : Mem} (h : Spared b m m') (hboot : mcuBootAddrGet m = b.base) :
    mcuBootAddrGet m' = b.base :=
  mcuBootAddrGet_outside hboot h.outside h.word

theorem Spared.apply (h : Spared b m v.flash) (hop : op.Confined b) : Spared b m (op.apply v).flash where
  outside x hx := (hop.outside v hx).trans (h.outside x hx)
  word := by
    rcases hop.header v with hsame | hff | hzero
    · have hword := read32_congr (a := b.userStart + 8) fun x hl hr => hsame x hl (by omega)
      rw [hword]
      exact h.word
    · apply Or.inr
      intro hflag
      rw [(read32_flag hflag).1] at hff
      exact absurd hff (by decide)
    · apply Or.inr
      intro hflag
      rw [← Nat.add_assoc b.userStart 8 1, (read32_flag hflag).2.1] at hzero
      exact absurd hzero (by decide)

theorem FlagSafe.apply (h : FlagSafe b v.flash) (hop : op.Confined b) : FlagSafe b (op.apply v).flash := by
  intro hb
  rcases hop.header v with hsame | hff | hzero
  · rw [hsame _ (by omega) (by omega), hsame _ (by omega) (by omega)]
    exact h hb
  · rw [hff]
    exact Or.inl (by decide)
  · rw [hzero]
    exact Or.inr (by decide)

theorem spared_performAll (hops : ∀ op ∈ ops, op.Confined b) (supply : Supply) (v : Nvm) :
    Spared b v.flash (performAll supply v ops).flash :=
  performAll_induction (P := fun w => Spared b v.flash w.flash) (fun _ op hmem h => h.apply (hops op hmem)) supply
    (.refl b v.flash)

theorem flagSafe_performAll (hops : ∀ op ∈ ops, op.Confined b) (supply : Supply) (h : FlagSafe b v.flash) :
    FlagSafe b (performAll supply v ops).flash :=
  performAll_induction (P := fun w => FlagSafe b w.flash) (fun _ op hmem h => h.apply (hops op hmem)) supply h

/-! ### The calls of the store -/

theorem pageAddr_confined (hq : q < 832) :
    pageAddr b q % flashPageSize = 0 ∧ b.userStart ≤ pageAddr b q ∧ pageAddr b q + flashPageSize ≤ b.userEnd := by
  have hmod := userStart_mod b
  unfold pageAddr Bank.userEnd flashPageSize userDataSize
  omega

theorem pageOps_confined (hq : q < 832) (hc : c.flashAddrStart = .ofNat 32 (pageAddr b q)) :
    ∀ op ∈ pageOps b q c, op.Confined b := by
  obtain ⟨hpage, hl, hr⟩ := pageAddr_confined (b := b) hq
  have hwrite : (Op.flashWrite (pageAddr b q) c.toBytes).Confined b := by
    refine ⟨hpage, hl, hr, by rw [Config.length_toBytes]; decide, fun hfirst => ?_⟩
    rw [toBytes_addr, hc, hfirst]
    cases b <;> rfl
  have herase : q % 16 = 0 → (Op.flashErase (pageAddr b q)).Confined b := by
    intro hopen
    refine ⟨(pageAddr_mod_sector b q).mpr hopen, hl, ?_⟩
    unfold pageAddr Bank.userEnd flashPageSize flashSectorSize userDataSize
    omega
  intro op hop
  by_cases hopen : q % 16 = 0
  · rw [pageOps_opened hopen] at hop
    rcases List.mem_cons.mp hop with rfl | hop
    · exact herase hopen
    · rw [List.mem_singleton.mp hop]
      exact hwrite
  · rw [pageOps_inner hopen] at hop
    rw [List.mem_singleton.mp hop]
    exact hwrite

theorem nvThen_confined (hc : c.flashAddrStart = .ofNat 32 b.userStart) (c' : Config) :
    ∀ op ∈ Op.nvFlashWriteNew c' :: pageOps b 0 c, op.Confined b := by
  intro op hop
  rcases List.mem_cons.mp hop with rfl | hop
  · exact trivial
  · exact pageOps_confined (by omega) (by rw [hc, pageAddr_zero]) op hop

theorem clearUserData_confined (b : Bank) : ∀ op ∈ clearUserData (.ofNat 32 b.userStart), op.Confined b := by
  intro op hop
  obtain ⟨i, hi, rfl⟩ := List.mem_map.mp hop
  have hmod := userStart_mod b
  rw [List.mem_range] at hi
  rw [toNat_userStart]
  unfold userDataSize flashSectorSize at hi
  unfold Op.Confined Bank.userEnd flashSectorSize userDataSize
  omega

theorem reinitConfig_confined (hr : Bounds b r) :
    Placed b 0 (reinitConfig r).1 ∧ (reinitConfig r).1.defaultConfig = false ∧ ∀ op ∈ (reinitConfig r).2, op.Confined b := by
  rw [reinitConfig_eq hr]
  refine ⟨⟨⟨hr.start, hr.stop⟩, by omega, ?_⟩, rfl, fun op hop => ?_⟩
  · rw [pageAddr_zero]
    exact hr.start
  · rcases List.mem_append.mp hop with hclear | hwrite
    · exact clearUserData_confined b op hclear
    · exact nvThen_confined hr.start _ op hwrite

theorem scanRing_confined (hr : Bounds b r) (hd : r.defaultConfig = false) :
    (∃ p, Placed b p (scanRing m r).1) ∧ (scanRing m r).1.defaultConfig = false ∧
      ∀ op ∈ (scanRing m r).2, op.Confined b := by
  obtain ⟨hplaced, hwritten, hops⟩ := reinitConfig_confined hr
  by_cases hpage : (readConfig m b.userStart).id = idConfig
  swap
  · rw [scanRing, hr.start, toNat_userStart, if_pos hpage]
    exact ⟨⟨0, hplaced⟩, hwritten, hops⟩
  rw [scanRing_eq hr hpage]
  cases hfollow : follow Config.top (ringLog m b) 831 0 (readConfig m b.userStart) with
  | none =>
      have hscan := scanConfig_of_none rfl hfollow
      revert hscan
      rcases scanConfig m b.userEnd (readConfig m b.userStart) (pageAddr b 1) with ⟨curr, addr, found⟩
      rintro rfl
      exact ⟨⟨0, hplaced⟩, hwritten, hops⟩
  | some found =>
      obtain ⟨p, c⟩ := found
      have hlt := follow_lt hfollow
      rw [scanConfig_of_some rfl hfollow, ← pageAddr_succ]
      simp only [Nat.add_sub_cancel]
      exact ⟨⟨p, ⟨hr.start, hr.stop⟩, by omega, rfl⟩, hd, fun op hop => absurd hop List.not_mem_nil⟩

/-- Whatever the memory holds, `init_config` sets the pointer on a page of the inactive bank. -/
theorem initConfig_confined (hboot : mcuBootAddrGet v.flash = b.base) (hd : r.defaultConfig = false) :
    (∃ p, Placed b p (initConfig v r).1) ∧ (initConfig v r).1.defaultConfig = false ∧
      ∀ op ∈ (initConfig v r).2, op.Confined b := by
  have hr := getUserDataAddr_bounds hboot r
  by_cases hvalid : ∃ c, v.userCfg = some c ∧ c.Valid
  swap
  · obtain ⟨hplaced, hrest⟩ := reinitConfig_confined hr
    rw [initConfig_invalid (fun c hcfg hc => hvalid ⟨c, hcfg, hc⟩)]
    exact ⟨⟨0, hplaced⟩, hrest⟩
  obtain ⟨c, hcfg, hc⟩ := hvalid
  by_cases ho : c.newOta = 0
  · rw [initConfig_ring ⟨c, hcfg, hc, ho⟩]
    exact scanRing_confined hr ((getUserDataAddr_default _ _).trans hd)
  · rw [initConfig_restore_eq hboot hcfg hc ho]
    refine ⟨⟨0, ⟨hr.start, hr.stop⟩, by omega, ?_⟩, rfl, nvThen_confined hr.start _⟩
    rw [pageAddr_zero]
    exact hr.start

theorem writeConfig_confined (hr : Placed b p r) (hd : r.defaultConfig = false) :
    (∃ p, Placed b p (writeConfig r).1) ∧ (writeConfig r).1.defaultConfig = false ∧
      ∀ op ∈ (writeConfig r).2, op.Confined b := by
  by_cases ho : r.watermeterConfig.newOta = 0
  · have hnext := succSlot_lt hr.page
    rw [writeConfig_ring hr hd ho]
    refine ⟨⟨_, ⟨hr.start, hr.stop⟩, hnext, hr.nextFlashAddr⟩, hd, pageOps_confined hnext hr.nextFlashAddr⟩
  · rw [writeConfig_ota hd ho]
    refine ⟨⟨p, ⟨hr.start, hr.stop⟩, hr.page, hr.pointer⟩, hd, fun op hop => ?_⟩
    rw [List.mem_singleton.mp hop]
    exact trivial

/-! ### Any order of events -/

/-- The device runs from `b`: the client knows it, the pointer is on a page of the other bank, and no flag
is about to be completed there. -/
structure Sited (b : Bank) (s : OtaDevice) : Prop where
  boot : mcuBootAddrGet s.nvm.flash = b.base
  addr : s.mcuBootAddr = b.base
  safe : FlagSafe b s.nvm.flash
  placed : ∃ p, Placed b p s.ram
  written : s.ram.defaultConfig = false

/-- The same of the memory a step of the store starts from and of the variables it leaves, with the calls. -/
structure SitedCalls (b : Bank) (calls : Nvm × Ram × List Op) : Prop where
  boot : mcuBootAddrGet calls.1.flash = b.base
  safe : FlagSafe b calls.1.flash
  placed : ∃ p, Placed b p calls.2.1
  written : calls.2.1.defaultConfig = false
  confined : ∀ op ∈ calls.2.2, op.Confined b

/-- The boot address the client has read when the store makes its calls in a step. -/
def OtaDevice.bootAddr (supply : Supply) (s : OtaDevice) (e : OtaEvent) : Nat :=
  if s.resets supply e then mcuBootAddrGet (s.storeOps supply e).1.flash else s.mcuBootAddr

/-- What runs or is kept elsewhere on the chip: the firmware the device boots from, the two NV areas and
everything behind the upper region. -/
def Elsewhere (b : Bank) (x : Nat) : Prop :=
  b.base ≤ x ∧ x < b.base + userDataSize ∨ 0x34000 ≤ x ∧ x < 0x40000 ∨ 0x74000 ≤ x

/-- In this step every call of the store stays in the region of the bank the device does not run from, and
after each of them nothing outside of it has changed and the device still runs from the same bank. -/
def ConfinedStep (s : OtaDevice) (e : Supply × OtaEvent) : Prop :=
  ∃ b, s.bootAddr e.1 e.2 = b.base ∧ (∀ op ∈ (s.storeOps e.1 e.2).2.2, op.Confined b) ∧
    ∀ k, let m := (performAll e.1 (s.storeOps e.1 e.2).1 ((s.storeOps e.1 e.2).2.2.take k)).flash
      Spared b (s.storeOps e.1 e.2).1.flash m ∧ (∀ x, Elsewhere b x → m x = (s.storeOps e.1 e.2).1.flash x) ∧
        mcuBootAddrGet m = b.base

theorem Spared.elsewhere {m' : Mem} (h : Spared b m m') {x : Nat} (hx : Elsewhere b x) : m' x = m x := by
  apply h.outside x
  have hbank := b.userStart_cases
  unfold Elsewhere at hx
  unfold Bank.userEnd
  unfold userDataSize at *
  omega

theorem confinedStep_of {e : OtaEvent} (haddr : s.bootAddr supply e = b.base)
    (hboot : mcuBootAddrGet (s.storeOps supply e).1.flash = b.base)
    (hops : ∀ op ∈ (s.storeOps supply e).2.2, op.Confined b) : ConfinedStep s (supply, e) := by
  refine ⟨b, haddr, hops, fun k => ?_⟩
  have htake : ∀ op ∈ (s.storeOps supply e).2.2.take k, op.Confined b := fun op hop => hops op (List.mem_of_mem_take hop)
  have hspared := spared_performAll htake supply (s.storeOps supply e).1
  exact ⟨hspared, fun x hx => hspared.elsewhere hx, hspared.boot hboot⟩

theorem SitedCalls.step {e : OtaEvent} (h : SitedCalls b (s.storeOps supply e)) (haddr : s.bootAddr supply e = b.base) :
    Sited b (s.step (supply, e)) where
  boot := (spared_performAll h.confined supply _).boot h.boot
  addr := haddr
  safe := flagSafe_performAll h.confined supply h.safe
  placed := h.placed
  written := h.written

theorem SitedCalls.quiet {nvm : Nvm} (hboot : mcuBootAddrGet nvm.flash = b.base) (hsafe : FlagSafe b nvm.flash)
    (hplaced : ∃ p, Placed b p r) (hd : r.defaultConfig = false) : SitedCalls b (nvm, r, []) :=
  ⟨hboot, hsafe, hplaced, hd, fun _ hop => absurd hop List.not_mem_nil⟩

theorem SitedCalls.init {nvm : Nvm} (hboot : mcuBootAddrGet nvm.flash = b.base) (hsafe : FlagSafe b nvm.flash)
    (hd : r.defaultConfig = false) : SitedCalls b (nvm, initConfig nvm r) := by
  obtain ⟨hplaced, hwritten, hops⟩ := initConfig_confined hboot hd
  exact ⟨hboot, hsafe, hplaced, hwritten, hops⟩

theorem SitedCalls.write {nvm : Nvm} (hboot : mcuBootAddrGet nvm.flash = b.base) (hsafe : FlagSafe b nvm.flash)
    (hplaced : Placed b p r) (hd : r.defaultConfig = false) : SitedCalls b (nvm, writeConfig r) := by
  obtain ⟨hplaced, hwritten, hops⟩ := writeConfig_confined hplaced hd
  exact ⟨hboot, hsafe, hplaced, hwritten, hops⟩

/-- A switch leaves a device that runs from the one bank or the other, and only a reset moves it. -/
theorem otaMcuReboot_sited (hboot : mcuBootAddrGet m = b.base) (hsafe : FlagSafe b m) (supply : Supply) :
    ∃ b', mcuBootAddrGet (otaMcuReboot b.base supply m).2 = b'.base ∧
      FlagSafe b' (otaMcuReboot b.base supply m).2 ∧ ((otaMcuReboot b.base supply m).1 = false → b' = b) := by
  have hbank := b.userStart_cases
  rcases otaMcuReboot_cases b supply m with h | ⟨h, hne⟩ | ⟨h, hflag⟩
  · rw [h]
    exact ⟨b, hboot, hsafe, fun _ => rfl⟩
  · rw [h]
    have hsafe' : FlagSafe b (program m (b.userStart + 8) [0x4b#8]) := fun _ => Or.inl (by rw [program_byte]; exact hne)
    exact ⟨b, mcuBootAddrGet_safe hboot hsafe' fun x _ _ => program_byte_ne _ (by omega), hsafe', fun _ => rfl⟩
  by_cases hmv : supply 1 < batterySafetyThreshold
  · -- the old flag could not be cleared: both banks carry one, and the lower is taken
    have hkeep : flashWrite (supply 1) (program m (b.userStart + 8) [0x4b#8]) (b.base + 8) [0#8] =
        program m (b.userStart + 8) [0x4b#8] := if_pos hmv
    rw [h, hkeep]
    refine ⟨.low, mcuBootAddrGet_low.mpr ?_, nofun, nofun⟩
    cases b with
    | high => exact hflag
    | low =>
        rw [← mcuBootAddrGet_low.mp hboot]
        exact read32_congr fun x _ hr => program_byte_ne _ (by rw [Bank.userStart_low]; omega)
  · obtain ⟨hother, hclear⟩ := otaMcuReboot_switch (Nat.not_lt.mp hmv) (by rw [h])
    refine ⟨b.other, hother, fun _ => Or.inl ?_, by rw [h]; nofun⟩
    rw [hclear]
    decide

theorem Sited.calls (h : Sited b s) (supply : Supply) (e : OtaEvent) :
    ∃ b', SitedCalls b' (s.storeOps supply e) ∧ s.bootAddr supply e = b'.base := by
  obtain ⟨p, hplaced⟩ := h.placed
  cases e with
  | set t =>
      exact ⟨b, .quiet h.boot h.safe ⟨p, ⟨hplaced.start, hplaced.stop⟩, hplaced.page, hplaced.pointer⟩ h.written, h.addr⟩
  | save => exact ⟨b, .write h.boot h.safe hplaced h.written, h.addr⟩
  | reboot => exact ⟨b, .init h.boot h.safe rfl, h.boot⟩
  | accept imageSize =>
      refine ⟨b, ?_, h.addr⟩
      by_cases hsize : imageSize ≤ flashOtaImageMaxSize
      · obtain ⟨herased, -⟩ := sectorsErased_accept (b := b) (clientSupply supply) s.nvm hsize
        have hsafe := herased.flagSafe h.safe
        simp only [OtaDevice.storeOps, if_pos hsize, h.addr]
        exact .quiet (mcuBootAddrGet_safe h.boot hsafe fun x hl hr => herased.base hl hr) hsafe h.placed h.written
      · simp only [OtaDevice.storeOps, if_neg hsize]
        exact .quiet h.boot h.safe h.placed h.written
  | start =>
      exact ⟨b, .write (r := otaStarted s.ram) h.boot h.safe
        ⟨⟨hplaced.start, hplaced.stop⟩, hplaced.page, hplaced.pointer⟩ h.written, h.addr⟩
  | block offset data =>
      refine ⟨b, ?_, h.addr⟩
      by_cases hlen : s.ram.watermeterConfig.newOta ≠ 0 ∧ offset + data.length ≤ flashOtaImageMaxSize
      · obtain ⟨hout, hsafe⟩ := block_spec (b := b) (clientSupply supply 0) s.nvm.flash hlen.2
        have hbank := b.userStart_cases
        simp only [OtaDevice.storeOps, if_pos hlen, h.addr, imageBase_eq]
        refine .quiet (mcuBootAddrGet_safe h.boot (hsafe h.safe) fun x hl hr => hout x ?_) (hsafe h.safe) h.placed h.written
        unfold Bank.userEnd userDataSize
        omega
      · simp only [OtaDevice.storeOps, if_neg hlen]
        exact .quiet h.boot h.safe h.placed h.written
  | abort =>
      refine ⟨b, ?_, h.addr⟩
      by_cases ho : s.ram.watermeterConfig.newOta ≠ 0
      · simp only [OtaDevice.storeOps, if_pos ho]
        exact .init h.boot h.safe h.written
      · simp only [OtaDevice.storeOps, if_neg ho]
        exact .quiet h.boot h.safe h.placed h.written
  | success =>
      obtain ⟨b', hboot, hsafe, hstay⟩ := otaMcuReboot_sited h.boot h.safe (clientSupply supply)
      rw [← h.addr] at hboot hsafe hstay
      refine ⟨b', ?_⟩
      cases hreset : s.resets supply .success with
      | true =>
          rw [OtaDevice.bootAddr, OtaDevice.storeOps, hreset]
          exact ⟨.init hboot hsafe rfl, hboot⟩
      | false =>
          obtain rfl := hstay hreset
          rw [OtaDevice.bootAddr, OtaDevice.storeOps, hreset]
          exact ⟨.quiet hboot hsafe h.placed h.written, h.addr⟩

/-- In any state between events, and at any supply, the next event keeps to the region. -/
theorem Sited.step (h : Sited b s) (supply : Supply) (e : OtaEvent) :
    ConfinedStep s (supply, e) ∧ ∃ b', Sited b' (s.step (supply, e)) := by
  obtain ⟨b', hcalls, haddr⟩ := h.calls supply e
  exact ⟨confinedStep_of haddr hcalls.boot hcalls.confined, b', hcalls.step haddr⟩

/-- A device to be switched on: it boots from `b`, and the other bank either has no half of a flag, which a
switch makes sure of, or is cleared because the NV item holds no record. -/
structure Startable (b : Bank) (v : Nvm) : Prop where
  boot : mcuBootAddrGet v.flash = b.base
  header : FlagSafe b v.flash ∨ ∀ c, v.userCfg = some c → ¬ c.Valid

theorem flagSafe_cleared (supply : Supply) (v : Nvm) {r : Ram} (hr : Bounds b r) :
    FlagSafe b (performAll supply v (reinitConfig r).2).flash := by
  obtain ⟨-, -, hops⟩ := reinitConfig_confined hr
  revert hops
  rw [reinitConfig_eq hr, clearUserData, show userDataSize / flashSectorSize = 51 + 1 from rfl, List.range_succ_eq_map,
    List.map_cons, List.cons_append, performAll]
  intro hops
  refine flagSafe_performAll (fun op hop => hops op (List.mem_cons_of_mem _ hop)) _ fun _ => Or.inl ?_
  have hfirst : flashEraseSector v.flash (b.userStart + flashSectorSize * 0) (b.userStart + 8) = 0xFF#8 := by
    rw [Nat.mul_zero, Nat.add_zero, flashEraseSector_aligned (userStart_mod b)]
    exact erase_inside (by omega) (by unfold flashSectorSize; omega)
  rw [toNat_userStart]
  show flashEraseSector v.flash (b.userStart + flashSectorSize * 0) (b.userStart + 8) ≠ _
  rw [hfirst]
  decide

theorem Startable.first (h : Startable b s.nvm) (supply : Supply) :
    ConfinedStep s (supply, .reboot) ∧ Sited b (s.step (supply, .reboot)) := by
  obtain ⟨hplaced, hwritten, hops⟩ := initConfig_confined (r := Ram.zero) h.boot rfl
  have haddr : s.bootAddr supply .reboot = b.base := h.boot
  refine ⟨confinedStep_of haddr h.boot hops, ?_⟩
  exact
    { boot := (spared_performAll hops supply s.nvm).boot h.boot
      addr := haddr
      safe := by
        show FlagSafe b (performAll supply s.nvm (initConfig s.nvm Ram.zero).2).flash
        rcases h.header with hsafe | hinvalid
        · exact flagSafe_performAll hops supply hsafe
        · rw [initConfig_invalid hinvalid]
          exact flagSafe_cleared supply s.nvm (getUserDataAddr_bounds h.boot Ram.zero)
      placed := hplaced
      written := hwritten }

end Watermeter
