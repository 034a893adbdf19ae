import Watermeter.PowerLossRuns

/-! The configuration over losses of power. Cut short where the first page is not at stake, every operation of the
store leaves the totals from before or the new ones to the next start. The first page has no second copy: the NV
item is out of OTA mode, or the sector is erased, before its record is written. -/

namespace Watermeter

open NorFlash RingLog Transition

variable {b : Bank} {p k j : Nat} {c : Config} {supply : Supply} {t : Totals}

namespace PoweredDevice

variable {s : PoweredDevice} {e : OtaEvent}

/-- Between events: the device is on and has no totals but those it holds, or it is off and a start gives those
from before the last operation or those that were being written. -/
inductive Sound (s : PoweredDevice) : Prop
  | on (hon : s.on = true) (hrunning : Running s.toOtaDevice) (hwriting : s.writing = s.passed)
  | off (hoff : s.on = false) (b : Bank) (t : Totals) (hboot : mcuBootAddrGet s.nvm.flash = b.base)
      (hrecover : Recoverable b s.nvm t) (ht : t = s.passed ∨ t = s.writing)

theorem finished_stays (h : s.resets supply e = false) :
    (s.finished supply e).toOtaDevice = s.toOtaDevice.step (supply, e) := by
  simp only [finished, h]
  rfl

theorem sound_finished (h : s.resets supply e = false) (hrunning : Running (s.toOtaDevice.step (supply, e))) :
    Sound (s.finished supply e) := by
  refine .on rfl ?_ rfl
  rw [finished_stays h]
  exact hrunning

theorem finished_reboot (supply : Supply) (hboot : mcuBootAddrGet s.nvm.flash = b.base) :
    (s.finished supply .reboot).toOtaDevice =
      startUp supply b Ram.zero s.nvm (initConfig s.nvm Ram.zero).1.watermeterConfig.totals := by
  have hops : s.storeOps supply .reboot = (s.nvm, initConfig s.nvm Ram.zero) := rfl
  have hresets : s.resets supply .reboot = true := rfl
  simp only [finished, OtaDevice.step_eq hops, hresets, if_true, hboot]
  rfl

theorem cutCall_lt {cut : Option (Nat × Nat)} (h : s.cutCall supply e cut = some (k, j)) :
    k < (s.storeOps supply e).2.2.length := by
  obtain ⟨-, hlt⟩ := Option.filter_eq_some_iff.mp h
  exact of_decide_eq_true hlt

theorem interrupted_nvm {nvm : Nvm} {ram : Ram} {ops : List Op} (h : s.storeOps supply e = (nvm, ram, ops)) :
    s.interrupted supply e k j = ⟨⟨⟨Ram.zero, performAll supply nvm (cutShort k j ops)⟩, s.mcuBootAddr, s.passed⟩,
      false, ram.watermeterConfig.totals⟩ := by
  rw [interrupted, h]

/-! ### Starts -/

/-- What the next start gives, whether the device is on or off. -/
theorem Sound.memory (h : Sound s) (hspared : s.StartSpared) :
    ∃ b t, mcuBootAddrGet s.nvm.flash = b.base ∧ Recoverable b s.nvm t ∧ (t = s.passed ∨ t = s.writing) := by
  cases h with
  | off hoff b t hboot hrecover ht => exact ⟨b, t, hboot, hrecover, ht⟩
  | on hon hrunning hwriting =>
      cases hrunning with
      | ring b p held read =>
          exact ⟨b, s.passed, held.boot, held.recoverable (hspared.1 hon held.mode) read, Or.inl rfl⟩
      | update b c use =>
          exact ⟨b, s.passed, use.boot, .update c use.item use.valid use.ota use.safe use.held, Or.inl rfl⟩

theorem Sound.reboot (h : Sound s) (hs : Powered supply) (hspared : s.StartSpared) :
    Sound (s.finished supply .reboot) ∧
      ((s.finished supply .reboot).ram.watermeterConfig.totals = s.passed ∨
        (s.finished supply .reboot).ram.watermeterConfig.totals = s.writing) := by
  obtain ⟨b, t, hboot, hrecover, ht⟩ := h.memory hspared
  have hinside : Inside b s.nvm := fun hitem => hspared.2 hitem b hboot
  have htotals := hrecover.totals hboot hinside
  have hdevice := finished_reboot supply hboot
  rw [htotals] at hdevice
  have hram : (s.finished supply .reboot).ram.watermeterConfig.totals = t :=
    (congrArg (fun d : OtaDevice => d.ram.watermeterConfig.totals) hdevice).trans htotals
  refine ⟨.on rfl ?_ rfl, ?_⟩
  · rw [hdevice]
    exact hrecover.start hboot hs hinside
  · rw [hram]
    exact ht

theorem Sound.reboot_cut (h : Sound s) (hs : Powered supply) (hspared : s.StartSpared)
    (hrestore : UpdateItem s.nvm → RestoreSpared s.nvm k j) (hinit : ¬ UpdateItem s.nvm → InitSpared s.nvm k j)
    (hlen : k < (s.storeOps supply .reboot).2.2.length) : Sound (s.interrupted supply .reboot k j) := by
  obtain ⟨b, t, hboot, hrecover, -⟩ := h.memory hspared
  have hinside : Inside b s.nvm := fun hitem => hspared.2 hitem b hboot
  obtain ⟨hboot', hrecover'⟩ := hrecover.cut hboot hs hinside hlen hrestore hinit
  have hops : s.storeOps supply .reboot = (s.nvm, initConfig s.nvm Ram.zero) := rfl
  rw [interrupted_nvm hops]
  exact .off rfl b t hboot' hrecover' (Or.inr (hrecover.totals hboot hinside).symm)

/-! ### The ring in use -/

theorem ring_finished {b : Bank} {p : Nat} (held : RingHeld b p s.toOtaDevice)
    (read : (∃ c, Newest b p c s.nvm.flash ∧ c.top = s.ram.watermeterConfig.top ∧ c.totals = s.passed) ∨
      (readConfig s.nvm.flash b.userStart).id ≠ idConfig)
    (hs : Powered supply) (he : e ≠ .reboot) (hspared : s.SparedAt supply e none) :
    s.resets supply e = false ∧ Running (s.toOtaDevice.step (supply, e)) := by
  cases e with
  | set t => exact ⟨rfl, .ring b p (held.step_set supply t) read⟩
  | save =>
      have hsaved := held.save_read (hspared held.mode) read
      have hstep := held.step_save hs
      rw [held.save_eq hs] at hstep ⊢
      exact ⟨rfl, .ring b _ hstep (hsaved.imp_left fun hnewest => ⟨_, hnewest, rfl, rfl⟩)⟩
  | reboot => exact absurd rfl he
  | accept imageSize =>
      refine ⟨rfl, .ring b p (held.step_accept supply imageSize) ?_⟩
      by_cases hsize : imageSize ≤ flashOtaImageMaxSize
      · refine Or.inr (erased_unmarked ?_).1
        rw [(OtaDevice.accept_flash held.addr hs hsize).2]
        apply (erased_erase _ _ _).mono (Nat.le_refl _)
        unfold flashSectorSize
        omega
      · have hstep : s.toOtaDevice.step (supply, .accept imageSize) = s.toOtaDevice := by
          simp only [OtaDevice.step, OtaDevice.storeOps, if_neg hsize]
          rfl
        rw [hstep]
        exact read
  | start =>
      obtain ⟨c, -, huse⟩ := held.step_start supply
      exact ⟨rfl, .update b c huse⟩
  | block offset data =>
      rw [held.step_block]
      exact ⟨rfl, .ring b p held read⟩
  | abort =>
      rw [held.step_abort]
      exact ⟨rfl, .ring b p held read⟩
  | success =>
      rw [held.step_success]
      exact ⟨congrArg Prod.fst (held.success_refused supply), .ring b p held read⟩

theorem ring_cut {b : Bank} {p : Nat} (held : RingHeld b p s.toOtaDevice)
    (read : (∃ c, Newest b p c s.nvm.flash ∧ c.top = s.ram.watermeterConfig.top ∧ c.totals = s.passed) ∨
      (readConfig s.nvm.flash b.userStart).id ≠ idConfig)
    (hs : Powered supply) (he : e ≠ .reboot) (hspared : s.SparedAt supply e (some (k, j)))
    (hlen : k < (s.storeOps supply e).2.2.length) : Sound (s.interrupted supply e k j) := by
  cases e with
  | save =>
      have hops : s.storeOps supply .save = (s.nvm, { s.ram with watermeterConfig := nextConfig s.ram },
          pageOps b (succSlot 832 p) (nextConfig s.ram)) :=
        congrArg (Prod.mk s.nvm) (writeConfig_ring held.toPlaced held.written held.mode)
      rw [hops] at hlen
      obtain ⟨hboot, t, hrecover, ht⟩ := held.save_cut hs read (hspared held.mode) hlen
      rw [interrupted_nvm hops]
      exact .off rfl b t hboot hrecover ht
  | start =>
      have hops : s.storeOps supply .start = (s.nvm, _) :=
        congrArg (Prod.mk s.nvm) (OtaDevice.writeConfig_started held.written)
      rw [hops] at hlen
      obtain rfl : k = 0 := by
        have hcount : k < 1 := hlen
        omega
      rw [interrupted_nvm hops]
      exact .off rfl b s.passed held.boot (held.recoverable (hspared held.mode) read) (Or.inl rfl)
  | reboot => exact absurd rfl he
  | set t => exact absurd hlen (Nat.not_lt_zero k)
  | accept imageSize =>
      simp only [OtaDevice.storeOps] at hlen
      split at hlen <;> exact absurd hlen (Nat.not_lt_zero k)
  | block offset data =>
      simp only [OtaDevice.storeOps] at hlen
      split at hlen <;> exact absurd hlen (Nat.not_lt_zero k)
  | abort =>
      simp only [OtaDevice.storeOps, if_neg (not_not.mpr held.mode)] at hlen
      exact absurd hlen (Nat.not_lt_zero k)
  | success =>
      have hstay : s.resets supply .success = false := congrArg Prod.fst (held.success_refused supply)
      simp only [OtaDevice.storeOps, hstay] at hlen
      exact absurd hlen (Nat.not_lt_zero k)

/-! ### An update running -/

theorem update_finished {b : Bank} {c : Config} (use : OtaUse b c s.toOtaDevice) (hs : Powered supply) (he : e ≠ .reboot) :
    Sound (s.finished supply e) ∧
      (s.resets supply e = true → (s.finished supply e).ram.watermeterConfig.totals = s.passed) := by
  cases e with
  | set t => exact ⟨sound_finished rfl (.update b c (use.step_set supply t)), nofun⟩
  | save =>
      obtain ⟨c', huse⟩ := use.step_save supply
      exact ⟨sound_finished rfl (.update b c' huse), nofun⟩
  | reboot => exact absurd rfl he
  | accept imageSize => exact ⟨sound_finished rfl (.update b c (use.step_accept supply imageSize)), nofun⟩
  | start =>
      obtain ⟨c', -, huse⟩ := use.step_start supply
      exact ⟨sound_finished rfl (.update b c' huse), nofun⟩
  | block offset data => exact ⟨sound_finished rfl (.update b c (use.step_block supply offset data)), nofun⟩
  | abort =>
      obtain ⟨c', -, -, hwhole⟩ := use.step_abort hs
      exact ⟨sound_finished rfl hwhole.running, nofun⟩
  | success =>
      cases hreset : s.resets supply .success with
      | false => exact ⟨sound_finished hreset (.update b c (use.step_success_stay hreset)), nofun⟩
      | true =>
          have hstart := use.success_eq hs hreset
          obtain ⟨c', -, -, hwhole⟩ := use.step_success_switch hs hreset
          have htotals : (s.toOtaDevice.step (supply, .success)).ram.watermeterConfig.totals = c.totals := by
            rw [hstart]
            exact startUp_totals (use.switched_boot hs hreset) use.item use.valid use.ota _ _
          have hpassed : (s.toOtaDevice.step (supply, .success)).passed = c.totals := by rw [hstart]; rfl
          have hsame : (s.finished supply .success).toOtaDevice = s.toOtaDevice.step (supply, .success) := by
            simp only [finished, hreset, if_true, htotals]
            rw [← hpassed]
          refine ⟨.on rfl ?_ rfl, fun _ => htotals.trans use.held⟩
          rw [hsame]
          exact hwhole.running

/-- The record goes back to the first page the same way, from whatever variables. -/
theorem restoredRecord_addr {v : Nvm} {r : Ram} (hboot : mcuBootAddrGet v.flash = b.base) :
    restoredRecord c (getUserDataAddr v.flash r) = restoredRecord c (getUserDataAddr v.flash Ram.zero) := by
  have hr := getUserDataAddr_bounds hboot r
  have hzero := getUserDataAddr_bounds hboot Ram.zero
  rw [restoredRecord, restoredRecord, hr.start, hr.stop, hzero.start, hzero.stop]

/-- A cut while the totals go back to the ring after an update that failed. -/
theorem abort_cut {b : Bank} {c : Config} (use : OtaUse b c s.toOtaDevice) (hs : Powered supply)
    (hspared : s.SparedAt supply .abort (some (k, j))) : Sound (s.interrupted supply .abort k j) := by
  have hops : s.storeOps supply .abort = (s.nvm, initConfig s.nvm s.ram) := if_pos use.mode
  have hbounds := getUserDataAddr_bounds use.boot s.ram
  have hk := hspared c use.item
  rw [← restoredRecord_addr (r := s.ram) use.boot] at hk
  rw [initConfig_restore_eq use.boot use.item use.valid use.ota] at hops
  obtain ⟨hboot, hrecover⟩ := restore_cut use.boot hs use.item use.valid use.ota use.safe hbounds rfl hk
  rw [interrupted_nvm hops]
  exact .off rfl b c.totals hboot hrecover (Or.inl use.held)

/-- A cut while they go back in the start after an update that succeeded. -/
theorem success_cut {b : Bank} {c : Config} (use : OtaUse b c s.toOtaDevice) (hs : Powered supply)
    (hspared : s.SparedAt supply .success (some (k, j))) (hreset : s.resets supply .success = true) :
    Sound (s.interrupted supply .success k j) := by
  have hops : s.storeOps supply .success = (s.switched supply, initConfig (s.switched supply) Ram.zero) := by
    rw [OtaDevice.storeOps, hreset, if_pos rfl]
  have hboot := use.switched_boot hs hreset
  have hsafe : FlagSafe b.other (s.switched supply).flash := by
    have hres : (otaMcuReboot b.base (clientSupply supply) s.nvm.flash).1 = true := by
      rw [← use.addr]
      exact hreset
    have hclear := (otaMcuReboot_switch (hs 101) hres).2
    rw [OtaDevice.switched, use.addr]
    exact fun _ => Or.inl (hclear.trans_ne (by decide))
  have hitem : (s.switched supply).userCfg = some c := use.item
  have hbounds := getUserDataAddr_bounds hboot Ram.zero
  rw [initConfig_restore_eq hboot hitem use.valid use.ota] at hops
  obtain ⟨hboot', hrecover⟩ := restore_cut hboot hs hitem use.valid use.ota hsafe hbounds rfl (hspared c hitem)
  rw [interrupted_nvm hops]
  exact .off rfl b.other c.totals hboot' hrecover (Or.inl use.held)

theorem update_cut {b : Bank} {c : Config} (use : OtaUse b c s.toOtaDevice) (hs : Powered supply) (he : e ≠ .reboot)
    (hspared : s.SparedAt supply e (some (k, j))) (hlen : k < (s.storeOps supply e).2.2.length) :
    Sound (s.interrupted supply e k j) := by
  have hkept : Recoverable b s.nvm s.passed := .update c use.item use.valid use.ota use.safe use.held
  cases e with
  | save =>
      have hops : s.storeOps supply .save = (s.nvm, _) := congrArg (Prod.mk s.nvm) (writeConfig_ota use.written use.mode)
      rw [hops] at hlen
      obtain rfl : k = 0 := Nat.lt_one_iff.mp hlen
      rw [interrupted_nvm hops]
      exact .off rfl b s.passed use.boot hkept (Or.inl rfl)
  | start =>
      have hops : s.storeOps supply .start = (s.nvm, _) :=
        congrArg (Prod.mk s.nvm) (OtaDevice.writeConfig_started use.written)
      rw [hops] at hlen
      obtain rfl : k = 0 := Nat.lt_one_iff.mp hlen
      rw [interrupted_nvm hops]
      exact .off rfl b s.passed use.boot hkept (Or.inl rfl)
  | abort => exact abort_cut use hs hspared
  | success =>
      cases hreset : s.resets supply .success with
      | false =>
          simp only [OtaDevice.storeOps, hreset] at hlen
          exact absurd hlen (Nat.not_lt_zero k)
      | true => exact success_cut use hs hspared hreset
  | reboot => exact absurd rfl he
  | set t => exact absurd hlen (Nat.not_lt_zero k)
  | accept imageSize =>
      simp only [OtaDevice.storeOps] at hlen
      split at hlen <;> exact absurd hlen (Nat.not_lt_zero k)
  | block offset data =>
      simp only [OtaDevice.storeOps] at hlen
      split at hlen <;> exact absurd hlen (Nat.not_lt_zero k)

/-! ### Runs -/

theorem step_cut {cut : Option (Nat × Nat)} {kj : Nat × Nat} (htakes : s.takes e = true)
    (h : s.cutCall supply e cut = some kj) : s.step (supply, e, cut) = s.interrupted supply e kj.1 kj.2 := by
  simp only [step, htakes, if_true, h]

theorem step_finished {cut : Option (Nat × Nat)} (htakes : s.takes e = true) (h : s.cutCall supply e cut = none) :
    s.step (supply, e, cut) = s.finished supply e := by
  simp only [step, htakes, if_true, h]

/-- One step, cut short or not. -/
theorem Sound.step (h : Sound s) {cut : Option (Nat × Nat)} (he : s.Spared (supply, e, cut)) :
    Sound (s.step (supply, e, cut)) ∧ s.Atomic (supply, e, cut) := by
  by_cases htakes : s.takes e = true
  swap
  · refine ⟨?_, fun htake => absurd htake htakes⟩
    rw [PoweredDevice.step, if_neg htakes]
    exact h
  obtain ⟨hs, hspared⟩ := he htakes
  simp only at hs hspared
  cases hcut : s.cutCall supply e cut with
  | none =>
      rw [hcut] at hspared
      rw [Atomic, step_finished htakes hcut]
      by_cases hreboot : e = .reboot
      · subst hreboot
        obtain ⟨hsound, htotals⟩ := h.reboot hs hspared
        exact ⟨hsound, fun _ _ _ => htotals⟩
      cases h with
      | off hoff => cases e <;> first | exact absurd rfl hreboot | exact absurd (hoff.symm.trans htakes) nofun
      | on hon hrunning hwriting =>
          cases hrunning with
          | ring b p held read =>
              obtain ⟨hstay, hrunning⟩ := ring_finished held read hs hreboot hspared
              exact ⟨sound_finished hstay hrunning, fun _ _ hreset => absurd (hstay.symm.trans hreset) nofun⟩
          | update b c use =>
              obtain ⟨hsound, htotals⟩ := update_finished use hs hreboot
              exact ⟨hsound, fun _ _ hreset => Or.inl (htotals hreset)⟩
  | some kj =>
      obtain ⟨k, j⟩ := kj
      rw [hcut] at hspared
      have hlen := cutCall_lt hcut
      rw [Atomic, step_cut htakes hcut]
      refine ⟨?_, fun _ hnone => absurd (hcut.symm.trans hnone) nofun⟩
      by_cases hreboot : e = .reboot
      · subst hreboot
        exact h.reboot_cut hs hspared.1 hspared.2.1 hspared.2.2 hlen
      cases h with
      | off hoff => cases e <;> first | exact absurd rfl hreboot | exact absurd (hoff.symm.trans htakes) nofun
      | on hon hrunning hwriting =>
          cases hrunning with
          | ring b p held read => exact ring_cut held read hs hreboot hspared hlen
          | update b c use => exact update_cut use hs hreboot hspared hlen

/-- A device that is off and has never been started. -/
structure Unstarted (b : Bank) (s : PoweredDevice) : Prop extends NeverStarted b s.toOtaDevice where
  off : s.on = false
  empty : s.passed = defaultTotals

theorem Unstarted.sound {b : Bank} (h : Unstarted b s) : Sound s :=
  .off h.off b defaultTotals h.boot (.first (Or.inl h.item) rfl) (Or.inl h.empty.symm)

/-- From the first start on, every start that is completed gives the totals from before the operation in which the
power failed or those it was writing. -/
theorem configuration_atomic {b : Bank} {s : PoweredDevice} (h : Unstarted b s) {events : List Cut}
    (hspared : Along PoweredDevice.step Spared s events) : Along PoweredDevice.step Atomic s events :=
  hspared.promote (fun _ _ hs he => (Sound.step hs he).1) (fun _ _ hs he => (Sound.step hs he).2) h.sound

/-! ### A save cut short, and a record that is put back and cut short -/

theorem Unstarted.first {b : Bank} (h : Unstarted b s) (hs : Powered supply) :
    RingWhole b 0 (firstRecord b) (s.finished supply .reboot).toOtaDevice := by
  have hinit := initConfig_invalid h.item Ram.zero
  have htotals : (initConfig s.nvm Ram.zero).1.watermeterConfig.totals = defaultTotals := by
    rw [hinit, reinitConfig_eq (getUserDataAddr_bounds h.boot Ram.zero)]
    rfl
  rw [finished_reboot supply h.boot, htotals]
  exact ringWhole_reinit h.boot hs hinit

/-- Three bytes on an erased page are no record. -/
theorem recordAt_three {m : Mem} {a : Nat} {bs : List Byte} (h : m (a + 3) = 0xFF#8) (hlen : bs.length ≤ 3) :
    recordAt (program m a bs) a = none := by
  apply if_neg
  intro hvalid
  have hlast : (readConfig (program m a bs) a).id.extractLsb' 24 8 = program m a bs (a + 3) := (extract_u32 _ _ _ _).2.2.2
  rw [hvalid.1, program_outside (Or.inr (by omega)), h] at hlast
  exact absurd hlast (by decide)

section Torn

variable {b : Bank} {c : Config} (h : RingWhole b 0 c s.toOtaDevice)
include h

theorem save_ops (supply : Supply) : s.storeOps supply .save =
    (s.nvm, { s.ram with watermeterConfig := nextConfig s.ram }, pageOps b 1 (nextConfig s.ram)) :=
  congrArg (Prod.mk s.nvm) (writeConfig_ring h.toPlaced h.written h.mode)

theorem torn_three : recordAt (program s.nvm.flash (pageAddr b 1) ((nextConfig s.ram).toBytes.take 3)) (pageAddr b 1) = none :=
  recordAt_three (h.tail 1 (by omega) (by omega) _ (by omega) (by omega)) (List.length_take_le _ _)

theorem save_cut_spared : SaveCutSpared s.nvm.flash s.ram 0 3 := by
  have haddr : (nextFlashAddr s.ram).toNat = pageAddr b 1 := h.toNat_nextFlashAddr
  have hfirst : nextFlashAddr s.ram ≠ s.ram.configAddrStart := fun heq =>
    absurd (h.toRingHeld.next_eq_start.mp heq) (by decide)
  have hopen : nextFlashAddr s.ram % .ofNat 32 flashSectorSize ≠ 0 := fun hmod =>
    absurd (h.toPlaced.nextFlashAddr_mod.mp hmod) (by decide)
  rw [SaveCutSpared, if_neg hfirst, if_neg hopen]
  refine ⟨fun b' hb' => ?_, fun c' hc' => ?_⟩
  · obtain rfl := Bank.base_injective (hb'.symm.trans h.boot)
    obtain ⟨hread, hid⟩ := ringRead_zero.mp h.newest.chain.last
    rw [hread]
    exact hid
  · rw [haddr, torn_three h] at hc'
    exact absurd hc' nofun

/-- The start after it finds the records up to the first page. -/
theorem start_after_cut (hs : Powered supply) : StartSpared (s.interrupted supply .save 0 3) := by
  obtain ⟨hboot, -⟩ := h.toRingHeld.save_cut hs (Or.inl ⟨c, h.newest, h.number, h.held⟩) (save_cut_spared h)
    (Nat.zero_lt_one)
  have hflash : (performAll supply s.nvm (cutShort 0 3 (pageOps b 1 (nextConfig s.ram)))).flash =
      program s.nvm.flash (pageAddr b 1) ((nextConfig s.ram).toBytes.take 3) := by
    rw [performAll_eq_applyAll hs, pageOps_inner (by decide)]
    rfl
  rw [interrupted_nvm (save_ops h supply)]
  refine ⟨nofun, fun _ b' hb' c' hchain => ?_⟩
  obtain rfl := Bank.base_injective (hb'.symm.trans hboot)
  obtain ⟨c₁, hsecond⟩ := hchain.shorter (show 1 ≤ 831 by omega)
  have hrecord : recordAt _ (pageAddr b' 1) = some c₁ := hsecond.last
  rw [hflash, torn_three h] at hrecord
  exact absurd hrecord nofun

theorem set_whole (supply : Supply) (t : Totals) : RingWhole b 0 c (s.finished supply (.set t)).toOtaDevice := by
  rw [finished_stays rfl]
  exact { h.toRingUse.step_set supply t with chain := h.chain }

theorem torn_save_spared (hon : s.on = true) (hs : Powered supply) : Along PoweredDevice.step Spared s
    [(supply, .save, some (0, 3)), (supply, .reboot, none)] := by
  have hcut : s.cutCall supply .save (some (0, 3)) = some (0, 3) := by
    rw [cutCall, save_ops h, pageOps_inner (by decide)]
    rfl
  refine ⟨fun _ => ⟨hs, ?_⟩, ?_⟩
  · show s.SparedAt _ .save (s.cutCall _ .save (some (0, 3)))
    rw [hcut]
    exact fun _ => save_cut_spared h
  · have htakes : s.takes .save = true := hon
    rw [step_cut htakes hcut]
    exact ⟨fun _ => ⟨hs, start_after_cut h hs⟩, trivial⟩

/-- The update starts with the readings `t`. -/
theorem start_item (supply : Supply) (t : Totals) :
    ∃ c', OtaUse b c' ((s.finished supply (.set t)).finished supply .start).toOtaDevice ∧ c'.totals = t := by
  have hset := set_whole h supply t
  obtain ⟨c', -, huse⟩ := hset.step_start supply
  rw [← finished_stays rfl] at huse
  have hops : (s.finished supply (.set t)).storeOps supply .start = ((s.finished supply (.set t)).nvm, _) :=
    congrArg (Prod.mk _) (OtaDevice.writeConfig_started hset.written)
  have hpassed : ((s.finished supply (.set t)).finished supply .start).passed = t := by
    show ((s.finished supply (.set t)).toOtaDevice.step (supply, .start)).passed = t
    rw [OtaDevice.step_eq hops]
    rfl
  exact ⟨c', huse, huse.held.trans hpassed⟩

end Torn

theorem reboot_lost {b : Bank} (hboot : mcuBootAddrGet s.nvm.flash = b.base) (hitem : RingItem s.nvm)
    (hunmarked : (readConfig s.nvm.flash b.userStart).id ≠ idConfig) (supply : Supply) :
    (s.finished supply .reboot).ram.watermeterConfig.totals = defaultTotals := by
  have hstart := congrArg (fun d : OtaDevice => d.ram) (finished_reboot supply hboot)
  refine (congrArg (fun r : Ram => r.watermeterConfig.totals) hstart).trans ?_
  show (initConfig s.nvm Ram.zero).1.watermeterConfig.totals = _
  rw [initConfig_lost hboot hitem hunmarked, reinitConfig_eq (getUserDataAddr_bounds hboot Ram.zero)]
  rfl

/-- The start of an update that is cut short after the first page is erased: the NV item is out of OTA mode, and the
next start finds neither. -/
theorem restore_torn {b : Bank} {c : Config} (h : OtaUse b c s.toOtaDevice) (hs : Powered supply)
    (hne : c.totals ≠ defaultTotals) :
    ¬ Along PoweredDevice.step Atomic s [(supply, .reboot, some (2, 0)), (supply, .reboot, none)] := by
  have hops : s.storeOps supply .reboot = (s.nvm, initConfig s.nvm Ram.zero) := rfl
  rw [initConfig_restore_eq h.boot h.item h.valid h.ota] at hops
  have hcall : s.cutCall supply .reboot (some (2, 0)) = some (2, 0) := by
    rw [cutCall, hops, pageOps_opened (Nat.zero_mod 16)]
    rfl
  have hcut := interrupted_nvm (k := 2) (j := 0) hops
  rw [nv_torn hs] at hcut
  obtain ⟨hunmarked, hclear⟩ := torn_unmarked (b := b) (m := s.nvm.flash)
    (c := (restoredRecord c (getUserDataAddr s.nvm.flash Ram.zero)).sealed) (show 0 < 4 by omega)
  have hboot := mcuBootAddrGet_clear h.boot hclear fun x hx => torn_outside hx
  have hlost : ((s.interrupted supply .reboot 2 0).finished supply .reboot).ram.watermeterConfig.totals = defaultTotals := by
    refine reboot_lost (b := b) ?_ ?_ ?_ supply <;> rw [hcut]
    · exact hboot
    · exact ⟨_, rfl, Config.sealed_valid h.valid.1, rfl⟩
    · exact hunmarked
  have hbefore : (s.interrupted supply .reboot 2 0).passed = c.totals := by rw [hcut, h.held]
  have hwriting : (s.interrupted supply .reboot 2 0).writing = c.totals := by rw [hcut]; rfl
  rintro ⟨-, hatomic, -⟩
  rw [step_cut (e := .reboot) rfl hcall] at hatomic
  have htotals := hatomic rfl rfl rfl
  rw [step_finished (e := .reboot) rfl rfl, hlost, hbefore, hwriting, or_self] at htotals
  exact hne htotals.symm

def emptyPowered : PoweredDevice := ⟨emptyDevice, false, defaultTotals⟩

theorem unstarted_empty : Unstarted .low emptyPowered :=
  { neverStarted_empty with
    off := rfl
    empty := rfl }

/-- Readings of one and two litres. -/
def someTotals : Totals := ⟨1, 2, 10⟩

/-- The device is started and told its readings, and the power fails after three bytes of the record. -/
theorem torn_save_atomic : Along PoweredDevice.step Atomic emptyPowered
    [(fun _ => 3000, .reboot, none), (fun _ => 3000, .set someTotals, none), (fun _ => 3000, .save, some (0, 3)),
      (fun _ => 3000, .reboot, none)] := by
  have hs : Powered fun _ => 3000 := powered_const (by decide)
  refine configuration_atomic unstarted_empty ⟨fun _ => ⟨hs, nofun, ?_⟩, fun _ => ⟨hs, trivial⟩, ?_⟩
  · rintro ⟨c, hc, -⟩
    exact absurd hc nofun
  · exact torn_save_spared (set_whole (unstarted_empty.first hs) _ someTotals) rfl hs

/-- The way back from an update takes the NV item out of OTA mode before the record is in the ring: a start that is
cut short there loses the readings. -/
theorem configuration_not_atomic : ¬ ∀ (b : Bank) (s : PoweredDevice) (events : List Cut), Unstarted b s →
    (∀ e ∈ events, Powered e.1) → Along PoweredDevice.step Atomic s events := by
  intro h
  have hs : Powered fun _ => 3000 := powered_const (by decide)
  have hall := h .low emptyPowered [(fun _ => 3000, .reboot, none), (fun _ => 3000, .set someTotals, none),
    (fun _ => 3000, .start, none), (fun _ => 3000, .reboot, some (2, 0)), (fun _ => 3000, .reboot, none)]
    unstarted_empty (by simp [hs])
  obtain ⟨c, huse, htotals⟩ := start_item (unstarted_empty.first hs) (fun _ => 3000) someTotals
  exact restore_torn huse hs (by rw [htotals]; decide) hall.2.2.2

end PoweredDevice

end Watermeter
