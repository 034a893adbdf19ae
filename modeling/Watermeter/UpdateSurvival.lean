import Watermeter.FlashConfinement

/-! The totals over updates. While an update runs they are in the NV item, and every way out of it puts them
back into a ring. Outside of an update the client may erase the ring under the store, and then it depends on
the ring being written anew before the next power cycle. -/

namespace Watermeter

open NorFlash RingLog Transition

variable {b : Bank} {p : Nat} {c : Config} {s : OtaDevice} {supply : Supply}

/-- The ring as `init_config` looks for it: up to the pointer every page carries the identifier, the pointer
is not on the last page, and the page after it does not hold a valid record of the next number. -/
structure RingReadable (s : OtaDevice) : Prop where
  marked : ∀ q, s.ram.configAddrStart.toNat + flashPageSize * q ≤ s.ram.watermeterConfig.flashAddrStart.toNat →
    (readConfig s.nvm.flash (s.ram.configAddrStart.toNat + flashPageSize * q)).id = idConfig
  inside : s.ram.watermeterConfig.flashAddrStart.toNat + flashPageSize < s.ram.configAddrEnd.toNat
  ends : ¬ Continues Config.top s.ram.watermeterConfig
    (recordAt s.nvm.flash (s.ram.watermeterConfig.flashAddrStart.toNat + flashPageSize))

/-- The call erases or programs flash of the store's own. -/
def Op.OnFlash : Op → Prop
  | nvFlashWriteNew _ => False
  | _ => True

/-- The supply is good where the store erases or programs, and a power cycle outside of an update finds the
ring readable. -/
def Survivable (s : OtaDevice) (e : Supply × OtaEvent) : Prop :=
  ((∃ op ∈ (s.storeOps e.1 e.2).2.2, op.OnFlash) → Powered e.1) ∧
    (e.2 = .reboot → s.ram.watermeterConfig.newOta = 0 → RingReadable s)

/-- If the step starts the MCU, the totals are those last passed to `write_config`. -/
def Restores (s : OtaDevice) (e : Supply × OtaEvent) : Prop :=
  s.resets e.1 e.2 = true → (s.step e).ram.watermeterConfig.totals = s.passed

/-- The ring is in use, or an update is running. -/
def InUse (s : OtaDevice) : Prop := (∃ b p c, RingUse b p c s) ∨ ∃ b c, OtaUse b c s

theorem pageOps_onFlash (b : Bank) (q : Nat) (c : Config) : ∃ op ∈ pageOps b q c, op.OnFlash :=
  ⟨_, List.mem_append_right _ (List.mem_singleton.mpr rfl), trivial⟩

theorem nvThen_onFlash (b : Bank) (c : Config) : ∃ op ∈ Op.nvFlashWriteNew c :: pageOps b 0 c, op.OnFlash := by
  obtain ⟨op, hop, hflash⟩ := pageOps_onFlash b 0 c
  exact ⟨op, List.mem_cons_of_mem _ hop, hflash⟩

theorem RingHeld.save_onFlash (h : RingHeld b p s) (supply : Supply) : ∃ op ∈ (s.storeOps supply .save).2.2, op.OnFlash := by
  have hwrite : s.storeOps supply .save = (s.nvm, writeConfig s.ram) := rfl
  rw [hwrite, writeConfig_ring h.toPlaced h.written h.mode]
  exact pageOps_onFlash _ _ _

/-- Whichever way an update ends, the record goes to the ring. -/
theorem restore_onFlash {v : Nvm} (hboot : mcuBootAddrGet v.flash = b.base) (hcfg : v.userCfg = some c) (hc : c.Valid)
    (ho : c.newOta ≠ 0) (r : Ram) : ∃ op ∈ (initConfig v r).2, op.OnFlash := by
  rw [initConfig_restore_eq hboot hcfg hc ho]
  exact nvThen_onFlash _ _

theorem OtaUse.reboot_onFlash (h : OtaUse b c s) (supply : Supply) : ∃ op ∈ (s.storeOps supply .reboot).2.2, op.OnFlash :=
  restore_onFlash h.boot h.item h.valid h.ota Ram.zero

theorem OtaUse.abort_onFlash (h : OtaUse b c s) (supply : Supply) : ∃ op ∈ (s.storeOps supply .abort).2.2, op.OnFlash := by
  have hops : s.storeOps supply .abort = (s.nvm, initConfig s.nvm s.ram) := if_pos h.mode
  rw [hops]
  exact restore_onFlash h.boot h.item h.valid h.ota s.ram

theorem OtaUse.success_onFlash (h : OtaUse b c s) (hreset : s.resets supply .success = true) :
    ∃ op ∈ (s.storeOps supply .success).2.2, op.OnFlash := by
  obtain ⟨b', hboot, -, -⟩ := otaMcuReboot_sited h.boot h.safe (clientSupply supply)
  rw [← h.addr] at hboot
  have hitem : (s.switched supply).userCfg = some c := h.item
  rw [OtaDevice.storeOps, hreset, if_pos rfl]
  exact restore_onFlash (v := s.switched supply) hboot hitem h.valid h.ota Ram.zero

theorem RingUse.readable (h : RingUse b p c s) (hr : RingReadable s) :
    Chain Config.top (ringLog s.nvm.flash b) p c ∧ ¬ Continues Config.top c (ringLog s.nvm.flash b (p + 1)) ∧
      p < 831 := by
  obtain ⟨hmarked, hinside, hends⟩ := hr
  rw [h.start, toNat_userStart, h.toNat_pointer] at hmarked
  rw [h.toNat_pointer, h.stop, toNat_userEnd] at hinside
  rw [h.toNat_pointer, pageAddr_succ] at hends
  refine ⟨h.kept.chain fun i hi hlost => ?_, ?_, ?_⟩
  · have hid := hmarked i (by unfold pageAddr flashPageSize; omega)
    exact readConfig_id_of_erased (hlost.mono (Nat.le_refl _) (by unfold sizeofConfig; omega)) hid
  · rintro ⟨r', hr', hseq⟩
    exact hends ⟨r', hr', hseq.trans (by rw [h.number])⟩
  · unfold pageAddr Bank.userEnd flashPageSize userDataSize at hinside
    omega

theorem restores_of_stays {e : OtaEvent} (h : s.resets supply e = false) : Restores s (supply, e) := by
  intro hreset
  rw [h] at hreset
  cases hreset

theorem RingUse.survives (h : RingUse b p c s) {e : OtaEvent} (he : Survivable s (supply, e)) :
    InUse (s.step (supply, e)) ∧ Restores s (supply, e) := by
  obtain ⟨hpower, hreboot⟩ := he
  cases e with
  | set t => exact ⟨Or.inl ⟨b, p, c, h.step_set supply t⟩, restores_of_stays rfl⟩
  | save =>
      have hs := hpower (h.save_onFlash supply)
      exact ⟨Or.inl ⟨b, _, _, h.step_save hs⟩, restores_of_stays rfl⟩
  | reboot =>
      obtain ⟨hchain, hstop, hp⟩ := h.readable (hreboot rfl h.mode)
      obtain ⟨hwhole, htot⟩ := h.found supply hchain hstop hp
      rw [Restores, h.step_reboot_found supply hchain hstop hp]
      exact ⟨Or.inl ⟨b, p, c, hwhole.toRingUse⟩, fun _ => htot⟩
  | accept imageSize => exact ⟨Or.inl ⟨b, p, c, h.step_accept supply imageSize⟩, restores_of_stays rfl⟩
  | start =>
      obtain ⟨c', -, hota⟩ := h.step_start supply
      exact ⟨Or.inr ⟨b, c', hota⟩, restores_of_stays rfl⟩
  | block offset data =>
      rw [h.step_block]
      exact ⟨Or.inl ⟨b, p, c, h⟩, restores_of_stays rfl⟩
  | abort =>
      rw [h.step_abort]
      exact ⟨Or.inl ⟨b, p, c, h⟩, restores_of_stays rfl⟩
  | success =>
      have hrefused : s.resets supply .success = false := congrArg Prod.fst (h.success_refused supply)
      rw [h.step_success]
      exact ⟨Or.inl ⟨b, p, c, h⟩, restores_of_stays hrefused⟩

theorem OtaUse.survives (h : OtaUse b c s) {e : OtaEvent} (he : Survivable s (supply, e)) :
    InUse (s.step (supply, e)) ∧ Restores s (supply, e) := by
  have hpower := he.1
  cases e with
  | set t => exact ⟨Or.inr ⟨b, c, h.step_set supply t⟩, restores_of_stays rfl⟩
  | save => exact ⟨Or.inr ⟨b, h.step_save supply⟩, restores_of_stays rfl⟩
  | reboot =>
      obtain ⟨c', -, -, hwhole⟩ := h.step_reboot (hpower (h.reboot_onFlash supply))
      refine ⟨Or.inl ⟨b, 0, c', hwhole.toRingUse⟩, fun _ => ?_⟩
      rw [h.reboot_eq, startUp_totals h.boot h.item h.valid h.ota, h.held]
  | accept imageSize => exact ⟨Or.inr ⟨b, c, h.step_accept supply imageSize⟩, restores_of_stays rfl⟩
  | start =>
      obtain ⟨c', -, hota⟩ := h.step_start supply
      exact ⟨Or.inr ⟨b, c', hota⟩, restores_of_stays rfl⟩
  | block offset data => exact ⟨Or.inr ⟨b, c, h.step_block supply offset data⟩, restores_of_stays rfl⟩
  | abort =>
      obtain ⟨c', -, -, hwhole⟩ := h.step_abort (hpower (h.abort_onFlash supply))
      exact ⟨Or.inl ⟨b, 0, c', hwhole.toRingUse⟩, restores_of_stays rfl⟩
  | success =>
      cases hreset : s.resets supply .success with
      | false => exact ⟨Or.inr ⟨b, c, h.step_success_stay hreset⟩, restores_of_stays hreset⟩
      | true =>
          have hs := hpower (h.success_onFlash hreset)
          have hitem : (s.switched supply).userCfg = some c := h.item
          obtain ⟨c', -, -, hwhole⟩ := h.step_success_switch hs hreset
          refine ⟨Or.inl ⟨b.other, 0, c', hwhole.toRingUse⟩, fun _ => ?_⟩
          rw [h.success_eq hs hreset, startUp_totals (h.switched_boot hs hreset) hitem h.valid h.ota, h.held]

theorem InUse.survives (h : InUse s) {e : Supply × OtaEvent} (he : Survivable s e) :
    InUse (s.step e) ∧ Restores s e := by
  rcases h with ⟨b, p, c, huse⟩ | ⟨b, c, huse⟩
  · exact huse.survives he
  · exact huse.survives he

/-! ### Runs of the application -/

/-- If the step starts the MCU, the totals are those last passed to `write_config`. -/
def App.Restores (s : App) (e : Supply × AppEvent) : Prop :=
  s.resets e.1 e.2 = true → (s.step e).ram.watermeterConfig.totals = s.passed

theorem App.restores_of_each {s : App} {e : Supply × AppEvent} (h : App.Each Watermeter.Restores s e) :
    s.Restores e := by
  obtain ⟨supply, e⟩ := e
  intro hreset
  have htrace := s.step_trace supply e
  cases e with
  | userAppInit up =>
      have hram : (s.step (supply, .userAppInit up)).ram = (s.toOtaDevice.step (supply, .reboot)).ram :=
        congrArg (fun d : OtaDevice => d.ram) htrace
      rw [hram]
      exact h.1 rfl
  | otaProcessMsg adcData evt status up =>
      cases evt with
      | otaEvtStart => cases hreset
      | otaEvtComplete =>
          obtain ⟨hstatus, hswitch⟩ := Bool.and_eq_true_iff.mp hreset
          have hevents : s.trace (.otaProcessMsg adcData .otaEvtComplete status up) = [.success] :=
            if_pos (beq_iff_eq.mp hstatus)
          rw [App.Each, hevents] at h
          rw [hevents] at htrace
          have hram : (s.step (supply, .otaProcessMsg adcData .otaEvtComplete status up)).ram =
              (s.toOtaDevice.step (supply, .success)).ram := congrArg (fun d : OtaDevice => d.ram) htrace
          rw [hram]
          exact h.1 hswitch
  | _ => cases hreset

/-- The first start of a device in the application. -/
theorem App.first_trace (s : App) (supply : Supply) (up : PowerUp) :
    (s.step (supply, .userAppInit up)).toOtaDevice = s.toOtaDevice.step (supply, .reboot) :=
  s.step_trace supply (.userAppInit up)

/-- From the first start on, whatever the client, the meter and the supply do: every start of the MCU gives the
totals last passed to `write_config`, as long as the store never writes at a low supply and no power cycle
outside of an update finds the ring unreadable. -/
theorem totals_survive {b : Bank} {s : App} (hfirst : NeverStarted b s.toOtaDevice) {supply : Supply}
    (hs : Powered supply) (up : PowerUp) {events : List (Supply × AppEvent)}
    (hrun : Along App.step (App.Each Survivable) (s.step (supply, .userAppInit up)) events) :
    Along App.step App.Restores (s.step (supply, .userAppInit up)) events := by
  have hwhole := (hfirst.first hs).2
  rw [← s.first_trace supply up] at hwhole
  have huse : InUse (s.step (supply, .userAppInit up)).toOtaDevice := Or.inl ⟨b, 0, _, hwhole.toRingUse⟩
  have heach : Along App.step (App.Each Watermeter.Restores) (s.step (supply, .userAppInit up)) events := by
    rw [App.along_traces] at hrun ⊢
    exact hrun.promote (fun s e h he => (InUse.survives h he).1) (fun s e h he => (InUse.survives h he).2) huse
  exact heach.mono fun s e h => App.restores_of_each h

theorem survivable_of_powered (hs : Powered supply) {e : OtaEvent} (he : e ≠ .reboot) : Survivable s (supply, e) :=
  ⟨fun _ => hs, fun h => absurd h he⟩

theorem trace_start (s : App) {adcData : Nat} (h : ¬ adcData < 2600) (up : PowerUp) :
    s.trace (.otaProcessMsg adcData .otaEvtStart zclStaSuccess up) = [.start] := if_neg h

/-- An update that a power cycle interrupts: the totals come back from the NV item. -/
theorem interrupted_update_survives : Along App.step App.Restores
    (emptyApp.step (fun _ => 3000, .userAppInit ⟨0#8, ⟨true, true⟩⟩))
    [(fun _ => 3000, .imageAccepted 28), (fun _ => 3000, .otaProcessMsg 3000 .otaEvtStart zclStaSuccess ⟨0#8, ⟨true, true⟩⟩),
      (fun _ => 3000, .userAppInit ⟨0#8, ⟨true, true⟩⟩)] := by
  have hs : Powered fun _ => 3000 := powered_const (by decide)
  refine totals_survive neverStarted_empty hs ⟨0#8, ⟨true, true⟩⟩
    ⟨⟨survivable_of_powered hs (by simp), trivial⟩, ?_, ⟨?_, trivial⟩, trivial⟩
  · rw [App.Each, trace_start _ (by decide)]
    exact ⟨survivable_of_powered hs (by simp), trivial⟩
  · refine ⟨fun _ => hs, fun _ hring => ?_⟩
    have hwhole := (neverStarted_empty.first hs).2
    obtain ⟨c, -, hota⟩ := (hwhole.toRingUse.step_accept (fun _ => 3000) 28).step_start fun _ => 3000
    rw [App.step_trace, trace_start _ (by decide), App.step_trace, App.step_trace] at hring
    exact absurd hring hota.mode

/-! ### An update that is refused -/

/-- A first start leaves the default record in RAM. -/
theorem NeverStarted.first_config (h : NeverStarted b s) (supply : Supply) :
    (s.step (supply, .reboot)).ram.watermeterConfig = firstRecord b := by
  have hbounds := getUserDataAddr_bounds h.boot Ram.zero
  show (initConfig s.nvm Ram.zero).1.watermeterConfig = _
  rw [initConfig_invalid h.item, reinitConfig_eq hbounds]
  exact sealed_defaultRecord hbounds

/-- The client erases the ring for an image, gives it up before it starts, and the next start finds nothing. -/
theorem RingUse.refused (h : RingUse b p c s) (hs : Powered supply) :
    (((s.step (supply, .accept 28)).step (supply, .abort)).step (supply, .reboot)).ram.watermeterConfig.totals =
        defaultTotals ∧
      ((s.step (supply, .accept 28)).step (supply, .abort)).passed = s.passed := by
  have haccept := h.step_accept supply 28
  have hinit := h.accept_lost hs (show 28 < 4096 by omega)
  rw [haccept.step_abort, haccept.step_reboot_lost supply hinit]
  refine ⟨?_, ?_⟩
  · show (initConfig _ Ram.zero).1.watermeterConfig.totals = _
    rw [hinit, reinitConfig_eq (getUserDataAddr_bounds haccept.boot Ram.zero)]
    rfl
  · rw [← haccept.held, h.held]

/-- A pulse is counted and saved, and an image is accepted and given up before `OTA_EVT_START`. -/
def refusedRun (supply : Supply) (up : PowerUp) : List (Supply × AppEvent) :=
  [(supply, .countersHandler up.pins), (supply, .imageAccepted 28),
    (supply, .otaProcessMsg 3000 .otaEvtComplete zclStaAbort up)]

theorem App.refused_run {s : App} {up : PowerUp} (h : RingUse b p c s.toOtaDevice) (hs : Powered supply)
    (hcount : (s.meter.polled up.pins).hotCounter.counter ≠ 0) :
    ((run App.step s (refusedRun supply up)).step (supply, .userAppInit up)).ram.watermeterConfig.totals =
        defaultTotals ∧
      (run App.step s (refusedRun supply up)).passed =
        (s.meter.polled up.pins).takeHot.takeCold.ram.watermeterConfig.totals := by
  have hsaved := (h.step_set supply (s.meter.polled up.pins).takeHot.takeCold.ram.watermeterConfig.totals).step_save hs
  obtain ⟨hlost, hpassed⟩ := hsaved.refused hs
  have hrun : (run App.step s (refusedRun supply up)).toOtaDevice = ((((s.toOtaDevice.step (supply,
      .set (s.meter.polled up.pins).takeHot.takeCold.ram.watermeterConfig.totals)).step (supply, .save)).step
        (supply, .accept 28)).step (supply, .abort)) := by
    rw [refusedRun, run_cons, run_cons, run_cons, run_nil, App.step_trace, App.step_trace, App.step_trace,
      App.trace_pulse (Or.inl hcount)]
    rfl
  refine ⟨?_, ?_⟩
  · have hram : ((run App.step s (refusedRun supply up)).step (supply, .userAppInit up)).ram =
        ((run App.step s (refusedRun supply up)).toOtaDevice.step (supply, .reboot)).ram :=
      congrArg (fun d : OtaDevice => d.ram) (App.first_trace _ supply up)
    rw [hram, hrun]
    exact hlost
  · rw [hrun, hpassed, ← hsaved.held]
    rfl

theorem refused_update_loses : ¬ ∀ (b : Bank) (s : App) (supply : Supply) (up : PowerUp) (events : List (Supply × AppEvent)),
    NeverStarted b s.toOtaDevice → Powered supply → (∀ e ∈ events, Powered e.1) →
      Along App.step App.Restores (s.step (supply, .userAppInit up)) events := by
  intro h
  have hs : Powered fun _ => 3000 := powered_const (by decide)
  let up : PowerUp := ⟨5#8, ⟨false, true⟩⟩
  have hpowered : ∀ e ∈ refusedRun (fun _ => 3000) up ++ [(fun _ => 3000, .userAppInit up)], Powered e.1 := by
    intro e he
    have hsupply : e.1 = fun _ => 3000 := by
      simp only [refusedRun, List.cons_append, List.nil_append, List.mem_cons, List.not_mem_nil, or_false] at he
      rcases he with rfl | rfl | rfl | rfl <;> rfl
    rw [hsupply]
    exact hs
  have hlast := (h .low emptyApp _ up _ neverStarted_empty hs hpowered).last rfl
  set s := emptyApp.step (fun _ => 3000, .userAppInit up)
  have hwhole : RingWhole .low 0 (firstRecord .low) s.toOtaDevice := (neverStarted_empty.first hs).2
  have hconfig : s.ram.watermeterConfig = firstRecord .low := neverStarted_empty.first_config _
  have hhot : (s.meter.polled up.pins).hotCounter = ⟨1#8, 32#8⟩ := by
    show pollCounter false (initCounter false ((5#8).getLsbD 2) ((5#8).getLsbD 0)) = _
    decide
  have htotal : (s.meter.polled up.pins).takeHot.takeCold.ram.watermeterConfig.counterHotWater = 10#32 := by
    have hcold := (takeCold_other (s.meter.polled up.pins).takeHot).2.1
    have hwater := (takeHot_hot (s.meter.polled up.pins)).2
    rw [hhot, if_pos (by decide)] at hwater
    refine hcold.trans (hwater.trans ?_)
    show addPulses s.ram.watermeterConfig.counterHotWater s.ram.watermeterConfig.litersPerPulse 1#8 = _
    rw [hconfig]
    decide
  have hcount : (s.meter.polled up.pins).hotCounter.counter ≠ 0 := by
    rw [hhot]
    decide
  obtain ⟨hlost, hpassed⟩ := App.refused_run hwhole.toRingUse hs hcount
  have hsame := hlost.symm.trans (hlast.trans hpassed)
  have hzero := congrArg Totals.counterHotWater hsame
  exact absurd (hzero.trans htotal) (by decide)

end Watermeter
