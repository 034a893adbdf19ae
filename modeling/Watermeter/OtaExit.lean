import Watermeter.FlashConfinement

/-! The end of an update: what `app_otaProcessMsgHandler` leaves when it has handled `OTA_EVT_COMPLETE` and the MCU
goes on. A failed update is rolled back; after a success the handler counts on a reset that may not come. -/

namespace Watermeter

open NorFlash RingLog Transition

/-- The arguments `app_task` calls `light_blink_start` with: times, and milliseconds on and off. -/
def appTaskBlink (r : Ram) : BitVec 8 × BitVec 16 × BitVec 16 :=
  if r.watermeterConfig.newOta ≠ 0 then (2#8, 30#16, 250#16) else (1#8, 30#16, 30#16)

/-- What `app_task` asks of `app_led.c`. -/
inductive LightCall
  | lightBlinkStop
  | lightBlinkStart (times : BitVec 8) (ledOnTime ledOffTime : BitVec 16)
  deriving DecidableEq, Repr

/-- The calls of `app_task` when five seconds have passed. -/
def appTaskLightCalls (joined : Bool) (r : Ram) : List LightCall :=
  if joined then
    let (times, ledOnTime, ledOffTime) := appTaskBlink r
    [.lightBlinkStop, .lightBlinkStart times ledOnTime ledOffTime]
  else []

/-- The status with which `OTA_EVT_COMPLETE` is handled in the event, if it is. -/
def completedStatus : AppEvent → Option (BitVec 8)
  | .otaProcessMsg _ .otaEvtComplete status _ => some status
  | .otaProcessMsg adcData .otaEvtStart _ _ =>
    if adcData < (maxVbatMv - 100 - minVbatMv) / 2 + minVbatMv then some zclStaAbort else none
  | _ => none

def handlerCalls (newOta : BitVec 8) : AppEvent → List OtaCall
  | .otaProcessMsg adcData evt status _ => appOtaCalls adcData evt status newOta
  | _ => []

/-- The device is out of OTA mode: the flag is clear, the next pulse goes to a page of the ring, whatever it makes of
the totals, a running update's record has gone back to the page of the pointer, the LED blinks once, and the next
query is under way. -/
structure LeftOtaMode (supply : Supply) (s s' : OtaDevice) (calls : List OtaCall) : Prop where
  newOta : s'.ram.watermeterConfig.newOta = 0
  ring : ∃ b q, mcuBootAddrGet s'.nvm.flash = b.base ∧ q < 832 ∧
    ∀ t, (writeConfig (s'.setTotals t).ram).2 = pageOps b q (nextConfig (s'.setTotals t).ram)
  stored : Powered supply → s.ram.watermeterConfig.newOta ≠ 0 →
    ∀ c, s.nvm.userCfg = some c → c.Valid → c.newOta ≠ 0 →
      ∃ c', recordAt s'.nvm.flash s'.ram.watermeterConfig.flashAddrStart.toNat = some c' ∧ c'.totals = c.totals
  blink : appTaskBlink s'.ram = (1#8, 30#16, 30#16)
  query : .otaQueryStart otaPeriodicQueryInterval ∈ calls

/-- If the step handles `OTA_EVT_COMPLETE` and the MCU is not reset, the device has left OTA mode. -/
def App.LeavesOtaMode (s : App) (e : Supply × AppEvent) : Prop :=
  ∀ status, completedStatus e.2 = some status → s.resets e.1 e.2 = false →
    LeftOtaMode e.1 s.toOtaDevice (s.step e).toOtaDevice (handlerCalls s.ram.watermeterConfig.newOta e.2)

/-- The NV item says that the ring is in use, and the records of the ring lead to one with the flag of an update. -/
def FlagInRing (s : OtaDevice) : Prop :=
  RingItem s.nvm ∧ (scanRing s.nvm.flash (getUserDataAddr s.nvm.flash s.ram)).1.watermeterConfig.newOta ≠ 0

/-- If the step handles `OTA_EVT_COMPLETE` and the MCU is not reset, the status is no success, and if the flag is set
no record of the ring sets it again. -/
def App.RollsBack (s : App) (e : Supply × AppEvent) : Prop :=
  ∀ status, completedStatus e.2 = some status → s.resets e.1 e.2 = false →
    status ≠ zclStaSuccess ∧ (s.ram.watermeterConfig.newOta ≠ 0 → ¬ FlagInRing s.toOtaDevice)

variable {b : Bank} {p : Nat} {s : OtaDevice} {supply : Supply}

/-- `init_config` leaves the flag clear, but for the record of a ring that has it. -/
theorem initConfig_newOta (hboot : mcuBootAddrGet s.nvm.flash = b.base) :
    (initConfig s.nvm s.ram).1.watermeterConfig.newOta = 0 ↔ ¬ FlagInRing s := by
  have hbounds := getUserDataAddr_bounds hboot s.ram
  by_cases hvalid : ∃ c, s.nvm.userCfg = some c ∧ c.Valid
  · obtain ⟨c, hcfg, hc⟩ := hvalid
    by_cases ho : c.newOta = 0
    · have hitem : RingItem s.nvm := ⟨c, hcfg, hc, ho⟩
      rw [initConfig_ring hitem, FlagInRing, and_iff_right hitem, not_not]
    · rw [initConfig_restore_eq hboot hcfg hc ho]
      apply iff_of_true rfl
      intro hflag
      obtain ⟨c', hcfg', -, ho'⟩ := hflag.1
      rw [hcfg] at hcfg'
      exact ho (Option.some.inj hcfg' ▸ ho')
  · have hinvalid : ∀ c, s.nvm.userCfg = some c → ¬ c.Valid := fun c hcfg hc => hvalid ⟨c, hcfg, hc⟩
    rw [initConfig_invalid hinvalid, reinitConfig_eq hbounds]
    apply iff_of_true rfl
    intro hflag
    obtain ⟨c, hcfg, hc, -⟩ := hflag.1
    exact hvalid ⟨c, hcfg, hc⟩

/-- With the flag clear the next save programs a page of the ring. -/
theorem Sited.saves_to_ring (h : Sited b s) (hmode : s.ram.watermeterConfig.newOta = 0) :
    ∃ b q, mcuBootAddrGet s.nvm.flash = b.base ∧ q < 832 ∧
      ∀ t, (writeConfig (s.setTotals t).ram).2 = pageOps b q (nextConfig (s.setTotals t).ram) := by
  obtain ⟨p, hplaced⟩ := h.placed
  refine ⟨b, succSlot 832 p, h.boot, succSlot_lt hplaced.page, fun t => ?_⟩
  have hset : Placed b p (s.setTotals t).ram := { hplaced with }
  rw [writeConfig_ring hset h.written hmode]

/-- A failed update reads the configuration again if the flag is set. -/
theorem OtaDevice.step_abort (s : OtaDevice) (supply : Supply) :
    (s.step (supply, .abort)).toDevice =
      if s.ram.watermeterConfig.newOta ≠ 0 then Device.initConfig supply s.toDevice else s.toDevice := by
  by_cases hmode : s.ram.watermeterConfig.newOta ≠ 0
  · simp only [OtaDevice.step, OtaDevice.storeOps, if_pos hmode]
    rfl
  · simp only [OtaDevice.step, OtaDevice.storeOps, if_neg hmode]
    rfl

/-- The record of a running update goes to the first page of the ring. -/
theorem stored_initConfig (hboot : mcuBootAddrGet s.nvm.flash = b.base) (hs : Powered supply) {c : Config}
    (hcfg : s.nvm.userCfg = some c) (hc : c.Valid) (ho : c.newOta ≠ 0) :
    ∃ c', recordAt (Device.initConfig supply s.toDevice).nvm.flash
        (Device.initConfig supply s.toDevice).ram.watermeterConfig.flashAddrStart.toNat = some c' ∧
      c'.totals = c.totals := by
  obtain ⟨c', htotals, -, hwhole⟩ := ringWhole_restored hboot hs hcfg hc ho s.ram
  refine ⟨c', ?_, htotals⟩
  have hpointer : (Device.initConfig supply s.toDevice).ram.watermeterConfig.flashAddrStart.toNat = pageAddr b 0 :=
    hwhole.toNat_pointer
  rw [hpointer]
  exact hwhole.chain.last

/-- A failure is rolled back unless a record of the ring sets the flag again. -/
theorem Sited.abort_iff (h : Sited b s) {calls : List OtaCall} (hquery : .otaQueryStart otaPeriodicQueryInterval ∈ calls) :
    LeftOtaMode supply s (s.step (supply, .abort)) calls ↔ (s.ram.watermeterConfig.newOta ≠ 0 → ¬ FlagInRing s) := by
  obtain ⟨b', hnext⟩ := (h.step supply .abort).2
  have hdevice := s.step_abort supply
  have hleft : (s.step (supply, .abort)).ram.watermeterConfig.newOta = 0 ↔
      (s.ram.watermeterConfig.newOta ≠ 0 → ¬ FlagInRing s) := by
    have hram := congrArg Device.ram hdevice
    rw [hram]
    by_cases hmode : s.ram.watermeterConfig.newOta ≠ 0
    · rw [if_pos hmode, imp_iff_right hmode]
      exact initConfig_newOta h.boot
    · rw [if_neg hmode]
      exact iff_of_true (not_not.mp hmode) fun h => absurd h hmode
  refine ⟨fun hl => hleft.mp hl.newOta, fun hrolls => ?_⟩
  have hmode := hleft.mpr hrolls
  exact
    { newOta := hmode
      ring := hnext.saves_to_ring hmode
      stored := by
        intro hs hota c hcfg hc ho
        rw [if_pos hota] at hdevice
        rw [hdevice]
        exact stored_initConfig h.boot hs hcfg hc ho
      blink := if_neg (not_not.mpr hmode)
      query := hquery }

/-- The handler asks for the next query unless the update was successful. -/
theorem query_completeCalls {status newOta : BitVec 8} :
    OtaCall.otaQueryStart otaPeriodicQueryInterval ∈ completeCalls status newOta ↔ status ≠ zclStaSuccess := by
  rw [completeCalls]
  split
  · rename_i hstatus
    simp [hstatus]
  · rename_i hstatus
    simp [hstatus]

/-- What a step that handles `OTA_EVT_COMPLETE` does to the store, and whether it asks for the next query. -/
theorem App.completed_step {s : App} {e : AppEvent} {status : BitVec 8} (h : completedStatus e = some status)
    (supply : Supply) (newOta : BitVec 8) :
    (s.step (supply, e)).toOtaDevice =
        s.toOtaDevice.step (supply, if status = zclStaSuccess then .success else .abort) ∧
      (.otaQueryStart otaPeriodicQueryInterval ∈ handlerCalls newOta e ↔ status ≠ zclStaSuccess) := by
  have htrace := s.step_trace supply e
  cases e with
  | otaProcessMsg adcData evt status' up =>
    cases evt with
    | otaEvtStart =>
      by_cases hlow : adcData < (maxVbatMv - 100 - minVbatMv) / 2 + minVbatMv
      · simp only [completedStatus, if_pos hlow, Option.some.injEq] at h
        subst h
        rw [htrace, App.trace, if_pos hlow]
        refine ⟨rfl, ?_⟩
        rw [handlerCalls, appOtaCalls]
        simp only [if_pos hlow, List.mem_cons, reduceCtorEq, false_or]
        exact query_completeCalls
      · simp only [completedStatus, if_neg hlow] at h
        cases h
    | otaEvtComplete =>
      obtain rfl : status' = status := Option.some.inj h
      rw [htrace, App.trace]
      refine ⟨?_, query_completeCalls⟩
      split <;> rfl
  | _ => cases h

/-- In any state between events the device leaves OTA mode when the condition is met, and only then. -/
theorem App.leavesOtaMode_iff {s : App} (h : Sited b s.toOtaDevice) (e : Supply × AppEvent) :
    s.LeavesOtaMode e ↔ s.RollsBack e := by
  obtain ⟨supply, e⟩ := e
  refine forall_congr' fun status => forall_congr' fun hcompleted => forall_congr' fun hstay => ?_
  obtain ⟨hstep, hquery⟩ := App.completed_step (s := s) hcompleted supply s.ram.watermeterConfig.newOta
  by_cases hstatus : status = zclStaSuccess
  · refine iff_of_false (fun hleft => ?_) fun hrolls => hrolls.1 hstatus
    exact hquery.mp hleft.query hstatus
  · rw [hstep, if_neg hstatus, h.abort_iff (hquery.mpr hstatus), and_iff_right hstatus]

/-- Whatever happens, the store stays where it belongs. -/
theorem App.sited_step {s : App} (h : ∃ b, Sited b s.toOtaDevice) (e : Supply × AppEvent) :
    ∃ b, Sited b (s.step e).toOtaDevice := by
  rw [s.step_trace e.1 e.2]
  exact sited_run h _

/-- In every run from a start on, at any supply: the device is out of OTA mode after each `OTA_EVT_COMPLETE` that does
not reset it exactly when each of them meets the condition. -/
theorem ota_mode_left_iff {b : Bank} {s : App} (h : Startable b s.nvm) (supply : Supply) (up : PowerUp)
    (events : List (Supply × AppEvent)) :
    Along App.step App.LeavesOtaMode s ((supply, .userAppInit up) :: events) ↔
      Along App.step App.RollsBack s ((supply, .userAppInit up) :: events) := by
  have hstart : ∃ b, Sited b (s.step (supply, .userAppInit up)).toOtaDevice := by
    rw [s.step_trace supply (.userAppInit up)]
    exact ⟨b, (h.first supply).2⟩
  have hiff : ∀ (s : App) (e : Supply × AppEvent), (∃ b, Sited b s.toOtaDevice) → (s.LeavesOtaMode e ↔ s.RollsBack e) := by
    rintro s e ⟨b, h⟩
    exact App.leavesOtaMode_iff h e
  rw [along_cons, along_cons]
  exact and_congr (iff_of_true nofun nofun) (along_iff (fun _ e h _ => App.sited_step h e) hiff hstart)

/-- A first start, and a small update up to its last block. -/
def downloaded (supply : Supply) (up : PowerUp) : List (Supply × AppEvent) :=
  [(supply, .userAppInit up), (supply, .imageAccepted 28), (supply, .otaProcessMsg 3000 .otaEvtStart zclStaSuccess up),
    (supply, .imageBlock 0 smallImage)]

theorem otaUse_downloaded {s : App} (h : NeverStarted b s.toOtaDevice) (hs : Powered supply) (up : PowerUp) :
    ∃ c, OtaUse b c (run App.step s (downloaded supply up)).toOtaDevice := by
  obtain ⟨-, hwhole⟩ := h.first hs
  obtain ⟨c, -, hstarted⟩ := (hwhole.toRingHeld.step_accept supply 28).step_start supply
  have htraces : s.traces (downloaded supply up) =
      [(supply, .reboot), (supply, .accept 28), (supply, .start), (supply, .block 0 smallImage)] := rfl
  rw [App.run_traces, htraces]
  exact ⟨c, hstarted.step_block supply 0 smallImage⟩

/-- The NV item of a running update has the flag, so the ring is not read. -/
theorem OtaUse.not_flagInRing {c : Config} (h : OtaUse b c s) : ¬ FlagInRing s := by
  rintro ⟨⟨c', hcfg, -, hring⟩, -⟩
  rw [h.item] at hcfg
  exact h.ota (Option.some.inj hcfg ▸ hring)

/-- The small update fails after its last block. -/
theorem failed_update_left : Along App.step App.LeavesOtaMode emptyApp (downloaded (fun _ => 3000) openStart ++
    [(fun _ => 3000, .otaProcessMsg 3000 .otaEvtComplete zclStaAbort openStart)]) := by
  have hs : Powered fun _ => 3000 := powered_const (by decide)
  have hstart : Startable .low emptyApp.nvm := ⟨neverStarted_empty.boot, Or.inr neverStarted_empty.item⟩
  obtain ⟨c, huse⟩ := otaUse_downloaded (s := emptyApp) neverStarted_empty hs openStart
  apply (ota_mode_left_iff hstart (fun _ => 3000) openStart _).mpr
  have hdownload : Along App.step App.RollsBack emptyApp (downloaded (fun _ => 3000) openStart) :=
    ⟨nofun, nofun, nofun, nofun, trivial⟩
  refine along_append.mpr ⟨hdownload, along_cons.mpr ⟨?_, along_nil _⟩⟩
  rintro status hcompleted -
  obtain rfl : zclStaAbort = status := Option.some.inj hcompleted
  exact ⟨by decide, fun _ => huse.not_flagInRing⟩

/-- At a low supply the start-up flag of the new image is not written. -/
theorem otaMcuReboot_low {m : Mem} {mcuBootAddr : Nat} (hlow : supply 0 < batterySafetyThreshold) :
    otaMcuReboot mcuBootAddr supply m = (false, m) := by
  simp only [otaMcuReboot, flashWriteWithCheck, if_pos hlow]
  exact ite_self _

/-- The small update ends in success, but the supply has sagged: the MCU goes on in OTA mode. -/
theorem ota_mode_kept : ¬ ∀ (b : Bank) (s : App), Startable b s.nvm → ∀ (supply : Supply) (up : PowerUp) events,
    Along App.step App.LeavesOtaMode s ((supply, .userAppInit up) :: events) := by
  intro hleft
  have hs : Powered fun _ => 3000 := powered_const (by decide)
  obtain ⟨c, huse⟩ := otaUse_downloaded (s := emptyApp) neverStarted_empty hs openStart
  have hrun : Along App.step App.LeavesOtaMode emptyApp (downloaded (fun _ => 3000) openStart ++
      [(fun _ => 2000, .otaProcessMsg 3000 .otaEvtComplete zclStaSuccess openStart)]) :=
    hleft .low emptyApp ⟨neverStarted_empty.boot, Or.inr neverStarted_empty.item⟩ _ openStart _
  set s := run App.step emptyApp (downloaded (fun _ => 3000) openStart) with hdevice
  have hstay : s.toOtaDevice.resets (fun _ => 2000) .success = false :=
    congrArg Prod.fst (otaMcuReboot_low (by decide))
  have hstep : (s.step (fun _ => 2000, .otaProcessMsg 3000 .otaEvtComplete zclStaSuccess openStart)).toOtaDevice =
      s.toOtaDevice.step (fun _ => 2000, .success) := s.step_trace _ _
  have hleft := hrun.last zclStaSuccess rfl hstay
  rw [hstep] at hleft
  exact (huse.step_success_stay hstay).mode hleft.newOta

end Watermeter
