import Watermeter.ImageSpared

/-! The store and a download share the inactive bank. While `new_ota` is set the store writes the NV item only,
and the failure paths of the client forget the download before the store takes the bank back. Two ways are
left: a reset of the MCU in the middle of a download that can be resumed, and a pulse before `new_ota` is set. -/

namespace Watermeter

open NorFlash RingLog Transition

namespace OtaSystem

/-- The byte the client has programmed for the one received: the first byte of the flag is withheld. -/
def held (s : OtaSystem) (i : Nat) : Byte := if i = flashTlnkFlagOffset then 0xFF#8 else s.received i

/-- Below the position of the download the flash holds what has been received. -/
def Intact (s : OtaSystem) (d : Download) : Prop :=
  ∀ i, i < d.otaElementPos → s.nvm.flash (imageBase s.mcuBootAddr + i) = s.held i

/-- The events of the store in a step. -/
def storeEvents (s : OtaSystem) (e : Surroundings × SystemEvent) : List (Supply × OtaEvent) :=
  (s.before e.2).traces ((s.respond e.1 e.2).2.map (Prod.mk e.1.supply))

/-- A download that is under way or can be resumed when the store is at work keeps its bytes, and the store
neither erases nor writes in its image. -/
def Undamaged (s : OtaSystem) (e : Surroundings × SystemEvent) : Prop :=
  ∀ d, (s.step e).client.Live d →
    Along App.step (App.Each (StoreAvoids d.downloadImageSize)) (s.before e.2)
      ((s.respond e.1 e.2).2.map (Prod.mk e.1.supply)) ∧ (s.step e).Intact d

/-- No reset of the MCU while a download is saved that will be resumed, and no pulse saved over the image of a
download while `new_ota` is not set. -/
def Harmless (s : OtaSystem) (e : Surroundings × SystemEvent) : Prop :=
  match e.2 with
  | .reset => ∀ d, ¬ s.client.recovered.Live d
  | .countersHandler pins => s.Pulse pins → s.ram.watermeterConfig.newOta = 0 → ∀ d, s.client.Live d →
      imageBase s.mcuBootAddr + d.downloadImageSize ≤ (nextFlashAddr s.ram).toNat
  | _ => True

/-- Between events: the device is where it should be, blocks are taken only while `new_ota` is set, and a live
download lies in its image and is intact. -/
structure Safe (s : OtaSystem) : Prop where
  sited : ∃ b, Sited b s.toOtaDevice
  update : s.client.imageUpgradeStatus = .downloadInProgress → s.client.started = true →
    s.ram.watermeterConfig.newOta ≠ 0
  within : ∀ d, s.client.Live d → d.downloadImageSize ≤ flashOtaImageMaxSize ∧ d.otaElementPos ≤ d.downloadImageSize
  intact : ∀ d, s.client.Live d → s.Intact d

variable {s : OtaSystem} {w : Surroundings} {e : SystemEvent}

theorem step_store (s : OtaSystem) (e : Surroundings × SystemEvent) :
    (s.step e).toOtaDevice = run OtaDevice.step (s.before e.2).toOtaDevice (s.storeEvents e) :=
  App.run_traces _ _

theorem not_live_cleared (d : Download) : ¬ OtaClient.cleared.Live d := by
  rintro ⟨h, -⟩
  cases h

theorem sited_step (hsited : ∃ b, Sited b (s.before e).toOtaDevice) : ∃ b, Sited b (s.step (w, e)).toOtaDevice := by
  rw [step_store]
  exact sited_run hsited _

/-- A step after which there is no download. -/
theorem safe_of_dead (hsited : ∃ b, Sited b (s.step (w, e)).toOtaDevice) (hdead : ∀ d, ¬ (s.respond w e).1.Live d)
    (hupdate : (s.respond w e).1.imageUpgradeStatus ≠ .downloadInProgress) :
    (s.step (w, e)).Safe ∧ s.Undamaged (w, e) :=
  ⟨⟨hsited, fun h => absurd h hupdate, fun d h => absurd h (hdead d), fun d h => absurd h (hdead d)⟩,
    fun d h => absurd h (hdead d)⟩

theorem safe_of_cleared (hsited : ∃ b, Sited b (s.before e).toOtaDevice) (hclient : (s.respond w e).1 = .cleared) :
    (s.step (w, e)).Safe ∧ s.Undamaged (w, e) := by
  refine safe_of_dead (sited_step hsited) ?_ ?_
  · rw [hclient]
    exact not_live_cleared
  · rw [hclient]
    nofun

/-- A step that leaves the place of the download and what is below it. -/
theorem Safe.kept (h : s.Safe) (hbefore : s.before e = s.toApp)
    (hreceive : ∀ d, s.client.Live d → ∀ i, i < d.otaElementPos → s.receive e i = s.received i)
    (hlive : ∀ d', (s.respond w e).1.Live d' →
      ∃ d, s.client.Live d ∧ d'.downloadImageSize = d.downloadImageSize ∧ d'.otaElementPos = d.otaElementPos ∧
        ImageLeft d.downloadImageSize d.otaElementPos s.toOtaDevice (s.storeEvents (w, e)))
    (hupdate : (s.respond w e).1.imageUpgradeStatus = .downloadInProgress → (s.respond w e).1.started = true →
      (s.step (w, e)).ram.watermeterConfig.newOta ≠ 0) :
    (s.step (w, e)).Safe ∧ s.Undamaged (w, e) := by
  have hstore := s.step_store (w, e)
  simp only [hbefore] at hstore
  have hintact : ∀ d', (s.respond w e).1.Live d' → (s.step (w, e)).Intact d' := by
    intro d' hd' i hi
    obtain ⟨d, hd, -, hpos, hleft⟩ := hlive d' hd'
    rw [hpos] at hi
    have hheld : (s.step (w, e)).held i = s.held i := by
      unfold held
      rw [show (s.step (w, e)).received i = s.received i from hreceive d hd i hi]
    rw [hstore, hleft.addr, hleft.image i hi, h.intact d hd i hi, hheld]
  refine ⟨⟨?_, hupdate, fun d' hd' => ?_, hintact⟩, fun d' hd' => ⟨?_, hintact d' hd'⟩⟩
  · exact sited_step (by rw [hbefore]; exact h.sited)
  · obtain ⟨d, hd, hsize, hpos, -⟩ := hlive d' hd'
    rw [hsize, hpos]
    exact h.within d hd
  · obtain ⟨d, -, hsize, -, hleft⟩ := hlive d' hd'
    have havoids := hleft.avoids
    unfold storeEvents at havoids
    rw [hbefore] at havoids
    rw [App.along_traces, hsize, hbefore]
    exact havoids

/-- A step that only reads the image of a download. -/
theorem Safe.passive (h : s.Safe) (hbefore : s.before e = s.toApp)
    (hreceive : ∀ d, s.client.Live d → ∀ i, i < d.otaElementPos → s.receive e i = s.received i)
    (hlive : ∀ d', (s.respond w e).1.Live d' →
      ∃ d, s.client.Live d ∧ d'.downloadImageSize = d.downloadImageSize ∧ d'.otaElementPos = d.otaElementPos ∧
        Along OtaDevice.step (LeavesImage d.downloadImageSize) s.toOtaDevice (s.storeEvents (w, e)))
    (hupdate : (s.respond w e).1.imageUpgradeStatus = .downloadInProgress → (s.respond w e).1.started = true →
      (s.step (w, e)).ram.watermeterConfig.newOta ≠ 0) :
    (s.step (w, e)).Safe ∧ s.Undamaged (w, e) := by
  refine h.kept hbefore hreceive (fun d' hd' => ?_) hupdate
  obtain ⟨d, hd, hsize, hpos, hleaves⟩ := hlive d' hd'
  obtain ⟨⟨havoids, haddr, himage⟩, -⟩ := leavesImage_run hleaves
  have hin := (h.within d hd).2
  exact ⟨d, hd, hsize, hpos, havoids, haddr, fun i hi => himage i (by omega)⟩

/-- A step of which the store sees nothing, and that leaves the place of the download. -/
theorem Safe.quiet (h : s.Safe) (hbefore : s.before e = s.toApp)
    (hreceive : ∀ d, s.client.Live d → ∀ i, i < d.otaElementPos → s.receive e i = s.received i)
    (hevents : (s.respond w e).2 = [])
    (hlive : ∀ d', (s.respond w e).1.Live d' →
      ∃ d, s.client.Live d ∧ d'.downloadImageSize = d.downloadImageSize ∧ d'.otaElementPos = d.otaElementPos)
    (hupdate : (s.respond w e).1.imageUpgradeStatus = .downloadInProgress → (s.respond w e).1.started = true →
      s.client.imageUpgradeStatus = .downloadInProgress ∧ s.client.started = true) :
    (s.step (w, e)).Safe ∧ s.Undamaged (w, e) := by
  have hnone : s.storeEvents (w, e) = [] := by
    unfold storeEvents
    rw [hevents]
    rfl
  refine h.passive hbefore hreceive (fun d' hd' => ?_) fun hstatus hstarted => ?_
  · obtain ⟨d, hd, hsize, hpos⟩ := hlive d' hd'
    refine ⟨d, hd, hsize, hpos, ?_⟩
    rw [hnone]
    exact trivial
  · obtain ⟨hstatus, hstarted⟩ := hupdate hstatus hstarted
    have hstore := s.step_store (w, e)
    simp only [hbefore, hnone] at hstore
    rw [hstore]
    exact h.update hstatus hstarted

theorem Safe.idle (h : s.Safe) (hbefore : s.before e = s.toApp)
    (hreceive : ∀ d, s.client.Live d → ∀ i, i < d.otaElementPos → s.receive e i = s.received i)
    (hrespond : s.respond w e = (s.client, [])) : (s.step (w, e)).Safe ∧ s.Undamaged (w, e) := by
  refine h.quiet hbefore hreceive (by rw [hrespond]) (fun d hd => ?_) ?_
  · rw [hrespond] at hd
    exact ⟨d, hd, rfl, rfl⟩
  · rw [hrespond]
    exact fun hstatus hstarted => ⟨hstatus, hstarted⟩

/-! ### The meter -/

theorem Safe.pass_leaves (h : s.Safe) (w : Surroundings) {pins : Pins} {size : Nat}
    (hnext : s.Pulse pins → s.ram.watermeterConfig.newOta = 0 →
      imageBase s.mcuBootAddr + size ≤ (nextFlashAddr s.ram).toNat) :
    Along OtaDevice.step (LeavesImage size) s.toOtaDevice (s.storeEvents (w, .countersHandler pins)) := by
  show Along _ _ _ ((s.toApp.trace (.countersHandler pins)).map (Prod.mk w.supply) ++ [])
  by_cases hpulse : s.Pulse pins
  · rw [App.trace_pulse hpulse]
    set t := (s.meter.polled pins).takeHot.takeCold.ram.watermeterConfig.totals
    have hset := leavesImage_set s.toOtaDevice w.supply t size
    obtain ⟨b, hsited⟩ := h.sited
    obtain ⟨b', hsited'⟩ := (hsited.step w.supply (.set t)).2
    refine ⟨hset, leavesImage_save hsited' w.supply fun ho => ?_, trivial⟩
    rw [hset.addr]
    exact hnext hpulse ho
  · rw [App.trace_no_pulse hpulse]
    exact trivial

theorem Safe.countersHandler (h : s.Safe) {pins : Pins} (he : s.Harmless (w, .countersHandler pins)) :
    (s.step (w, .countersHandler pins)).Safe ∧ s.Undamaged (w, .countersHandler pins) := by
  refine h.passive rfl (fun _ _ _ _ => rfl)
    (fun d hd => ⟨d, hd, rfl, rfl, h.pass_leaves w fun hpulse ho => he hpulse ho d hd⟩) ?_
  intro hstatus hstarted
  have hota := h.update hstatus hstarted
  have hleaves : Along OtaDevice.step (LeavesImage 0) s.toOtaDevice (s.storeEvents (w, .countersHandler pins)) :=
    h.pass_leaves w fun _ ho => absurd ho hota
  rw [s.step_store (w, .countersHandler pins)]
  exact (leavesImage_run hleaves).2 hota

theorem Safe.zclWriteReqCmd (h : s.Safe) (endPoint : BitVec 8) (clusterId : BitVec 16) (attrList : List WriteRec) :
    (s.step (w, .zclWriteReqCmd endPoint clusterId attrList)).Safe ∧
      s.Undamaged (w, .zclWriteReqCmd endPoint clusterId attrList) := by
  have hleaves : ∀ size, Along OtaDevice.step (LeavesImage size) s.toOtaDevice
      (s.storeEvents (w, .zclWriteReqCmd endPoint clusterId attrList)) :=
    fun size => ⟨leavesImage_set _ _ _ size, trivial⟩
  refine h.passive rfl (fun _ _ _ _ => rfl) (fun d hd => ⟨d, hd, rfl, rfl, hleaves _⟩) fun hstatus hstarted => ?_
  rw [s.step_store (w, .zclWriteReqCmd endPoint clusterId attrList)]
  exact (leavesImage_run (hleaves 0)).2 (h.update hstatus hstarted)

/-! ### The messages of the client -/

theorem start_cases (w : Surroundings) (c : OtaClient) :
    start w c = (.cleared, [.otaProcessMsg w.adcData .otaEvtStart zclStaSuccess w.up]) ∨
      start w c = ({ c with started := true }, [.otaProcessMsg w.adcData .otaEvtStart zclStaSuccess w.up]) ∧
        ∀ s : App, s.trace (.otaProcessMsg w.adcData .otaEvtStart zclStaSuccess w.up) = [.start] := by
  by_cases hlow : w.adcData < (maxVbatMv - 100 - minVbatMv) / 2 + minVbatMv
  · exact Or.inl (by rw [start, if_pos hlow])
  · exact Or.inr ⟨by rw [start, if_neg hlow], fun s => if_neg hlow⟩

/-- `OTA_EVT_START` for a download whose place stays. -/
theorem Safe.start_step (h : s.Safe) (hbefore : s.before e = s.toApp)
    (hreceive : ∀ d, s.client.Live d → ∀ i, i < d.otaElementPos → s.receive e i = s.received i)
    (status : ImageUpgradeStatus) (hrespond : s.respond w e = start w { s.client with imageUpgradeStatus := status })
    (hlive : ∀ d, s.client.download = some d → s.client.Live d) :
    (s.step (w, e)).Safe ∧ s.Undamaged (w, e) := by
  rcases start_cases w { s.client with imageUpgradeStatus := status } with hstart | ⟨hstart, htrace⟩
  · refine safe_of_cleared ?_ (by rw [hrespond, hstart])
    rw [hbefore]
    exact h.sited
  rw [hstart] at hrespond
  have hevents : s.storeEvents (w, e) = [(w.supply, .start)] := by
    unfold storeEvents
    rw [hbefore, hrespond]
    show (s.toApp.trace _).map _ ++ [] = _
    rw [htrace]
    rfl
  obtain ⟨b, hsited⟩ := h.sited
  refine h.passive hbefore hreceive (fun d hd => ⟨d, ?_, rfl, rfl, ?_⟩) fun _ _ => ?_
  · rw [hrespond] at hd
    exact hlive d hd.1
  · rw [hevents]
    exact ⟨(leavesImage_start hsited.written w.supply _).1, trivial⟩
  · have hstore := s.step_store (w, e)
    simp only [hbefore, hevents] at hstore
    rw [hstore]
    exact (leavesImage_start hsited.written w.supply 0).2

theorem Safe.fail_step (h : s.Safe) (hbefore : s.before e = s.toApp) (status : BitVec 8)
    (hrespond : s.respond w e = fail w status) : (s.step (w, e)).Safe ∧ s.Undamaged (w, e) := by
  refine safe_of_cleared ?_ (by rw [hrespond]; rfl)
  rw [hbefore]
  exact h.sited

theorem fromStart_cases (w : Surroundings) (c : OtaClient) (imageSize : Nat) (fileVer : BitVec 32) (addrKnown : Bool) :
    (fromStart w c imageSize fileVer addrKnown).1 = .cleared ∨
      fromStart w c imageSize fileVer addrKnown = ({ c.accepted imageSize fileVer with started := true },
        [.imageAccepted imageSize, .otaProcessMsg w.adcData .otaEvtStart zclStaSuccess w.up]) ∧
        (∀ s : App, s.trace (.otaProcessMsg w.adcData .otaEvtStart zclStaSuccess w.up) = [.start]) ∨
      fromStart w c imageSize fileVer addrKnown = (c.accepted imageSize fileVer, [.imageAccepted imageSize]) := by
  cases addrKnown with
  | false => exact Or.inr (Or.inr rfl)
  | true =>
      rcases start_cases w (c.accepted imageSize fileVer) with hstart | ⟨hstart, htrace⟩
      · apply Or.inl
        simp only [fromStart, if_true, hstart]
      · refine Or.inr (Or.inl ⟨?_, htrace⟩)
        simp only [fromStart, if_true, hstart]

theorem storeAvoids_accept (size imageSize : Nat) (s : OtaDevice) (supply : Supply) :
    StoreAvoids size s (supply, .accept imageSize) := by
  intro op hop
  by_cases hsize : imageSize ≤ flashOtaImageMaxSize
  · simp only [OtaDevice.storeOps, if_pos hsize] at hop
    cases hop
  · simp only [OtaDevice.storeOps, if_neg hsize] at hop
    cases hop

/-- A download from offset 0 has no bytes yet. -/
theorem safe_of_accepted (hsited : ∃ b, Sited b (s.before e).toOtaDevice) {imageSize : Nat} {fileVer : BitVec 32}
    (hdownload : (s.respond w e).1.download = (s.client.accepted imageSize fileVer).download)
    (hsize : imageSize ≤ flashOtaImageMaxSize)
    (havoids : Along OtaDevice.step (StoreAvoids imageSize) (s.before e).toOtaDevice (s.storeEvents (w, e)))
    (hupdate : (s.respond w e).1.started = true → (s.step (w, e)).ram.watermeterConfig.newOta ≠ 0) :
    (s.step (w, e)).Safe ∧ s.Undamaged (w, e) := by
  have hnew : ∀ d, (s.respond w e).1.Live d → d.downloadImageSize = imageSize ∧ d.otaElementPos = 0 := by
    rintro d ⟨hd, -⟩
    rw [hdownload] at hd
    rw [← Option.some.inj hd]
    exact ⟨rfl, rfl⟩
  have hintact : ∀ d, (s.respond w e).1.Live d → (s.step (w, e)).Intact d := by
    intro d hd i hi
    rw [(hnew d hd).2] at hi
    exact absurd hi (Nat.not_lt_zero _)
  refine ⟨⟨?_, fun _ => hupdate, fun d hd => ?_, hintact⟩, fun d hd => ⟨?_, hintact d hd⟩⟩
  · exact sited_step hsited
  · rw [(hnew d hd).1, (hnew d hd).2]
    exact ⟨hsize, Nat.zero_le _⟩
  · rw [(hnew d hd).1, App.along_traces]
    exact havoids

theorem Safe.fromStart_step (h : s.Safe) (hbefore : s.before e = s.toApp) {imageSize : Nat} {fileVer : BitVec 32}
    {addrKnown : Bool} (hrespond : s.respond w e = fromStart w s.client imageSize fileVer addrKnown)
    (hsize : imageSize ≤ flashOtaImageMaxSize) : (s.step (w, e)).Safe ∧ s.Undamaged (w, e) := by
  have hsited : ∃ b, Sited b (s.before e).toOtaDevice := by
    rw [hbefore]
    exact h.sited
  obtain ⟨b, hb⟩ := h.sited
  obtain ⟨b', hb'⟩ := (hb.step w.supply (.accept imageSize)).2
  rcases fromStart_cases w s.client imageSize fileVer addrKnown with hcleared | ⟨hstarted, htrace⟩ | hwait
  · exact safe_of_cleared hsited (by rw [hrespond, hcleared])
  · rw [← hrespond] at hstarted
    have hevents : s.storeEvents (w, e) = [(w.supply, .accept imageSize), (w.supply, .start)] := by
      unfold storeEvents
      rw [hbefore, hstarted]
      show (s.toApp.trace _).map _ ++ ((App.trace _ _).map _ ++ []) = _
      rw [htrace]
      rfl
    have hstart := leavesImage_start hb'.written w.supply imageSize
    refine safe_of_accepted hsited (by rw [hstarted]) hsize ?_ fun _ => ?_
    · rw [hevents, hbefore]
      exact ⟨storeAvoids_accept _ _ _ _, hstart.1.avoids, trivial⟩
    · rw [step_store, hevents, hbefore]
      exact hstart.2
  · rw [← hrespond] at hwait
    have hevents : s.storeEvents (w, e) = [(w.supply, .accept imageSize)] := by
      unfold storeEvents
      rw [hbefore, hwait]
      rfl
    refine safe_of_accepted hsited (by rw [hwait]) hsize ?_ fun hstarted => ?_
    · rw [hevents, hbefore]
      exact ⟨storeAvoids_accept _ _ _ _, trivial⟩
    · rw [hwait] at hstarted
      cases hstarted

/-- The update is over: the MCU is reset on the new image, or the image was not taken and the flash is as it
was, but for bits of its first flag byte that were clear already. -/
theorem Safe.succeed_step (h : s.Safe) (hbefore : s.before e = s.toApp)
    (hreceive : ∀ d, s.client.Live d → ∀ i, i < d.otaElementPos → s.receive e i = s.received i)
    (hrespond : s.respond w e = s.succeed w) : (s.step (w, e)).Safe ∧ s.Undamaged (w, e) := by
  obtain ⟨b, hsited⟩ := h.sited
  cases hreset : s.resets w.supply (.otaProcessMsg w.adcData .otaEvtComplete zclStaSuccess w.up) with
  | true =>
      refine safe_of_cleared ?_ (by rw [hrespond, succeed, hreset]; rfl)
      rw [hbefore]
      exact h.sited
  | false =>
      have hevents : s.storeEvents (w, e) = [(w.supply, .success)] := by
        unfold storeEvents
        rw [hbefore, hrespond]
        rfl
      have hstay : s.toOtaDevice.resets w.supply .success = false := by
        simpa [App.resets] using hreset
      rw [succeed, hreset] at hrespond
      have hops : s.storeOps w.supply .success = (s.switched w.supply, s.ram, []) := by
        rw [OtaDevice.storeOps, hstay]
        rfl
      refine h.kept hbefore hreceive (fun d hd => ?_) fun hstatus => ?_
      · rw [hrespond] at hd
        have hlive : s.client.Live d := ⟨hd.1, Or.inr (hd.2.resolve_left (not_not.mpr rfl))⟩
        rw [hevents]
        refine ⟨d, hlive, rfl, rfl, ⟨fun op hop => ?_, trivial⟩, ?_, fun i hi => ?_⟩
        · rw [hops] at hop
          cases hop
        · rw [run_cons, run_nil, OtaDevice.step_eq hops, hstay]
          rfl
        · rw [run_cons, run_nil, OtaDevice.step_eq hops]
          refine switched_keeps hsited hstay (Nat.lt_of_lt_of_le hi ?_) fun hflag => ?_
          · exact (h.within d hlive).2.trans (h.within d hlive).1
          · rw [h.intact d hlive i hi, hflag]
            rfl
      · rw [hrespond] at hstatus
        cases hstatus

/-! ### Blocks -/

/-- A block that has been written and checked extends what is intact. -/
theorem Safe.block_step (h : s.Safe) {data : List Byte} {d : Download} (hdownload : s.client.download = some d)
    (hready : s.client.imageUpgradeStatus = .downloadInProgress ∧ s.client.started = true ∧
      d.otaElementPos + data.length ≤ d.downloadImageSize)
    (hcheck : s.written w d.otaElementPos data = true)
    (hrespond : s.respond w (.imageBlockRsp data) =
      ({ s.client with
          download := some { d with
            fileOffset := d.fileOffset + data.length
            offset := d.fileOffset + data.length
            otaElementPos := d.otaElementPos + data.length } }, [.imageBlock d.otaElementPos data])) :
    (s.step (w, .imageBlockRsp data)).Safe ∧ s.Undamaged (w, .imageBlockRsp data) := by
  obtain ⟨hstatus, hstarted, hfits⟩ := hready
  have hlive : s.client.Live d := ⟨hdownload, Or.inl (by rw [hstatus]; nofun)⟩
  have hupdate := h.update hstatus hstarted
  have hmax := (h.within d hlive).1
  have hin : d.otaElementPos + data.length ≤ flashOtaImageMaxSize := hfits.trans hmax
  have hevents : s.storeEvents (w, .imageBlockRsp data) = [(w.supply, .block d.otaElementPos data)] := by
    unfold storeEvents
    rw [hrespond]
    rfl
  have hstore : (s.step (w, .imageBlockRsp data)).toOtaDevice =
      s.toOtaDevice.step (w.supply, .block d.otaElementPos data) := by
    rw [step_store, hevents]
    rfl
  have hblock := fun i => block_written (i := i) hupdate hin hcheck
  have hnew : ∀ d', (s.respond w (.imageBlockRsp data)).1.Live d' →
      d'.downloadImageSize = d.downloadImageSize ∧ d'.otaElementPos = d.otaElementPos + data.length := by
    rintro d' ⟨hd, -⟩
    rw [hrespond] at hd
    rw [← Option.some.inj hd]
    exact ⟨rfl, rfl⟩
  have hintact : ∀ d', (s.respond w (.imageBlockRsp data)).1.Live d' → (s.step (w, .imageBlockRsp data)).Intact d' := by
    intro d' hd' i hi
    obtain ⟨haddr, -, hbelow, hwritten⟩ := hblock i
    have hreceived : (s.step (w, .imageBlockRsp data)).received i =
        if d.otaElementPos ≤ i ∧ i < d.otaElementPos + data.length then data.getD (i - d.otaElementPos) 0#8
        else s.received i := by
      show s.receive (.imageBlockRsp data) i = _
      simp only [receive, hdownload]
    rw [(hnew d' hd').2] at hi
    rw [hstore, haddr, held, hreceived]
    by_cases hbyte : i < d.otaElementPos
    · rw [hbelow hbyte, h.intact d hlive i hbyte, if_neg (by omega : ¬ (d.otaElementPos ≤ i ∧ _))]
      rfl
    · rw [hwritten (by omega) hi, if_pos (⟨by omega, hi⟩ : d.otaElementPos ≤ i ∧ _)]
  refine ⟨⟨?_, fun _ _ => ?_, fun d' hd' => ?_, hintact⟩, fun d' hd' => ⟨?_, hintact d' hd'⟩⟩
  · exact sited_step h.sited
  · rw [hstore, (hblock 0).2.1]
    exact hupdate
  · rw [(hnew d' hd').1, (hnew d' hd').2]
    exact ⟨hmax, hfits⟩
  · rw [App.along_traces]
    show Along _ _ s.toOtaDevice (s.storeEvents (w, .imageBlockRsp data))
    rw [hevents]
    refine ⟨fun op hop => ?_, trivial⟩
    rw [OtaDevice.storeOps, if_pos ⟨hupdate, hin⟩] at hop
    cases hop

theorem Safe.imageBlockRsp (h : s.Safe) (data : List Byte) :
    (s.step (w, .imageBlockRsp data)).Safe ∧ s.Undamaged (w, .imageBlockRsp data) := by
  have hreceive : ∀ d, s.client.Live d → ∀ i, i < d.otaElementPos → s.receive (.imageBlockRsp data) i = s.received i := by
    rintro d ⟨hd, -⟩ i hi
    simp only [receive, hd]
    exact if_neg (by omega)
  cases hdownload : s.client.download with
  | none => exact h.idle rfl hreceive (by simp only [respond, OtaSystem.imageBlockRsp, hdownload])
  | some d =>
      by_cases hready : s.client.imageUpgradeStatus = .downloadInProgress ∧ s.client.started = true ∧
          d.otaElementPos + data.length ≤ d.downloadImageSize
      swap
      · exact h.idle rfl hreceive (by simp only [respond, OtaSystem.imageBlockRsp, hdownload, if_neg hready])
      by_cases hflag : flagByteRight d.otaElementPos data = true
      swap
      · apply h.fail_step rfl zclStaInvalidImage
        simp only [respond, OtaSystem.imageBlockRsp, hdownload, if_pos hready, if_neg hflag]
      by_cases hcheck : s.written w d.otaElementPos data = true
      swap
      · refine safe_of_cleared h.sited ?_
        simp only [respond, OtaSystem.imageBlockRsp, hdownload, if_pos hready, if_pos hflag, if_neg hcheck]
      have hrespond : s.respond w (.imageBlockRsp data) =
          ({ s.client with
              download := some { d with
                fileOffset := d.fileOffset + data.length
                offset := d.fileOffset + data.length
                otaElementPos := d.otaElementPos + data.length } }, [.imageBlock d.otaElementPos data]) := by
        simp only [respond, OtaSystem.imageBlockRsp, hdownload, if_pos hready, if_pos hflag, if_pos hcheck]
      exact h.block_step hdownload hready hcheck hrespond

/-! ### Every event -/

theorem Safe.queryNextImageRsp (h : s.Safe) (imageSize : Nat) (fileVer : BitVec 32) (addrKnown crcRight : Bool) :
    (s.step (w, .queryNextImageRsp imageSize fileVer addrKnown crcRight)).Safe ∧
      s.Undamaged (w, .queryNextImageRsp imageSize fileVer addrKnown crcRight) := by
  have hreceive : ∀ d, s.client.Live d → ∀ i, i < d.otaElementPos →
      s.receive (.queryNextImageRsp imageSize fileVer addrKnown crcRight) i = s.received i := fun _ _ _ _ => rfl
  have hrespond : s.respond w (.queryNextImageRsp imageSize fileVer addrKnown crcRight) =
      s.queryNextImageRsp w imageSize fileVer addrKnown crcRight := rfl
  unfold OtaSystem.queryNextImageRsp at hrespond
  by_cases hstatus : s.client.imageUpgradeStatus = .downloadInProgress
  · rw [if_pos hstatus] at hrespond
    exact h.idle rfl hreceive hrespond
  rw [if_neg hstatus] at hrespond
  by_cases hsize : flashOtaImageMaxSize < imageSize
  · rw [if_pos hsize] at hrespond
    exact h.idle rfl hreceive hrespond
  rw [if_neg hsize] at hrespond
  cases hdownload : s.client.download with
  | none =>
      rw [hdownload] at hrespond
      exact h.fromStart_step rfl hrespond (Nat.not_lt.mp hsize)
  | some d =>
      simp only [hdownload] at hrespond
      by_cases hresume : d.downloadImageSize = imageSize ∧ d.downloadFileVer = fileVer ∧ 4096 < d.fileOffset
      swap
      · rw [if_neg hresume] at hrespond
        exact h.fromStart_step rfl hrespond (Nat.not_lt.mp hsize)
      rw [if_pos hresume] at hrespond
      by_cases hfull : d.offset = d.downloadImageSize
      · rw [if_pos hfull] at hrespond
        cases crcRight with
        | true => exact h.succeed_step rfl hreceive hrespond
        | false => exact h.fromStart_step rfl hrespond (Nat.not_lt.mp hsize)
      · rw [if_neg hfull] at hrespond
        rw [← hdownload] at hrespond
        refine h.start_step rfl hreceive .downloadInProgress hrespond fun d' hd' => ⟨hd', Or.inr ?_⟩
        rw [← Option.some.inj (hdownload.symm.trans hd')]
        exact hresume.2.2

theorem Safe.headerBytes (h : s.Safe) (n : Nat) (last : Bool) :
    (s.step (w, .headerBytes n last)).Safe ∧ s.Undamaged (w, .headerBytes n last) := by
  have hrespond : s.respond w (.headerBytes n last) = (OtaSystem.headerBytes s.client n last, []) := rfl
  unfold OtaSystem.headerBytes at hrespond
  cases hdownload : s.client.download with
  | none =>
      simp only [hdownload] at hrespond
      exact h.idle rfl (fun _ _ _ _ => rfl) hrespond
  | some d =>
      simp only [hdownload] at hrespond
      by_cases hready : s.client.imageUpgradeStatus = .downloadInProgress ∧ s.client.started = true
      · rw [if_pos hready] at hrespond
        refine h.quiet rfl (fun _ _ _ _ => rfl) (by rw [hrespond]) (fun d' hd' => ?_) fun _ _ => hready
        rw [hrespond] at hd'
        refine ⟨d, ⟨hdownload, Or.inl (by rw [hready.1]; nofun)⟩, ?_⟩
        rw [← Option.some.inj hd'.1]
        exact ⟨rfl, rfl⟩
      · rw [if_neg hready] at hrespond
        exact h.idle rfl (fun _ _ _ _ => rfl) hrespond

theorem Safe.downloadComplete (h : s.Safe) :
    (s.step (w, .downloadComplete)).Safe ∧ s.Undamaged (w, .downloadComplete) := by
  by_cases hready : s.client.imageUpgradeStatus = .downloadInProgress ∧ s.client.started = true
  · have hrespond : s.respond w .downloadComplete = ({ s.client with imageUpgradeStatus := .downloadComplete }, []) := by
      simp only [respond, if_pos hready]
    refine h.quiet rfl (fun _ _ _ _ => rfl) (by rw [hrespond]) (fun d hd => ?_) fun _ _ => hready
    rw [hrespond] at hd
    exact ⟨d, ⟨hd.1, Or.inl (by rw [hready.1]; nofun)⟩, rfl, rfl⟩
  · exact h.idle rfl (fun _ _ _ _ => rfl) (by simp only [respond, if_neg hready])

theorem Safe.saveUpdateInfo2NV (h : s.Safe) :
    (s.step (w, .saveUpdateInfo2NV)).Safe ∧ s.Undamaged (w, .saveUpdateInfo2NV) := by
  have hsaved : s.client.saveUpdateInfo.imageUpgradeStatus = s.client.imageUpgradeStatus ∧
      s.client.saveUpdateInfo.started = s.client.started ∧ s.client.saveUpdateInfo.download = s.client.download := by
    unfold OtaClient.saveUpdateInfo
    split
    · exact ⟨rfl, rfl, rfl⟩
    · exact ⟨rfl, rfl, rfl⟩
  obtain ⟨hstatus, hstarted, hdownload⟩ := hsaved
  refine h.quiet rfl (fun _ _ _ _ => rfl) rfl (fun d hd => ⟨d, ⟨?_, ?_⟩, rfl, rfl⟩) fun h1 h2 => ⟨?_, ?_⟩
  · exact hdownload.symm.trans hd.1
  · rw [← hstatus]
    exact hd.2
  · exact hstatus.symm.trans h1
  · exact hstarted.symm.trans h2

theorem Safe.ieeeAddrRsp (h : s.Safe) (success : Bool) :
    (s.step (w, .ieeeAddrRsp success)).Safe ∧ s.Undamaged (w, .ieeeAddrRsp success) := by
  by_cases hwait : s.client.imageUpgradeStatus = .downloadInProgress ∧ s.client.started = false
  swap
  · exact h.idle rfl (fun _ _ _ _ => rfl) (by simp only [respond, if_neg hwait])
  cases success with
  | true =>
      refine h.start_step rfl (fun _ _ _ _ => rfl) s.client.imageUpgradeStatus ?_ fun d hd => ⟨hd, Or.inl ?_⟩
      · simp only [respond, if_pos hwait, if_true]
      · rw [hwait.1]
        nofun
  | false =>
      apply h.fail_step rfl zclStaAbort
      simp only [respond, if_pos hwait, Bool.false_eq_true, if_false]

theorem Safe.step (h : s.Safe) (he : s.Harmless (w, e)) : (s.step (w, e)).Safe ∧ s.Undamaged (w, e) := by
  obtain ⟨b, hsited⟩ := h.sited
  cases e with
  | countersHandler pins => exact h.countersHandler he
  | zclWriteReqCmd endPoint clusterId attrList => exact h.zclWriteReqCmd endPoint clusterId attrList
  | reset => exact safe_of_dead (sited_step h.sited) he nofun
  | factoryReset =>
      exact safe_of_cleared ⟨b, hsited.boot, hsited.addr, hsited.safe, hsited.placed, hsited.written⟩ rfl
  | queryNextImageRsp imageSize fileVer addrKnown crcRight =>
      exact h.queryNextImageRsp imageSize fileVer addrKnown crcRight
  | ieeeAddrRsp success => exact h.ieeeAddrRsp success
  | headerBytes n last => exact h.headerBytes n last
  | imageBlockRsp data => exact h.imageBlockRsp data
  | downloadComplete => exact h.downloadComplete
  | saveUpdateInfo2NV => exact h.saveUpdateInfo2NV
  | upgradeFailed status =>
      by_cases hstatus : status = zclStaSuccess
      · exact h.idle rfl (fun _ _ _ _ => rfl) (by simp only [respond, if_pos hstatus])
      · exact h.fail_step rfl status (by simp only [respond, if_neg hstatus])
  | upgradeEnd =>
      by_cases hcomplete : s.client.imageUpgradeStatus = .downloadComplete
      · exact h.succeed_step rfl (fun _ _ _ _ => rfl) (by simp only [respond, if_pos hcomplete])
      · exact h.idle rfl (fun _ _ _ _ => rfl) (by simp only [respond, if_neg hcomplete])

end OtaSystem

end Watermeter
