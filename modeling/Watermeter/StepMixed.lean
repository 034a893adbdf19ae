import Watermeter.StepRange

/-! A step of zero at a good supply. A scan that goes on from a record of an older ring turns to a page that holds a
part of an image. The record written there is mixed with it, the checksum is right, and the next start takes the
mixture. -/

namespace Watermeter

open NorFlash RingLog Transition

variable {b : Bank} {p n : Nat} {m m' : Mem} {c : Config} {s : OtaDevice} {supply : Supply}

/-- Bytes of an image that leave the identifier, the number and the cold water of a record and clear the rest. -/
def mixing : List Byte :=
  List.replicate 4 0xFF#8 ++ [0#8] ++ List.replicate 4 0xFF#8 ++ List.replicate 12 0#8 ++ List.replicate 4 0xFF#8 ++
    List.replicate 3 0#8

/-- The record of number 17 with 59321 litres of cold water, as it is read from those bytes. -/
def mixed : Config := ⟨idConfig, 0#8, 17#32, 0#32, 0#32, 0#32, 59321#32, 0#8, 0#16⟩

theorem mixed_valid : mixed.Valid := by decide +kernel

theorem readConfig_mixed {a : Nat} (hcells : ∀ i, i < 28 → m (a + i) = mixing.getD i 0xFF#8) (hid : c.id = idConfig)
    (htop : c.top = 17#32) (hcold : c.counterColdWater = 59321#32) : readConfig (program m a c.toBytes) a = mixed := by
  have hones : ∀ x : Byte, 0xFF#8 &&& x = x := fun _ => BitVec.allOnes_and
  have hread : read (program m a c.toBytes) a sizeofConfig = List.zipWith (· &&& ·) mixing c.toBytes := by
    have hlen : (List.zipWith (· &&& ·) mixing c.toBytes).length = sizeofConfig := rfl
    rw [← hlen, read_eq_iff]
    intro i hi
    rw [hlen] at hi
    have hmix : i < mixing.length := hi
    have hbyte : i < c.toBytes.length := hi
    rw [program_inside hbyte, hcells i hi]
    simp only [List.getD, List.getElem?_zipWith, List.getElem?_eq_getElem hmix, List.getElem?_eq_getElem hbyte,
      Option.getD_some]
  rw [readConfig, hread, Config.toBytes, Config.payload, hid, htop, hcold]
  simp only [mixing, bytes32, bytes16, List.replicate, List.cons_append, List.nil_append, List.zipWith_cons_cons,
    List.zipWith_nil_left, hones, BitVec.zero_and]
  decide

/-! ### The cells behind page 16 -/

/-- Page 16 of the lower bank's ring holds a record numbered 16, the next page those bytes, and the one after it
nothing. -/
structure Mixable (m : Mem) : Prop where
  record : ∃ r, ringLog m .low 16 = some r ∧ r.top = 16#32 ∧ r.newOta = 0
  cells : ∀ i, i < 28 → m (0x41100 + i) = mixing.getD i 0xFF#8
  behind : m 0x41200 = 0xFF#8

theorem Mixable.same (h : Mixable m) (hsame : SameSector m m') : Mixable m' := by
  obtain ⟨⟨r, hr, htop⟩, hcells, hbehind⟩ := h
  refine ⟨⟨r, (recordAt_congr fun x hl hr => ?_).trans hr, htop⟩, fun i hi => ?_, ?_⟩
  · simp only [pageAddr, flashPageSize, sizeofConfig, Bank.userStart_low] at hl hr
    exact hsame x (by omega) (by omega)
  · exact (hsame _ (by omega) (by omega)).trans (hcells i hi)
  · exact (hsame _ (by omega) (by omega)).trans hbehind

/-- The download goes on behind page 16, and is given up. -/
def resumedMixing (supply : Supply) : List (Supply × OtaEvent) :=
  [(supply, .start), (supply, .block 0x1100 mixing), (supply, .abort)]

theorem withheld_mixing : withheld 0x1100 mixing = mixing := if_neg (by decide)

theorem RingWhole.mixable (h : RingWhole .low 16 c s) (htop : c.top = 16#32) (hs : Powered supply) :
    (∃ c', RingWhole .low 0 c' (run OtaDevice.step s (resumedMixing supply))) ∧
      Mixable (run OtaDevice.step s (resumedMixing supply)).nvm.flash ∧
      Along OtaDevice.step ImageClean s (resumedMixing supply) := by
  obtain ⟨c₁, -, hstart⟩ := h.step_start supply
  have hkeep := OtaDevice.start_flash h.written supply
  have hblock := hstart.step_block supply 0x1100 mixing
  have hprog := hstart.block_flash hs (show 0x1100 + mixing.length ≤ flashOtaImageMaxSize by decide)
  rw [withheld_mixing, hkeep, Bank.userStart_low] at hprog
  obtain ⟨c₂, -, -, habort⟩ := hblock.step_abort hs
  have hcells : ∀ i, i < 28 →
      ((s.step (supply, .start)).step (supply, .block 0x1100 mixing)).nvm.flash (0x41100 + i) = mixing.getD i 0xFF#8 := by
    intro i hi
    have herased : s.nvm.flash (0x41100 + i) = 0xFF#8 :=
      h.tail 17 (by omega) (by omega) _ (by unfold pageAddr flashPageSize; rw [Bank.userStart_low]; omega)
        (by unfold pageAddr flashPageSize; rw [Bank.userStart_low]; omega)
    rw [hprog, program_inside (show i < mixing.length from hi), herased]
    exact BitVec.allOnes_and
  refine ⟨⟨c₂, habort⟩, ?_, imageClean_of_ne (by simp), ?_, imageClean_of_ne (by simp), trivial⟩
  · refine Mixable.same ⟨⟨c, ?_, htop, h.ring⟩, hcells, ?_⟩ (hblock.abort_sector hs)
    · rw [hprog]
      exact h.record_kept _
    · have hlen : mixing.length = 28 := rfl
      rw [hprog, program_outside (Or.inr (by omega))]
      exact h.tail 18 (by omega) (by omega) _ (by unfold pageAddr flashPageSize; rw [Bank.userStart_low])
        (by unfold pageAddr flashPageSize; rw [Bank.userStart_low]; omega)
  · apply hstart.imageClean
    intro j hj hoff
    have hlen : mixing.length = 28 := rfl
    obtain rfl : j = 17 := by omega
    rw [Bank.userStart_low]
    exact fun hbyte => absurd ((hcells 0 (by omega)).symm.trans hbyte) (by decide)

/-! ### Pulses -/

/-- A power cycle in between changes nothing of what a save makes of a ring that is found. -/
theorem RingWhole.cycle (h : RingWhole b p c s) (hstop : ¬ Continues Config.top c (ringLog s.nvm.flash b (p + 1)))
    (hp : p < 831) (hs : Powered supply) (t : Totals) :
    ∃ c', c'.top = c.top + 1 ∧
      RingWhole b (p + 1) c' (run OtaDevice.step s [(supply, .reboot), (supply, .set t), (supply, .save)]) ∧
      (run OtaDevice.step s [(supply, .reboot), (supply, .set t), (supply, .save)]).nvm.flash =
        writeRecord b (p + 1) c' s.nvm.flash := by
  have hreboot := h.step_reboot_found supply h.chain hstop hp
  have hfound := (h.found supply h.chain hstop hp).1
  have hnvm : (Device.initConfig supply ⟨Ram.zero, s.nvm⟩).nvm = s.nvm := by
    rw [reboot_found supply h.boot h.item h.chain hstop hp Ram.zero]
  have hset : RingWhole b p c ((startUp supply b Ram.zero s.nvm s.passed).step (supply, .set t)) :=
    { hfound.toRingUse.step_set supply t with chain := hfound.chain }
  have hsave := hset.step_save hs
  have heq := hset.toRingHeld.save_eq hs
  have hnext : succSlot 832 p = p + 1 := if_neg (by omega)
  rw [hnext] at hsave heq
  simp only [run_cons, run_nil, hreboot]
  refine ⟨_, ?_, hsave, ?_⟩
  · rw [nextConfig_top, ← hset.number]
  · rw [heq]
    show writeRecord b (p + 1) _ (Device.initConfig supply ⟨Ram.zero, s.nvm⟩).nvm.flash = _
    rw [hnvm]

/-- A start by the hot contact, closed in deep sleep. -/
def wake : PowerUp := ⟨5#8, ⟨false, true⟩⟩

/-- The device wakes and counts the pulse. -/
def pulseCycle (supply : Supply) : List (Supply × AppEvent) :=
  [(supply, .userAppInit wake), (supply, .countersHandler wake.pins)]

def pulseCycles (supply : Supply) (n : Nat) : List (Supply × AppEvent) := (List.replicate n (pulseCycle supply)).flatten

theorem App.wake_counters (s : App) (supply : Supply) :
    (s.step (supply, .userAppInit wake)).hotCounter = ⟨1#8, 32#8⟩ ∧
      (s.step (supply, .userAppInit wake)).coldCounter = ⟨0#8, 1#8⟩ := by
  refine ⟨?_, ?_⟩
  · show initCounter false ((5#8).getLsbD 2) ((5#8).getLsbD 0) = _
    decide
  · show initCounter true ((5#8).getLsbD 2) ((5#8).getLsbD 1) = _
    decide

theorem App.wake_pulse {s : App} (h : s.hotCounter = ⟨1#8, 32#8⟩) : s.Pulse wake.pins := by
  apply Or.inl
  show (pollCounter false s.hotCounter).counter ≠ 0
  rw [h]
  decide

theorem App.traces_pulseCycle (s : App) (supply : Supply) :
    ∃ t, s.traces (pulseCycle supply) = [(supply, .reboot), (supply, .set t), (supply, .save)] := by
  have hpulse := App.wake_pulse (s.wake_counters supply).1
  rw [pulseCycle, App.traces, App.traces, App.traces, App.trace_pulse hpulse]
  exact ⟨_, rfl⟩

theorem App.imageUnlike_pulseCycle (s : App) (supply : Supply) :
    Along App.step (App.Each ImageUnlike) s (pulseCycle supply) :=
  ⟨App.imageUnlike_of_ne nofun, App.imageUnlike_of_ne nofun, trivial⟩

/-- One pulse more, if the page after the pointer is not read on. -/
theorem App.pulseCycle_whole {s : App} (h : RingWhole b p c s.toOtaDevice)
    (hstop : ¬ Continues Config.top c (ringLog s.nvm.flash b (p + 1))) (hp : p < 831) (hs : Powered supply) :
    ∃ c', c'.top = c.top + 1 ∧ RingWhole b (p + 1) c' (run App.step s (pulseCycle supply)).toOtaDevice ∧
      (run App.step s (pulseCycle supply)).nvm.flash = writeRecord b (p + 1) c' s.nvm.flash := by
  obtain ⟨t, htraces⟩ := s.traces_pulseCycle supply
  have hrun := App.run_traces s (pulseCycle supply)
  rw [htraces] at hrun
  obtain ⟨c', htop, hwhole, hflash⟩ := h.cycle hstop hp hs t
  rw [hrun]
  exact ⟨c', htop, hwhole, hflash⟩

/-- Pulses within the first sector of the ring. -/
theorem App.pulseCycles_whole {s : App} (h : RingWhole .low 0 c s.toOtaDevice) (hs : Powered supply) (hn : n < 16) :
    ∃ c', c'.top = c.top + .ofNat 32 n ∧ RingWhole .low n c' (run App.step s (pulseCycles supply n)).toOtaDevice ∧
      SameSector s.nvm.flash (run App.step s (pulseCycles supply n)).nvm.flash ∧
      Along App.step (App.Each ImageUnlike) s (pulseCycles supply n) := by
  induction n with
  | zero => exact ⟨c, (BitVec.add_zero _).symm, h, fun _ _ _ => rfl, trivial⟩
  | succ n ih =>
      obtain ⟨c', htop, hwhole, hsame, hunlike⟩ := ih (by omega)
      have hcycles : pulseCycles supply (n + 1) = pulseCycles supply n ++ pulseCycle supply := by
        rw [pulseCycles, List.replicate_succ', List.flatten_append, List.flatten_singleton, pulseCycles]
      have hstop : ¬ Continues Config.top c' (ringLog (run App.step s (pulseCycles supply n)).nvm.flash .low (n + 1)) := by
        exact hwhole.tail.ends (by omega) c'
      obtain ⟨c'', htop', hwhole', hflash⟩ := App.pulseCycle_whole hwhole hstop (by omega) hs
      rw [hcycles, run_append, along_append]
      refine ⟨c'', ?_, hwhole', ?_, hunlike, App.imageUnlike_pulseCycle _ _⟩
      · rw [htop', htop, BitVec.add_assoc, BitVec.ofNat_add]
        rfl
      · apply hsame.trans
        intro x hl _
        rw [hflash]
        exact writeRecord_sector (Or.inr (by rw [Bank.userStart_low]; omega))

/-! ### Images without records -/

/-- A block leaves the flash alone or programs its bytes. -/
theorem OtaDevice.block_cases (s : OtaDevice) (supply : Supply) (offset : Nat) (data : List Byte) :
    (s.step (supply, .block offset data)).nvm.flash = s.nvm.flash ∨
      offset + data.length ≤ flashOtaImageMaxSize ∧ (s.step (supply, .block offset data)).nvm.flash =
        program s.nvm.flash (imageBase s.mcuBootAddr + offset) (withheld offset data) := by
  by_cases hwrite : s.ram.watermeterConfig.newOta ≠ 0 ∧ offset + data.length ≤ flashOtaImageMaxSize
  · simp only [OtaDevice.step, OtaDevice.storeOps, if_pos hwrite, performAll, flashWriteWithCheck]
    by_cases hmv : clientSupply supply 0 < batterySafetyThreshold
    · rw [if_pos hmv]
      exact Or.inl rfl
    · rw [if_neg hmv]
      exact Or.inr ⟨hwrite.2, rfl⟩
  · apply Or.inl
    simp only [OtaDevice.step, OtaDevice.storeOps, if_neg hwrite, performAll]

/-- A block that leaves no record on its pages makes none. -/
theorem ImageClean.unlike {e : Supply × OtaEvent} (h : ImageClean s e) : ImageUnlike s e := by
  obtain ⟨supply, e⟩ := e
  intro offset data he b q c hq hlog
  cases he
  rcases s.block_cases supply offset data with hsame | ⟨hlen, hprog⟩
  · rw [← hsame]
    exact hlog
  obtain ⟨b₀, hbase⟩ : ∃ b₀ : Bank, imageBase s.mcuBootAddr = b₀.userStart := by
    unfold imageBase
    split
    · exact ⟨.high, rfl⟩
    · exact ⟨.low, rfl⟩
  unfold flashOtaImageMaxSize at hlen
  have hframe : ∀ x, x < b₀.userStart + offset ∨ b₀.userStart + offset + data.length ≤ x →
      (s.step (supply, .block offset data)).nvm.flash x = s.nvm.flash x := by
    intro x hx
    rw [hprog, hbase, program_outside (by rw [length_withheld]; exact hx)]
  rcases b₀.eq_or_other b with rfl | rfl
  · by_cases hreach : 256 * q < offset + data.length ∧ offset < 256 * q + 256
    · have hnone := h offset data rfl q hreach.1 hreach.2
      rw [hbase] at hnone
      exact absurd (hnone.symm.trans hlog) (by simp)
    · rw [← hlog]
      refine (ringLog_congr fun x hl hr => hframe x ?_).symm
      unfold pageAddr flashPageSize at hl hr
      omega
  · rw [← hlog]
    refine (ringLog_congr fun x hl hr => hframe x ?_).symm
    have hout := pageAddr_other hq hl hr
    omega

theorem App.imageUnlike_of_clean {s : App} {events : List (Supply × AppEvent)}
    (h : Along OtaDevice.step ImageClean s.toOtaDevice (s.traces events)) :
    Along App.step (App.Each ImageUnlike) s events :=
  App.along_traces.mpr (h.mono fun _ _ hclean => hclean.unlike)

/-! ### The run -/

/-- A download that a power cycle interrupts. -/
def appInterrupted (supply : Supply) : List (Supply × AppEvent) :=
  [(supply, .imageAccepted 0x1200), (supply, .otaProcessMsg 3000 .otaEvtStart zclStaSuccess wake),
    (supply, .imageBlock 0 (List.replicate 0x1100 0#8)), (supply, .userAppInit wake)]

/-- It goes on, and is given up. -/
def appResumed (supply : Supply) : List (Supply × AppEvent) :=
  [(supply, .otaProcessMsg 3000 .otaEvtStart zclStaSuccess wake), (supply, .imageBlock 0x1100 mixing),
    (supply, .otaProcessMsg 3000 .otaEvtComplete zclStaAbort wake)]

/-- A small update that succeeds. -/
def appUpdate (supply : Supply) : List (Supply × AppEvent) :=
  [(supply, .imageAccepted 28), (supply, .otaProcessMsg 3000 .otaEvtStart zclStaSuccess wake),
    (supply, .imageBlock 0 smallImage), (supply, .otaProcessMsg 3000 .otaEvtComplete zclStaSuccess wake)]

/-- An image is accepted, and the device restarts before the update does. -/
def appRestart (supply : Supply) : List (Supply × AppEvent) :=
  [(supply, .imageAccepted 28), (supply, .userAppInit wake)]

theorem traces_interrupted (s : App) (supply : Supply) : s.traces (appInterrupted supply) = interrupted supply := rfl

theorem traces_resumed (s : App) (supply : Supply) : s.traces (appResumed supply) = resumedMixing supply := rfl

theorem traces_update (s : App) (supply : Supply) : s.traces (appUpdate supply) = smallUpdate supply := rfl

theorem traces_restart (s : App) (supply : Supply) :
    s.traces (appRestart supply) = [(supply, .accept 28), (supply, .reboot)] := rfl

/-- The interrupted download leaves zeros on page 16. -/
theorem RingUse.interrupted_page (h : RingUse .low p c s) (hs : Powered supply) :
    (run OtaDevice.step s (Watermeter.interrupted supply)).nvm.flash 0x41000 = 0#8 := by
  obtain ⟨c₂, -, hstart⟩ := (h.step_accept supply 0x1200).step_start supply
  have hblock := hstart.step_block supply 0 (List.replicate 0x1100 0#8)
  have hzero : (withheld 0 (List.replicate 0x1100 0#8)).getD (0x1000 - 0) 0xFF#8 = 0#8 := by
    rw [withheld, flashTlnkFlagOffset, if_pos (Nat.zero_le _), List.getD, List.getElem?_set_ne (by omega),
      List.getElem?_replicate, if_pos (by omega)]
    rfl
  have hpage := hstart.block_zero hs (by rw [List.length_replicate]; decide) (Nat.zero_le _)
    (by rw [List.length_replicate]; omega) hzero
  simp only [Watermeter.interrupted, run_cons, run_nil]
  rw [hblock.reboot_eq, startUp_sector hblock.boot hs hblock.item hblock.valid hblock.ota _ _ _ (by omega) (by omega)]
  exact hpage

/-- A power cycle with the pointer on page 15, a save of this much cold water, and another power cycle. -/
def lastRun (supply : Supply) (t₁ t₂ t₃ : Totals) : List (Supply × OtaEvent) :=
  [(supply, .reboot), (supply, .set t₁), (supply, .set t₂), (supply, .set t₃), (supply, .save), (supply, .reboot)]

/-- A record of this number and this much cold water, written over those bytes. -/
theorem ringLog_mixed (hcells : ∀ i, i < 28 → m (0x41100 + i) = mixing.getD i 0xFF#8) (hid : c.id = idConfig)
    (htop : c.top = 17#32) (hcold : c.counterColdWater = 59321#32) :
    ringLog (writeRecord .low 17 c m) .low 17 = some mixed := by
  have hpage : pageAddr .low 17 = 0x41100 := by decide
  rw [ringLog, hpage, writeRecord, openPage_inner (by decide), hpage]
  exact recordAt_eq_some.mpr ⟨readConfig_mixed hcells hid htop hcold, mixed_valid⟩

theorem ends_mixed (hbehind : m 0x41200 = 0xFF#8) (c : Config) :
    ¬ Continues Config.top mixed (ringLog (writeRecord .low 17 c m) .low (17 + 1)) := by
  have hpage : pageAddr .low 17 = 0x41100 := by decide
  have hnext : pageAddr .low 18 = 0x41200 := by decide
  refine ends_of_byte ?_ mixed
  rw [hnext, writeRecord_behind (by rw [hpage]; omega), openPage_inner (by decide), hbehind]
  decide

theorem RingWhole.mixes (h : RingWhole .low 15 c s) (htop : c.top = 15#32) (hmix : Mixable s.nvm.flash)
    (hs : Powered supply) (t₁ t₂ : Totals) {t₃ : Totals} (hcold : t₃.counterColdWater = 59321#32) :
    (run OtaDevice.step s (lastRun supply t₁ t₂ t₃)).ram.watermeterConfig.litersPerPulse = 0#8 := by
  obtain ⟨⟨r, hlog, hr, hring⟩, hcells, hbehind⟩ := hmix
  have hpage : pageAddr .low 17 = 0x41100 := by decide
  have hid : r.id = idConfig := (recordAt_eq_some.mp hlog).2.1
  -- The first start goes on from the record of page 16.
  have hchain : Chain Config.top (ringLog s.nvm.flash .low) 16 r := .next h.chain hlog (by rw [hr, htop]; rfl)
  have hend : ¬ Continues Config.top r (ringLog s.nvm.flash .low (16 + 1)) := by
    refine ends_of_byte ?_ r
    rw [hpage, hcells 0 (by omega)]
    decide
  have hinit := initConfig_found h.boot h.item hchain hend (by omega) Ram.zero
  obtain ⟨hheld, hram, hnvm⟩ := h.toRingHeld.step_reboot_at supply (by omega) hid hring hinit
  have hset := ((hheld.step_set supply t₁).step_set supply t₂).step_set supply t₃
  -- The save mixes the record with page 17.
  have hsave := hset.step_save hs
  have heq := hset.save_eq hs
  set s₂ := (((s.step (supply, .reboot)).step (supply, .set t₁)).step (supply, .set t₂)).step (supply, .set t₃) with hs₂
  have hconfig : s₂.ram.watermeterConfig =
      ({ r with flashAddrStart := .ofNat 32 (pageAddr .low 16) } : Config).setTotals t₃ := by
    rw [← hram]
    rfl
  have hflash₂ : s₂.nvm.flash = s.nvm.flash := congrArg Nvm.flash hnvm
  have hflash : (s₂.step (supply, .save)).nvm.flash = writeRecord .low 17 (nextConfig s₂.ram) s.nvm.flash := by
    rw [heq, ← hflash₂]
    rfl
  have hmixed : ringLog (s₂.step (supply, .save)).nvm.flash .low 17 = some mixed := by
    rw [hflash]
    refine ringLog_mixed hcells ?_ ?_ ?_
    · rw [nextConfig_id, hconfig]
      exact hid
    · rw [nextConfig_top, hconfig]
      show r.top + 1 = _
      rw [hr]
      rfl
    · have htotals := congrArg Totals.counterColdWater (nextConfig_totals s₂.ram)
      rw [hconfig] at htotals
      exact htotals.trans hcold
  -- The last start takes the mixture.
  have hchain₂ : Chain Config.top (ringLog (s₂.step (supply, .save)).nvm.flash .low) 17 mixed := by
    refine .next (hchain.congr fun i hi => ?_) hmixed (by rw [hr]; rfl)
    rw [hflash]
    exact ringLog_congr fun x hl hr => writeRecord_other (by omega) (fun _ => Or.inl (by omega)) hl hr
  have hend₂ : ¬ Continues Config.top mixed (ringLog (s₂.step (supply, .save)).nvm.flash .low (17 + 1)) := by
    rw [hflash]
    exact ends_mixed hbehind _
  have hinit₂ := initConfig_found hsave.boot hsave.item hchain₂ hend₂ (by omega) Ram.zero
  simp only [lastRun, run_cons, run_nil, ← hs₂]
  rw [(hsave.step_reboot_at supply (by omega) rfl rfl hinit₂).2.1]
  rfl

/-- A command that sets the step to 1. -/
def writeStep : AppEvent :=
  .zclWriteReqCmd watermeterEndpoint3 zclClusterSeMetering [⟨zclAttridCustomWaterStepPreset, zclDataTypeUint16, [1#8, 0#8]⟩]

/-- A command that presets the cold water to 59321 litres. -/
def writeCold : AppEvent :=
  .zclWriteReqCmd watermeterEndpoint3 zclClusterSeMetering
    [⟨zclAttridCustomColdWaterPreset, zclDataTypeUint32, [0xB9#8, 0xE7#8, 0x00#8, 0x00#8]⟩]

theorem App.writeStep_step (s : App) (supply : Supply) :
    (s.step (supply, writeStep)).ram.watermeterConfig.litersPerPulse = 1#8 ∧
      (s.step (supply, writeStep)).hotCounter = s.hotCounter ∧ (s.step (supply, writeStep)).coldCounter = s.coldCounter := by
  refine ⟨?_, rfl, rfl⟩
  show (roundedStep (u16 1#8 0#8)).setWidth 8 = _
  decide

theorem App.writeCold_cold {s : App} (h : s.ram.watermeterConfig.litersPerPulse = 1#8) (supply : Supply) :
    (s.step (supply, writeCold)).ram.watermeterConfig.counterColdWater = 59321#32 ∧
      (s.step (supply, writeCold)).hotCounter = s.hotCounter ∧ (s.step (supply, writeCold)).coldCounter = s.coldCounter := by
  refine ⟨?_, rfl, rfl⟩
  show checkCounterOverflow (roundedPreset s.ram.watermeterConfig.litersPerPulse (u32 0xB9#8 0xE7#8 0x00#8 0x00#8)) = _
  rw [h]
  decide

/-- The device wakes, is given a step and an amount of cold water, counts a pulse of hot water and is switched off and
on. -/
def appMixed (supply : Supply) : List (Supply × AppEvent) :=
  [(supply, .userAppInit wake), (supply, writeStep), (supply, writeCold), (supply, .countersHandler wake.pins),
    (supply, .userAppInit wake)]

theorem App.traces_mixed (s : App) (supply : Supply) :
    ∃ t₁ t₂ t₃, t₃.counterColdWater = 59321#32 ∧ s.traces (appMixed supply) = lastRun supply t₁ t₂ t₃ := by
  obtain ⟨hhot, hcold⟩ := s.wake_counters supply
  obtain ⟨hstep, hhot₁, hcold₁⟩ := (s.step (supply, .userAppInit wake)).writeStep_step supply
  obtain ⟨hwater, hhot₂, hcold₂⟩ := App.writeCold_cold hstep supply
  set s₃ := ((s.step (supply, .userAppInit wake)).step (supply, writeStep)).step (supply, writeCold) with hs₃
  have hpulse : s₃.Pulse wake.pins := App.wake_pulse (hhot₂.trans (hhot₁.trans hhot))
  have htaken : (s₃.meter.polled wake.pins).takeHot.takeCold.ram.watermeterConfig.counterColdWater = 59321#32 := by
    have hchannel := (taken_channel (s₃.meter.polled wake.pins) .cold).2.2
    have hnone : ((s₃.meter.polled wake.pins).counter .cold).counter = 0 := by
      rw [polled_counter]
      show (pollCounter true s₃.coldCounter).counter = 0
      rw [hcold₂, hcold₁, hcold]
      decide
    rw [if_neg (not_not.mpr hnone)] at hchannel
    exact hchannel.trans hwater
  rw [appMixed, App.traces, App.traces, App.traces, App.traces, ← hs₃, App.trace_pulse hpulse]
  exact ⟨_, _, _, htaken, rfl⟩

/-- The whole of it, from the first start on. -/
def mixedRun (supply : Supply) : List (Supply × AppEvent) :=
  appInterrupted supply ++ (pulseCycles supply 15 ++ (pulseCycle supply ++ (appResumed supply ++ (appUpdate supply ++
    (appRestart supply ++ (appUpdate supply ++ (pulseCycles supply 15 ++ appMixed supply)))))))

theorem pulseCycles_supply (supply : Supply) (n : Nat) : ∀ e ∈ pulseCycles supply n, e.1 = supply := by
  intro e he
  obtain ⟨cycle, hcycle, hmem⟩ := List.mem_flatten.mp he
  rw [(List.mem_replicate.mp hcycle).2] at hmem
  simp only [pulseCycle, List.mem_cons, List.not_mem_nil, or_false] at hmem
  rcases hmem with rfl | rfl <;> rfl

theorem mixedRun_supply (supply : Supply) : ∀ e ∈ mixedRun supply, e.1 = supply := by
  have hcycles := pulseCycles_supply supply 15
  simp only [mixedRun, List.forall_mem_append, appInterrupted, pulseCycle, appResumed, appUpdate, appRestart, appMixed,
    List.forall_mem_cons, List.not_mem_nil, false_imp_iff, implies_true, and_true, true_and]
  exact ⟨hcycles, hcycles⟩

section Segments

variable {s : App} (hs : Powered supply)
include hs

theorem App.interruptedRun (h : RingUse .low p c s.toOtaDevice) :
    (∃ c', c'.top = c.top ∧ RingWhole .low 0 c' (run App.step s (appInterrupted supply)).toOtaDevice) ∧
      (run App.step s (appInterrupted supply)).nvm.flash 0x41000 = 0#8 ∧
      Along App.step (App.Each ImageUnlike) s (appInterrupted supply) := by
  obtain ⟨hwhole, hclean⟩ := h.interrupted hs
  have hzero := h.interrupted_page hs
  rw [← traces_interrupted s, ← App.run_traces] at hwhole hzero
  exact ⟨hwhole, hzero, App.imageUnlike_of_clean hclean⟩

theorem App.resumedRun (h : RingWhole .low 16 c s.toOtaDevice) (htop : c.top = 16#32) :
    (∃ c', RingWhole .low 0 c' (run App.step s (appResumed supply)).toOtaDevice) ∧
      Mixable (run App.step s (appResumed supply)).nvm.flash ∧
      Along App.step (App.Each ImageUnlike) s (appResumed supply) := by
  obtain ⟨hwhole, hmix, hclean⟩ := h.mixable htop hs
  rw [← traces_resumed s, ← App.run_traces] at hwhole hmix
  exact ⟨hwhole, hmix, App.imageUnlike_of_clean hclean⟩

theorem App.updateRun (h : RingUse b p c s.toOtaDevice) :
    (∃ c', c'.top = s.ram.watermeterConfig.top ∧
      RingWhole b.other 0 c' (run App.step s (appUpdate supply)).toOtaDevice) ∧
      SameSector s.nvm.flash (run App.step s (appUpdate supply)).nvm.flash ∧
      Along App.step (App.Each ImageUnlike) s (appUpdate supply) := by
  obtain ⟨hwhole, hsame, hclean⟩ := h.smallUpdate hs
  rw [← traces_update s, ← App.run_traces] at hwhole hsame
  exact ⟨hwhole, hsame, App.imageUnlike_of_clean hclean⟩

theorem App.restartRun (h : RingUse .high p c s.toOtaDevice) :
    RingWhole .high 0 (firstRecord .high) (run App.step s (appRestart supply)).toOtaDevice ∧
      SameSector s.nvm.flash (run App.step s (appRestart supply)).nvm.flash ∧
      Along App.step (App.Each ImageUnlike) s (appRestart supply) := by
  obtain ⟨hwhole, hsame⟩ := h.erased_reboot hs
  rw [← traces_restart s, ← App.run_traces] at hwhole hsame
  exact ⟨hwhole, hsame, App.imageUnlike_of_ne nofun, App.imageUnlike_of_ne nofun, trivial⟩

theorem App.lastRun_step (h : RingWhole .low 15 c s.toOtaDevice) (htop : c.top = 15#32) (hmix : Mixable s.nvm.flash) :
    (run App.step s (appMixed supply)).ram.watermeterConfig.litersPerPulse = 0#8 := by
  obtain ⟨t₁, t₂, t₃, hcold, htraces⟩ := s.traces_mixed supply
  have hlast := h.mixes htop hmix hs t₁ t₂ hcold
  rw [← htraces, ← App.run_traces] at hlast
  exact hlast

end Segments

theorem App.mixedRun_step {s : App} (h : RingWhole .low 0 c s.toOtaDevice) (htop : c.top = 0#32) (hs : Powered supply) :
    (run App.step s (mixedRun supply)).ram.watermeterConfig.litersPerPulse = 0#8 ∧
      Along App.step (App.Each ImageUnlike) s (mixedRun supply) := by
  -- The download, and the ring up to page 16.
  obtain ⟨⟨c₁, htop₁, h₁⟩, hzero, hunlike₁⟩ := App.interruptedRun hs h.toRingUse
  set s₁ := run App.step s (appInterrupted supply) with hs₁
  obtain ⟨c₂, htop₂, h₂, hsame₂, hunlike₂⟩ := App.pulseCycles_whole h₁ hs (show 15 < 16 by omega)
  set s₂ := run App.step s₁ (pulseCycles supply 15) with hs₂
  have hstop : ¬ Continues Config.top c₂ (ringLog s₂.nvm.flash .low (15 + 1)) := by
    have hpage : pageAddr .low 16 = 0x41000 := by decide
    refine ends_of_byte ?_ c₂
    rw [hpage, hsame₂ _ (by omega) (by omega), hzero]
    decide
  obtain ⟨c₃, htop₃, h₃, -⟩ := App.pulseCycle_whole h₂ hstop (by omega) hs
  set s₃ := run App.step s₂ (pulseCycle supply) with hs₃
  -- The rest of the image, over to the other bank, and back.
  obtain ⟨⟨c₄, h₄⟩, hmix₄, hunlike₄⟩ := App.resumedRun hs h₃ (by rw [htop₃, htop₂, htop₁, htop]; rfl)
  set s₄ := run App.step s₃ (appResumed supply) with hs₄
  obtain ⟨⟨c₅, -, h₅⟩, hsame₅, hunlike₅⟩ := App.updateRun hs h₄.toRingUse
  set s₅ := run App.step s₄ (appUpdate supply) with hs₅
  obtain ⟨h₆, hsame₆, hunlike₆⟩ := App.restartRun (s := s₅) hs h₅.toRingUse
  set s₆ := run App.step s₅ (appRestart supply) with hs₆
  obtain ⟨⟨c₇, htop₇, h₇⟩, hsame₇, hunlike₇⟩ := App.updateRun hs h₆.toRingUse
  set s₇ := run App.step s₆ (appUpdate supply) with hs₇
  -- The ring up to page 15 again, with the record of page 16 ahead.
  obtain ⟨c₈, htop₈, h₈, hsame₈, hunlike₈⟩ := App.pulseCycles_whole (s := s₇) h₇ hs (show 15 < 16 by omega)
  set s₈ := run App.step s₇ (pulseCycles supply 15) with hs₈
  have hmix₈ := (((hmix₄.same hsame₅).same hsame₆).same hsame₇).same hsame₈
  have hlast := App.lastRun_step hs h₈ (by rw [htop₈, htop₇, ← h₆.number]; rfl) hmix₈
  simp only [mixedRun, run_append, along_append, ← hs₁, ← hs₂, ← hs₃, ← hs₄, ← hs₅, ← hs₆, ← hs₇, ← hs₈]
  refine ⟨hlast, hunlike₁, hunlike₂, App.imageUnlike_pulseCycle _ _, hunlike₄, hunlike₅, hunlike₆, hunlike₇, hunlike₈, ?_⟩
  exact ⟨App.imageUnlike_of_ne (by simp), App.imageUnlike_of_ne (by simp [writeStep]),
    App.imageUnlike_of_ne (by simp [writeCold]), App.imageUnlike_of_ne (by simp), App.imageUnlike_of_ne (by simp), trivial⟩

/-- With firmware and images that never look like a record, and a good supply throughout, a start may still load a step
of zero. -/
theorem mixed_step_not_in_range : ¬ ∀ (b : Bank) (s : App), NeverStarted b s.toOtaDevice →
    (∀ q, q < 832 → ringLog s.nvm.flash b.other q = none) →
    ∀ (supply : Supply) (up : PowerUp) (events : List (Supply × AppEvent)), Powered supply → (∀ e ∈ events, Powered e.1) →
      Along App.step (App.Each ImageUnlike) (s.step (supply, .userAppInit up)) events →
      Along App.step App.StepInRange s ((supply, .userAppInit up) :: events) := by
  intro h
  have hs : Powered fun _ => 3000 := powered_const (by decide)
  have hpowered : ∀ e ∈ mixedRun fun _ => 3000, Powered e.1 := by
    intro e he
    rw [mixedRun_supply _ e he]
    exact hs
  have hfirst : NeverStarted .low emptyApp.toOtaDevice := neverStarted_empty
  have hfirmware : ∀ q, q < 832 → ringLog emptyApp.nvm.flash Bank.low.other q = none := firmware_blank
  have hwhole : RingWhole .low 0 (firstRecord .low) (emptyApp.step (fun _ => 3000, .userAppInit wake)).toOtaDevice :=
    (firstStart hs wake).1
  obtain ⟨hzero, hunlike⟩ := App.mixedRun_step hwhole rfl hs
  have hall := h .low emptyApp hfirst hfirmware (fun _ => 3000) wake _ hs hpowered hunlike
  have hstep : ∀ (s : App) (e : Supply × AppEvent), s.ram.watermeterConfig.Usable → s.StepInRange e →
      (s.step e).ram.watermeterConfig.Usable := fun _ _ _ he => he.1.1
  exact usable_ne_zero (Along.invariant hstep hall.1.1.1 hall.2) hzero

end Watermeter
