import Watermeter.StoreScan

/-! The store with its RAM, over the calls of the application: the states in which the ring is in use,
those in which an update is running, and what each call makes of them. -/

namespace Watermeter

open NorFlash RingLog

structure Device where
  ram : Ram
  nvm : Nvm

namespace Device

def writeConfig (supply : Supply) (d : Device) : Device :=
  ⟨(Watermeter.writeConfig d.ram).1, performAll supply d.nvm (Watermeter.writeConfig d.ram).2⟩

def initConfig (supply : Supply) (d : Device) : Device :=
  ⟨(Watermeter.initConfig d.nvm d.ram).1, performAll supply d.nvm (Watermeter.initConfig d.nvm d.ram).2⟩

/-- `clear_user_data` and `init_default_config`. -/
def reinit (supply : Supply) (d : Device) : Device :=
  ⟨(reinitConfig d.ram).1, performAll supply d.nvm (reinitConfig d.ram).2⟩

/-- A power cycle: the variables start from zero again. -/
def reboot (supply : Supply) (d : Device) : Device := initConfig supply ⟨Ram.zero, d.nvm⟩

def setTotals (d : Device) (t : Totals) : Device :=
  { d with ram := { d.ram with watermeterConfig := d.ram.watermeterConfig.setTotals t } }

/-- New totals, saved. -/
def update (supply : Supply) (d : Device) (t : Totals) : Device := (d.setTotals t).writeConfig supply

end Device

variable {b : Bank} {p q : Nat} {m : Mem} {c : Config} {r : Ram} {v : Nvm} {d : Device} {supply : Supply}

/-! ### The start-up flag -/

/-- The record overlays the flag with the low byte of its own address, which is zero in the first page. -/
theorem toBytes_addr (c : Config) : c.toBytes.getD 9 0xFF#8 = c.flashAddrStart.extractLsb' 0 8 := rfl

theorem writeRecord_byte (hc : c.flashAddrStart = .ofNat 32 (pageAddr b 0)) :
    writeRecord b 0 c m (b.userStart + 9) = 0#8 := by
  have hzero : (BitVec.ofNat 32 b.userStart).extractLsb' 0 8 = 0#8 := by cases b <;> rfl
  rw [writeRecord, ← pageAddr_zero, program_inside (by rw [Config.length_toBytes]; decide), toBytes_addr, hc,
    pageAddr_zero, hzero, BitVec.and_zero]

theorem writeRecord_flag (hc : c.flashAddrStart = .ofNat 32 (pageAddr b 0)) :
    read32 (writeRecord b 0 c m) (b.userStart + 8) ≠ tlStartUpFlagWhole := by
  intro hflag
  have hbyte := (read32_flag hflag).2.1
  rw [Nat.add_assoc, writeRecord_byte hc] at hbyte
  exact absurd hbyte (by decide)

theorem mcuBootAddrGet_outside {m' : Mem} (h : mcuBootAddrGet m = b.base)
    (hout : ∀ x, x < b.userStart ∨ b.userEnd ≤ x → m' x = m x)
    (hflag : read32 m' (b.userStart + 8) = read32 m (b.userStart + 8) ∨
      read32 m' (b.userStart + 8) ≠ tlStartUpFlagWhole) : mcuBootAddrGet m' = b.base := by
  refine mcuBootAddrGet_keep h (fun x hl hr => hout x ?_) hflag
  have hbank := b.userStart_cases
  unfold Bank.userEnd userDataSize
  omega

/-- Writing a record leaves the boot bank as it is. -/
theorem mcuBootAddrGet_writeRecord (h : mcuBootAddrGet m = b.base) (hq : q < 832)
    (hc : c.flashAddrStart = .ofNat 32 (pageAddr b q)) :
    mcuBootAddrGet (writeRecord b q c m) = b.base := by
  refine mcuBootAddrGet_outside h (fun x hx => writeRecord_outside hq hx) ?_
  rcases Nat.eq_zero_or_pos q with rfl | hpos
  · exact Or.inr (writeRecord_flag hc)
  · refine Or.inl (read32_congr fun x _ hr => writeRecord_before ?_)
    unfold pageAddr flashPageSize
    omega

theorem read32_erased {a : Nat} (h : Erased m a 4) : read32 m a ≠ tlStartUpFlagWhole := by
  intro hflag
  have hbyte := (read32_flag hflag).1
  rw [h a (Nat.le_refl _) (by omega)] at hbyte
  exact absurd hbyte (by decide)

theorem mcuBootAddrGet_clearRegion (h : mcuBootAddrGet m = b.base) :
    mcuBootAddrGet (clearRegion b m) = b.base := by
  refine mcuBootAddrGet_outside h (fun x hx => clearRegion_outside hx) (Or.inr (read32_erased ?_))
  exact (erased_erase m b.userStart userDataSize).mono (by omega) (by unfold userDataSize; omega)

/-! ### The ring in use -/

/-- The device boots from `b`, keeps its records in the ring and has its pointer on page `p`. -/
structure RingMode (b : Bank) (p : Nat) (d : Device) : Prop extends Placed b p d.ram where
  boot : mcuBootAddrGet d.nvm.flash = b.base
  written : d.ram.defaultConfig = false
  ident : d.ram.watermeterConfig.id = idConfig
  mode : d.ram.watermeterConfig.newOta = 0
  item : RingItem d.nvm

/-- The records of the ring lead to page `p`, which holds the record `c` of the number in RAM. -/
structure Stored (b : Bank) (p : Nat) (c : Config) (d : Device) : Prop where
  chain : Chain Config.top (ringLog d.nvm.flash b) p c
  number : c.top = d.ram.watermeterConfig.top
  ring : c.newOta = 0

theorem RingMode.nextConfig_addr (h : RingMode b p d) :
    (nextConfig d.ram).flashAddrStart = .ofNat 32 (pageAddr b (succSlot 832 p)) := h.nextFlashAddr

/-- What a save makes of the device. -/
theorem RingMode.writeConfig_eq (h : RingMode b p d) (hs : Powered supply) :
    d.writeConfig supply = ⟨{ d.ram with watermeterConfig := nextConfig d.ram },
      { d.nvm with flash := writeRecord b (succSlot 832 p) (nextConfig d.ram) d.nvm.flash }⟩ := by
  rw [Device.writeConfig, performAll_eq_applyAll hs, writeConfig_ring h.toPlaced h.written h.mode, applyAll_pageOps]

theorem RingMode.save (h : RingMode b p d) (hs : Powered supply) :
    RingMode b (succSlot 832 p) (d.writeConfig supply) := by
  rw [h.writeConfig_eq hs]
  exact
    { start := h.start
      stop := h.stop
      page := succSlot_lt h.page
      pointer := h.nextConfig_addr
      boot := mcuBootAddrGet_writeRecord h.boot (succSlot_lt h.page) h.nextConfig_addr
      written := h.written
      ident := h.ident
      mode := h.mode
      item := h.item }

/-- The page a save turns to has room for the record. -/
def Room (b : Bank) (p : Nat) (d : Device) : Prop :=
  Fits (openPage b (succSlot 832 p) d.nvm.flash) (pageAddr b (succSlot 832 p)) (nextConfig d.ram).toBytes

theorem RingMode.put (h : RingMode b p d) (hs : Powered supply) (hroom : Room b p d) :
    Put 832 16 (ringLog d.nvm.flash b) (ringLog (d.writeConfig supply).nvm.flash b) (succSlot 832 p)
      (nextConfig d.ram) := by
  rw [h.writeConfig_eq hs]
  exact put_writeRecord hroom (nextConfig_valid h.ident)

theorem Stored.save (hst : Stored b p c d) (h : RingMode b p d) (hs : Powered supply)
    (hroom : Room b p d) : Stored b (succSlot 832 p) (nextConfig d.ram) (d.writeConfig supply) where
  chain := by
    apply (h.put hs hroom).chain h.page hst.chain
    rw [nextConfig_top, hst.number]
  number := by rw [h.writeConfig_eq hs]
  ring := h.mode

/-- The pages of the pointer's sector that have not been turned to are erased. -/
def TailErased (b : Bank) (p : Nat) (m : Mem) : Prop :=
  ∀ j, p < j → j / 16 = p / 16 → Erased m (pageAddr b j) 256

theorem TailErased.next (h : TailErased b p m) (hq : succSlot 832 p % 16 ≠ 0) :
    Erased m (pageAddr b (succSlot 832 p)) 256 := by
  unfold succSlot at hq ⊢
  split at hq
  · exact absurd rfl hq
  · next hlast =>
    rw [if_neg hlast]
    exact h (p + 1) (by omega) (by omega)

theorem TailErased.fits (h : TailErased b p m) (c : Config) :
    Fits (openPage b (succSlot 832 p) m) (pageAddr b (succSlot 832 p)) c.toBytes := by
  by_cases hopen : succSlot 832 p % 16 = 0
  · exact fits_openPage hopen
  · rw [openPage_inner hopen]
    exact ((h.next hopen).mono (Nat.le_refl _) (by rw [writeRecord_page]; omega)).fits

theorem tailErased_opened (hq : q % 16 = 0) (c : Config) (m : Mem) : TailErased b q (writeRecord b q c m) :=
  fun _ hj hsec => writeRecord_erased hq hj (by omega)

theorem TailErased.writeRecord (h : TailErased b p m) (c : Config) :
    TailErased b (succSlot 832 p) (writeRecord b (succSlot 832 p) c m) := by
  by_cases hopen : succSlot 832 p % 16 = 0
  · exact tailErased_opened hopen c m
  · intro j hj hsec
    have hlast : succSlot 832 p = p + 1 := by
      unfold succSlot at hopen ⊢
      split at hopen
      · exact absurd rfl hopen
      · next hlast => exact if_neg hlast
    rw [hlast] at hj hsec hopen ⊢
    apply (h j (by omega) (by omega)).congr
    intro x hl hr
    exact writeRecord_other (by omega) (fun h => absurd h hopen) hl hr

theorem RingMode.setTotals (h : RingMode b p d) (t : Totals) : RingMode b p (d.setTotals t) :=
  { h with }

theorem Stored.setTotals (h : Stored b p c d) (t : Totals) : Stored b p c (d.setTotals t) :=
  { h with }

/-! ### Starting up -/

theorem reboot_found (supply : Supply) (hboot : mcuBootAddrGet v.flash = b.base) (hitem : RingItem v)
    (hchain : Chain Config.top (ringLog v.flash b) p c)
    (hstop : ¬ Continues Config.top c (ringLog v.flash b (p + 1))) (hp : p < 831) (r : Ram) :
    Device.initConfig supply ⟨r, v⟩ = ⟨{ getUserDataAddr v.flash r with
      watermeterConfig := { c with flashAddrStart := .ofNat 32 (pageAddr b p) } }, v⟩ := by
  have hinit := initConfig_found hboot hitem hchain hstop hp r
  simp only [Device.initConfig, hinit]
  rfl

/-- A device that finds its newest record goes on from there. -/
theorem Stored.reboot (supply : Supply) (hboot : mcuBootAddrGet v.flash = b.base) (hitem : RingItem v)
    (hchain : Chain Config.top (ringLog v.flash b) p c) (hring : c.newOta = 0)
    (hstop : ¬ Continues Config.top c (ringLog v.flash b (p + 1))) (hp : p < 831) (hr : r.defaultConfig = false) :
    RingMode b p (Device.initConfig supply ⟨r, v⟩) ∧ Stored b p c (Device.initConfig supply ⟨r, v⟩) ∧
      (Device.initConfig supply ⟨r, v⟩).nvm = v ∧
      (Device.initConfig supply ⟨r, v⟩).ram.watermeterConfig.totals = c.totals := by
  have hbounds := getUserDataAddr_bounds hboot r
  have hvalid := (recordAt_eq_some.mp hchain.last).2
  rw [reboot_found supply hboot hitem hchain hstop hp r]
  refine ⟨?_, ⟨hchain, rfl, hring⟩, rfl, rfl⟩
  exact
    { start := hbounds.start
      stop := hbounds.stop
      page := by omega
      pointer := rfl
      boot := hboot
      written := (getUserDataAddr_default _ _).trans hr
      ident := hvalid.1
      mode := hring
      item := hitem }

/-- The state in which a record has just been written into the first page, with the NV item. -/
theorem firstPage (hboot : mcuBootAddrGet m = b.base) (hbounds : Bounds b r) (hc : c.Valid)
    (haddr : c.flashAddrStart = .ofNat 32 b.userStart) (hring : c.newOta = 0) :
    RingMode b 0 ⟨{ r with watermeterConfig := c, defaultConfig := false }, ⟨writeRecord b 0 c m, some c⟩⟩ ∧
      Stored b 0 c ⟨{ r with watermeterConfig := c, defaultConfig := false }, ⟨writeRecord b 0 c m, some c⟩⟩ := by
  have hpage : c.flashAddrStart = .ofNat 32 (pageAddr b 0) := by rw [haddr, pageAddr_zero]
  refine ⟨?_, ⟨.first ?_, rfl, hring⟩⟩
  · exact
      { start := hbounds.start
        stop := hbounds.stop
        page := by omega
        pointer := hpage
        boot := mcuBootAddrGet_writeRecord hboot (by omega) hpage
        written := rfl
        ident := hc.1
        mode := hring
        item := ⟨c, rfl, hc, hring⟩ }
  · exact (put_writeRecord (fits_openPage (Nat.zero_mod 16)) hc).here

/-- The record of a device that starts anew. -/
def firstRecord (b : Bank) : Config :=
  (defaultRecord { Ram.zero with configAddrStart := .ofNat 32 b.userStart, configAddrEnd := .ofNat 32 b.userEnd }).sealed

def defaultTotals : Totals := ⟨0, 0, litersPerPulseDefault⟩

theorem firstRecord_valid (b : Bank) : (firstRecord b).Valid := Config.sealed_valid rfl

theorem sealed_defaultRecord (h : Bounds b r) : (defaultRecord r).sealed = firstRecord b := by
  unfold firstRecord defaultRecord
  rw [h.start, h.stop]

theorem reinit_eq (hbounds : Bounds b r) (hs : Powered supply) (v : Nvm) :
    Device.reinit supply ⟨r, v⟩ = ⟨{ r with watermeterConfig := firstRecord b, defaultConfig := false },
      ⟨writeRecord b 0 (firstRecord b) (clearRegion b v.flash), some (firstRecord b)⟩⟩ := by
  rw [Device.reinit, performAll_eq_applyAll hs, reinitConfig_eq hbounds, sealed_defaultRecord hbounds,
    applyAll_append, applyAll_clearUserData, applyAll_nvThen]

/-- Starting anew leaves the default record, alone in the region. -/
theorem reinit_device (hboot : mcuBootAddrGet v.flash = b.base) (hbounds : Bounds b r) (hs : Powered supply) :
    RingMode b 0 (Device.reinit supply ⟨r, v⟩) ∧ Stored b 0 (firstRecord b) (Device.reinit supply ⟨r, v⟩) := by
  rw [reinit_eq hbounds hs]
  exact firstPage (mcuBootAddrGet_clearRegion hboot) hbounds (firstRecord_valid b) rfl rfl

theorem initConfig_eq_reinit (hinit : initConfig v r = reinitConfig (getUserDataAddr v.flash r)) :
    Device.initConfig supply ⟨r, v⟩ = Device.reinit supply ⟨getUserDataAddr v.flash r, v⟩ := by
  rw [Device.initConfig, hinit, Device.reinit]

theorem initConfig_restored (hboot : mcuBootAddrGet v.flash = b.base) (hs : Powered supply)
    (hcfg : v.userCfg = some c) (hc : c.Valid) (ho : c.newOta ≠ 0) :
    Device.initConfig supply ⟨r, v⟩ =
      ⟨{ getUserDataAddr v.flash r with
          watermeterConfig := (restoredRecord c (getUserDataAddr v.flash r)).sealed, defaultConfig := false },
        ⟨writeRecord b 0 (restoredRecord c (getUserDataAddr v.flash r)).sealed v.flash,
          some (restoredRecord c (getUserDataAddr v.flash r)).sealed⟩⟩ := by
  rw [Device.initConfig, initConfig_restore_eq hboot hcfg hc ho, performAll_eq_applyAll hs, applyAll_nvThen]

end Watermeter
