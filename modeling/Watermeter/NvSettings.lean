import Watermeter.NvReset
import Watermeter.StoreConfine

/-! The settings on the flash alone. The store of `app_dev_config.c` takes its item of the NV for a value that a write
replaces in one step. Here the item is written and read by the driver, and power may fail at any of its commands. -/

namespace Watermeter

open NorFlash CrashLogic Transition Nv

/-! ### The store on the drivers -/

/-- `NV_ITEM_APP_USER_CFG`. -/
def nvItemAppUserCfg : Byte := 0x2D#8

/-- The calls of the store, made to the drivers. -/
def Op.real (bufFree : Bool) : Op → Driver Unit
  | .nvFlashWriteNew c => do
      let _ ← Nv.nvFlashWriteNew bufFree true .app nvItemAppUserCfg c.toBytes
      return ()
  | .flashEraseSector addr => Nv.flashErase addr
  | .flashErase addr => Nv.flashErase addr
  | .flashWrite addr buf => Nv.flashWrite addr buf

def realOps (bufFree : Bool) : List Op → Driver Unit
  | [] => return ()
  | op :: ops => do
      op.real bufFree
      realOps bufFree ops

/-- `write_config`. -/
def realWriteConfig (bufFree : Bool) (r : Ram) : Driver Ram := do
  realOps bufFree (writeConfig r).2
  return (writeConfig r).1

/-- What `init_config` has of the item. -/
def restored : Except NvSts (List Byte) → Option Config
  | .ok buf => some (.ofBytes buf)
  | .error _ => none

/-- `init_config`. -/
def realInitConfig (tbl : LenCheckTbl) (bufFree : Bool) (r : Ram) : Driver Ram := do
  let st ← nvFlashReadNew tbl .app nvItemAppUserCfg sizeofConfig
  let m ← Program.get
  let (r, ops) := initConfig ⟨m, restored st⟩ r
  realOps bufFree ops
  return r

inductive SettingsCall
  /-- The power comes up, and with it the program. -/
  | powerUp
  /-- Totals and mode are set and saved. -/
  | save (t : Totals) (newOta : BitVec 8)

/-- A call, with a buffer to be had for the handler of duplicates or not, and the number of commands after which the
power fails, if it does. -/
structure SettingsEvent where
  call : SettingsCall
  bufFree : Bool
  cut : Option Nat

/-- The variables before the call is made; there are none while the power is off. -/
def SettingsCall.enter : SettingsCall → Option Ram → Option Ram
  | .powerUp, _ => some Ram.zero
  | .save t newOta, r => r.map fun r =>
      { r with watermeterConfig := { r.watermeterConfig.setTotals t with newOta := newOta } }

def SettingsCall.real (tbl : LenCheckTbl) (bufFree : Bool) : SettingsCall → Ram → Driver Ram
  | .powerUp => realInitConfig tbl bufFree
  | .save .. => realWriteConfig bufFree

/-- The device as it is: its variables and the flash. -/
def realStep (tbl : LenCheckTbl) (s : Option Ram × Mem) (e : SettingsEvent) : Option Ram × Mem :=
  match e.call.enter s.1 with
  | none => s
  | some r => (e.call.real tbl e.bufFree r).use e.cut s.2

/-! ### The store as it is modelled -/

def SettingsCall.ops (v : Nvm) : SettingsCall → Ram → Ram × List Op
  | .powerUp => initConfig v
  | .save .. => writeConfig

/-- Power fails between two calls of the store, never within the one that writes the item. -/
def storeStep (s : Option Ram × Nvm) (e : SettingsEvent) : Option Ram × Nvm :=
  match e.call.enter s.1 with
  | none => s
  | some r =>
    let (r, ops) := e.call.ops s.2 r
    match e.cut with
    | none => (some r, applyAll s.2 ops)
    | some k => (none, applyAll s.2 (ops.take k))

/-! ### The flash stands for the store -/

variable {b : Bank} {m m' : Mem} {v : Nvm} {r : Ram} {op : Op} {ops : List Op} {tbl : LenCheckTbl} {bufFree : Bool}

/-- The items of the application: its settings, once they have been written. -/
def appItems (cfg : Option Config) : Byte → Option (List Byte) :=
  Function.update (fun _ => none) nvItemAppUserCfg (cfg.map Config.toBytes)

/-- The flash and, in it, the item. -/
structure Stands (v : Nvm) (m : Mem) : Prop where
  flash : Outside .app v.flash m
  item : Repr (fun _ => sizeofConfig) .app m (appItems v.userCfg)

theorem appItems_put (cfg : Option Config) (c : Config) :
    Function.update (appItems cfg) nvItemAppUserCfg (some c.toBytes) = appItems (some c) := by
  rw [appItems, Function.update_idem]
  rfl

theorem bank_below_app (b : Bank) : b.userEnd ≤ moduleSectStart .app 0 := by
  cases b <;> decide

/-- There is always room for the only item. -/
theorem settings_not_refused (cfg : Option Config) :
    ¬ Refused (fun _ => sizeofConfig) .app bufFree nvItemAppUserCfg (appItems cfg) := by
  rintro (hlong | ⟨n, log, hn, hσ, -, -, hfull⟩)
  · exact absurd hlong (by decide)
  have hnone : SlotLog.survivors nvItemAppUserCfg log = [] := by
    apply List.filter_eq_nil_iff.mpr
    intro s hs hkept
    obtain ⟨hlive, hne⟩ := of_decide_eq_true hkept
    have hlookup : SlotLog.lookup log s.key = none := by
      rw [hσ, appItems, Function.update_of_ne hne]
    exact SlotLog.lookup_eq_none_iff.mp hlookup s hs ⟨hlive, rfl⟩
  rw [hnone] at hfull
  have hcases : n = 0 ∨ n = 1 := by omega
  rcases hcases with rfl | rfl <;> exact absurd hfull (by decide)

/-! ### One call -/

/-- Bytes outside of the module change, each by itself. -/
theorem Stands.pointwise (h : Stands v m) (f : Nat → Byte → Byte)
    (hout : ∀ x, moduleSectStart .app 0 ≤ x → x < moduleSectEnd .app 1 → ∀ byte, f x byte = byte) :
    Stands { v with flash := fun x => f x (v.flash x) } fun x => f x (m x) where
  flash x hx := congrArg (f x) (h.flash x hx)
  item := h.item.congr fun x hl hr => hout x hl hr (m x)

theorem Stands.erase (h : Stands v m) {addr : Nat} (haligned : addr % flashSectorSize = 0)
    (hr : addr + flashSectorSize ≤ b.userEnd) :
    Stands { v with flash := flashEraseSector v.flash addr } (flashEraseSector m addr) := by
  have happ := bank_below_app b
  rw [flashEraseSector_aligned haligned, flashEraseSector_aligned haligned]
  exact h.pointwise (fun x byte => if addr ≤ x ∧ x < addr + flashSectorSize then 0xFF#8 else byte)
    fun x hl _ byte => if_neg (by omega)

theorem Stands.program (h : Stands v m) {addr : Nat} {buf : List Byte} (hr : addr + buf.length ≤ b.userEnd) :
    Stands { v with flash := NorFlash.program v.flash addr buf } (NorFlash.program m addr buf) := by
  have happ := bank_below_app b
  exact h.pointwise (fun x byte => if addr ≤ x ∧ x < addr + buf.length then byte &&& buf.getD (x - addr) 0xFF#8 else byte)
    fun x hl _ byte => if_neg (by omega)

theorem Stands.put (h : Stands v m) (hout : Outside .app m m') {c : Config}
    (hr : Repr (fun _ => sizeofConfig) .app m' (Function.update (appItems v.userCfg) nvItemAppUserCfg (some c.toBytes))) :
    Stands { v with userCfg := some c } m' where
  flash := h.flash.trans hout
  item := appItems_put v.userCfg c ▸ hr

theorem Stands.same (h : Stands v m) (hout : Outside .app m m')
    (hr : Repr (fun _ => sizeofConfig) .app m' (appItems v.userCfg)) : Stands v m' := ⟨h.flash.trans hout, hr⟩

/-- A call to the drivers is the call of the model, done or not when it is cut short. -/
theorem wp_real (h : Stands v m) (hop : op.Confined b) :
    wp (fun m' => Stands v m' ∨ Stands (op.apply v) m') (op.real bufFree) (fun _ m' => Stands (op.apply v) m') m := by
  cases op with
  | nvFlashWriteNew c =>
      refine wp_bind.mpr (wp_nvFlashWriteNew bufFree (Config.length_toBytes c) (by decide) ?_ ?_ ?_ h.item (by decide))
      · rintro m' hout (hr | hr)
        · exact Or.inl (h.same hout hr)
        · exact Or.inr (h.put hout hr)
      · exact fun m' hout hr => wp_pure.mpr ⟨Or.inr (h.put hout hr), h.put hout hr⟩
      · exact fun m' _ _ hno => absurd hno (settings_not_refused v.userCfg)
  | flashEraseSector addr => exact wp_perform.mpr ⟨Or.inl h, Or.inr (h.erase hop.1 hop.2.2), h.erase hop.1 hop.2.2⟩
  | flashErase addr => exact wp_perform.mpr ⟨Or.inl h, Or.inr (h.erase hop.1 hop.2.2), h.erase hop.1 hop.2.2⟩
  | flashWrite addr buf =>
      obtain ⟨hpage, -, hr, hlen, -⟩ := hop
      have hdone : Stands (Op.apply v (.flashWrite addr buf)) (NorFlash.program m addr buf) :=
        h.program (b := b) (by omega)
      have hwhole : addr % flashPageSize + buf.length ≤ flashPageSize := by omega
      exact wp_flashWrite (PageCut.whole (C := fun m' => Stands v m' ∨ Stands _ m') hwhole (Or.inl h) (Or.inr hdone)) hdone

/-- Cut short, the calls have been made up to one of them. -/
def Reached (v : Nvm) (ops : List Op) (m : Mem) : Prop := ∃ k, Stands (applyAll v (ops.take k)) m

theorem wp_realOps (h : Stands v m) (hops : ∀ op ∈ ops, op.Confined b) :
    wp (Reached v ops) (realOps bufFree ops) (fun _ m' => Stands (applyAll v ops) m') m := by
  induction ops generalizing v m with
  | nil => exact wp_pure.mpr ⟨⟨0, h⟩, h⟩
  | cons op ops ih =>
      have hnone : ∀ m', Stands v m' → Reached v (op :: ops) m' := fun m' h' => ⟨0, h'⟩
      have hmore : ∀ m', Reached (op.apply v) ops m' → Reached v (op :: ops) m' := fun m' ⟨k, hk⟩ => ⟨k + 1, hk⟩
      refine wp_bind.mpr ((wp_real h (hops op List.mem_cons_self)).weaken ?_ fun _ m₁ _ h₁ => ?_)
      · rintro m' (h' | h')
        · exact hnone m' h'
        · exact hmore m' ⟨0, h'⟩
      · exact (ih h₁ fun op' hop' => hops op' (List.mem_cons_of_mem _ hop')).weaken hmore fun _ _ _ hdone => hdone

/-! ### A power-up and a save -/

/-- The scan only looks at the region. -/
theorem scanConfig_congr {addrEnd : Nat} (hend : addrEnd % flashPageSize = 0) (hsame : ∀ x < addrEnd, m' x = m x)
    (curr : Config) {addr : Nat} (hpage : addr % flashPageSize = 0) :
    scanConfig m' addrEnd curr addr = scanConfig m addrEnd curr addr := by
  have hread : ∀ a, a % flashPageSize = 0 → a < addrEnd → readConfig m' a = readConfig m a := by
    intro a ha hlt
    unfold flashPageSize at hend ha
    exact readConfig_congr fun x _ hx => hsame x (by unfold sizeofConfig at hx; omega)
  have hnext : (addr + flashPageSize) % flashPageSize = 0 := by
    rw [Nat.add_mod_right, hpage]
  induction curr, addr using scanConfig.induct m addrEnd with
  | case1 curr addr hlt next hvalid htop ih =>
      rw [scanConfig, scanConfig, if_pos hlt, if_pos hlt, hread addr hpage hlt, if_pos hvalid, if_pos hvalid,
        if_pos htop, if_pos htop]
      exact ih hnext (by rw [Nat.add_mod_right, hnext])
  | case2 curr addr hlt next hvalid htop =>
      rw [scanConfig, scanConfig, if_pos hlt, if_pos hlt, hread addr hpage hlt, if_pos hvalid, if_pos hvalid,
        if_neg htop, if_neg htop]
  | case3 curr addr hlt next hinvalid =>
      rw [scanConfig, scanConfig, if_pos hlt, if_pos hlt, hread addr hpage hlt, if_neg hinvalid, if_neg hinvalid]
  | case4 curr addr hge => rw [scanConfig, scanConfig, if_neg hge, if_neg hge]

/-- Below the area of the application the flash is the same. -/
def SameBelow (m m' : Mem) : Prop := ∀ x < moduleSectStart .app 0, m' x = m x

theorem SameBelow.boot (h : SameBelow m m') : mcuBootAddrGet m' = mcuBootAddrGet m := by
  have hword : ∀ a < 0x40010, read32 m' a = read32 m a := by
    intro a ha
    have happ := bank_below_app .low
    exact read32_congr fun x _ hx => h x (lt_of_lt_of_le (by omega : x < 0x40020) (by decide))
  rw [mcuBootAddrGet_eq, mcuBootAddrGet_eq, hword 8 (by decide), hword 0x40008 (by decide)]

/-- `init_config` looks at nothing else. -/
theorem initConfig_congr {cfg : Option Config} (hboot : mcuBootAddrGet m = b.base) (h : SameBelow m m') (r : Ram) :
    initConfig ⟨m', cfg⟩ r = initConfig ⟨m, cfg⟩ r := by
  have hboot' : mcuBootAddrGet m' = b.base := h.boot.trans hboot
  have haddr : getUserDataAddr m' r = getUserDataAddr m r := by
    unfold getUserDataAddr
    rw [h.boot]
  have hbounds := getUserDataAddr_bounds hboot r
  by_cases hvalid : ∃ c, cfg = some c ∧ c.Valid
  swap
  · have hnone : ∀ c, cfg = some c → ¬ c.Valid := fun c hcfg hc => hvalid ⟨c, hcfg, hc⟩
    rw [initConfig_invalid hnone, initConfig_invalid hnone, haddr]
  obtain ⟨c, hcfg, hc⟩ := hvalid
  by_cases ho : c.newOta = 0
  · have hbelow : ∀ x < b.userEnd, m' x = m x := fun x hx => h x (lt_of_lt_of_le hx (bank_below_app b))
    have hfirst : readConfig m' b.userStart = readConfig m b.userStart :=
      readConfig_congr fun x _ hx => hbelow x (by
        unfold Bank.userEnd userDataSize
        unfold sizeofConfig at hx
        omega)
    have hend : b.userEnd % flashPageSize = 0 := by
      cases b <;> decide
    have hsecond : (b.userStart + flashPageSize) % flashPageSize = 0 := by
      cases b <;> decide
    have hscan := scanConfig_congr hend hbelow (readConfig m b.userStart) hsecond
    have hitem : RingItem ⟨m, cfg⟩ := ⟨c, hcfg, hc, ho⟩
    have hitem' : RingItem ⟨m', cfg⟩ := hitem
    rw [initConfig_ring hitem, initConfig_ring hitem', haddr, scanRing, scanRing, hbounds.start, hbounds.stop,
      toNat_userStart, toNat_userEnd, hfirst, hscan]
  · have hrestore := initConfig_restore_eq (v := ⟨m', cfg⟩) hboot' hcfg hc ho r
    rw [hrestore, initConfig_restore_eq (v := ⟨m, cfg⟩) hboot hcfg hc ho, haddr]

theorem Stands.below (h : Stands v m) : SameBelow v.flash m := fun x hx => h.flash x (Or.inl hx)

/-- No length is checked for the item. -/
def Unchecked (tbl : LenCheckTbl) : Prop := tbl.find? (fun entry => entry.1 = nvItemAppUserCfg) = none

theorem restored_readBack (htbl : Unchecked tbl) (cfg : Option Config) :
    restored (readBack tbl nvItemAppUserCfg (appItems cfg nvItemAppUserCfg)) = cfg := by
  rw [appItems, Function.update_self]
  cases cfg with
  | none => rfl
  | some c =>
      show restored (.ok (c.toBytes.take (nvItemLengthValidCheck tbl nvItemAppUserCfg c.toBytes.length))) = _
      rw [nvItemLengthValidCheck, htbl, List.take_length, restored, Config.ofBytes_toBytes]

theorem wp_realInitConfig (htbl : Unchecked tbl) (h : Stands v m) (hboot : mcuBootAddrGet v.flash = b.base)
    (hd : r.defaultConfig = false) :
    wp (Reached v (initConfig v r).2) (realInitConfig tbl bufFree r)
      (fun r' m' => r' = (initConfig v r).1 ∧ Stands (applyAll v (initConfig v r).2) m') m := by
  obtain ⟨-, -, hops⟩ := initConfig_confined hboot hd
  have hnone : ∀ m', Stands v m' → Reached v (initConfig v r).2 m' := fun m' h' => ⟨0, h'⟩
  have happ : Module.app ≠ .nwkFrameCount := by decide
  have hitem : nvItemAppUserCfg ≠ itemFieldIdle := by decide
  have hread := wp_nvFlashReadNew (k := nvItemAppUserCfg) (C := Stands v)
    (Q := fun st m₁ => Stands v m₁ ∧ restored st = v.userCfg) tbl h.item happ hitem (fun m' hout hr => h.same hout hr)
    fun m' hout hr => ⟨h.same hout hr, restored_readBack htbl v.userCfg⟩
  refine wp_bind.mpr (hread.weaken hnone fun st m₁ _ ⟨h₁, hst⟩ => ?_)
  have hinit : initConfig ⟨m₁, restored st⟩ r = initConfig v r := by
    rw [hst]
    exact initConfig_congr hboot h₁.below r
  refine wp_bind.mpr (wp_get.mpr ⟨hnone m₁ h₁, ?_⟩)
  simp only [hinit]
  refine wp_bind.mpr ((wp_realOps h₁ hops).mono fun _ m' hreached hdone => ?_)
  exact wp_pure.mpr ⟨hreached, rfl, hdone⟩

theorem wp_realWriteConfig {p : Nat} (h : Stands v m) (hr : Placed b p r) (hd : r.defaultConfig = false) :
    wp (Reached v (writeConfig r).2) (realWriteConfig bufFree r)
      (fun r' m' => r' = (writeConfig r).1 ∧ Stands (applyAll v (writeConfig r).2) m') m := by
  obtain ⟨-, -, hops⟩ := writeConfig_confined hr hd
  refine wp_bind.mpr ((wp_realOps h hops).mono fun _ m' hreached hdone => ?_)
  exact wp_pure.mpr ⟨hreached, rfl, hdone⟩

/-! ### Runs -/

/-- The device and the store it is taken for; its pointer is on a page of the bank it does not run from. -/
structure Refined (b : Bank) (s : Option Ram × Mem) (s' : Option Ram × Nvm) : Prop where
  ram : s.1 = s'.1
  stands : Stands s'.2 s.2
  boot : mcuBootAddrGet s'.2.flash = b.base
  placed : ∀ r, s'.1 = some r → (∃ p, Placed b p r) ∧ r.defaultConfig = false

variable {s : Option Ram × Mem} {s' : Option Ram × Nvm}

theorem applyAll_boot (hops : ∀ op ∈ ops, op.Confined b) (hboot : mcuBootAddrGet v.flash = b.base) :
    mcuBootAddrGet (applyAll v ops).flash = b.base := by
  have hspared := spared_performAll hops (fun _ => batterySafetyThreshold) v
  rw [performAll_eq_applyAll fun _ => le_refl _] at hspared
  exact hspared.boot hboot

/-- A call is entered with the pointer in place. -/
theorem Refined.enter (h : Refined b s s') {call : SettingsCall} (hr : call.enter s'.1 = some r) :
    (call ≠ .powerUp → ∃ p, Placed b p r) ∧ r.defaultConfig = false := by
  cases call with
  | powerUp =>
      obtain rfl := Option.some.inj hr
      exact ⟨fun hne => absurd rfl hne, rfl⟩
  | save t newOta =>
      obtain ⟨r₀, hr₀, rfl⟩ := Option.map_eq_some_iff.mp hr
      obtain ⟨⟨p, hp⟩, hd⟩ := h.placed r₀ hr₀
      exact ⟨fun _ => ⟨p, ⟨hp.start, hp.stop⟩, hp.page, hp.pointer⟩, hd⟩

/-- What a call makes of the device: what the model says, up to a call to the drivers when it is cut short. -/
theorem Refined.call (h : Refined b s s') (bufFree : Bool) (htbl : Unchecked tbl) {call : SettingsCall} (hr : call.enter s'.1 = some r) :
    wp (Reached s'.2 (call.ops s'.2 r).2) (call.real tbl bufFree r)
        (fun r' m' => r' = (call.ops s'.2 r).1 ∧ Stands (applyAll s'.2 (call.ops s'.2 r).2) m') s.2 ∧
      (∃ p, Placed b p (call.ops s'.2 r).1) ∧ (call.ops s'.2 r).1.defaultConfig = false ∧
      ∀ op ∈ (call.ops s'.2 r).2, op.Confined b := by
  obtain ⟨hplaced, hd⟩ := h.enter hr
  cases call with
  | powerUp => exact ⟨wp_realInitConfig htbl h.stands h.boot hd, initConfig_confined h.boot hd⟩
  | save t newOta =>
      obtain ⟨p, hp⟩ := hplaced SettingsCall.noConfusion
      exact ⟨wp_realWriteConfig h.stands hp hd, writeConfig_confined hp hd⟩

/-- The event on the device and on the store: the same call, cut short or not. -/
def SameEvent (e e' : SettingsEvent) : Prop := e.call = e'.call ∧ e.cut.isSome = e'.cut.isSome

theorem Refined.step (h : Refined b s s') (htbl : Unchecked tbl) (e : SettingsEvent) :
    ∃ e', SameEvent e e' ∧ Refined b (realStep tbl s e) (storeStep s' e') := by
  obtain ⟨call, bufFree, cut⟩ := e
  cases hr : call.enter s'.1 with
  | none =>
      refine ⟨⟨call, bufFree, cut⟩, ⟨rfl, rfl⟩, ?_⟩
      simp only [realStep, storeStep, h.ram, hr]
      exact h
  | some r =>
      obtain ⟨hwp, hplaced, hd, hops⟩ := h.call bufFree htbl hr
      rcases hwp.use cut with ⟨r', rfl, hres, rfl, hdone⟩ | ⟨k, rfl, hres, j, hcut⟩
      · refine ⟨⟨call, bufFree, none⟩, ⟨rfl, rfl⟩, ?_⟩
        simp only [realStep, storeStep, h.ram, hr]
        exact ⟨hres, hdone, applyAll_boot hops h.boot, fun r' hr' => Option.some.inj hr' ▸ ⟨hplaced, hd⟩⟩
      · refine ⟨⟨call, bufFree, some j⟩, ⟨rfl, rfl⟩, ?_⟩
        simp only [realStep, storeStep, h.ram, hr]
        have htake : ∀ op ∈ (call.ops s'.2 r).2.take j, op.Confined b := fun op hop => hops op (List.mem_of_mem_take hop)
        exact ⟨hres, hcut, applyAll_boot htake h.boot, fun _ hnone => absurd hnone (Option.some_ne_none _).symm⟩

theorem Refined.run (h : Refined b s s') (htbl : Unchecked tbl) (events : List SettingsEvent) :
    ∃ events', List.Forall₂ SameEvent events events' ∧
      ∀ n, Refined b (run (realStep tbl) s (events.take n)) (run storeStep s' (events'.take n)) := by
  induction events generalizing s s' with
  | nil =>
      refine ⟨[], .nil, fun n => ?_⟩
      simpa using h
  | cons e events ih =>
      obtain ⟨e', hsame, hstep⟩ := h.step htbl e
      obtain ⟨events', hall, hrun⟩ := ih hstep
      refine ⟨e' :: events', .cons hsame hall, fun n => ?_⟩
      cases n with
      | zero => exact h
      | succ n => exact hrun n

/-- Wherever the power fails in the commands to the flash, the device does, call by call, what the store does whose item
is written in one step and whose calls to the drivers are cut short between two of them. -/
theorem settings_refine (b : Bank) (tbl : LenCheckTbl) (v : Nvm) (m : Mem) (events : List SettingsEvent)
    (htbl : Unchecked tbl) (hm : Stands v m) (hboot : mcuBootAddrGet v.flash = b.base) :
    ∃ events', List.Forall₂ SameEvent events events' ∧
      ∀ n, Refined b (run (realStep tbl) (none, m) (events.take n)) (run storeStep (none, v) (events'.take n)) := by
  have hoff : Refined b (none, m) (none, v) :=
    { ram := rfl
      stands := hm
      boot := hboot
      placed := fun _ hnone => absurd hnone (Option.some_ne_none _).symm }
  exact hoff.run htbl events

theorem stands_blank (b : Bank) : Stands ⟨blankFlash b, none⟩ (blankFlash b) where
  flash := Outside.refl _ _
  item := by
    refine .empty (fun n hn => rejected_erased fun x hl _ => ?_) (Function.update_eq_self _ _)
    have hfar : b.base + 12 ≤ x := by
      refine le_trans ?_ hl
      have hcases : n = 0 ∨ n = 1 := by omega
      cases b <;> rcases hcases with rfl | rfl <;> decide
    unfold blankFlash
    rw [if_neg (by omega), if_neg (by omega), if_neg (by omega), if_neg (by omega)]

theorem settings_refine_blank :
    let events : List SettingsEvent := [⟨.powerUp, true, none⟩, ⟨.save ⟨7, 8, 10⟩ 1, true, some 4⟩, ⟨.powerUp, true, none⟩]
    ∃ events', List.Forall₂ SameEvent events events' ∧
      ∀ n, Refined .low (run (realStep []) (none, blankFlash .low) (events.take n))
        (run storeStep (none, ⟨blankFlash .low, none⟩) (events'.take n)) :=
  settings_refine .low [] _ _ _ rfl (stands_blank .low) (mcuBootAddrGet_blankFlash .low)

end Watermeter
