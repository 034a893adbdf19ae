import Watermeter.StoreFlash

/-! The branches of `init_config`. The scan over the pages is the reader of the ring log, so a chain of
records that stops before the last page is found with its place, and a chain over all pages is not. -/

namespace Watermeter

open NorFlash RingLog

variable {b : Bank} {p : Nat} {m : Mem} {c : Config} {r : Ram} {v : Nvm}

/-- The comparison of the scan allows for the wrap of `top`, which the addition does already. -/
theorem scan_next_iff (x y : BitVec 32) : (x + 1 = y ∨ x = topMask ∧ y = 0) ↔ y = x + 1 := by
  constructor
  · rintro (h | ⟨rfl, rfl⟩)
    · exact h.symm
    · rfl
  · exact fun h => Or.inl h.symm

theorem recordAt_eq_none {a : Nat} : recordAt m a = none ↔ ¬ (readConfig m a).Valid := by
  unfold recordAt
  split
  · next h => simp [h]
  · next h => simp [h]

/-- One turn of the loop. -/
theorem scanConfig_step (b : Bank) (q : Nat) (hq : q + 1 < 832) (c : Config) :
    scanConfig m b.userEnd c (pageAddr b (q + 1)) =
      match ringLog m b (q + 1) with
      | some next =>
        if next.top = c.top + 1 then scanConfig m b.userEnd next (pageAddr b (q + 2))
        else (c, pageAddr b (q + 1), true)
      | none => (c, pageAddr b (q + 1), true) := by
  have hlt : pageAddr b (q + 1) < b.userEnd := by
    unfold pageAddr Bank.userEnd flashPageSize userDataSize
    omega
  rw [scanConfig, if_pos hlt, ringLog]
  cases hrec : recordAt m (pageAddr b (q + 1)) with
  | none =>
      rw [recordAt_eq_none, Config.Valid] at hrec
      simp only [hrec, if_false]
  | some next =>
      obtain ⟨hread, hvalid⟩ := recordAt_eq_some.mp hrec
      rw [Config.Valid] at hvalid
      simp only [hread, hvalid, and_self, if_true, scan_next_iff, pageAddr_succ]

theorem scanConfig_end (b : Bank) (c : Config) :
    scanConfig m b.userEnd c (pageAddr b 832) = (c, pageAddr b 832, false) := by
  have hend : ¬ pageAddr b 832 < b.userEnd := by
    unfold pageAddr Bank.userEnd flashPageSize userDataSize
    omega
  rw [scanConfig, if_neg hend]

/-- The loop is the reader of the ring log. -/
theorem scanConfig_follow (b : Bank) (fuel q : Nat) (hq : q + 1 + fuel = 832) (c : Config) :
    match follow Config.top (ringLog m b) fuel q c with
    | some (p, r) => scanConfig m b.userEnd c (pageAddr b (q + 1)) = (r, pageAddr b (p + 1), true)
    | none => (scanConfig m b.userEnd c (pageAddr b (q + 1))).2.2 = false := by
  induction fuel generalizing q c with
  | zero =>
      obtain rfl : q = 831 := by omega
      rw [follow, scanConfig_end]
  | succ fuel ih =>
      rw [scanConfig_step b q (by omega), follow]
      cases hlog : ringLog m b (q + 1) with
      | none => rfl
      | some next =>
          by_cases hnext : next.top = c.top + 1
          · simp only [hnext, if_true]
            exact ih (q + 1) (by omega) next
          · simp only [hnext, if_false]

theorem scanConfig_of_some {fuel : Nat} {r₀ : Config} (hfuel : 1 + fuel = 832)
    (h : follow Config.top (ringLog m b) fuel 0 r₀ = some (p, c)) :
    scanConfig m b.userEnd r₀ (pageAddr b 1) = (c, pageAddr b (p + 1), true) := by
  have hscan := scanConfig_follow (m := m) b fuel 0 (by omega) r₀
  rw [h] at hscan
  exact hscan

theorem scanConfig_of_none {fuel : Nat} {r₀ : Config} (hfuel : 1 + fuel = 832)
    (h : follow Config.top (ringLog m b) fuel 0 r₀ = none) :
    (scanConfig m b.userEnd r₀ (pageAddr b 1)).2.2 = false := by
  have hscan := scanConfig_follow (m := m) b fuel 0 (by omega) r₀
  rw [h] at hscan
  exact hscan

/-! ### `init_config` by branch -/

/-- The NV item holds a valid record that says the ring is in use. -/
def RingItem (v : Nvm) : Prop := ∃ c, v.userCfg = some c ∧ c.Valid ∧ c.newOta = 0

theorem initConfig_invalid (h : ∀ c, v.userCfg = some c → ¬ c.Valid) (r : Ram) :
    initConfig v r = reinitConfig (getUserDataAddr v.flash r) := by
  unfold initConfig
  cases hcfg : v.userCfg with
  | none => rfl
  | some c =>
      have hbad : c.id ≠ idConfig ∨ checksum c.toBytes ≠ c.crc := not_and_or.mp (h c hcfg)
      exact if_pos hbad

/-- The record the restore branch writes. -/
def restoredRecord (c : Config) (r : Ram) : Config :=
  { c with newOta := 0, flashAddrStart := r.configAddrStart, flashAddrEnd := r.configAddrEnd }

theorem not_invalid (hc : c.Valid) : ¬ (c.id ≠ idConfig ∨ checksum c.toBytes ≠ c.crc) :=
  not_or.mpr ⟨not_not.mpr hc.1, not_not.mpr hc.2⟩

theorem initConfig_restore (hcfg : v.userCfg = some c) (hc : c.Valid) (ho : c.newOta ≠ 0) (r : Ram) :
    initConfig v r = writeConfig { getUserDataAddr v.flash r with
      watermeterConfig := restoredRecord c (getUserDataAddr v.flash r), defaultConfig := true } := by
  unfold initConfig
  rw [hcfg]
  exact (if_neg (not_invalid hc)).trans (if_pos ho)

/-- With the ring in use the first page is looked at, then the pages after it. -/
def scanRing (m : Mem) (r : Ram) : Ram × List Op :=
  if (readConfig m r.configAddrStart.toNat).id ≠ idConfig then reinitConfig r
  else
    match scanConfig m r.configAddrEnd.toNat (readConfig m r.configAddrStart.toNat)
      (r.configAddrStart.toNat + flashPageSize) with
    | (configCurr, flashAddr, true) =>
      ({ r with watermeterConfig :=
          { configCurr with flashAddrStart := .ofNat 32 (flashAddr - flashPageSize) } }, [])
    | (_, _, false) => reinitConfig r

/-- The record of the NV item goes into the first page, out of OTA mode. -/
theorem initConfig_restore_eq (hboot : mcuBootAddrGet v.flash = b.base) (hcfg : v.userCfg = some c)
    (hc : c.Valid) (ho : c.newOta ≠ 0) (r : Ram) :
    initConfig v r =
      ({ getUserDataAddr v.flash r with
          watermeterConfig := (restoredRecord c (getUserDataAddr v.flash r)).sealed, defaultConfig := false },
        .nvFlashWriteNew (restoredRecord c (getUserDataAddr v.flash r)).sealed ::
          pageOps b 0 (restoredRecord c (getUserDataAddr v.flash r)).sealed) := by
  rw [initConfig_restore hcfg hc ho]
  exact writeConfig_default (b := b)
    (r := { getUserDataAddr v.flash r with
      watermeterConfig := restoredRecord c (getUserDataAddr v.flash r), defaultConfig := true })
    rfl (getUserDataAddr_bounds hboot r).start

theorem initConfig_ring (hitem : RingItem v) (r : Ram) :
    initConfig v r = scanRing v.flash (getUserDataAddr v.flash r) := by
  obtain ⟨c, hcfg, hc, ho⟩ := hitem
  unfold initConfig
  rw [hcfg]
  exact (if_neg (not_invalid hc)).trans (if_neg (not_not.mpr ho))

theorem initConfig_lost (hboot : mcuBootAddrGet v.flash = b.base) (hitem : RingItem v)
    (hlost : (readConfig v.flash b.userStart).id ≠ idConfig) (r : Ram) :
    initConfig v r = reinitConfig (getUserDataAddr v.flash r) := by
  rw [initConfig_ring hitem, scanRing, (getUserDataAddr_bounds hboot r).start, toNat_userStart, if_pos hlost]

/-- Past the first page the scan decides. -/
theorem scanRing_eq (hr : Bounds b r) (hpage : (readConfig m b.userStart).id = idConfig) :
    scanRing m r =
      match scanConfig m b.userEnd (readConfig m b.userStart) (pageAddr b 1) with
      | (configCurr, flashAddr, true) =>
        ({ r with watermeterConfig :=
            { configCurr with flashAddrStart := .ofNat 32 (flashAddr - flashPageSize) } }, [])
      | (_, _, false) => reinitConfig r := by
  have haddr : b.userStart + flashPageSize = pageAddr b 1 := by rw [← pageAddr_zero, pageAddr_succ]
  have hscan : scanConfig m r.configAddrEnd.toNat (readConfig m r.configAddrStart.toNat)
      (r.configAddrStart.toNat + flashPageSize) =
        scanConfig m b.userEnd (readConfig m b.userStart) (pageAddr b 1) := by
    rw [hr.start, hr.stop, toNat_userStart, toNat_userEnd, haddr]
  rw [scanRing, if_neg (by rw [hr.start, toNat_userStart]; exact not_not.mpr hpage), hscan]

/-- The records of the ring as `init_config` reads them: of the first page it looks at the identifier only. -/
def ringRead (m : Mem) (b : Bank) : Nat → Option Config
  | 0 => if (readConfig m b.userStart).id = idConfig then some (readConfig m b.userStart) else none
  | q + 1 => ringLog m b (q + 1)

theorem ringRead_zero : ringRead m b 0 = some c ↔ readConfig m b.userStart = c ∧ c.id = idConfig := by
  show (if (readConfig m b.userStart).id = idConfig then some (readConfig m b.userStart) else none) = some c ↔ _
  by_cases hid : (readConfig m b.userStart).id = idConfig
  · rw [if_pos hid, Option.some.injEq]
    exact ⟨fun h => ⟨h, h ▸ hid⟩, fun h => h.1⟩
  · rw [if_neg hid]
    exact ⟨nofun, fun h => absurd (h.1 ▸ h.2) hid⟩

theorem ringRead_of_log {q : Nat} (h : ringLog m b q = some c) : ringRead m b q = some c := by
  cases q with
  | succ q => exact h
  | zero =>
      obtain ⟨hread, hvalid⟩ := recordAt_eq_some.mp h
      rw [pageAddr_zero] at hread
      exact ringRead_zero.mpr ⟨hread, hvalid.1⟩

/-- Records that are valid are read. -/
theorem chain_read (h : Chain Config.top (ringLog m b) p c) : Chain Config.top (ringRead m b) p c := by
  induction h with
  | first hlog => exact .first (ringRead_of_log hlog)
  | next _ hlog hseq ih => exact .next ih hlog hseq

/-- The reader looks at the pages after the one it starts from. -/
theorem follow_read (fuel q : Nat) (c : Config) :
    follow Config.top (ringRead m b) fuel q c = follow Config.top (ringLog m b) fuel q c := by
  induction fuel generalizing q c with
  | zero => rfl
  | succ fuel ih =>
      simp only [follow, ih]
      rfl

/-- A chain that stops before the last page is restored, with its place. -/
theorem initConfig_read (hboot : mcuBootAddrGet v.flash = b.base) (hitem : RingItem v)
    (hchain : Chain Config.top (ringRead v.flash b) p c)
    (hstop : ¬ Continues Config.top c (ringLog v.flash b (p + 1))) (hp : p < 831) (r : Ram) :
    initConfig v r = ({ getUserDataAddr v.flash r with
      watermeterConfig := { c with flashAddrStart := .ofNat 32 (pageAddr b p) } }, []) := by
  obtain ⟨r₀, hfirst, hfollow⟩ := follow_eq_some hchain hstop hp
  obtain ⟨hread, hid⟩ := ringRead_zero.mp hfirst
  rw [follow_read] at hfollow
  rw [initConfig_ring hitem, scanRing_eq (getUserDataAddr_bounds hboot r) (by rw [hread]; exact hid), hread,
    scanConfig_of_some rfl hfollow, ← pageAddr_succ]
  simp only [Nat.add_sub_cancel]

theorem initConfig_found (hboot : mcuBootAddrGet v.flash = b.base) (hitem : RingItem v)
    (hchain : Chain Config.top (ringLog v.flash b) p c)
    (hstop : ¬ Continues Config.top c (ringLog v.flash b (p + 1))) (hp : p < 831) (r : Ram) :
    initConfig v r = ({ getUserDataAddr v.flash r with
      watermeterConfig := { c with flashAddrStart := .ofNat 32 (pageAddr b p) } }, []) :=
  initConfig_read hboot hitem (chain_read hchain) hstop hp r

/-- A chain over all the pages is not: the loop ends without setting `find_config`. -/
theorem initConfig_exhausted (hboot : mcuBootAddrGet v.flash = b.base) (hitem : RingItem v)
    (hchain : Chain Config.top (ringLog v.flash b) 831 c) (r : Ram) :
    initConfig v r = reinitConfig (getUserDataAddr v.flash r) := by
  obtain ⟨r₀, hfirst, hfollow⟩ := follow_eq_none hchain
  obtain ⟨hread, hvalid⟩ := recordAt_eq_some.mp hfirst
  rw [pageAddr_zero] at hread
  have hscan := scanConfig_of_none rfl hfollow
  rw [initConfig_ring hitem, scanRing_eq (getUserDataAddr_bounds hboot r) (by rw [hread]; exact hvalid.1), hread]
  revert hscan
  rcases scanConfig v.flash b.userEnd r₀ (pageAddr b 1) with ⟨curr, addr, found⟩
  rintro rfl
  rfl

/-- A start with the ring in use begins anew, or finds a record on the first page or a valid one on a later page. -/
theorem initConfig_ring_cases (hboot : mcuBootAddrGet v.flash = b.base) (hitem : RingItem v) (r : Ram) :
    initConfig v r = reinitConfig (getUserDataAddr v.flash r) ∨
      ∃ p c, p < 831 ∧ ringRead v.flash b p = some c ∧ initConfig v r = ({ getUserDataAddr v.flash r with
        watermeterConfig := { c with flashAddrStart := .ofNat 32 (pageAddr b p) } }, []) := by
  by_cases hid : (readConfig v.flash b.userStart).id = idConfig
  swap
  · exact Or.inl (initConfig_lost hboot hitem hid r)
  have hfirst : ringRead v.flash b 0 = some (readConfig v.flash b.userStart) := ringRead_zero.mpr ⟨rfl, hid⟩
  rw [initConfig_ring hitem, scanRing_eq (getUserDataAddr_bounds hboot r) hid]
  cases hfollow : follow Config.top (ringLog v.flash b) 831 0 (readConfig v.flash b.userStart) with
  | none =>
      have hscan := scanConfig_of_none rfl hfollow
      apply Or.inl
      revert hscan
      rcases scanConfig v.flash b.userEnd (readConfig v.flash b.userStart) (pageAddr b 1) with ⟨curr, addr, found⟩
      rintro rfl
      rfl
  | some found =>
      obtain ⟨p, c⟩ := found
      refine Or.inr ⟨p, c, by have hlt := follow_lt hfollow; omega, ?_, ?_⟩
      · rcases follow_mem hfollow with ⟨rfl, rfl⟩ | ⟨hpos, hread⟩
        · exact hfirst
        · exact ringRead_of_log hread
      · rw [scanConfig_of_some rfl hfollow, ← pageAddr_succ]
        simp only [Nat.add_sub_cancel]

end Watermeter
