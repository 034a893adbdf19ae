import Watermeter.PowerLoss

/-! What the memory holds when the store was cut short, and what the next start makes of it. The records of the
ring are taken as `init_config` reads them, so the first page counts by its identifier alone. -/

namespace Watermeter

open NorFlash RingLog

variable {b : Bank} {p q j k : Nat} {m m' : Mem} {c : Config} {r : Ram} {v : Nvm} {supply : Supply} {t : Totals}

/-! ### Calls cut short -/

theorem cutShort_append_left {xs : List Op} (h : k < xs.length) (j : Nat) (ys : List Op) :
    cutShort k j (xs ++ ys) = cutShort k j xs := by
  induction xs generalizing k with
  | nil => exact absurd h (Nat.not_lt_zero k)
  | cons op xs ih =>
      cases k with
      | zero => rfl
      | succ k => exact congrArg (List.cons op) (ih (Nat.lt_of_succ_lt_succ h))

theorem cutShort_append_right (xs : List Op) (k j : Nat) (ys : List Op) :
    cutShort (xs.length + k) j (xs ++ ys) = xs ++ cutShort k j ys := by
  induction xs with
  | nil => rw [List.length_nil, Nat.zero_add, List.nil_append, List.nil_append]
  | cons op xs ih =>
      rw [List.length_cons, Nat.succ_add_eq_add_succ, Nat.add_succ]
      exact congrArg (List.cons op) ih

/-- Calls that are not page writes take effect or do not. -/
theorem cutShort_take {xs : List Op} (h : ∀ op ∈ xs, op.torn j = []) : cutShort k j xs = xs.take k := by
  induction xs generalizing k with
  | nil =>
      rw [List.take_nil]
      cases k <;> rfl
  | cons op xs ih =>
      cases k with
      | zero => exact h op List.mem_cons_self
      | succ k => exact congrArg (List.cons op) (ih fun op' hop' => h op' (List.mem_cons_of_mem _ hop'))

/-! ### The records as they are read -/

theorem ringRead_congr (h : ∀ x, pageAddr b q ≤ x → x < pageAddr b q + sizeofConfig → m' x = m x) :
    ringRead m' b q = ringRead m b q := by
  cases q with
  | zero =>
      rw [pageAddr_zero] at h
      unfold ringRead
      rw [readConfig_congr h]
  | succ q => exact recordAt_congr h

theorem put_read (hfit : Fits (openPage b q m) (pageAddr b q) c.toBytes) (hc : c.Valid) :
    Put 832 16 (ringRead m b) (ringRead (writeRecord b q c m) b) q c where
  here := ringRead_of_log (put_writeRecord hfit hc).here
  opened hopen i hi hi' := by
    obtain ⟨i, rfl⟩ := Nat.exists_eq_add_one_of_ne_zero (Nat.ne_of_gt (Nat.zero_lt_of_lt hi))
    exact (put_writeRecord hfit hc).opened hopen _ hi hi'
  kept i _ hi hkeep := by
    refine ringRead_congr fun x hl hr => writeRecord_other hi hkeep hl ?_
    unfold sizeofConfig at hr
    omega

/-- The records of the ring, as they are read, end on page `p` with `c`. -/
structure Newest (b : Bank) (p : Nat) (c : Config) (m : Mem) : Prop where
  chain : Chain Config.top (ringRead m b) p c
  stop : p < 831 → ¬ Continues Config.top c (ringLog m b (p + 1))
  ring : c.newOta = 0

theorem Newest.ident (h : Newest b p c m) : c.id = idConfig := by
  have hlast := h.chain.last
  cases p with
  | zero => exact (ringRead_zero.mp hlast).2
  | succ p => exact (recordAt_eq_some.mp hlast).2.1

/-- The pages up to the newest one stay, and what is on the next one does not follow it. -/
theorem Newest.keep (h : Newest b p c m) (hsame : ∀ x, x < pageAddr b (p + 1) → m' x = m x)
    (hstop : p < 831 → ¬ Continues Config.top c (ringLog m' b (p + 1))) : Newest b p c m' where
  chain := by
    refine h.chain.congr fun i hi => ringRead_congr fun x _ hr => hsame x ?_
    unfold pageAddr flashPageSize sizeofConfig at *
    omega
  stop := hstop
  ring := h.ring

/-- Turning to the next page erases no record. -/
theorem Newest.turned (h : Newest b p c m) : Newest b p c (openPage b (p + 1) m) := by
  refine h.keep (fun x hx => openPage_before hx) fun hp => ?_
  by_cases hopen : (p + 1) % 16 = 0
  · rw [openPage_opened hopen]
    have hpage : PageErased b (erase m (pageAddr b (p + 1)) flashSectorSize) (p + 1) :=
      (erased_erase m _ _).mono (Nat.le_refl _) (by unfold flashSectorSize; omega)
    exact not_continues_of_none hpage.log
  · rw [openPage_inner hopen]
    exact h.stop hp

theorem Newest.torn (h : Newest b p c m) {bs : List Byte} (hstop : p < 831 → ¬ Continues Config.top c
      (recordAt (program (openPage b (p + 1) m) (pageAddr b (p + 1)) bs) (pageAddr b (p + 1)))) :
    Newest b p c (program (openPage b (p + 1) m) (pageAddr b (p + 1)) bs) :=
  h.turned.keep (fun _ hx => program_outside (Or.inl hx)) hstop

theorem newest_written {r : Config} (hchain : Chain Config.top (ringRead (writeRecord b q r m) b) q r)
    (hfit : Fits (openPage b q m) (pageAddr b q) r.toBytes) (hr : r.Valid) (hring : r.newOta = 0)
    (hends : q % 16 ≠ 0 → q < 831 → ¬ Continues Config.top r (ringLog m b (q + 1))) :
    Newest b q r (writeRecord b q r m) := by
  refine ⟨hchain, fun hlast => ?_, hring⟩
  have hput := put_writeRecord hfit hr
  by_cases hopen : q % 16 = 0
  · rw [hput.opened hopen (q + 1) (by omega) (by omega)]
    nofun
  · rw [hput.kept (q + 1) (by omega) (by omega) fun h => absurd h hopen]
    exact hends hopen hlast

/-- A save that finds room on the next page, and no record of the next number behind it. -/
theorem Newest.save (h : Newest b p c m) (hp : p < 832) {r : Config}
    (hfit : Fits (openPage b (succSlot 832 p) m) (pageAddr b (succSlot 832 p)) r.toBytes) (hr : r.Valid)
    (hring : r.newOta = 0) (htop : r.top = c.top + 1)
    (hends : succSlot 832 p % 16 ≠ 0 → succSlot 832 p < 831 →
      ¬ Continues Config.top r (ringLog m b (succSlot 832 p + 1))) :
    Newest b (succSlot 832 p) r (writeRecord b (succSlot 832 p) r m) :=
  newest_written ((put_read hfit hr).chain hp h.chain htop) hfit hr hring hends

/-- A record on the first page starts the ring anew. -/
theorem newest_first {r : Config} (hr : r.Valid) (hring : r.newOta = 0) : Newest b 0 r (writeRecord b 0 r m) := by
  have hfit := fits_openPage (b := b) (m := m) (c := r) (Nat.zero_mod 16)
  exact newest_written (.first (put_read hfit hr).here) hfit hr hring fun h => absurd (Nat.zero_mod 16) h

/-! ### The first page -/

/-- A byte of the record that is not written yet, if it is there, is all ones. -/
theorem Whole.byte (h : Whole j c) {i : Nat} (hi : i < 26) : i < j ∨ c.toBytes.getD i 0xFF#8 = 0xFF#8 := by
  apply or_iff_not_imp_left.mpr
  intro hj
  have hpayload : c.toBytes.getD i 0xFF#8 = c.payload.getD i 0xFF#8 := by
    rw [Config.toBytes, List.getD_eq_getElem?_getD, List.getElem?_append_left (by rw [Config.length_payload]; exact hi),
      ← List.getD_eq_getElem?_getD]
  have hlen : i < c.payload.length := by rw [Config.length_payload]; exact hi
  rw [hpayload, List.getD_eq_getElem?_getD, List.getElem?_eq_getElem hlen, Option.getD_some]
  refine h _ (List.mem_drop_iff_getElem.mpr ⟨i - j, by omega, ?_⟩)
  simp only [Nat.add_sub_cancel' (Nat.not_lt.mp hj)]

/-- The first page once its sector is erased and `j` bytes of the record are there. -/
def tornPage (b : Bank) (j : Nat) (c : Config) (m : Mem) : Mem :=
  program (openPage b 0 m) (pageAddr b 0) (c.toBytes.take j)

theorem torn_byte (h : Whole j c) {i : Nat} (hi : i < 26) :
    tornPage b j c m (b.userStart + i) = writeRecord b 0 c m (b.userStart + i) := by
  rw [tornPage, writeRecord, pageAddr_zero]
  exact program_take (h.byte hi)

theorem torn_behind {x : Nat} (hx : pageAddr b 0 + 28 ≤ x) : tornPage b j c m x = openPage b 0 m x := by
  have hlen : (c.toBytes.take j).length ≤ 28 := by
    rw [List.length_take, Config.length_toBytes]
    exact Nat.min_le_right _ _
  exact program_outside (Or.inr (by omega))

theorem torn_outside {x : Nat} (hx : x < b.userStart ∨ b.userEnd ≤ x) : tornPage b j c m x = m x := by
  have hregion : b.userEnd = b.userStart + 212992 := rfl
  rcases hx with hbelow | habove
  · rw [tornPage, program_outside (Or.inl (by rw [pageAddr_zero]; exact hbelow)),
      openPage_before (by rw [pageAddr_zero]; exact hbelow)]
  · rw [torn_behind (by rw [pageAddr_zero]; omega), openPage_after (by rw [pageAddr_zero]; omega)]

/-- The page is read as the record, whatever its checksum. -/
theorem torn_newest (h : Whole j c) (hid : c.id = idConfig) (hring : c.newOta = 0) :
    ∃ crc, Newest b 0 { c with crc := crc } (tornPage b j c m) := by
  have hfit := fits_openPage (b := b) (m := m) (c := c) (Nat.zero_mod 16)
  have hread := readConfig_payload fun i hi => torn_byte (b := b) (m := m) h hi
  have hrecord := readConfig_writeRecord hfit
  rw [pageAddr_zero] at hrecord
  rw [hrecord] at hread
  refine ⟨_, .first (ringRead_zero.mpr ⟨hread, hid⟩), fun _ => ?_, hring⟩
  have herased : PageErased b (tornPage b j c m) (0 + 1) := by
    intro x hl hr
    have hpage : pageAddr b (0 + 1) = pageAddr b 0 + 256 := rfl
    rw [torn_behind (by omega), openPage_opened (Nat.zero_mod 16)]
    exact erase_inside (by omega) (by unfold flashSectorSize; omega)
  exact not_continues_of_none herased.log

theorem torn_clear (h : Whole j c) (haddr : c.flashAddrStart = .ofNat 32 b.userStart) : FlagClear b (tornPage b j c m) :=
  Or.inl ((torn_byte h (by omega)).trans (writeRecord_byte (by rw [haddr, pageAddr_zero])))

/-- The first bytes of the page, where the flag is not, and less than the identifier. -/
theorem torn_unmarked (hj : j < 4) :
    (readConfig (tornPage b j c m) b.userStart).id ≠ idConfig ∧ FlagClear b (tornPage b j c m) := by
  have hones : ∀ i, j ≤ i → i < 4096 → tornPage b j c m (b.userStart + i) = 0xFF#8 := by
    intro i hl hr
    have hlen : (c.toBytes.take j).length ≤ j := by
      rw [List.length_take]
      exact Nat.min_le_left _ _
    rw [tornPage, pageAddr_zero, program_outside (Or.inr (by omega)), openPage_opened (Nat.zero_mod 16), pageAddr_zero]
    exact erase_inside (by omega) (by unfold flashSectorSize; omega)
  refine ⟨fun hmark => ?_, Or.inr ⟨hones 8 (by omega) (by omega), hones 9 (by omega) (by omega)⟩⟩
  have hlast : (readConfig (tornPage b j c m) b.userStart).id.extractLsb' 24 8 = tornPage b j c m (b.userStart + 3) :=
    (extract_u32 _ _ _ _).2.2.2
  rw [hmark, hones 3 (by omega) (by omega)] at hlast
  exact absurd hlast (by decide)

end Watermeter
