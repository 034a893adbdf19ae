import Watermeter.NvWrite

/-! Moving to the other sector: the older of two items of a kind are deleted, what is valid is copied, and the headers
change. -/

namespace Watermeter.Nv

open NorFlash CrashLogic SlotLog

variable {m m' : Mem} {id : Module} {sect n i j : Nat} {log log' : List Item} {length : Byte → Nat} {s : Item} {k : Byte}
  {v : List Byte} {σ : Byte → Option (List Byte)} {C : Mem → Prop}

/-! ### The older items of a kind -/

theorem drop_eq_cons (h : log[j]? = some s) : log.drop j = s :: log.drop (j + 1) := by
  obtain ⟨hlt, rfl⟩ := List.getElem?_eq_some_iff.mp h
  exact List.drop_eq_getElem_cons hlt

theorem split_at (h : log[j]? = some s) : log = log.take j ++ s :: log.drop (j + 1) := by
  rw [← drop_eq_cons h, List.take_append_drop]

theorem set_split (h : log[j]? = some s) (t : Item) : log.set j t = log.take j ++ t :: log.drop (j + 1) := by
  obtain ⟨hlt, -⟩ := List.getElem?_eq_some_iff.mp h
  rw [List.set_eq_take_append_cons_drop, if_pos hlt]

/-- What a pass over the index from its end has met. -/
structure Met (log : List Item) (j : Nat) (idxTbl : List Byte) : Prop where
  mem : ∀ key, key ∈ idxTbl ↔ ∃ t ∈ log.drop j, t.Holds key
  distinct : Distinct (log.drop j)

theorem Met.skip {tbl : List Byte} (h : Met log (j + 1) tbl) (hidle : ∀ s, log[j]? = some s → s.status ≠ .live) :
    Met log j tbl := by
  cases hj : log[j]? with
  | none =>
      have hlen := List.getElem?_eq_none_iff.mp hj
      have hdrop : log.drop j = log.drop (j + 1) := by
        rw [List.drop_of_length_le hlen, List.drop_of_length_le (by omega)]
      exact ⟨by rw [hdrop]; exact h.mem, by rw [hdrop]; exact h.distinct⟩
  | some s =>
      have hs := hidle s hj
      refine ⟨fun key => ?_, ?_⟩
      · rw [h.mem, drop_eq_cons hj]
        constructor
        · rintro ⟨t, ht, htk⟩
          exact ⟨t, List.mem_cons_of_mem _ ht, htk⟩
        · rintro ⟨t, ht, htk⟩
          rcases List.mem_cons.mp ht with rfl | ht
          · exact absurd htk.1 hs
          · exact ⟨t, ht, htk⟩
      · rw [Distinct, drop_eq_cons hj, List.filter_cons_of_neg (by simpa using hs)]
        exact h.distinct

theorem Met.take {tbl : List Byte} (h : Met log (j + 1) tbl) (hj : log[j]? = some s) (hlive : s.status = .live)
    (hnew : s.key ∉ tbl) : Met log j (tbl ++ [s.key]) := by
  refine ⟨fun key => ?_, ?_⟩
  · rw [List.mem_append, List.mem_singleton, h.mem, drop_eq_cons hj]
    constructor
    · rintro (⟨t, ht, htk⟩ | rfl)
      · exact ⟨t, List.mem_cons_of_mem _ ht, htk⟩
      · exact ⟨s, List.mem_cons_self, hlive, rfl⟩
    · rintro ⟨t, ht, htk⟩
      rcases List.mem_cons.mp ht with rfl | ht
      · exact Or.inr htk.2.symm
      · exact Or.inl ⟨t, ht, htk⟩
  · rw [Distinct, drop_eq_cons hj, List.filter_cons_of_pos (by simpa using hlive), List.map_cons, List.nodup_cons]
    refine ⟨fun hmem => hnew ?_, h.distinct⟩
    obtain ⟨t, ht, htk⟩ := List.mem_map.mp hmem
    obtain ⟨hin, hst⟩ := List.mem_filter.mp ht
    exact (h.mem s.key).mpr ⟨t, hin, by simpa using hst, htk⟩

/-- What the handler of duplicates may leave of a log. -/
structure Thinned (length : Byte → Nat) (log log' : List Item) : Prop where
  sized : Sized length log'
  len : log'.length = log.length
  lookup : lookup log' = lookup log

theorem Thinned.refl (h : Sized length log) : Thinned length log log := ⟨h, rfl, rfl⟩

/-- An item that has been met again further behind is deleted. -/
theorem Met.retire {tbl : List Byte} (h : Met log (j + 1) tbl) (hsz : Sized length log) (hj : log[j]? = some s)
    (hmem : s.key ∈ tbl) :
    Thinned length log (log.set j (s.become .dead)) ∧ Met (log.set j (s.become .dead)) j tbl := by
  have hdrop : (log.set j (s.become .dead)).drop (j + 1) = log.drop (j + 1) := List.drop_set_of_lt (Nat.lt_succ_self j)
  have hget : (log.set j (s.become .dead))[j]? = some (s.become .dead) :=
    List.getElem?_set_self (List.getElem?_eq_some_iff.mp hj).choose
  refine ⟨⟨?_, List.length_set, ?_⟩, Met.skip ⟨?_, ?_⟩ fun t ht => ?_⟩
  · rw [set_split hj]
    rw [split_at hj] at hsz
    exact hsz.retire .dead
  · rw [set_split hj, lookup_retire ((h.mem s.key).mp hmem), ← split_at hj]
  · rw [hdrop]
    exact h.mem
  · rw [hdrop]
    exact h.distinct
  · rw [hget] at ht
    rw [← Option.some.inj ht]
    exact Status.noConfusion

theorem wp_nvExceptionDataLoop {Q : Unit → Mem → Prop} {tbl : List Byte} (hs : sect < 2) (j : Nat)
    (hj : j ≤ moduleIdxNum id) (hI : Image id sect m log) (hsz : Sized length log) (hmet : Met log j tbl)
    (hC : ∀ m' log', Within id sect m m' → Image id sect m' log' → Thinned length log log' → C m')
    (hQ : ∀ m' log', Within id sect m m' → Image id sect m' log' → Thinned length log log' → Distinct log' → Q () m') :
    wp C (nvExceptionDataLoop true id sect (List.range j).reverse tbl) Q m := by
  have hnow := hC m log (Within.refl id sect m) hI (.refl hsz)
  induction j generalizing m log tbl with
  | zero => exact wp_pure.mpr ⟨hnow, hQ m log (Within.refl id sect m) hI (.refl hsz) hmet.distinct⟩
  | succ j ih =>
      rw [List.range_succ, List.reverse_append, List.reverse_singleton, List.singleton_append, nvExceptionDataLoop]
      refine wp_bind.mpr (wp_get.mpr ⟨hnow, wp_ite.mpr ⟨fun hvalid => ?_, fun hidle => ?_⟩⟩)
      · have hlt : j < log.length := by
          by_contra hge
          rw [(hI.idle (Nat.le_of_not_lt hge) (by omega)).1] at hvalid
          exact Bool.false_ne_true hvalid
        obtain ⟨s, hget⟩ : ∃ s, log[j]? = some s := ⟨_, List.getElem?_eq_getElem hlt⟩
        have hentry := hI.entry j s hget
        have hstate : s.status = .live := by
          rw [hentry, entryOf, itemValidFlagCheck_stateByte] at hvalid
          exact of_decide_eq_true hvalid
        have hsingle : (infoIdxAt m id sect j).usedState = itemFieldValidSingle := by
          rw [hentry, entryOf, hstate]
          rfl
        have hkey : (infoIdxAt m id sect j).itemId = s.key := by rw [hentry, entryOf]
        refine wp_ite.mpr ⟨fun _ => ?_, fun hnot => absurd (Or.inl hsingle) hnot⟩
        rw [hkey]
        refine wp_ite.mpr ⟨fun hmem => ?_, fun hnew => ?_⟩
        · obtain ⟨hthin, hmet'⟩ := hmet.retire hsz hget hmem
          have hlive : s.status ≠ .pending := by
            rw [hstate]
            exact Status.noConfusion
          have hwithin := hI.flag_within hs hget (stateByte .dead)
          have hI' : Image id sect (program m (moduleIdxStart id sect + 8 * j + 7) [stateByte .dead])
              (log.set j (s.become .dead)) :=
            hI.flag hs hget hlive Status.noConfusion (by rw [hstate]; exact retires)
          have hthins : ∀ {log'}, Thinned length (log.set j (s.become .dead)) log' → Thinned length log log' :=
            fun h => ⟨h.sized, h.len.trans hthin.len, h.lookup.trans hthin.lookup⟩
          have hnow' := hC _ _ hwithin hI' hthin
          have haddr : moduleIdxStart id sect + j * sizeofInfoIdx + offsetofUsedState = moduleIdxStart id sect + 8 * j + 7 := by
            rw [sizeofInfoIdx, Nat.mul_comm, offsetofUsedState]
          rw [nvItemDeleteByIndex, haddr]
          refine wp_bind.mpr (wp_flashWrite (PageCut.whole ?_ hnow hnow') (ih (by omega) hI' hthin.sized hmet' ?_ ?_ hnow'))
          · have hpage := Nat.mod_lt (moduleIdxStart id sect + 8 * j + 7) (show 0 < flashPageSize by decide)
            rw [List.length_singleton]
            omega
          · exact fun m' log' hw h ht => hC m' log' (hwithin.trans hw) h (hthins ht)
          · exact fun m' log' hw h ht => hQ m' log' (hwithin.trans hw) h (hthins ht)
        · exact ih (by omega) hI hsz (hmet.take hget hstate hnew) hC hQ hnow
      · refine ih (by omega) hI hsz (hmet.skip fun s hget hlive => hidle ?_) hC hQ hnow
        rw [hI.entry j s hget, entryOf, itemValidFlagCheck_stateByte, hlive]
        rfl

theorem wp_nvExceptionDataHandler {Q : Unit → Mem → Prop} (bufFree : Bool) (hs : sect < 2) (hI : Image id sect m log)
    (hsz : Sized length log)
    (hC : ∀ m' log', Within id sect m m' → Image id sect m' log' → Thinned length log log' → C m')
    (hQ : ∀ m' log', Within id sect m m' → Image id sect m' log' → Thinned length log log' →
      (bufFree → Distinct log') → Q () m') :
    wp C (nvExceptionDataHandler bufFree true sect id) Q m := by
  refine wp_ite.mpr ⟨fun _ => ?_, fun hnot => ?_⟩
  · have hdrop : log.drop (moduleIdxNum id) = [] := List.drop_of_length_le hI.count
    refine wp_nvExceptionDataLoop hs _ (le_refl _) hI hsz ⟨fun key => ?_, ?_⟩ hC
      fun m' log' hw h ht hd => hQ m' log' hw h ht fun _ => hd
    · rw [hdrop]
      simp
    · rw [hdrop]
      exact List.nodup_nil
  · have hnow := hC m log (Within.refl id sect m) hI (.refl hsz)
    exact wp_pure.mpr ⟨hnow, hQ m log (Within.refl id sect m) hI (.refl hsz) fun h => absurd h hnot⟩

/-! ### Copying -/

/-- The sector that is not in use. -/
abbrev otherSect (n : Nat) : Nat := (n + 1) % 2

theorem roomBefore_survivors (k : Byte) (log : List Item) (i : Nat) :
    roomBefore (survivors k (log.take i)) (survivors k (log.take i)).length ≤ roomBefore log i := by
  rw [roomBefore, List.take_length, roomBefore]
  exact (List.filter_sublist.map _).sum_le_sum fun x _ => Nat.zero_le x

theorem length_survivors (k : Byte) (log : List Item) (i : Nat) : (survivors k (log.take i)).length ≤ i :=
  (List.length_filter_le _ _).trans (List.length_take_le _ _)

/-- What survives has room in the other sector. -/
theorem Image.copy_room (hn : n < 2) (hI : Image id n m log) (hi : log[i]? = some s) :
    Room id (otherSect n) (survivors k (log.take i)) s.value.length := by
  have hlt := (List.getElem?_eq_some_iff.mp hi).choose
  have hother : otherSect n < 2 := Nat.mod_lt _ (by decide)
  have hctx := (layout id hn).ctx
  have hend := (layout id hn).sectEnd
  have hctx' := (layout id hother).ctx
  have hend' := (layout id hother).sectEnd
  have hle := hI.item_le hi
  have hcount := hI.count
  have hroom := roomBefore_survivors k log i
  have hnum := length_survivors k log i
  unfold itemAddr at hle
  refine ⟨by omega, ?_⟩
  unfold itemAddr
  omega

theorem survivors_skip (hi : log[i]? = some s) (h : ¬ (s.status = .live ∧ s.key ≠ k)) :
    survivors k (log.take (i + 1)) = survivors k (log.take i) := by
  rw [List.take_add_one, hi, Option.toList_some, survivors_append, survivors, survivors,
    List.filter_cons_of_neg (by simpa using h), List.filter_nil, List.append_nil]

theorem survivors_take (hi : log[i]? = some s) (h : s.status = .live ∧ s.key ≠ k) :
    survivors k (log.take (i + 1)) = survivors k (log.take i) ++ [s] := by
  rw [List.take_add_one, hi, Option.toList_some, survivors_append]
  congr 1
  rw [survivors, List.filter_cons_of_pos (by simpa using h), List.filter_nil]

/-- Where the copying has come to when it has looked at `i` items. -/
structure CopiedTo (id : Module) (n : Nat) (k : Byte) (log : List Item) (i : Nat) (m : Mem) (c : Copied) : Prop where
  image : Image id (otherSect n) m (survivors k (log.take i))
  idx : c.wItemIdx = (survivors k (log.take i)).length
  used : c.sizeusedAddr = bodyAddr id (otherSect n) (survivors k (log.take i))

theorem align4_entry (hs : sect < 2) (hi : log[i]? = some s) :
    align4 (itemAddr id sect log i + itemTotalLen s.value.length) = itemAddr id sect log (i + 1) := by
  rw [align4_add (itemAddr_mod hs log i), itemAddr, itemAddr, roomBefore_succ hi, itemRoom, Nat.add_assoc]

/-- The other sector lies elsewhere. -/
theorem other_apart (id : Module) (hn : n < 2) : moduleSectEnd id n ≤ moduleSectStart id (otherSect n) ∨
    moduleSectEnd id (otherSect n) ≤ moduleSectStart id n := by
  obtain ⟨h01, hend, hsect, hpos⟩ := sectors id
  have hcases : n = 0 ∨ n = 1 := by omega
  rcases hcases with rfl | rfl
  · exact Or.inl h01.le
  · exact Or.inr h01.le

theorem Image.elsewhere (hn : n < 2) (hI : Image id n m log) (hw : Within id (otherSect n) m m') : Image id n m' log := by
  have hidx := (layout id hn).idxStart
  have hidx' := (layout id (show otherSect n < 2 from Nat.mod_lt _ (by decide))).idxStart
  have hapart := other_apart id hn
  exact hI.congr hn fun x hl hr => hw x (by omega)

/-- The item is copied. -/
theorem CopiedTo.take {c : Copied} (hto : CopiedTo id n k log i m c) (hi : log[i]? = some s)
    (h : s.status = .live ∧ s.key ≠ k) (hI : Image id (otherSect n) m' (survivors k (log.take i) ++ [s])) (prev : Option (Nat × Nat)) :
    CopiedTo id n k log (i + 1) m'
      ⟨c.wItemIdx + 1, align4 (c.sizeusedAddr + (entryOf (itemAddr id n log i) s).size), prev⟩ := by
  have hlast : bodyAddr id (otherSect n) (survivors k (log.take i) ++ [s]) =
      bodyAddr id (otherSect n) (survivors k (log.take i)) + itemRoom s.value := by
    rw [bodyAddr, List.length_append, List.length_singleton, itemAddr_next, bodyAddr]
  refine ⟨?_, ?_, ?_⟩
  · rwa [survivors_take hi h]
  · rw [survivors_take hi h, List.length_append, List.length_singleton, hto.idx]
  · rw [survivors_take hi h, hlast, hto.used, bodyAddr, align4_add (itemAddr_mod (Nat.mod_lt _ (by decide)) _ _)]
    rfl

theorem CopiedTo.skip {c : Copied} (hto : CopiedTo id n k log i m c) (hi : log[i]? = some s)
    (h : ¬ (s.status = .live ∧ s.key ≠ k)) (prev : Option (Nat × Nat)) :
    CopiedTo id n k log (i + 1) m { c with prev := prev } := by
  refine ⟨?_, ?_, ?_⟩
  · rw [survivors_skip hi h]
    exact hto.image
  · rw [survivors_skip hi h]
    exact hto.idx
  · rw [survivors_skip hi h]
    exact hto.used

/-- A complete item can be copied to the other sector. -/
theorem Image.carries (hn : n < 2) (hI : Image id n m log) (hi : log[i]? = some s) (hlive : s.status = .live) :
    Carries m id (otherSect n) s.key s.value (.flash (itemAddr id n log i)) := by
  have hbody := hI.body i s hi
  have hle := hI.item_le hi
  have hge := ctx_le_itemAddr id n log i
  have hidx := (layout id hn).idxStart
  have hidxEnd := (layout id hn).idxEnd
  have hidx' := (layout id (show otherSect n < 2 from Nat.mod_lt _ (by decide))).idxStart
  have hapart := other_apart id hn
  rw [BodyHolds, if_neg (by rw [hlive]; exact Status.noConfusion)] at hbody
  exact .flash _ s.status hbody.1 hbody.2 (by omega)

theorem wp_nvCopyItems {Q : Except NvSts Copied → Mem → Prop} (hn : n < 2) (d i : Nat) (c : Copied)
    (hd : i + d = moduleIdxNum id) (hi : i ≤ log.length) (hI : Image id n m log) (hto : CopiedTo id n k log i m c)
    (hexp : c.expected id n = itemAddr id n log i) (hC : ∀ m', Within id (otherSect n) m m' → C m')
    (hQ : ∀ m' c', Within id (otherSect n) m m' → CopiedTo id n k log log.length m' c' → Q (.ok c') m') :
    wp C (nvCopyItems true id k n (otherSect n) (List.range' i d) c) Q m := by
  have hnow : C m := hC m (Within.refl id (otherSect n) m)
  induction d generalizing m i c with
  | zero =>
      have hcount := hI.count
      have hlast : i = log.length := by omega
      subst hlast
      exact wp_pure.mpr ⟨hnow, hQ m c (Within.refl id (otherSect n) m) hto⟩
  | succ d ih =>
      rw [List.range'_succ, nvCopyItems]
      refine wp_bind.mpr (wp_get.mpr ⟨hnow, ?_⟩)
      have hend := (layout id hn).sectEnd_lt
      have hsmall := (layout id hn).small
      have hge := ctx_le_itemAddr id n log i
      rcases Nat.lt_or_ge i log.length with hlt | hover
      · obtain ⟨s, hget⟩ : ∃ s, log[i]? = some s := ⟨_, List.getElem?_eq_getElem hlt⟩
        have hentry := hI.entry i s hget
        have hle := hI.item_le hget
        have hlen := hI.length_lt hn hget
        have hnext : align4 (itemAddr id n log i + itemTotalLen s.value.length) = itemAddr id n log (i + 1) :=
          align4_entry hn hget
        refine wp_ite.mpr ⟨fun hstop => ?_, fun _ => ?_⟩
        · exfalso
          rw [hexp, hentry] at hstop
          simp only [entryOf, itemTotalLen, sizeofItemHdr] at hstop
          omega
        · rw [hentry]
          refine wp_ite.mpr ⟨fun hcopy => ?_, fun hskip => ?_⟩
          · have hlive : s.status = .live := by
              have hvalid := hcopy.1
              rw [entryOf, itemValidFlagCheck_stateByte] at hvalid
              exact of_decide_eq_true hvalid
            have hkey : s.key ≠ k := hcopy.2.1.resolve_right (not_not.mpr rfl)
            have hitem : (⟨(entryOf (itemAddr id n log i) s).itemId, s.value, .live⟩ : Item) = s := by
              rw [entryOf, ← hlive]
            have hsgl : ((entryOf (itemAddr id n log i) s).usedState == itemFieldValidSingle) = true := by
              rw [entryOf, hlive]
              rfl
            have hsize : payloadLen (entryOf (itemAddr id n log i) s) % 2 ^ 16 = s.value.length := by
              rw [payloadLen_entryOf hlen, Nat.mod_eq_of_lt hlen]
            simp only [hsgl, hsize, hto.idx]
            refine wp_bind.mpr (wp_nvWriteItem (Nat.mod_lt _ (by decide)) hto.image (hI.copy_room hn hget)
              (hI.carries hn hget hlive) (fun m' hw _ => hC m' hw) fun m' hw hI' => ?_)
            rw [hitem] at hI'
            have hto' := hto.take hget ⟨hlive, hkey⟩ hI' (some (itemAddr id n log i, itemTotalLen s.value.length))
            rw [hto.idx] at hto'
            exact ih (i + 1) _ (by omega) hlt (hI.elsewhere hn hw) hto' hnext (fun m₂ hw₂ => hC m₂ (hw.trans hw₂))
              (fun m₂ c' hw₂ => hQ m₂ c' (hw.trans hw₂)) (hC m' hw)
          · refine ih (i + 1) _ (by omega) hlt hI (hto.skip hget (fun h => hskip ?_) _) hnext hC hQ hnow
            refine ⟨?_, Or.inl h.2, idxCheck_entryOf (hI.body i s hget)⟩
            rw [entryOf, itemValidFlagCheck_stateByte, h.1]
            rfl
      · have hlast : i = log.length := by omega
        subst hlast
        have hstop : wp C (pure (.ok c) : Driver _) Q m := wp_pure.mpr ⟨hnow, hQ m c (Within.refl id (otherSect n) m) hto⟩
        refine wp_ite.mpr ⟨fun _ => hstop, fun hgo => ?_⟩
        exfalso
        have hsize := (hI.idle (le_refl _) (by omega)).2.2
        rw [hexp, hsize] at hgo
        have hroom := hI.room
        omega

/-! ### The whole move -/

/-- Only the other sector changes. -/
def Aside (id : Module) (n : Nat) (m m' : Mem) : Prop :=
  ∀ x, x < moduleSectStart id (otherSect n) ∨ moduleSectEnd id (otherSect n) ≤ x → m' x = m x

theorem Aside.refl (id : Module) (n : Nat) (m : Mem) : Aside id n m m := fun _ _ => rfl

theorem otherSect_lt (n : Nat) : otherSect n < 2 := Nat.mod_lt _ (by decide)

theorem Within.aside (hw : Within id (otherSect n) m m') : Aside id n m m' := by
  have hidx := (layout id (otherSect_lt n)).idxStart
  exact fun x hx => hw x (by omega)

theorem Aside.outside (hn : n < 2) (ha : Aside id n m m') : Outside id m m' := by
  obtain ⟨h01, hend, hsect, hpos⟩ := sectors id
  have hcases : n = 0 ∨ n = 1 := by omega
  intro x hx
  apply ha x
  rcases hcases with rfl | rfl
  · have hother : otherSect 0 = 1 := rfl
    rw [hother]
    omega
  · have hother : otherSect 1 = 0 := rfl
    rw [hother]
    omega

/-- The sector in use stays in use as long as no header in front of it is taken for one in use. -/
theorem Opened.aside (ho : Opened length id m nvSectorValidCheckCrc n log) (ha : Aside id n m m')
    (hrej : n = 1 → Rejected (sectInfoAt m' id 0) id) : Opened length id m' nvSectorValidCheckCrc n log := by
  have hn := ho.lt
  have hapart := other_apart id hn
  have hidx := (layout id hn).idxStart
  have hidxEnd := (layout id hn).idxEnd
  have hctx := (layout id hn).ctx_lt
  refine ⟨⟨hn, ?_, ho.image.congr hn fun x hl hr => ha x (by omega), ho.ne, ho.sized⟩, hrej⟩
  have hsame : sectInfoAt m' id n = sectInfoAt m id n := readSectInfo_congr fun x hl hr => ha x (by omega)
  rw [hsame, ho.header]

/-- The other sector has no header. -/
def Blank (m : Mem) (id : Module) (n : Nat) : Prop := Erased m (moduleSectStart id (otherSect n)) 4

theorem Opened.blank (ho : Opened length id m nvSectorValidCheckCrc n log) (ha : Aside id n m m') (hb : Blank m' id n) :
    Opened length id m' nvSectorValidCheckCrc n log := by
  apply ho.aside ha
  intro h1
  subst h1
  exact rejected_erased hb

theorem Blank.within (hb : Blank m id n) (hw : Within id (otherSect n) m m') : Blank m' id n := by
  have hidx := (layout id (otherSect_lt n)).idxStart
  exact hb.congr fun x hl hr => hw x (Or.inl (by omega))

/-- Erasing the other sector. -/
theorem wp_eraseOther {Q : Unit → Mem → Prop} (ho : Opened length id m nvSectorValidCheckCrc n log)
    (hC : ∀ m', Aside id n m m' → Opened length id m' nvSectorValidCheckCrc n log → C m')
    (hQ : ∀ m', Aside id n m m' → Opened length id m' nvSectorValidCheckCrc n log →
      Erased m' (moduleSectStart id (otherSect n)) (nvSectorSize id) → Q () m') :
    wp C (nvSectorErase id (otherSect n) (nvRealSectNum id)) Q m := by
  have hl := layout id (otherSect_lt n)
  have hend := hl.sectEnd
  have hpieces := hl.pieces
  have haside : ∀ l ≤ nvSectorSize id, Aside id n m (erase m (moduleSectStart id (otherSect n)) l) :=
    fun l hle x hx => erase_outside (by omega)
  have hopened : ∀ l ≤ nvSectorSize id, 4 ≤ l →
      Opened length id (erase m (moduleSectStart id (otherSect n)) l) nvSectorValidCheckCrc n log :=
    fun l hle h4 => ho.blank (haside l hle) fun x hx₁ hx₂ => erase_inside hx₁ (by omega)
  have hsize : 4 ≤ nvSectorSize id := by
    cases id <;> decide
  refine wp_nvSectorErase id (otherSect_lt n) _ (fun j hj => ?_) ?_
  · have hmul : flashSectorSize * j ≤ nvSectorSize id := hpieces ▸ Nat.mul_le_mul_left _ hj
    rcases Nat.eq_zero_or_pos j with rfl | hpos
    · have hnone : erase m (moduleSectStart id (otherSect n)) (flashSectorSize * 0) = m :=
        funext fun x => erase_outside (by omega)
      rw [hnone]
      exact hC m (Aside.refl id n m) ho
    · have h4 : 4 ≤ flashSectorSize * j := by
        unfold flashSectorSize
        omega
      exact hC _ (haside _ hmul) (hopened _ hmul h4)
  · rw [← hpieces]
    exact hQ _ (haside _ (le_refl _)) (hopened _ (le_refl _) hsize) (erased_erase m _ _)

/-- What the move keeps of some log of the store leaves no room for the item; with a buffer no item is in the log
twice. -/
def NoRoom (length : Byte → Nat) (id : Module) (bufFree : Bool) (k : Byte) (σ : Byte → Option (List Byte)) : Prop :=
  ∃ n log, n < 2 ∧ lookup log = σ ∧ Sized length log ∧ (bufFree → Distinct log) ∧
    ((survivors k log).length = moduleIdxNum id ∨
      moduleSectEnd id n < bodyAddr id n (survivors k log) + itemTotalLen (length k))

theorem CopiedTo.all {c : Copied} (h : CopiedTo id n k log log.length m c) :
    Image id (otherSect n) m (survivors k log) ∧ c.wItemIdx = (survivors k log).length ∧
      c.sizeusedAddr = bodyAddr id (otherSect n) (survivors k log) := by
  have htake : log.take log.length = log := List.take_length
  exact ⟨htake ▸ h.image, htake ▸ h.idx, htake ▸ h.used⟩

theorem wp_nvMoveItems {Q : NvSts → Mem → Prop} (bufFree : Bool) (ho : Opened length id m nvSectorValidCheckCrc n log)
    (hv : v.length = length k) (hid : k ≠ itemFieldIdle)
    (hC : ∀ m', Outside id m m' →
      (Repr length id m' (lookup log) ∨ Repr length id m' (Function.update (lookup log) k (some v))) → C m')
    (hQ : ∀ m', Outside id m m' → Repr length id m' (Function.update (lookup log) k (some v)) → Q .succ m')
    (hfull : ∀ m', Outside id m m' → Repr length id m' (lookup log) → NoRoom length id bufFree k (lookup log) →
      Q .notEnoughSapce m') :
    wp C (nvMoveItems bufFree true id k n v) Q m := by
  have hn := ho.lt
  have hother := otherSect_lt n
  have hidx := (layout id hn).idxStart
  have hapart := other_apart id hn
  have hend' := (layout id hother).sectEnd
  have hsize : 4 ≤ nvSectorSize id := by
    cases id <;> decide
  refine wp_bind.mpr (wp_eraseOther ho (fun m' ha ho' => hC m' (ha.outside hn) (Or.inl (.active n log ho' rfl)))
    fun m₁ ha₁ ho₁ herased₁ => ?_)
  have hout₁ := ha₁.outside hn
  -- the older items are deleted in the sector in use
  have hthin : ∀ {m' log'}, Within id n m₁ m' → Image id n m' log' → Thinned length log log' →
      Opened length id m' nvSectorValidCheckCrc n log' := by
    intro m' log' hw hI ht
    refine ho₁.within hw hI ht.sized fun hnil => ho.ne (List.eq_nil_of_length_eq_zero ?_)
    rw [← ht.len, hnil, List.length_nil]
  refine wp_bind.mpr (wp_nvExceptionDataHandler bufFree hn ho₁.image ho.sized (fun m' log' hw hI ht => ?_)
    fun m₂ log₂ hw₂ hI₂ ht₂ hd₂ => ?_)
  · exact hC m' (hout₁.trans (hw.outside hn)) (Or.inl (.active n log' (hthin hw hI ht) ht.lookup))
  have ho₂ := hthin hw₂ hI₂ ht₂
  have hout₂ := hout₁.trans (hw₂.outside hn)
  have herased₂ : Erased m₂ (moduleSectStart id (otherSect n)) (nvSectorSize id) :=
    herased₁.congr fun x hx₁ hx₂ => hw₂ x (by omega)
  have hblank₂ : Blank m₂ id n := herased₂.mono (le_refl _) (Nat.add_le_add_left hsize _)
  have hcheck : nvSectInfoCheck m₂ n id = true := by
    have hheader : readSectInfo m₂ (moduleSectStart id n) = usedSectInfo nvSectorValidCheckCrc id n := ho₂.header
    rw [nvSectInfoCheck, hheader]
    exact Bool.or_eq_true_iff.mpr (Or.inr (beq_self_eq_true _))
  -- what is written to the other sector does not count yet
  have hstill : ∀ {m'}, Within id (otherSect n) m₂ m' → Opened length id m' nvSectorValidCheckCrc n log₂ ∧ Outside id m m' :=
    fun hw => ⟨ho₂.blank hw.aside (hblank₂.within hw), hout₂.trans (hw.aside.outside hn)⟩
  have hsafe : ∀ {m'}, Within id (otherSect n) m₂ m' → C m' := fun hw =>
    hC _ (hstill hw).2 (Or.inl (.active n log₂ (hstill hw).1 ht₂.lookup))
  refine wp_bind.mpr (wp_get.mpr ⟨hsafe (Within.refl id (otherSect n) m₂), ?_⟩)
  simp only [hcheck, if_true, List.range_eq_range']
  have hstart : CopiedTo id n k log₂ 0 m₂ ⟨0, moduleContextStart id (otherSect n), none⟩ :=
    ⟨image_nil hother herased₂, rfl, rfl⟩
  refine wp_bind.mpr (wp_nvCopyItems hn _ 0 _ (Nat.zero_add _) (Nat.zero_le _) hI₂ hstart rfl (fun m' hw => hsafe hw)
    fun m₃ c hw₃ hto => ?_)
  obtain ⟨hI₃, hnum, hused⟩ := hto.all
  obtain ⟨ho₃, hout₃⟩ := hstill hw₃
  refine wp_ite.mpr ⟨fun hno => ?_, fun hroom => ?_⟩
  · rw [hnum, hused, hv] at hno
    exact wp_pure.mpr ⟨hsafe hw₃, hfull m₃ hout₃ (.active n log₂ ho₃ ht₂.lookup)
      ⟨otherSect n, log₂, hother, ht₂.lookup, ht₂.sized, hd₂, hno⟩⟩
  · have hcount := hI₃.count
    have hr : Room id (otherSect n) (survivors k log₂) v.length := by
      rw [hnum, hused, itemTotalLen, sizeofItemHdr] at hroom
      have haddr : bodyAddr id (otherSect n) (survivors k log₂) =
        itemAddr id (otherSect n) (survivors k log₂) (survivors k log₂).length := rfl
      change ¬ (_ ∨ moduleSectEnd id (otherSect n) < _) at hroom
      exact ⟨by omega, by omega⟩
    have hsz₃ : Sized length (survivors k log₂) := fun s hs => ht₂.sized s (mem_survivors.mp hs).1
    rw [hnum]
    refine wp_bind.mpr (wp_nvPutItem hother hI₃ hr hsz₃ hv hid (fun m' log' hw _ _ => hsafe (hw₃.trans hw))
      fun m₄ log₄ hw₄ hI₄ hsz₄ hne₄ hlog₄ => ?_)
    obtain ⟨ho₄, hout₄⟩ := hstill (hw₃.trans hw₄)
    have hlook : lookup log₄ = Function.update (lookup log) k (some v) := by
      rw [hlog₄, lookup_survivors, Function.update_idem, ht₂.lookup]
    refine wp_nvSwitchSector ho₄ (hblank₂.within (hw₃.trans hw₄)) hI₄ hsz₄ hne₄ (fun m' hout h => ?_) fun m' hout h => ?_
    · rw [ht₂.lookup, hlook] at h
      exact hC m' (hout₄.trans hout) h
    · rw [hlook] at h
      exact hQ m' (hout₄.trans hout) h

/-! ### A write -/

/-- The place for the next item: behind the last one, unless it is known that there is none. -/
theorem nvFreeItemIdx_cases (hI : Image id sect m log) (hne : log ≠ []) (len : Nat) :
    nvFreeItemIdx m id sect len = none ∨ nvFreeItemIdx m id sect len = some log.length ∧ log.length < moduleIdxNum id := by
  have hpos := List.length_pos_of_ne_nil hne
  have hcount := hI.count
  obtain ⟨s, hget⟩ : ∃ s, log[log.length - 1]? = some s := ⟨_, List.getElem?_eq_getElem (by omega)⟩
  rw [nvFreeItemIdx, nvIndexRead_idle hI hne]
  simp only [hI.entry _ s hget, hI.oftCheck hget]
  split
  · exact Or.inl rfl
  · next hfree =>
      have hflag : itemFlagCheck (entryOf (itemAddr id sect log (log.length - 1)) s).usedState = true := itemFlagCheck_stateByte _
      rw [if_pos ⟨hflag, trivial⟩, Nat.sub_add_cancel hpos]
      exact Or.inr ⟨rfl, by omega⟩

/-- Without room nothing is written. -/
theorem wp_nvAppendItem_full {Q : NvSts → Mem → Prop} (hs : sect < 2) (hI : Image id sect m log)
    (hlen : v.length + 8 < 2 ^ 16) (hfull : moduleSectEnd id sect < bodyAddr id sect log + (v.length + 8)) (hC : C m)
    (hQ : Q .itemCheckError m) : wp C (nvAppendItem true id k sect log.length v) Q m := by
  have hsize : itemTotalLen v.length % 2 ^ 16 = itemTotalLen v.length := Nat.mod_eq_of_lt hlen
  have hoft : itemOftCheck (bodyAddr id sect log) (itemTotalLen v.length) id sect = false := by
    unfold itemOftCheck itemTotalLen sizeofItemHdr
    simp only [Bool.and_eq_false_iff, decide_eq_false_iff_not]
    omega
  refine wp_bind.mpr (wp_bind.mpr (wp_get.mpr ⟨hC, wp_bind.mpr (wp_bind.mpr (wp_get.mpr ⟨hC, ?_⟩))⟩))
  rw [nvItemOffset_eq hs hI]
  simp only [hsize, hoft, Bool.false_eq_true, if_false]
  exact wp_pure.mpr ⟨hC, wp_pure.mpr ⟨hC, wp_pure.mpr ⟨hC, hQ⟩⟩⟩

/-- Erasing the first sector of a module that holds nothing. -/
theorem wp_eraseFirst {Q : Unit → Mem → Prop} (hrej : ∀ n < 2, Rejected (sectInfoAt m id n) id)
    (hC : ∀ m', Outside id m m' → (∀ n < 2, Rejected (sectInfoAt m' id n) id) → C m')
    (hQ : ∀ m', Outside id m m' → (∀ n < 2, Rejected (sectInfoAt m' id n) id) →
      Erased m' (moduleSectStart id 0) (nvSectorSize id) → Q () m') :
    wp C (nvSectorErase id 0 (nvRealSectNum id)) Q m := by
  obtain ⟨h01, hend, hsect, hpos⟩ := sectors id
  have hpieces := (layout id (show 0 < 2 by decide)).pieces
  have hsize : 4 ≤ nvSectorSize id := by
    cases id <;> decide
  have hout : ∀ l ≤ nvSectorSize id, Outside id m (erase m (moduleSectStart id 0) l) :=
    fun l hle x hx => erase_outside (by omega)
  have hboth : ∀ l ≤ nvSectorSize id, 4 ≤ l → ∀ n < 2, Rejected (sectInfoAt (erase m (moduleSectStart id 0) l) id n) id := by
    intro l hle h4 n hn
    have hcases : n = 0 ∨ n = 1 := by omega
    rcases hcases with rfl | rfl
    · exact rejected_erased fun x hx₁ hx₂ => erase_inside hx₁ (by omega)
    · have hsame : sectInfoAt (erase m (moduleSectStart id 0) l) id 1 = sectInfoAt m id 1 :=
        readSectInfo_congr fun x hx₁ hx₂ => erase_outside (by omega)
      rw [hsame]
      exact hrej 1 hn
  refine wp_nvSectorErase id (by decide) _ (fun j hj => ?_) ?_
  · have hmul : flashSectorSize * j ≤ nvSectorSize id := hpieces ▸ Nat.mul_le_mul_left _ hj
    rcases Nat.eq_zero_or_pos j with rfl | hjpos
    · have hnone : erase m (moduleSectStart id 0) (flashSectorSize * 0) = m :=
        funext fun x => erase_outside (by omega)
      rw [hnone]
      exact hC m (Outside.refl id m) hrej
    · have h4 : 4 ≤ flashSectorSize * j := by
        unfold flashSectorSize
        omega
      exact hC _ (hout _ hmul) (hboth _ hmul h4)
  · rw [← hpieces]
    exact hQ _ (hout _ (le_refl _)) (hboth _ (le_refl _) hsize) (erased_erase m _ _)

/-- Why a write is refused: the item is too long for a sector, or with the others. -/
def Refused (length : Byte → Nat) (id : Module) (bufFree : Bool) (k : Byte) (σ : Byte → Option (List Byte)) : Prop :=
  nvSectorSize id < itemTotalLen (length k) + moduleInfoSize id ∨ NoRoom length id bufFree k σ

section Write

variable {Q : NvSts → Mem → Prop} (bufFree : Bool) (hv : v.length = length k) (hid : k ≠ itemFieldIdle)
  (hC : ∀ m', Outside id m m' → (Repr length id m' σ ∨ Repr length id m' (Function.update σ k (some v))) → C m')
  (hQ : ∀ m', Outside id m m' → Repr length id m' (Function.update σ k (some v)) → Q .succ m')
  (hno : ∀ m', Outside id m m' → Repr length id m' σ → Refused length id bufFree k σ → Q .notEnoughSapce m')
include hv hid hC hQ hno

theorem wp_handler_force (ho : Opened length id m nvSectorValidCheckCrc n log) (hσ : lookup log = σ) :
    wp C (nvFlashWriteNewHandler bufFree true true id k v) Q m := by
  have hm : Repr length id m σ := .active n log ho hσ
  refine wp_ite.mpr ⟨fun hlong => ?_, fun _ => ?_⟩
  · rw [hv] at hlong
    exact wp_pure.mpr ⟨hC m (Outside.refl id m) (Or.inl hm), hno m (Outside.refl id m) hm (Or.inl hlong)⟩
  refine wp_bind.mpr (wp_nvSectorRead hm (fun m' hout h => hC m' hout (Or.inl h)) (fun hrej _ => ?_)
    fun n₁ log₁ m₁ hout₁ ho₁ hσ₁ => ?_)
  · exfalso
    have hused := hrej n ho.lt
    rw [ho.header] at hused
    exact hused.2 ⟨show nvSectorValidCheckCrc ≠ nvSectorValidReadyCheckCrc by decide,
      Bool.or_eq_true_iff.mpr (Or.inr (beq_self_eq_true _)), usedSectInfo_idName _ id n, fun _ => usedSectInfo_crc _ id ho.lt⟩
  · have hnow : C m₁ := hC m₁ hout₁ (Or.inl (.active n₁ log₁ ho₁ hσ₁))
    subst hσ₁
    refine wp_bind.mpr (wp_pure.mpr ⟨hnow, wp_bind.mpr (wp_get.mpr ⟨hnow, ?_⟩)⟩)
    exact wp_nvMoveItems bufFree ho₁ hv hid (fun m' h => hC m' (hout₁.trans h)) (fun m' h => hQ m' (hout₁.trans h))
      fun m' h hr hn => hno m' (hout₁.trans h) hr (Or.inr hn)

/-- A write that does not force a change of sectors may find in the end that there is no room in the one in use. -/
theorem wp_handler (h : Repr length id m σ)
    (hcheck : ∀ n log m', Outside id m m' → Opened length id m' nvSectorValidCheckCrc n log → lookup log = σ →
      Q .itemCheckError m') :
    wp C (nvFlashWriteNewHandler bufFree false true id k v) Q m := by
  refine wp_ite.mpr ⟨fun hlong => ?_, fun hfits => ?_⟩
  · rw [hv] at hlong
    exact wp_pure.mpr ⟨hC m (Outside.refl id m) (Or.inl h), hno m (Outside.refl id m) h (Or.inl hlong)⟩
  have hl0 := layout id (show 0 < 2 by decide)
  have hend0 := hl0.sectEnd
  have hctx0 := hl0.ctx
  have hsmall := hl0.small
  unfold itemTotalLen sizeofItemHdr at hfits
  refine wp_bind.mpr (wp_nvSectorRead h (fun m' hout h => hC m' hout (Or.inl h)) (fun hrej hσ => ?_)
    fun n log m₁ hout₁ ho hσ => ?_)
  · -- the first item of the module
    subst hσ
    refine wp_bind.mpr (wp_eraseFirst hrej (fun m' hout hr => hC m' hout (Or.inl (.empty hr rfl)))
      fun m₁ hout₁ hrej₁ herased => ?_)
    have hnow := hC m₁ hout₁ (Or.inl (.empty hrej₁ rfl))
    have hroom : Room id 0 [] v.length := by
      have haddr : itemAddr id 0 [] 0 = moduleContextStart id 0 := rfl
      refine ⟨hl0.idxNum, ?_⟩
      rw [List.length_nil, haddr]
      omega
    have hfree : nvFreeItemIdx m₁ id 0 v.length = some 0 := by
      rw [nvFreeItemIdx, nvIndexRead_nil (image_nil (by decide) herased)]
    refine wp_bind.mpr (wp_pure.mpr ⟨hnow, wp_bind.mpr (wp_get.mpr ⟨hnow, ?_⟩)⟩)
    rw [if_neg Bool.false_ne_true, hfree]
    exact wp_nvAppendItem_first herased (hrej₁ 1 (by decide)) hroom hv hid (fun m' h => hC m' (hout₁.trans h))
      fun m' h => hQ m' (hout₁.trans h)
  · have hm₁ : Repr length id m₁ σ := .active n log ho hσ
    have hnow : C m₁ := hC m₁ hout₁ (Or.inl hm₁)
    refine wp_bind.mpr (wp_pure.mpr ⟨hnow, wp_bind.mpr (wp_get.mpr ⟨hnow, ?_⟩)⟩)
    rcases nvFreeItemIdx_cases ho.image ho.ne v.length with hnone | ⟨hsome, hnum⟩
    · subst hσ
      rw [if_neg Bool.false_ne_true, hnone]
      exact wp_nvMoveItems bufFree ho hv hid (fun m' h => hC m' (hout₁.trans h)) (fun m' h => hQ m' (hout₁.trans h))
        fun m' h hr hn => hno m' (hout₁.trans h) hr (Or.inr hn)
    · rw [if_neg Bool.false_ne_true, hsome]
      rcases Nat.lt_or_ge (moduleSectEnd id n) (bodyAddr id n log + (v.length + 8)) with hfull | hspace
      · exact wp_nvAppendItem_full ho.lt ho.image (by omega) hfull hnow (hcheck n log m₁ hout₁ ho hσ)
      · subst hσ
        exact wp_nvAppendItem ho ⟨hnum, hspace⟩ hv hid (fun m' h => hC m' (hout₁.trans h)) fun m' h => hQ m' (hout₁.trans h)

/-- `nv_flashWriteNew`: the item is written or refused, and wherever the power fails the module holds what it held
before, or that with the new item. -/
theorem wp_nvFlashWriteNew (h : Repr length id m σ) (hmod : id ≠ .nwkFrameCount) :
    wp C (nvFlashWriteNew bufFree true id k v) Q m := by
  refine wp_ite.mpr ⟨fun heq => absurd heq hmod, fun _ => ?_⟩
  refine wp_bind.mpr (wp_handler bufFree hv hid hC ?_ ?_ h ?_)
  · exact fun m' hout hr => wp_pure.mpr ⟨hC m' hout (Or.inr hr), hQ m' hout hr⟩
  · exact fun m' hout hr hn => wp_pure.mpr ⟨hC m' hout (Or.inl hr), hno m' hout hr hn⟩
  · exact fun n log m' hout ho hσ => wp_handler_force bufFree hv hid (fun m₂ h₂ => hC m₂ (hout.trans h₂))
      (fun m₂ h₂ => hQ m₂ (hout.trans h₂)) (fun m₂ h₂ => hno m₂ (hout.trans h₂)) ho hσ

end Write

end Watermeter.Nv
