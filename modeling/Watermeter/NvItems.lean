import Watermeter.NvImage

/-! What the driver finds in a sector that holds a log, and how `nv_write_item` adds an item to it. -/

namespace Watermeter.Nv

open NorFlash CrashLogic SlotLog

variable {m m' : Mem} {id : Module} {sect i len offset : Nat} {log : List Item} {s : Item} {k : Byte} {v : List Byte}

/-! ### Checksums -/

theorem xcrc32_append (xs ys : List Byte) (c : BitVec 32) : xcrc32 (xs ++ ys) c = xcrc32 ys (xcrc32 xs c) := List.foldl_append

theorem getLsbD_lowerHalf (i : Nat) : (0xffff#32).getLsbD i = decide (i < 16) := by
  have hones : (0xffff#32) = (BitVec.allOnes 16).setWidth 32 := by decide
  rw [hones, BitVec.getLsbD_setWidth, BitVec.getLsbD_allOnes]
  grind

theorem itemCheckSum_low (idx : InfoIdx) (crc : BitVec 32) : itemCheckSum idx crc &&& 0xffff#32 = crc &&& 0xffff#32 := by
  unfold itemCheckSum
  apply BitVec.eq_of_getLsbD_eq
  intro i hi
  simp only [BitVec.getLsbD_and, BitVec.getLsbD_or, BitVec.getLsbD_shiftLeft, getLsbD_lowerHalf]
  grind

theorem itemCheckSum_high (idx : InfoIdx) (crc : BitVec 32) :
    (itemCheckSum idx crc >>> 16) &&& 0xffff#32 = xcrc32 idx.covered 0xffffffff#32 &&& 0xffff#32 := by
  unfold itemCheckSum
  apply BitVec.eq_of_getLsbD_eq
  intro i hi
  simp only [BitVec.getLsbD_and, BitVec.getLsbD_or, BitVec.getLsbD_shiftLeft, BitVec.getLsbD_ushiftRight,
    getLsbD_lowerHalf]
  grind

/-! ### The index -/

/-- Of what passes a test, the last is found. -/
theorem find?_reverse_range {n : Nat} {p : Nat → Bool} (hi : i < n) (hp : p i) (hlast : ∀ j, i < j → j < n → p j = false) :
    (List.range n).reverse.find? p = some i := by
  induction n with
  | zero => omega
  | succ n ih =>
      rw [List.range_succ, List.reverse_append, List.reverse_singleton, List.singleton_append, List.find?_cons]
      rcases Nat.lt_or_ge i n with hlt | hge
      · rw [hlast n hlt n.lt_succ_self]
        exact ih hlt fun j hij hj => hlast j hij (by omega)
      · have hin : i = n := by omega
        rw [← hin, hp]

theorem find?_reverse_range_none {n : Nat} {p : Nat → Bool} (h : ∀ j < n, p j = false) :
    (List.range n).reverse.find? p = none := by
  rw [List.find?_eq_none]
  intro j hj
  rw [h j (List.mem_range.mp (List.mem_reverse.mp hj))]
  exact Bool.false_ne_true

theorem read_two_erased {a : Nat} (h : Erased m a 2) : PyStruct.fromBytes (read m a 2) = 0xffff := by
  rw [read_of_erased h]
  rfl

/-- Behind the log the index is idle. -/
theorem Image.idle (hI : Image id sect m log) (hge : log.length ≤ i) (hlt : i < moduleIdxNum id) :
    (infoIdxAt m id sect i).usedState = itemFieldIdle ∧ (infoIdxAt m id sect i).itemId = itemFieldIdle ∧
      (infoIdxAt m id sect i).size = 0xffff := by
  have hblank : ∀ x, moduleIdxStart id sect + 8 * i + 4 ≤ x → x < moduleIdxStart id sect + 8 * i + 8 → m x = 0xFF#8 :=
    fun x hl hr => hI.index x (by omega) (by omega)
  rw [infoIdxAt_eq]
  exact ⟨hblank _ (by omega) (by omega), hblank _ (by omega) (by omega),
    read_two_erased fun x hl hr => hblank x hl (by omega)⟩

theorem itemValidFlagCheck_stateByte (st : Status) : itemValidFlagCheck (stateByte st) = decide (st = .live) := by
  cases st <;> rfl

theorem itemFlagCheck_stateByte (st : Status) : itemFlagCheck (stateByte st) = true := by
  cases st <;> rfl

theorem stateByte_ne_idle (st : Status) : stateByte st ≠ itemFieldIdle := by
  cases st <;> decide

theorem nvIndexRead_nil (hI : Image id sect m []) (len : Nat) : nvIndexRead m id itemFieldIdle len sect = none := by
  refine find?_reverse_range_none fun j hj => ?_
  obtain ⟨hstate, hitem, hsize⟩ := hI.idle (Nat.zero_le j) hj
  simp [idxMatches, hstate, hitem, hsize]

/-- The last entry that is not idle is that of the last item. -/
theorem nvIndexRead_idle (hI : Image id sect m log) (hne : log ≠ []) (len : Nat) :
    nvIndexRead m id itemFieldIdle len sect = some (log.length - 1) := by
  have hpos := List.length_pos_of_ne_nil hne
  have hcount := hI.count
  refine find?_reverse_range (by omega) ?_ fun j hj hlt => ?_
  · have hget : log[log.length - 1]? = some (log.get ⟨log.length - 1, by omega⟩) := List.getElem?_eq_getElem (by omega)
    have hstate : (infoIdxAt m id sect (log.length - 1)).usedState ≠ itemFieldIdle := by
      rw [hI.entry _ _ hget]
      exact stateByte_ne_idle _
    simp [idxMatches, hstate]
  · obtain ⟨hstate, hitem, hsize⟩ := hI.idle (show log.length ≤ j by omega) hlt
    simp [idxMatches, hstate, hitem, hsize]

/-- Every item has the length that its kind has. -/
def Sized (length : Byte → Nat) (log : List Item) : Prop := ∀ s ∈ log, s.value.length = length s.key

variable {length : Byte → Nat}

theorem payloadLen_entryOf (h : s.value.length < 2 ^ 16) : payloadLen (entryOf offset s) = s.value.length := by
  unfold payloadLen entryOf itemTotalLen sizeofItemHdr
  simp only
  omega

theorem Image.length_lt (hs : sect < 2) (hI : Image id sect m log) (hi : log[i]? = some s) : s.value.length < 2 ^ 16 := by
  have hle := hI.item_le hi
  have hge := ctx_le_itemAddr id sect log i
  have hsmall := (layout id hs).small
  omega

/-- What `nv_index_read` looks for in an entry is that the item is held. -/
theorem Image.matches (hs : sect < 2) (hI : Image id sect m log) (hsz : Sized length log) (hid : k ≠ itemFieldIdle)
    (hi : log[i]? = some s) : idxMatches k (length k) (infoIdxAt m id sect i) = decide (s.Holds k) := by
  rw [idxMatches, if_pos hid, hI.entry i s hi, payloadLen_entryOf (hI.length_lt hs hi), hsz s (List.mem_of_getElem? hi),
    entryOf]
  simp only [itemValidFlagCheck_stateByte]
  by_cases hk : s.key = k
  · rw [hk, Nat.mod_self]
    by_cases hst : s.status = .live <;> simp [Slot.Holds, hst, hk]
  · simp [Slot.Holds, hk]

theorem Image.no_match (hI : Image id sect m log) (hge : log.length ≤ i) (hlt : i < moduleIdxNum id)
    (hid : k ≠ itemFieldIdle) (len : Nat) : idxMatches k len (infoIdxAt m id sect i) = false := by
  rw [idxMatches, if_pos hid, (hI.idle hge hlt).1]
  rfl

theorem nvIndexRead_none (hs : sect < 2) (hI : Image id sect m log) (hsz : Sized length log) (hid : k ≠ itemFieldIdle)
    (hnone : ∀ s ∈ log, ¬ s.Holds k) : nvIndexRead m id k (length k) sect = none := by
  refine find?_reverse_range_none fun j hj => ?_
  rcases Nat.lt_or_ge j log.length with hlt | hge
  · have hget : log[j]? = some log[j] := List.getElem?_eq_getElem hlt
    rw [hI.matches hs hsz hid hget, decide_eq_false (hnone _ (List.getElem_mem hlt))]
  · exact hI.no_match hge hj hid _

/-- `nv_index_read` finds the last slot that holds the item. -/
theorem nvIndexRead_last {xs ys : List Item} (hs : sect < 2) (hI : Image id sect m (xs ++ s :: ys))
    (hsz : Sized length (xs ++ s :: ys)) (hid : k ≠ itemFieldIdle) (hk : s.Holds k) (hys : ∀ t ∈ ys, ¬ t.Holds k) :
    nvIndexRead m id k (length k) sect = some xs.length := by
  have hcount := hI.count
  have hlen : (xs ++ s :: ys).length = xs.length + (ys.length + 1) := by
    rw [List.length_append, List.length_cons]
  refine find?_reverse_range (by omega) ?_ fun j hj hlt => ?_
  · have hget : (xs ++ s :: ys)[xs.length]? = some s := by
      rw [List.getElem?_append_right (le_refl _), Nat.sub_self, List.getElem?_cons_zero]
    rw [hI.matches hs hsz hid hget, decide_eq_true hk]
  · rcases Nat.lt_or_ge j (xs ++ s :: ys).length with hin | hge
    · obtain ⟨l, rfl⟩ := Nat.exists_eq_add_of_lt hj
      have hget : (xs ++ s :: ys)[xs.length + l + 1]? = some ys[l] := by
        rw [Nat.add_assoc, List.getElem?_append_right (Nat.le_add_right _ _), Nat.add_sub_cancel_left,
          List.getElem?_cons_succ, List.getElem?_eq_getElem (by omega)]
      rw [hI.matches hs hsz hid hget, decide_eq_false (hys _ (List.getElem_mem _))]
    · exact hI.no_match hge hlt hid _

/-! ### Items -/

theorem Image.oftCheck (hI : Image id sect m log) (hi : log[i]? = some s) :
    itemOftCheck (entryOf (itemAddr id sect log i) s).offset (entryOf (itemAddr id sect log i) s).size id sect = true := by
  have hle := hI.item_le hi
  have hge := ctx_le_itemAddr id sect log i
  unfold itemOftCheck entryOf itemTotalLen sizeofItemHdr
  simp only [Bool.and_eq_true, decide_eq_true_eq]
  omega

/-- An entry agrees with the header of its item, if there is one. -/
theorem idxCheck_entryOf (hb : BodyHolds m offset s) : idxCheck m (entryOf offset s) = true := by
  unfold BodyHolds at hb
  unfold idxCheck
  split at hb
  · next hp =>
      have hused : (readItemHdr m (entryOf offset s).offset).used = 0xFF#8 := hb
      have hne : (0xFF#8 != itemHdrFieldValidCheckCrc) = true := by decide
      simp only [hused, hne, Bool.true_or]
  · have hhdr : readItemHdr m (entryOf offset s).offset = headerOf offset s := hb.1
    simp only [hhdr, headerOf, itemCheckSum_high, beq_self_eq_true, Bool.or_true]

/-- The next item goes behind the last one. -/
theorem nvItemOffset_eq (hs : sect < 2) (hI : Image id sect m log) :
    nvItemOffset m id sect log.length = some (bodyAddr id sect log) := by
  unfold nvItemOffset bodyAddr
  rcases Nat.eq_zero_or_pos log.length with h0 | hpos
  · rw [if_pos h0, h0]
    rfl
  · obtain ⟨n, hn⟩ := Nat.exists_eq_succ_of_ne_zero hpos.ne'
    obtain ⟨t, hget⟩ : ∃ t, log[n]? = some t := ⟨_, List.getElem?_eq_getElem (by omega)⟩
    have hflag : itemFlagCheck (entryOf (itemAddr id sect log n) t).usedState = true := itemFlagCheck_stateByte _
    have hnext : align4 ((entryOf (itemAddr id sect log n) t).offset + (entryOf (itemAddr id sect log n) t).size) =
        itemAddr id sect log (n + 1) := by
      rw [entryOf, align4_add (itemAddr_mod hs log n), itemAddr, itemAddr, roomBefore_succ hget, itemRoom, Nat.add_assoc]
    rw [if_neg hpos.ne', hn, Nat.succ_sub_one, hI.entry n t hget]
    simp only [idxCheck_entryOf (hI.body n t hget), hflag, Bool.true_and]
    rw [if_pos (hI.oftCheck hget), hnext]

/-- A complete item is read back. -/
theorem nvFlashReadByIndex_eq (tbl : LenCheckTbl) (hI : Image id sect m log) (hi : log[i]? = some s)
    (hlive : s.status = .live) : nvFlashReadByIndex tbl m id s.key sect i s.value.length =
      .ok (s.value.take (nvItemLengthValidCheck tbl s.key s.value.length)) := by
  obtain ⟨n, hn⟩ : ∃ n, n = nvItemLengthValidCheck tbl s.key s.value.length := ⟨_, rfl⟩
  have hle : n ≤ s.value.length := by
    rw [hn]
    unfold nvItemLengthValidCheck
    split
    · exact Nat.min_le_right _ _
    · exact le_refl _
  have hbody := hI.body i s hi
  rw [BodyHolds, if_neg (by rw [hlive]; exact Status.noConfusion)] at hbody
  obtain ⟨hhdr, hread⟩ := hbody
  have hsplit : read m (itemAddr id sect log i + 8) n ++ read m (itemAddr id sect log i + 8 + n) (s.value.length - n) =
      s.value := by
    rw [← read_append, Nat.add_sub_cancel' hle, hread]
  have htake : read m (itemAddr id sect log i + 8) n = s.value.take n := by
    rw [← hsplit, List.take_append_of_le_length (by rw [length_read]), List.take_of_length_le (by rw [length_read])]
  have hvalid : itemValidFlagCheck (entryOf (itemAddr id sect log i) s).usedState = true := by
    rw [entryOf, itemValidFlagCheck_stateByte, hlive]
    rfl
  have hused : (headerOf (itemAddr id sect log i) s).used = itemHdrFieldValidCheckCrc := rfl
  have hne : itemHdrFieldValidCheckCrc ≠ itemHdrFieldValidChecksum := by decide
  have hsize : (headerOf (itemAddr id sect log i) s).size = s.value.length := rfl
  have hitem : (headerOf (itemAddr id sect log i) s).itemId = s.key := rfl
  have hsum : (headerOf (itemAddr id sect log i) s).checkSum &&& 0xffff#32 =
      xcrc32 (headerOf (itemAddr id sect log i) s).covered (xcrc32 s.value 0xffffffff#32) &&& 0xffff#32 :=
    itemCheckSum_low _ _
  have hoffset : (entryOf (itemAddr id sect log i) s).offset = itemAddr id sect log i := rfl
  unfold nvFlashReadByIndex
  rw [hI.entry i s hi]
  simp only [hvalid, hoffset, hhdr, hsize, hitem, hused, Nat.mod_self, hne, if_true, if_false, or_true, and_true, sizeofItemHdr,
    ← hn, hsplit, hsum]
  rw [htake]

/-! ### Adding an item -/

/-- What a write in a sector may change: the header of the sector apart, all of it. -/
def Within (id : Module) (sect : Nat) (m m' : Mem) : Prop :=
  ∀ x, x < moduleIdxStart id sect ∨ moduleSectEnd id sect ≤ x → m' x = m x

theorem Within.refl (id : Module) (sect : Nat) (m : Mem) : Within id sect m m := fun _ _ => rfl

theorem Within.trans {m₁ m₂ m₃ : Mem} (h : Within id sect m₁ m₂) (h' : Within id sect m₂ m₃) : Within id sect m₁ m₃ :=
  fun x hx => (h' x hx).trans (h x hx)

theorem Within.program {a : Nat} {bs : List Byte} (hl : moduleIdxStart id sect ≤ a)
    (hr : a + bs.length ≤ moduleSectEnd id sect) : Within id sect m (program m a bs) :=
  fun x hx => program_outside (by omega)

/-- Where the payload comes from: the memory, or a complete item elsewhere on the flash. -/
inductive Carries (m : Mem) (id : Module) (sect : Nat) (k : Byte) (v : List Byte) : Source → Prop
  | ram : Carries m id sect k v (.ram v)
  | flash (addr : Nat) (st : Status) (hhdr : readItemHdr m addr = headerOf addr ⟨k, v, st⟩)
      (hbody : read m (addr + 8) v.length = v)
      (hout : addr + (v.length + 8) ≤ moduleIdxStart id sect ∨ moduleSectEnd id sect ≤ addr) :
      Carries m id sect k v (.flash addr)

theorem Carries.congr {src : Source} (h : Carries m id sect k v src) (hw : Within id sect m m') :
    Carries m' id sect k v src := by
  cases h with
  | ram => exact .ram
  | flash addr st hhdr hbody hout =>
      refine .flash addr st ?_ ?_ hout
      · rw [readItemHdr_congr fun x hl hr => hw x (by omega), hhdr]
      · rw [read_congr fun x hl hr => hw x (by omega), hbody]

variable {C : Mem → Prop}

theorem CopySums.add_append (used : Byte) (sums : CopySums) (xs ys : List Byte) :
    sums.add used (xs ++ ys) = (sums.add used xs).add used ys := by
  unfold CopySums.add
  split <;> simp [xcrc32_append]

/-- A payload is copied piece by piece from where it is out of the way. -/
theorem wp_nvCopy {Q : Option CopySums → Mem → Prop} (used : Byte) (pieces sAddr dAddr : Nat) (sums : CopySums)
    (hlen : v.length ≤ 48 * pieces) (hread : read m sAddr v.length = v)
    (hout : sAddr + v.length ≤ dAddr ∨ dAddr + v.length ≤ sAddr) (hfits : Fits m dAddr v)
    (hC : ∀ j, C (program m dAddr (v.take j))) (hQ : Q (some (sums.add used v)) (program m dAddr v)) :
    wp C (nvCopy used pieces v.length sAddr dAddr sums) Q m := by
  have hstart := hC 0
  rw [List.take_zero, program_nil] at hstart
  induction pieces generalizing m v sAddr dAddr sums with
  | zero =>
      have hnil : v = [] := List.eq_nil_of_length_eq_zero (by omega)
      subst hnil
      rw [program_nil] at hQ
      refine wp_pure.mpr ⟨hstart, ?_⟩
      have hsame : sums.add used [] = sums := by
        unfold CopySums.add
        split <;> rfl
      rwa [hsame] at hQ
  | succ pieces ih =>
      obtain ⟨w, hw⟩ : ∃ w, w = min v.length 48 := ⟨_, rfl⟩
      have hle : w ≤ v.length := by omega
      have htakelen : (v.take w).length = w := by
        rw [List.length_take]
        omega
      have hdroplen : (v.drop w).length = v.length - w := List.length_drop
      have hsplit : read m sAddr v.length = read m sAddr w ++ read m (sAddr + w) (v.length - w) := by
        rw [← read_append, Nat.add_sub_cancel' hle]
      obtain ⟨hpiece, hrest⟩ := List.append_inj
        (hsplit.symm.trans (hread.trans (List.take_append_drop w v).symm)) (by rw [length_read, htakelen])
      have hjoin : ∀ ys, program (program m dAddr (v.take w)) (dAddr + w) ys = program m dAddr (v.take w ++ ys) := fun ys => by
        have happ := program_append m dAddr (v.take w) ys
        rwa [htakelen] at happ
      have hfits' := hfits
      rw [← List.take_append_drop w v, fits_append, htakelen] at hfits'
      rw [nvCopy, ← hw]
      refine wp_bind.mpr (wp_get.mpr ⟨hstart, ?_⟩)
      rw [hpiece]
      refine wp_bind.mpr (wp_flashWriteWithCheck (fun j _ => ?_) hfits'.1 ?_)
      · rw [List.take_take]
        exact hC _
      · have hafter : C (program m dAddr (v.take w)) := hC w
        have hsame : ∀ x, sAddr + w ≤ x → x < sAddr + v.length → program m dAddr (v.take w) x = m x :=
          fun x hl hr => program_outside (by omega)
        rw [if_pos rfl, ← hdroplen]
        refine ih _ _ _ (by omega) ?_ (by omega) ?_ (fun j => ?_) ?_ hafter
        · rw [hdroplen, read_congr fun x hl hr => hsame x hl (by omega), hrest]
        · exact hfits'.2.congr fun x hl hr => program_outside (Or.inr (by omega))
        · rw [hjoin, ← List.take_add]
          exact hC _
        · rwa [← CopySums.add_append, hjoin, List.take_append_drop]

/-- The payload is put in place while the item is still without a header. -/
theorem wp_nvWriteContext {Q : Except NvSts (ItemHdr × BitVec 32) → Mem → Prop} {src : Source} (hs : sect < 2)
    (hI : Image id sect m (log ++ [⟨k, v, .pending⟩])) (herased : Erased m (bodyAddr id sect log) (v.length + 8))
    (hsrc : Carries m id sect k v src)
    (hC : ∀ m', Within id sect m m' → Image id sect m' (log ++ [⟨k, v, .pending⟩]) → C m')
    (hQ : ∀ hdr crc m', Within id sect m m' → Image id sect m' (log ++ [⟨k, v, .pending⟩]) →
      Erased m' (bodyAddr id sect log) 8 → read m' (bodyAddr id sect log + 8) v.length = v →
      { hdr with checkSum := itemCheckSum (entryOf (bodyAddr id sect log) ⟨k, v, .pending⟩) crc } =
        headerOf (bodyAddr id sect log) ⟨k, v, .pending⟩ → Q (.ok (hdr, crc)) m') :
    wp C (nvWriteContext k (bodyAddr id sect log) v.length src) Q m := by
  have hidx := (layout id hs).idxEnd
  have hge : moduleContextStart id sect ≤ bodyAddr id sect log := ctx_le_itemAddr id sect log log.length
  have hle : bodyAddr id sect log + (v.length + 8) ≤ moduleSectEnd id sect := by
    have hitem := hI.item_le (getElem?_last log ⟨k, v, .pending⟩)
    rwa [itemAddr_last] at hitem
  have hfits : Fits m (bodyAddr id sect log + 8) v := Erased.fits (herased.mono (by omega) (by omega))
  have hput : ∀ j, Within id sect m (program m (bodyAddr id sect log + 8) (v.take j)) ∧
      Image id sect (program m (bodyAddr id sect log + 8) (v.take j)) (log ++ [⟨k, v, .pending⟩]) := by
    intro j
    have hlen : (v.take j).length ≤ v.length := List.length_take_le' j v
    refine ⟨Within.program (by omega) (by omega), hI.fill hs rfl (fun x hx => program_outside ?_) ?_⟩
    · have hin : x < bodyAddr id sect log ∨ bodyAddr id sect log + (v.length + 8) ≤ x := hx
      omega
    · rw [program_outside (Or.inl (by omega))]
      exact herased _ (by omega) (by omega)
  have hcut : ∀ j, C (program m (bodyAddr id sect log + 8) (v.take j)) := fun j => hC _ (hput j).1 (hput j).2
  have hdone := hput v.length
  rw [List.take_length] at hdone
  have hend := hC _ hdone.1 hdone.2
  have hread : read (program m (bodyAddr id sect log + 8) v) (bodyAddr id sect log + 8) v.length = v :=
    read_program_eq_iff.mpr hfits
  have hhead : Erased (program m (bodyAddr id sect log + 8) v) (bodyAddr id sect log) 8 :=
    (herased.mono (le_refl _) (by omega)).congr fun x hl hr => program_outside (by omega)
  cases hsrc with
  | ram =>
      refine wp_bind.mpr (wp_flashWrite (fun j _ => hcut j) (wp_bind.mpr (wp_get.mpr ⟨hend, ?_⟩)))
      rw [sizeofItemHdr, hread, if_pos rfl]
      exact wp_pure.mpr ⟨hend, hQ _ _ _ hdone.1 hdone.2 hhead hread rfl⟩
  | flash addr st hhdr hbody hout =>
      have hused : (headerOf addr (⟨k, v, st⟩ : Item)).used = itemHdrFieldValidCheckCrc := rfl
      have hne : itemHdrFieldValidCheckCrc ≠ itemHdrFieldValidChecksum := by decide
      have hnow : C m := hC m (Within.refl id sect m) hI
      refine wp_bind.mpr (wp_get.mpr ⟨hnow, ?_⟩)
      rw [hhdr]
      refine wp_bind.mpr (wp_nvCopy _ _ _ _ _ (by omega) hbody ?_ hfits hcut ?_)
      · unfold sizeofItemHdr
        omega
      · simp only [hused, if_neg hne, CopySums.add]
        have hsum : (headerOf addr (⟨k, v, st⟩ : Item)).checkSum &&& 0xffff#32 =
            xcrc32 (headerOf addr (⟨k, v, st⟩ : Item)).covered (xcrc32 v 0xffffffff#32) &&& 0xffff#32 := itemCheckSum_low _ _
        rw [if_neg (not_not.mpr hsum.symm)]
        exact wp_pure.mpr ⟨hend, hQ _ _ _ hdone.1 hdone.2 hhead hread rfl⟩

theorem wp_claim {Q : Bool → Mem → Prop} (hs : sect < 2) (hI : Image id sect m log) (hr : Room id sect log v.length)
    (hC : ∀ m', Within id sect m m' → (Image id sect m' log ∨ Image id sect m' (log ++ [⟨k, v, .pending⟩])) → C m')
    (hQ : ∀ m', Within id sect m m' → Image id sect m' (log ++ [⟨k, v, .pending⟩]) →
      Erased m' (bodyAddr id sect log) (v.length + 8) → Q true m') :
    wp C (flashWriteWithCheck (entryAddr id sect log) (entryOf (bodyAddr id sect log) ⟨k, v, .pending⟩).toBytes) Q m := by
  have hidx := (layout id hs).idxEnd
  have hend := (layout id hs).ctx_lt
  have hnum := hr.num
  have hspace : bodyAddr id sect log + (v.length + 8) ≤ moduleSectEnd id sect := hr.space
  have hge : moduleContextStart id sect ≤ bodyAddr id sect log := ctx_le_itemAddr id sect log log.length
  have hrest : Erased m (bodyAddr id sect log) (moduleSectEnd id sect - bodyAddr id sect log) := hI.rest
  have hentry : entryAddr id sect log + 8 ≤ moduleContextStart id sect := by
    unfold entryAddr
    omega
  have hwithin : ∀ bs : List Byte, bs.length ≤ 8 → Within id sect m (program m (entryAddr id sect log) bs) :=
    fun bs hbs => Within.program (Nat.le_add_right _ _) (by omega)
  refine wp_flashWriteWithCheck (fun j hj => ?_) (claim_fits hI hr _) ?_
  · rw [length_infoIdx] at hj
    exact hC _ (hwithin _ ((List.length_take_le' _ _).trans_eq (length_infoIdx _))) (hI.claim_cut hs hr rfl hj)
  · apply hQ _ (hwithin _ (length_infoIdx _).le) (hI.claim hs hr rfl)
    refine (hrest.mono (le_refl _) (by omega)).congr fun x hl hr => program_outside (Or.inr ?_)
    rw [length_infoIdx]
    omega

theorem wp_header {Q : Bool → Mem → Prop} (hs : sect < 2) (hI : Image id sect m (log ++ [⟨k, v, .pending⟩]))
    (hhead : Erased m (bodyAddr id sect log) 8) (hbody : read m (bodyAddr id sect log + 8) v.length = v)
    (hC : ∀ m' st, Within id sect m m' → Image id sect m' (log ++ [⟨k, v, st⟩]) → C m')
    (hQ : ∀ m', Within id sect m m' → Image id sect m' (log ++ [⟨k, v, .written⟩]) → Q true m') :
    wp C (flashWriteWithCheck (bodyAddr id sect log) (headerOf (bodyAddr id sect log) ⟨k, v, .pending⟩).toBytes) Q m := by
  have hidx := (layout id hs).idxEnd
  have hge : moduleContextStart id sect ≤ bodyAddr id sect log := ctx_le_itemAddr id sect log log.length
  have hle : bodyAddr id sect log + (v.length + 8) ≤ moduleSectEnd id sect := by
    have hitem := hI.item_le (getElem?_last log ⟨k, v, .pending⟩)
    rwa [itemAddr_last] at hitem
  have hwithin : ∀ bs : List Byte, bs.length ≤ 8 → Within id sect m (program m (bodyAddr id sect log) bs) :=
    fun bs hbs => Within.program (by omega) (by omega)
  have hdone := hI.complete hs rfl hhead hbody
  refine wp_flashWriteWithCheck (fun j hj => ?_) (Erased.fits (by rwa [length_itemHdr])) ?_
  · have hshort := (List.length_take_le' j _).trans_eq (length_itemHdr (headerOf (bodyAddr id sect log) ⟨k, v, .pending⟩))
    by_cases hwhole : 8 ≤ j
    · rw [List.take_of_length_le (by rwa [length_itemHdr])]
      exact hC _ _ (hwithin _ (length_itemHdr _).le) hdone
    · refine hC _ _ (hwithin _ hshort) (hI.fill hs rfl (fun x hx => program_outside ?_) ?_)
      · have hin : x < bodyAddr id sect log ∨ bodyAddr id sect log + (v.length + 8) ≤ x := hx
        omega
      · have hused : ((headerOf (bodyAddr id sect log) ⟨k, v, .pending⟩).toBytes.take j).length ≤ 7 := by
          rw [List.length_take]
          omega
        rw [program_outside (Or.inr (by omega))]
        exact hhead _ (by omega) (by omega)
  · exact hQ _ (hwithin _ (length_itemHdr _).le) hdone

/-- A change of the state of an entry. -/
theorem Image.flag_fits (hI : Image id sect m log) (hi : log[i]? = some s) {st : Status}
    (hbits : stateByte s.status &&& stateByte st = stateByte st) :
    Fits m (moduleIdxStart id sect + 8 * i + 7) [stateByte st] := by
  have hstate : m (moduleIdxStart id sect + 8 * i + 7) = stateByte s.status := by
    have hentry := hI.entry i s hi
    rw [infoIdxAt_eq] at hentry
    exact congrArg InfoIdx.usedState hentry
  intro j hj
  rw [List.length_singleton] at hj
  have hzero : j = 0 := by omega
  subst hzero
  rw [Nat.add_zero, hstate]
  exact hbits

theorem Image.flag_within (hs : sect < 2) (hI : Image id sect m log) (hi : log[i]? = some s) (b : Byte) :
    Within id sect m (program m (moduleIdxStart id sect + 8 * i + 7) [b]) := by
  have hlt := (List.getElem?_eq_some_iff.mp hi).choose
  have hcount := hI.count
  have hidx := (layout id hs).idxEnd
  have hend := (layout id hs).ctx_lt
  apply Within.program (by omega)
  rw [List.length_singleton]
  omega

theorem commits : stateByte .written &&& stateByte .live = stateByte .live := by decide

theorem retires : stateByte .live &&& stateByte .dead = stateByte .dead := by decide

theorem wp_flag {Q : Bool → Mem → Prop} (st : Status) (hs : sect < 2) (hI : Image id sect m log) (hi : log[i]? = some s)
    (hp : s.status ≠ .pending) (hst : st ≠ .pending) (hbits : stateByte s.status &&& stateByte st = stateByte st) (hC : C m)
    (hC' : ∀ m', Within id sect m m' → Image id sect m' (log.set i (s.become st)) → C m')
    (hQ : ∀ m', Within id sect m m' → Image id sect m' (log.set i (s.become st)) → Q true m') :
    wp C (flashWriteWithCheck (moduleIdxStart id sect + 8 * i + 7) [stateByte st]) Q m := by
  have hwithin := hI.flag_within hs hi (stateByte st)
  have hdone := hI.flag hs hi hp hst hbits
  refine wp_flashWriteWithCheck (PageCut.whole ?_ hC (hC' _ hwithin hdone)) (hI.flag_fits hi hbits) (hQ _ hwithin hdone)
  have hpage := Nat.mod_lt (moduleIdxStart id sect + 8 * i + 7) (show 0 < flashPageSize by decide)
  rw [List.length_singleton]
  omega

/-- `nv_write_item`: cut short it leaves the log as it was or with one more item that may not count yet. -/
theorem wp_nvWriteItem {Q : NvSts → Mem → Prop} {src : Source} (hs : sect < 2) (hI : Image id sect m log)
    (hr : Room id sect log v.length) (hsrc : Carries m id sect k v src)
    (hC : ∀ m', Within id sect m m' → (Image id sect m' log ∨ ∃ st, Image id sect m' (log ++ [⟨k, v, st⟩])) → C m')
    (hQ : ∀ m', Within id sect m m' → Image id sect m' (log ++ [⟨k, v, .live⟩]) → Q .succ m') :
    wp C (nvWriteItem true id k sect log.length v.length src) Q m := by
  have hsmall := (layout id hs).small
  have hspace : bodyAddr id sect log + (v.length + 8) ≤ moduleSectEnd id sect := hr.space
  have hge : moduleContextStart id sect ≤ bodyAddr id sect log := ctx_le_itemAddr id sect log log.length
  have hsize : itemTotalLen v.length % 2 ^ 16 = itemTotalLen v.length := by
    apply Nat.mod_eq_of_lt
    unfold itemTotalLen sizeofItemHdr
    omega
  have hoft : itemOftCheck (bodyAddr id sect log) (itemTotalLen v.length) id sect = true := by
    unfold itemOftCheck itemTotalLen sizeofItemHdr
    simp only [Bool.and_eq_true, decide_eq_true_eq]
    omega
  have hidxInfo : (⟨bodyAddr id sect log, itemTotalLen v.length, k, itemFieldOperation⟩ : InfoIdx) =
      entryOf (bodyAddr id sect log) ⟨k, v, .pending⟩ := rfl
  have haddr : moduleIdxStart id sect + log.length * sizeofInfoIdx = entryAddr id sect log := by
    rw [sizeofInfoIdx, Nat.mul_comm, entryAddr]
  refine wp_bind.mpr (wp_get.mpr ⟨hC m (Within.refl id sect m) (Or.inl hI), ?_⟩)
  rw [nvItemOffset_eq hs hI]
  simp only [hsize, hoft, hidxInfo, haddr, if_true]
  refine wp_bind.mpr (wp_claim hs hI hr (fun m' hw h => hC m' hw (h.imp_right fun h => ⟨_, h⟩)) fun m₁ hw₁ hI₁ herased => ?_)
  rw [if_pos rfl]
  refine wp_bind.mpr (wp_nvWriteContext hs hI₁ herased (hsrc.congr hw₁)
    (fun m' hw h => hC m' (hw₁.trans hw) (Or.inr ⟨_, h⟩)) fun hdr crc m₂ hw₂ hI₂ hhead hbody hhdr => ?_)
  have hw₁₂ := hw₁.trans hw₂
  simp only [hhdr]
  refine wp_bind.mpr (wp_header hs hI₂ hhead hbody (fun m' st hw h => hC m' (hw₁₂.trans hw) (Or.inr ⟨st, h⟩))
    fun m₃ hw₃ hI₃ => ?_)
  have hw₁₃ := hw₁₂.trans hw₃
  have hlive : (log ++ [(⟨k, v, .written⟩ : Item)]).set log.length ⟨k, v, .live⟩ = log ++ [⟨k, v, .live⟩] := set_last ..
  have hcut : ∀ m', Within id sect m₃ m' → Image id sect m' (log ++ [⟨k, v, .live⟩]) → C m' :=
    fun m' hw h => hC m' (hw₁₃.trans hw) (Or.inr ⟨_, h⟩)
  have hlast := getElem?_last log (⟨k, v, .written⟩ : Item)
  rw [if_pos rfl]
  refine wp_bind.mpr (wp_flag .live hs hI₃ hlast Status.noConfusion Status.noConfusion commits
    (hC _ hw₁₃ (Or.inr ⟨_, hI₃⟩)) (fun m' hw h => hcut m' hw ?_) fun m' hw h => ?_)
  · rwa [Slot.become, hlive] at h
  · rw [Slot.become, hlive] at h
    exact wp_pure.mpr ⟨hcut m' hw h, hQ m' (hw₁₃.trans hw) h⟩

end Watermeter.Nv
