import Watermeter.NvLayout
import Watermeter.SlotLog

/-! A log of items as it lies in a sector of the NV: the entries of the index, the items behind, and what is still
erased of both. -/

namespace Watermeter.Nv

open NorFlash CrashLogic SlotLog

variable {m m' : Mem} {a : Nat} {id : Module} {sect : Nat}

/-! ### The items of a log -/

/-- An item, by its identifier. -/
abbrev Item := Slot Byte (List Byte)

/-- The room that a payload takes with its header. -/
def itemRoom (payload : List Byte) : Nat := align4 (itemTotalLen payload.length)

/-- The room that the items before the `i`-th one take. -/
def roomBefore (log : List Item) (i : Nat) : Nat := ((log.take i).map fun s => itemRoom s.value).sum

/-- Where the `i`-th item lies. -/
def itemAddr (id : Module) (sect : Nat) (log : List Item) (i : Nat) : Nat := moduleContextStart id sect + roomBefore log i

def stateByte : Status → Byte
  | .pending => itemFieldOperation
  | .written => itemFieldOperation
  | .live => itemFieldValidSingle
  | .dead => itemFieldInvalid

/-- The entry of an item in the index. -/
def entryOf (offset : Nat) (s : Item) : InfoIdx := ⟨offset, itemTotalLen s.value.length, s.key, stateByte s.status⟩

/-- The header of a complete item. -/
def headerOf (offset : Nat) (s : Item) : ItemHdr :=
  let hdr : ItemHdr := ⟨0, s.value.length, s.key, itemHdrFieldValidCheckCrc⟩
  { hdr with checkSum := itemCheckSum (entryOf offset s) (xcrc32 hdr.covered (xcrc32 s.value 0xffffffff#32)) }

/-- The item itself: complete, or claimed and still without a header. -/
def BodyHolds (m : Mem) (offset : Nat) (s : Item) : Prop :=
  if s.status = .pending then m (offset + 7) = 0xFF#8
  else readItemHdr m offset = headerOf offset s ∧ read m (offset + 8) s.value.length = s.value

/-- The log as it lies in a sector. The next entry of the index may have been begun. -/
structure Image (id : Module) (sect : Nat) (m : Mem) (log : List Item) : Prop where
  entry : ∀ i s, log[i]? = some s → infoIdxAt m id sect i = entryOf (itemAddr id sect log i) s
  body : ∀ i s, log[i]? = some s → BodyHolds m (itemAddr id sect log i) s
  index : Erased m (moduleIdxStart id sect + 8 * log.length + 4) (8 * (moduleIdxNum id - log.length) - 4)
  next : log.length < moduleIdxNum id →
    Fits m (moduleIdxStart id sect + 8 * log.length) (PyStruct.digits 4 (itemAddr id sect log log.length))
  rest : Erased m (itemAddr id sect log log.length) (moduleSectEnd id sect - itemAddr id sect log log.length)
  room : itemAddr id sect log log.length ≤ moduleSectEnd id sect
  count : log.length ≤ moduleIdxNum id

variable {log : List Item} {s t : Item} {i j : Nat}

theorem le_itemRoom (payload : List Byte) : payload.length + 8 ≤ itemRoom payload := (le_align4 _).1

theorem itemRoom_mod (payload : List Byte) : itemRoom payload % 4 = 0 := align4_mod _

theorem roomBefore_append (h : i ≤ log.length) (ys : List Item) : roomBefore (log ++ ys) i = roomBefore log i := by
  rw [roomBefore, List.take_append_of_le_length h, roomBefore]

theorem roomBefore_succ (h : log[i]? = some s) : roomBefore log (i + 1) = roomBefore log i + itemRoom s.value := by
  have hi := (List.getElem?_eq_some_iff.mp h)
  rw [roomBefore, List.take_add_one, h, Option.toList_some, List.map_append, List.sum_append]
  simp [roomBefore]

theorem roomBefore_mono (log : List Item) (h : i ≤ j) : roomBefore log i ≤ roomBefore log j := by
  induction h with
  | refl => exact le_refl _
  | @step j _ ih =>
      cases hj : log[j]? with
      | none =>
          have hlen := List.getElem?_eq_none_iff.mp hj
          rw [roomBefore, roomBefore, List.take_of_length_le (by omega : log.length ≤ j + 1)]
          rw [roomBefore, roomBefore, List.take_of_length_le hlen] at ih
          exact ih
      | some s =>
          rw [roomBefore_succ hj]
          omega

theorem roomBefore_set (hi : log[i]? = some s) (hv : t.value = s.value) (j : Nat) :
    roomBefore (log.set i t) j = roomBefore log j := by
  have hmap : (log.set i t).map (fun s => itemRoom s.value) = log.map fun s => itemRoom s.value := by
    obtain ⟨hlt, rfl⟩ := List.getElem?_eq_some_iff.mp hi
    apply List.ext_getElem (by simp)
    intro n h₁ h₂
    rw [List.getElem_map, List.getElem_map, List.getElem_set]
    split
    · next hin => subst hin; rw [hv]
    · rfl
  rw [roomBefore, roomBefore, List.map_take, List.map_take, hmap]

theorem itemAddr_mod (hs : sect < 2) (log : List Item) (i : Nat) : itemAddr id sect log i % 4 = 0 := by
  have hctx := (layout id hs).ctx_mod
  have hroom : roomBefore log i % 4 = 0 := by
    rw [roomBefore]
    induction log.take i with
    | nil => rfl
    | cons s l ih =>
        have := itemRoom_mod s.value
        rw [List.map_cons, List.sum_cons]
        omega
  rw [itemAddr]
  omega

/-! ### What an image depends on -/

theorem infoIdxAt_eq (m : Mem) (id : Module) (sect i : Nat) :
    infoIdxAt m id sect i = readInfoIdx m (moduleIdxStart id sect + 8 * i) := by
  rw [infoIdxAt, sizeofInfoIdx, Nat.mul_comm]

theorem infoIdxAt_congr (h : ∀ x, moduleIdxStart id sect + 8 * i ≤ x → x < moduleIdxStart id sect + 8 * i + 8 → m' x = m x) :
    infoIdxAt m' id sect i = infoIdxAt m id sect i := by
  rw [infoIdxAt_eq, infoIdxAt_eq]
  exact readInfoIdx_congr fun x hl hr => h x (by omega) (by omega)

theorem BodyHolds.congr {offset : Nat} (hb : BodyHolds m offset s)
    (h : ∀ x, offset ≤ x → x < offset + (s.value.length + 8) → m' x = m x) : BodyHolds m' offset s := by
  unfold BodyHolds at hb ⊢
  split at hb
  · next hp => rw [if_pos hp, h _ (by omega) (by omega), hb]
  · next hp =>
      rw [if_neg hp, readItemHdr_congr fun x hl hr => h x hl (by omega), read_congr fun x hl hr => h x (by omega) (by omega)]
      exact hb

theorem itemAddr_succ_le (id : Module) (sect : Nat) (hi : log[i]? = some s) :
    itemAddr id sect log i + (s.value.length + 8) ≤ itemAddr id sect log (i + 1) := by
  have hroom := le_itemRoom s.value
  rw [itemAddr, itemAddr, roomBefore_succ hi]
  omega

theorem ctx_le_itemAddr (id : Module) (sect : Nat) (log : List Item) (i : Nat) :
    moduleContextStart id sect ≤ itemAddr id sect log i := Nat.le_add_right _ _

theorem itemAddr_append (h : i ≤ log.length) (ys : List Item) : itemAddr id sect (log ++ ys) i = itemAddr id sect log i := by
  rw [itemAddr, roomBefore_append h, itemAddr]

theorem itemAddr_next (log : List Item) (s : Item) :
    itemAddr id sect (log ++ [s]) (log.length + 1) = itemAddr id sect log log.length + itemRoom s.value := by
  rw [itemAddr, roomBefore_succ List.getElem?_concat_length, roomBefore_append (le_refl _), itemAddr, Nat.add_assoc]

namespace Image

variable (hI : Image id sect m log)
include hI

theorem addr_le (h : i ≤ j) (hj : j ≤ log.length) :
    itemAddr id sect log i ≤ itemAddr id sect log j ∧ itemAddr id sect log j ≤ moduleSectEnd id sect := by
  have h1 := roomBefore_mono log h
  have h2 := roomBefore_mono log hj
  have h3 := hI.room
  unfold itemAddr at h3 ⊢
  omega

/-- An item ends in the sector. -/
theorem item_le (hi : log[i]? = some s) : itemAddr id sect log i + (s.value.length + 8) ≤ moduleSectEnd id sect := by
  have hlt := (List.getElem?_eq_some_iff.mp hi).choose
  exact (itemAddr_succ_le id sect hi).trans (hI.addr_le (le_refl _) hlt).2

/-- Only the bytes behind the header of the sector matter. -/
theorem congr (hs : sect < 2) (h : ∀ x, moduleIdxStart id sect ≤ x → x < moduleSectEnd id sect → m' x = m x) :
    Image id sect m' log := by
  have hctx := (layout id hs).idxEnd
  have hend := (layout id hs).ctx_lt
  have hcount := hI.count
  have haddr := ctx_le_itemAddr id sect log
  refine ⟨fun i s hi => ?_, fun i s hi => ?_, ?_, fun hlt => ?_, ?_, hI.room, hI.count⟩
  · have hlt := (List.getElem?_eq_some_iff.mp hi).choose
    rw [← hI.entry i s hi]
    exact infoIdxAt_congr fun x hl hr => h x (by omega) (by omega)
  · have hle := hI.item_le hi
    have hge := haddr i
    exact (hI.body i s hi).congr fun x hl hr => h x (by omega) (by omega)
  · exact hI.index.congr fun x hl hr => h x (by omega) (by omega)
  · refine (hI.next hlt).congr fun x hl hr => h x (by omega) ?_
    rw [PyStruct.length_digits] at hr
    omega
  · have hge := haddr log.length
    exact hI.rest.congr fun x hl hr => h x (by omega) (by have := hI.room; omega)

/-- One item changes its status, and only its entry and its body change on the flash. -/
theorem set (hs : sect < 2) (hi : log[i]? = some s) (hv : t.value = s.value)
    (hother : ∀ x, (x < moduleIdxStart id sect + 8 * i ∨ moduleIdxStart id sect + 8 * i + 8 ≤ x) →
      (x < itemAddr id sect log i ∨ itemAddr id sect log i + (s.value.length + 8) ≤ x) → m' x = m x)
    (hentry : infoIdxAt m' id sect i = entryOf (itemAddr id sect log i) t)
    (hbody : BodyHolds m' (itemAddr id sect log i) t) : Image id sect m' (log.set i t) := by
  have hctx := (layout id hs).idxEnd
  have hend := (layout id hs).ctx_lt
  have hcount := hI.count
  have hlt := (List.getElem?_eq_some_iff.mp hi).choose
  have hle := hI.item_le hi
  have haddr := ctx_le_itemAddr id sect log
  have hsame : ∀ j, itemAddr id sect (log.set i t) j = itemAddr id sect log j := fun j => by
    rw [itemAddr, roomBefore_set hi hv, itemAddr]
  have hafter := itemAddr_succ_le id sect hi
  have hlast := (hI.addr_le (show i + 1 ≤ log.length from hlt) (le_refl _)).1
  have hgi := haddr i
  refine ⟨fun j u hj => ?_, fun j u hj => ?_, ?_, ?_, ?_, ?_, ?_⟩
  · rw [hsame]
    rw [List.getElem?_set] at hj
    split at hj
    · next hij =>
        subst hij
        rw [← Option.some.inj hj]
        exact hentry
    · next hij =>
        have hltj := (List.getElem?_eq_some_iff.mp hj).choose
        rw [← hI.entry j u hj]
        refine infoIdxAt_congr fun x hl hr => hother x ?_ (Or.inl (by omega))
        omega
  · rw [hsame]
    rw [List.getElem?_set] at hj
    split at hj
    · next hij =>
        subst hij
        rw [← Option.some.inj hj]
        exact hbody
    · next hij =>
        have hltj := (List.getElem?_eq_some_iff.mp hj).choose
        have hroomj := itemAddr_succ_le id sect hj
        have hgj := haddr j
        refine (hI.body j u hj).congr fun x hl hr => hother x (Or.inr (by omega)) ?_
        rcases Nat.lt_or_gt_of_ne hij with hlt' | hgt
        · have := (hI.addr_le (show i + 1 ≤ j from hlt') hltj.le).1
          omega
        · have := (hI.addr_le (show j + 1 ≤ i from hgt) hlt.le).1
          omega
  · rw [List.length_set]
    exact hI.index.congr fun x hl hr => hother x (Or.inr (by omega)) (Or.inl (by omega))
  · rw [List.length_set, hsame]
    refine fun hnum => (hI.next hnum).congr fun x hl hr => hother x (Or.inr (by omega)) (Or.inl ?_)
    rw [PyStruct.length_digits] at hr
    omega
  · rw [List.length_set, hsame]
    exact hI.rest.congr fun x hl hr => hother x (Or.inr (by omega)) (Or.inr (by omega))
  · rw [List.length_set, hsame]
    exact hI.room
  · rw [List.length_set]
    exact hI.count

end Image

/-! ### The steps of a write -/

/-- An erased sector holds the empty log. -/
theorem image_nil (hs : sect < 2) (h : Erased m (moduleSectStart id sect) (nvSectorSize id)) : Image id sect m [] := by
  have hl := layout id hs
  have hidx := hl.idxStart
  have hidxEnd := hl.idxEnd
  have hctx := hl.ctx_lt
  have hend := hl.sectEnd
  have haddr : itemAddr id sect [] 0 = moduleContextStart id sect := rfl
  have hnum := hl.idxNum
  refine ⟨fun i s hi => by simp at hi, fun i s hi => by simp at hi, ?_, fun _ => ?_, ?_, ?_, Nat.zero_le _⟩
  · rw [List.length_nil]
    exact h.mono (by omega) (by omega)
  · refine Erased.fits (h.mono (by rw [List.length_nil]; omega) ?_)
    rw [PyStruct.length_digits, List.length_nil]
    omega
  · rw [List.length_nil, haddr]
    exact h.mono (by omega) (by omega)
  · rw [List.length_nil, haddr]
    omega

/-- The slot that a write is about to fill has a place in the index and room for the payload. -/
structure Room (id : Module) (sect : Nat) (log : List Item) (len : Nat) : Prop where
  num : log.length < moduleIdxNum id
  space : itemAddr id sect log log.length + (len + 8) ≤ moduleSectEnd id sect

/-- The place of the next entry of the index. -/
def entryAddr (id : Module) (sect : Nat) (log : List Item) : Nat := moduleIdxStart id sect + 8 * log.length

/-- The place of the next item. -/
def bodyAddr (id : Module) (sect : Nat) (log : List Item) : Nat := itemAddr id sect log log.length

variable {len offset : Nat} {k : Byte} {v : List Byte} {st : Status}

theorem entryOf_fits (h : offset + (s.value.length + 8) ≤ moduleSectEnd id sect) (hs : sect < 2)
    (hctx : moduleContextStart id sect ≤ offset) : (entryOf offset s).Fits := by
  have hend := (layout id hs).sectEnd_lt
  have hsmall := (layout id hs).small
  refine ⟨?_, ?_⟩
  · show offset < 2 ^ 32
    omega
  · show s.value.length + 8 < 2 ^ 16
    omega

/-- Before the next entry of the index nothing changes, and what is erased behind it stays so. -/
theorem Image.append (hs : sect < 2) (hI : Image id sect m log) (hr : Room id sect log s.value.length)
    (hsame : ∀ x, moduleIdxStart id sect ≤ x → x < moduleSectEnd id sect →
      (x < entryAddr id sect log ∨ entryAddr id sect log + 8 ≤ x) →
      (x < bodyAddr id sect log ∨ bodyAddr id sect log + (s.value.length + 8) ≤ x) → m' x = m x)
    (hentry : infoIdxAt m' id sect log.length = entryOf (bodyAddr id sect log) s)
    (hbody : BodyHolds m' (bodyAddr id sect log) s) : Image id sect m' (log ++ [s]) := by
  have hl := layout id hs
  have hctx := hl.idxEnd
  have hend := hl.ctx_lt
  have hnum := hr.num
  have hspace := hr.space
  have haddr := ctx_le_itemAddr id sect log
  have hge := haddr log.length
  have hroom := align4_le (n := itemAddr id sect log log.length + (s.value.length + 8)) hl.sectEnd_mod hspace
  rw [align4_add (itemAddr_mod hs log log.length)] at hroom
  have hitem : itemRoom s.value = align4 (s.value.length + 8) := rfl
  have hle := le_itemRoom s.value
  have hlast : itemAddr id sect (log ++ [s]) (log.length + 1) = itemAddr id sect log log.length + itemRoom s.value :=
    itemAddr_next log s
  unfold entryAddr bodyAddr at *
  have hcases : ∀ i t, (log ++ [s])[i]? = some t → log[i]? = some t ∧ i < log.length ∨ i = log.length ∧ t = s := by
    intro i t hi
    rcases Nat.lt_or_ge i log.length with hlt | hge
    · rw [List.getElem?_append_left hlt] at hi
      exact Or.inl ⟨hi, hlt⟩
    · rw [List.getElem?_append_right hge, List.getElem?_singleton] at hi
      split at hi
      · next h0 => exact Or.inr ⟨by omega, (Option.some.inj hi).symm⟩
      · exact absurd hi (by simp)
  refine ⟨fun i t hi => ?_, fun i t hi => ?_, ?_, ?_, ?_, ?_, ?_⟩
  · rcases hcases i t hi with ⟨hi, hlt⟩ | ⟨rfl, rfl⟩
    · rw [itemAddr_append hlt.le, ← hI.entry i t hi]
      exact infoIdxAt_congr fun x h₁ h₂ => hsame x (by omega) (by omega) (Or.inl (by omega)) (Or.inl (by omega))
    · rw [itemAddr_append (le_refl _)]
      exact hentry
  · rcases hcases i t hi with ⟨hi, hlt⟩ | ⟨rfl, rfl⟩
    · have hbefore := itemAddr_succ_le id sect hi
      have hmono := (hI.addr_le (show i + 1 ≤ log.length from hlt) (le_refl _)).1
      have hgi := haddr i
      rw [itemAddr_append hlt.le]
      exact (hI.body i t hi).congr fun x h₁ h₂ => hsame x (by omega) (by omega) (Or.inr (by omega)) (Or.inl (by omega))
    · rw [itemAddr_append (le_refl _)]
      exact hbody
  · rw [List.length_append, List.length_singleton]
    intro x h₁ h₂
    rw [hsame x (by omega) (by omega) (Or.inr (by omega)) (Or.inl (by omega))]
    exact hI.index x (by omega) (by omega)
  · rw [List.length_append, List.length_singleton]
    intro hlt
    refine Erased.fits ((hI.index.mono (by omega) ?_).congr fun x h₁ h₂ => ?_)
    · rw [PyStruct.length_digits]
      omega
    · rw [PyStruct.length_digits] at h₂
      exact hsame x (by omega) (by omega) (Or.inr (by omega)) (Or.inl (by omega))
  · rw [List.length_append, List.length_singleton, hlast]
    apply (hI.rest.mono (by omega) (by omega)).congr
    intro x h₁ h₂
    exact hsame x (by omega) (by omega) (Or.inr (by omega)) (Or.inr (by omega))
  · rw [List.length_append, List.length_singleton, hlast]
    omega
  · rw [List.length_append, List.length_singleton]
    omega

/-! The entry of the index comes first. -/

theorem entryOf_toBytes (offset : Nat) (s : Item) : (entryOf offset s).toBytes =
    PyStruct.digits 4 offset ++ (PyStruct.digits 2 (itemTotalLen s.value.length) ++ [s.key] ++ [stateByte s.status]) := by
  rw [InfoIdx.toBytes, InfoIdx.covered, List.append_assoc, List.append_assoc, List.append_assoc]
  rfl

theorem claim_fits (hI : Image id sect m log) (hr : Room id sect log len) (s : Item) :
    Fits m (entryAddr id sect log) (entryOf (bodyAddr id sect log) s).toBytes := by
  have hnum := hr.num
  rw [entryOf_toBytes, fits_append]
  refine ⟨hI.next hnum, Erased.fits (hI.index.mono ?_ ?_)⟩
  · rw [PyStruct.length_digits]
    exact le_refl _
  · rw [List.length_append, List.length_append, PyStruct.length_digits, PyStruct.length_digits]
    simp only [List.length_singleton, entryAddr]
    omega

theorem infoIdxAt_program (hs : sect < 2) (hI : Image id sect m log) (hr : Room id sect log s.value.length) :
    infoIdxAt (program m (entryAddr id sect log) (entryOf (bodyAddr id sect log) s).toBytes) id sect log.length =
      entryOf (bodyAddr id sect log) s := by
  have hread := read_program_eq_iff.mpr (claim_fits hI hr s)
  rw [length_infoIdx] at hread
  rw [infoIdxAt_eq]
  exact readInfoIdx_of_read (entryOf_fits hr.space hs (ctx_le_itemAddr ..)) hread

theorem Image.claim (hs : sect < 2) (hI : Image id sect m log) (hr : Room id sect log s.value.length)
    (hp : s.status = .pending) :
    Image id sect (program m (entryAddr id sect log) (entryOf (bodyAddr id sect log) s).toBytes) (log ++ [s]) := by
  have hnum := hr.num
  have hspace := hr.space
  have hidx := (layout id hs).idxEnd
  have hge := ctx_le_itemAddr id sect log log.length
  refine hI.append hs hr (fun x hl hx hentry hbody => ?_) (infoIdxAt_program hs hI hr) ?_
  · apply program_outside
    rw [length_infoIdx]
    exact hentry
  · unfold BodyHolds
    rw [if_pos hp, program_outside]
    · exact hI.rest _ (Nat.le_add_right _ _) (by unfold bodyAddr; omega)
    · rw [length_infoIdx]
      unfold entryAddr bodyAddr
      omega

/-- The entry lies in one page, or its first field in one and the rest in the next. -/
theorem Image.claim_cut (hs : sect < 2) (hI : Image id sect m log) (hr : Room id sect log s.value.length)
    (hp : s.status = .pending) {j : Nat} (hj : PageCut (entryAddr id sect log) 8 j) :
    Image id sect (program m (entryAddr id sect log) ((entryOf (bodyAddr id sect log) s).toBytes.take j)) log ∨
      Image id sect (program m (entryAddr id sect log) ((entryOf (bodyAddr id sect log) s).toBytes.take j)) (log ++ [s]) := by
  have hl := layout id hs
  by_cases hwhole : 8 ≤ j
  · rw [List.take_of_length_le (by rwa [length_infoIdx])]
    exact Or.inr (hI.claim hs hr hp)
  · have hoffset : j ≤ 4 := by
      have haligned := hl.aligned
      have hidx := hl.idxStart
      unfold PageCut entryAddr at hj
      unfold flashPageSize at hj
      unfold flashSectorSize at haligned
      omega
    have hnum := hr.num
    have hidx := hl.idxEnd
    have htake : (entryOf (bodyAddr id sect log) s).toBytes.take j = (PyStruct.digits 4 (bodyAddr id sect log)).take j := by
      rw [entryOf_toBytes, List.take_append_of_le_length (by rwa [PyStruct.length_digits])]
    have hlen : ((PyStruct.digits 4 (bodyAddr id sect log)).take j).length ≤ 4 := by
      rw [List.length_take]
      omega
    have hsame : ∀ x, (x < entryAddr id sect log ∨ entryAddr id sect log + 4 ≤ x) →
        program m (entryAddr id sect log) ((PyStruct.digits 4 (bodyAddr id sect log)).take j) x = m x :=
      fun x hx => program_outside (by omega)
    rw [htake]
    unfold entryAddr at hsame ⊢
    refine Or.inl ⟨fun i t hi => ?_, fun i t hi => ?_, ?_, fun _ => (hI.next hnum).program_take j, ?_, hI.room, hI.count⟩
    · have hlt := (List.getElem?_eq_some_iff.mp hi).choose
      rw [← hI.entry i t hi]
      exact infoIdxAt_congr fun x h₁ h₂ => hsame x (Or.inl (by omega))
    · have hge := ctx_le_itemAddr id sect log i
      exact (hI.body i t hi).congr fun x h₁ h₂ => hsame x (Or.inr (by omega))
    · exact hI.index.congr fun x h₁ h₂ => hsame x (Or.inr (by omega))
    · have hge := ctx_le_itemAddr id sect log log.length
      exact hI.rest.congr fun x h₁ h₂ => hsame x (Or.inr (by omega))

/-! Then the item. -/

theorem getElem?_last (log : List Item) (s : Item) : (log ++ [s])[log.length]? = some s := List.getElem?_concat_length

theorem set_last (log : List Item) (s t : Item) : (log ++ [s]).set log.length t = log ++ [t] := by
  rw [List.set_append_right _ _ (le_refl _), Nat.sub_self, List.set_cons_zero]

theorem itemAddr_last (log : List Item) (s : Item) : itemAddr id sect (log ++ [s]) log.length = bodyAddr id sect log :=
  itemAddr_append (le_refl _) _

/-- The item may be written at will as long as the last byte of its header is not. -/
theorem Image.fill (hs : sect < 2) (hI : Image id sect m (log ++ [s])) (hp : s.status = .pending)
    (hsame : ∀ x, (x < bodyAddr id sect log ∨ bodyAddr id sect log + (s.value.length + 8) ≤ x) → m' x = m x)
    (hused : m' (bodyAddr id sect log + 7) = 0xFF#8) : Image id sect m' (log ++ [s]) := by
  have hlast := getElem?_last log s
  have hcount := hI.count
  have hidx := (layout id hs).idxEnd
  have hge := ctx_le_itemAddr id sect log log.length
  rw [List.length_append, List.length_singleton] at hcount
  have hset : Image id sect m' ((log ++ [s]).set log.length s) := by
    refine hI.set hs hlast rfl (fun x hentry hbody => hsame x ?_) ?_ ?_
    · rwa [itemAddr_last] at hbody
    · rw [← hI.entry _ _ hlast]
      refine infoIdxAt_congr fun x h₁ h₂ => hsame x (Or.inl ?_)
      unfold bodyAddr
      omega
    · rw [itemAddr_last, BodyHolds, if_pos hp, hused]
  rwa [set_last] at hset

theorem Image.complete (hs : sect < 2) (hI : Image id sect m (log ++ [s])) (hp : s.status = .pending)
    (herased : Erased m (bodyAddr id sect log) 8) (hbody : read m (bodyAddr id sect log + 8) s.value.length = s.value) :
    Image id sect (program m (bodyAddr id sect log) (headerOf (bodyAddr id sect log) s).toBytes)
      (log ++ [s.become .written]) := by
  have hlast := getElem?_last log s
  have hcount := hI.count
  have hidx := (layout id hs).idxEnd
  have hend := (layout id hs).small
  have hge := ctx_le_itemAddr id sect log log.length
  have hle := hI.item_le hlast
  rw [itemAddr_last] at hle
  rw [List.length_append, List.length_singleton] at hcount
  have hfits : Fits m (bodyAddr id sect log) (headerOf (bodyAddr id sect log) s).toBytes := by
    apply Erased.fits
    rwa [length_itemHdr]
  have hsame : ∀ x, (x < bodyAddr id sect log ∨ bodyAddr id sect log + 8 ≤ x) →
      program m (bodyAddr id sect log) (headerOf (bodyAddr id sect log) s).toBytes x = m x :=
    fun x hx => program_outside (by rwa [length_itemHdr])
  have hsize : s.value.length < 2 ^ 16 := by
    unfold bodyAddr at hle
    omega
  rw [← set_last log s]
  refine hI.set hs hlast rfl (fun x hentry hx => hsame x ?_) ?_ ?_
  · rw [itemAddr_last] at hx
    omega
  · have hstate : entryOf (itemAddr id sect (log ++ [s]) log.length) (s.become .written) =
        entryOf (itemAddr id sect (log ++ [s]) log.length) s := by
      rw [entryOf, entryOf, hp]
      rfl
    rw [hstate, ← hI.entry _ _ hlast]
    refine infoIdxAt_congr fun x h₁ h₂ => hsame x (Or.inl ?_)
    unfold bodyAddr
    omega
  · have hread := read_program_eq_iff.mpr hfits
    rw [length_itemHdr] at hread
    have hkeep : (s.become .written).status ≠ .pending := Status.noConfusion
    rw [itemAddr_last, BodyHolds, if_neg hkeep, readItemHdr_of_read hsize hread, become_value]
    refine ⟨rfl, ?_⟩
    rw [read_congr fun x hl hr => hsame x (Or.inr hl), hbody]

/-! Last comes the state in the index. -/

theorem readInfoIdx_flag (m : Mem) (a : Nat) (b : Byte) :
    readInfoIdx (program m (a + 7) [b]) a = { readInfoIdx m a with usedState := (readInfoIdx m a).usedState &&& b } := by
  have hsame : ∀ x, x < a + 7 → program m (a + 7) [b] x = m x := fun x hx => program_byte_ne b (by omega)
  rw [readInfoIdx, readInfoIdx, read_congr fun x hl hr => hsame x (by omega), read_congr fun x hl hr => hsame x (by omega),
    hsame (a + 6) (by omega), program_byte]

/-- The state of an entry changes to one that the flash can take from it. -/
theorem Image.flag (hs : sect < 2) (hI : Image id sect m log) (hi : log[i]? = some s) (hp : s.status ≠ .pending)
    (hst : st ≠ .pending) (hbits : stateByte s.status &&& stateByte st = stateByte st) :
    Image id sect (program m (moduleIdxStart id sect + 8 * i + 7) [stateByte st]) (log.set i (s.become st)) := by
  have hlt := (List.getElem?_eq_some_iff.mp hi).choose
  have hcount := hI.count
  have hidx := (layout id hs).idxEnd
  have hge := ctx_le_itemAddr id sect log i
  have hsame : ∀ x, x ≠ moduleIdxStart id sect + 8 * i + 7 →
      program m (moduleIdxStart id sect + 8 * i + 7) [stateByte st] x = m x := fun x hx => program_byte_ne _ hx
  refine hI.set hs hi rfl (fun x hentry hbody => hsame x (by omega)) ?_ ?_
  · have hold := hI.entry i s hi
    rw [infoIdxAt_eq] at hold ⊢
    rw [readInfoIdx_flag, hold, entryOf, entryOf, become_status]
    simp only [hbits, become_value, become_key]
  · have hbody := hI.body i s hi
    unfold BodyHolds at hbody ⊢
    rw [if_neg hp] at hbody
    rw [if_neg (by exact hst), readItemHdr_congr fun x h₁ h₂ => hsame x (by omega),
      read_congr fun x h₁ h₂ => hsame x (by omega)]
    exact hbody

end Watermeter.Nv
