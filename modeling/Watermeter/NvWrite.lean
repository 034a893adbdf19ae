import Watermeter.NvSectors

/-! Reading and writing items of a module, wherever the power fails on the way: what is stored then is what was stored
before, or that with the new item. -/

namespace Watermeter.Nv

open NorFlash CrashLogic SlotLog

variable {m m' : Mem} {id : Module} {sect n : Nat} {log log' : List Item} {length : Byte → Nat} {s : Item} {k : Byte}
  {v : List Byte} {σ : Byte → Option (List Byte)} {C : Mem → Prop}

/-! ### Reading -/

theorem getElem?_middle (xs : List Item) (s : Item) (ys : List Item) : (xs ++ s :: ys)[xs.length]? = some s := by
  rw [List.getElem?_append_right (le_refl _), Nat.sub_self, List.getElem?_cons_zero]

/-- What a read returns of an item. -/
def readBack (tbl : LenCheckTbl) (k : Byte) : Option (List Byte) → Except NvSts (List Byte)
  | none => .error .itemNotFound
  | some v => .ok (v.take (nvItemLengthValidCheck tbl k v.length))

theorem wp_nvFlashReadNew {Q : Except NvSts (List Byte) → Mem → Prop} (tbl : LenCheckTbl) (h : Repr length id m σ)
    (hmod : id ≠ .nwkFrameCount) (hid : k ≠ itemFieldIdle)
    (hC : ∀ m', Outside id m m' → Repr length id m' σ → C m')
    (hQ : ∀ m', Outside id m m' → Repr length id m' σ → Q (readBack tbl k (σ k)) m') :
    wp C (nvFlashReadNew tbl id k (length k)) Q m := by
  refine wp_ite.mpr ⟨fun heq => absurd heq hmod, fun _ => ?_⟩
  refine wp_bind.mpr (wp_nvSectorRead h hC (fun hrej hσ => ?_) fun n log m' hout ho hσ => ?_)
  · subst hσ
    exact wp_pure.mpr ⟨hC m (Outside.refl id m) h, hQ m (Outside.refl id m) h⟩
  · have hm' : Repr length id m' σ := .active n log ho hσ
    subst hσ
    refine wp_bind.mpr (wp_get.mpr ⟨hC m' hout hm', ?_⟩)
    rcases last_holder log k with hnone | ⟨xs, s, ys, rfl, hs, hys⟩
    · have hread := hQ m' hout hm'
      rw [lookup_eq_none_iff.mpr hnone] at hread
      rw [nvIndexRead_none ho.lt ho.image ho.sized hid hnone]
      exact wp_pure.mpr ⟨hC m' hout hm', hread⟩
    · have hread := hQ m' hout hm'
      have hget := getElem?_middle xs s ys
      have hlen : s.value.length = length k := (ho.sized s (List.mem_of_getElem? hget)).trans (congrArg length hs.2)
      have hitem := nvFlashReadByIndex_eq tbl ho.image hget hs.1
      rw [hs.2, hlen] at hitem
      rw [lookup_last hs hys, readBack, hlen] at hread
      rw [nvIndexRead_last ho.lt ho.image ho.sized hid hs hys]
      simp only [hitem]
      exact wp_pure.mpr ⟨hC m' hout hm', hread⟩

/-! ### Adding an item to the sector in use -/

/-- A step of a write: the log, perhaps with the new item, which may not count yet. -/
structure Grown (length : Byte → Nat) (log : List Item) (k : Byte) (v : List Byte) (log' : List Item) : Prop where
  sized : Sized length log'
  ne : log ≠ [] → log' ≠ []
  lookup : lookup log' = lookup log ∨ lookup log' = Function.update (lookup log) k (some v)

theorem Sized.append (h : Sized length log) (hs : s.value.length = length s.key) : Sized length (log ++ [s]) := by
  intro t ht
  rcases List.mem_append.mp ht with ht | ht
  · exact h t ht
  · rw [List.mem_singleton.mp ht, hs]

theorem Sized.retire {xs ys : List Item} (h : Sized length (xs ++ s :: ys)) (st : Status) :
    Sized length (xs ++ s.become st :: ys) := by
  intro t ht
  rcases List.mem_append.mp ht with ht | ht
  · exact h t (List.mem_append_left _ ht)
  · rcases List.mem_cons.mp ht with rfl | ht
    · exact h s (List.mem_append_right _ List.mem_cons_self)
    · exact h t (List.mem_append_right _ (List.mem_cons_of_mem _ ht))

theorem Grown.refl (h : Sized length log) : Grown length log k v log := ⟨h, id, Or.inl rfl⟩

theorem Grown.append (h : Sized length log) (hv : v.length = length k) (st : Status) :
    Grown length log k v (log ++ [⟨k, v, st⟩]) := by
  refine ⟨h.append hv, fun _ => List.append_ne_nil_of_right_ne_nil _ (List.cons_ne_nil _ _), ?_⟩
  by_cases hst : st = .live
  · exact Or.inr (lookup_append_live log hst)
  · exact Or.inl (lookup_append_idle log hst)

/-- The end of a write: the item is added, and the older one of its kind is deleted. -/
theorem wp_nvPutItem {Q : NvSts → Mem → Prop} (hs : sect < 2) (hI : Image id sect m log) (hr : Room id sect log v.length)
    (hsz : Sized length log) (hv : v.length = length k) (hid : k ≠ itemFieldIdle)
    (hC : ∀ m' log', Within id sect m m' → Image id sect m' log' → Grown length log k v log' → C m')
    (hQ : ∀ m' log', Within id sect m m' → Image id sect m' log' → Sized length log' → log' ≠ [] →
      lookup log' = Function.update (lookup log) k (some v) → Q .succ m') :
    wp C (nvPutItem true id k sect log.length v) Q m := by
  have hnow : C m := hC m log (Within.refl id sect m) hI (.refl hsz)
  have hgrown := Grown.append hsz hv
  have hsz' : Sized length (log ++ [⟨k, v, .live⟩]) := hsz.append hv
  have hne' : log ++ [⟨k, v, .live⟩] ≠ [] := List.append_ne_nil_of_right_ne_nil _ (List.cons_ne_nil _ _)
  have hlive : lookup (log ++ [⟨k, v, .live⟩]) = Function.update (lookup log) k (some v) := lookup_append_live log rfl
  refine wp_bind.mpr (wp_get.mpr ⟨hnow, wp_bind.mpr (wp_nvWriteItem hs hI hr .ram (fun m' hw h => ?_) fun m' hw hI' => ?_)⟩)
  · exact h.elim (fun h => hC m' _ hw h (.refl hsz)) fun ⟨st, h⟩ => hC m' _ hw h (hgrown st)
  have hnow' : C m' := hC m' _ hw hI' (hgrown .live)
  rw [hv]
  rcases last_holder log k with hnone | ⟨xs, s, ys, rfl, hk, hys⟩
  · rw [if_pos rfl, nvIndexRead_none hs hI hsz hid hnone]
    exact wp_pure.mpr ⟨hnow', hQ m' _ hw hI' hsz' hne' hlive⟩
  · -- the older item dies behind the back of the new one
    have hlog : (xs ++ s :: ys) ++ [⟨k, v, .live⟩] = xs ++ s :: (ys ++ [⟨k, v, .live⟩]) := by
      rw [List.append_assoc, List.cons_append]
    have hset : (xs ++ s :: (ys ++ [⟨k, v, .live⟩])).set xs.length (s.become .dead) =
        xs ++ s.become .dead :: (ys ++ [⟨k, v, .live⟩]) := by
      rw [List.set_append_right _ _ (le_refl _), Nat.sub_self, List.set_cons_zero]
    have hretire : lookup (xs ++ s.become .dead :: (ys ++ [⟨k, v, .live⟩])) =
        Function.update (lookup (xs ++ s :: ys)) k (some v) := by
      have hholder : ∃ t ∈ ys ++ [(⟨k, v, .live⟩ : Item)], t.Holds s.key :=
        ⟨⟨k, v, .live⟩, List.mem_append_right _ (List.mem_singleton_self _), rfl, hk.2.symm⟩
      rw [lookup_retire hholder, ← hlog, hlive]
    rw [hlog] at hI' hsz' hne'
    have hget := getElem?_middle xs s (ys ++ [(⟨k, v, .live⟩ : Item)])
    have hne : xs ++ s.become .dead :: (ys ++ [(⟨k, v, .live⟩ : Item)]) ≠ [] :=
      List.append_ne_nil_of_right_ne_nil _ (List.cons_ne_nil _ _)
    have hidx : moduleIdxStart id sect + xs.length * sizeofInfoIdx + offsetofUsedState =
        moduleIdxStart id sect + 8 * xs.length + 7 := by
      rw [sizeofInfoIdx, Nat.mul_comm, offsetofUsedState]
    have hdone : ∀ m₂, Within id sect m' m₂ →
        Image id sect m₂ ((xs ++ s :: (ys ++ [⟨k, v, .live⟩])).set xs.length (s.become .dead)) → C m₂ ∧ Q .succ m₂ := by
      intro m₂ hw₂ hI₂
      rw [hset] at hI₂
      exact ⟨hC m₂ _ (hw.trans hw₂) hI₂ ⟨hsz'.retire .dead, fun _ => hne, Or.inr hretire⟩,
        hQ m₂ _ (hw.trans hw₂) hI₂ (hsz'.retire .dead) hne hretire⟩
    rw [if_pos rfl, nvIndexRead_last hs hI hsz hid hk hys]
    simp only [hidx]
    refine wp_bind.mpr (wp_flag .dead hs hI' hget (by rw [hk.1]; exact Status.noConfusion) Status.noConfusion
      (by rw [hk.1]; exact retires) hnow' (fun m₂ hw₂ hI₂ => (hdone m₂ hw₂ hI₂).1) fun m₂ hw₂ hI₂ => ?_)
    rw [if_pos rfl]
    exact wp_pure.mpr (hdone m₂ hw₂ hI₂)

variable {flag : BitVec 16}

/-- The header stays when only the log behind it changes. -/
theorem Opened.within (ho : Opened length id m flag n log) (hw : Within id n m m') (hI : Image id n m' log')
    (hsz : Sized length log') (hne : log' ≠ []) : Opened length id m' flag n log' := by
  obtain ⟨h01, hend, hsect, hpos⟩ := sectors id
  have hn := ho.lt
  have hidx := (layout id hn).idxStart
  refine ⟨⟨hn, ?_, hI, hne, hsz⟩, fun h1 => ?_⟩
  · have hsame : sectInfoAt m' id n = sectInfoAt m id n :=
      readSectInfo_congr fun x hl hr => hw x (Or.inl (by omega))
    rw [hsame, ho.header]
  · subst h1
    have hsame : sectInfoAt m' id 0 = sectInfoAt m id 0 := by
      have hl0 := layout id (show 0 < 2 by decide)
      have hidx0 := hl0.idxStart
      have hidxEnd0 := hl0.idxEnd
      have hctx0 := hl0.ctx_lt
      exact readSectInfo_congr fun x hl hr => hw x (Or.inl (by omega))
    rw [hsame]
    exact ho.passed rfl

theorem wp_nvAppendItem {Q : NvSts → Mem → Prop} (ho : Opened length id m nvSectorValidCheckCrc n log)
    (hr : Room id n log v.length) (hv : v.length = length k) (hid : k ≠ itemFieldIdle)
    (hC : ∀ m', Outside id m m' →
      (Repr length id m' (lookup log) ∨ Repr length id m' (Function.update (lookup log) k (some v))) → C m')
    (hQ : ∀ m', Outside id m m' → Repr length id m' (Function.update (lookup log) k (some v)) → Q .succ m') :
    wp C (nvAppendItem true id k n log.length v) Q m := by
  have hpos := List.length_pos_of_ne_nil ho.ne
  refine wp_bind.mpr (wp_nvPutItem ho.lt ho.image hr ho.sized hv hid (fun m' log' hw hI hg => ?_)
    fun m' log' hw hI hsz hne hlog => ?_)
  · have ho' := ho.within hw hI hg.sized (hg.ne ho.ne)
    exact hC m' (hw.outside ho.lt) (hg.lookup.imp (.active n log' ho') (.active n log' ho'))
  · have hm' : Repr length id m' (Function.update (lookup log) k (some v)) :=
      .active n log' (ho.within hw hI hsz hne) hlog
    simp only [if_neg hpos.ne']
    exact wp_pure.mpr ⟨hC m' (hw.outside ho.lt) (Or.inr hm'), hQ m' (hw.outside ho.lt) hm'⟩

/-! ### Headers of a new sector -/

theorem usedSectInfo_length (flag : BitVec 16) (id : Module) (n : Nat) :
    (usedSectInfo flag id n).toBytes.length = 4 := length_sectInfo _

theorem sectInfoAt_program (herased : Erased m (moduleSectStart id n) 4) (flag : BitVec 16) :
    sectInfoAt (program m (moduleSectStart id n) (usedSectInfo flag id n).toBytes) id n = usedSectInfo flag id n := by
  apply readSectInfo_of_read
  have hfits : Fits m (moduleSectStart id n) (usedSectInfo flag id n).toBytes := Erased.fits herased
  have hread := read_program_eq_iff.mpr hfits
  rwa [usedSectInfo_length] at hread

theorem wp_sectHeader {R : Bool → Mem → Prop} (hn : n < 2) (herased : Erased m (moduleSectStart id n) 4) (hC : C m)
    (hC' : C (program m (moduleSectStart id n) (usedSectInfo flag id n).toBytes))
    (hR : R true (program m (moduleSectStart id n) (usedSectInfo flag id n).toBytes)) :
    wp C (flashWriteWithCheck (moduleSectStart id n) (usedSectInfo flag id n).toBytes) R m := by
  refine wp_flashWriteWithCheck (PageCut.whole ?_ hC hC') (Erased.fits herased) hR
  have haligned := (layout id hn).aligned
  rw [usedSectInfo_length]
  unfold flashSectorSize at haligned
  unfold flashPageSize
  omega

/-- The first item of a module. -/
theorem wp_nvAppendItem_first {Q : NvSts → Mem → Prop} (hfresh : Erased m (moduleSectStart id 0) (nvSectorSize id))
    (hrej : Rejected (sectInfoAt m id 1) id) (hr : Room id 0 [] v.length) (hv : v.length = length k) (hid : k ≠ itemFieldIdle)
    (hC : ∀ m', Outside id m m' →
      (Repr length id m' (fun _ => none) ∨ Repr length id m' (Function.update (fun _ => none) k (some v))) → C m')
    (hQ : ∀ m', Outside id m m' → Repr length id m' (Function.update (fun _ => none) k (some v)) → Q .succ m') :
    wp C (nvAppendItem true id k 0 0 v) Q m := by
  obtain ⟨h01, hend, hsect, hpos⟩ := sectors id
  have hl0 := layout id (show 0 < 2 by decide)
  have hl1 := layout id (show 1 < 2 by decide)
  have hidx0 := hl0.idxStart
  have hidxEnd0 := hl0.idxEnd
  have hctx0 := hl0.ctx_lt
  have hidx1 := hl1.idxStart
  have hempty : ∀ {m'}, Within id 0 m m' → Erased m' (moduleSectStart id 0) 4 ∧ Rejected (sectInfoAt m' id 1) id := by
    intro m' hw
    refine ⟨(hfresh.mono (le_refl _) (by omega)).congr fun x hl hr => hw x (Or.inl (by omega)), ?_⟩
    have hsame : sectInfoAt m' id 1 = sectInfoAt m id 1 :=
      readSectInfo_congr fun x hl hr => hw x (Or.inr (by omega))
    rwa [hsame]
  have hnone : ∀ {m'}, Within id 0 m m' → Repr length id m' (fun _ => none) := by
    intro m' hw
    refine .empty (fun n hn => ?_) rfl
    have hcases : n = 0 ∨ n = 1 := by omega
    rcases hcases with rfl | rfl
    · exact rejected_erased (hempty hw).1
    · exact (hempty hw).2
  have hout : ∀ {m'}, Within id 0 m m' → Outside id m m' := fun hw => hw.outside (by decide)
  refine wp_bind.mpr (wp_nvPutItem (by decide) (image_nil (by decide) hfresh) hr (fun s hs => absurd hs List.not_mem_nil) hv
    hid (fun m' log' hw hI hg => hC m' (hout hw) (Or.inl (hnone hw))) fun m' log' hw hI hsz hne hlog => ?_)
  have hheader := (hempty hw).1
  have hlen := usedSectInfo_length nvSectorValidCheckCrc id 0
  have hheaders := headersOnly_program id (show 0 < 2 by decide) hlen.le m'
  have hout' := (hout hw).trans hheaders.outside
  have hdone : Repr length id (program m' (moduleSectStart id 0) (usedSectInfo nvSectorValidCheckCrc id 0).toBytes)
      (Function.update (fun _ => none) k (some v)) := by
    refine .active 0 log' ⟨⟨by decide, sectInfoAt_program hheader _, ?_, hne, hsz⟩, fun h => absurd h Nat.zero_ne_one⟩ hlog
    exact hheaders.image (by decide) hI
  exact wp_bind.mpr (wp_sectHeader (by decide) hheader (hC m' (hout hw) (Or.inl (hnone hw))) (hC _ hout' (Or.inr hdone))
    (wp_pure.mpr ⟨hC _ hout' (Or.inr hdone), hQ _ hout' hdone⟩))

/-- The headers while one sector takes the place of the other: the new one is ready, the old one is given up, the new one
is in use. -/
theorem wp_switchHeaders {Q : NvSts → Mem → Prop} (done given ready : NvSts) (hn : n < 2)
    (hold : sectInfoAt m id n = usedSectInfo nvSectorValidCheckCrc id n)
    (herased : Erased m (moduleSectStart id ((n + 1) % 2)) 4) (hC : C m)
    (hC₁ : ∀ m', HeadersOnly id m m' → sectInfoAt m' id n = usedSectInfo nvSectorValidCheckCrc id n →
      sectInfoAt m' id ((n + 1) % 2) = usedSectInfo nvSectorValidReadyCheckCrc id ((n + 1) % 2) → C m')
    (hC₂ : ∀ m', HeadersOnly id m m' → (sectInfoAt m' id n).usedFlag = nvSectorInvalid →
      sectInfoAt m' id ((n + 1) % 2) = usedSectInfo nvSectorValidReadyCheckCrc id ((n + 1) % 2) → C m')
    (hQ : ∀ m', HeadersOnly id m m' → (sectInfoAt m' id n).usedFlag = nvSectorInvalid →
      sectInfoAt m' id ((n + 1) % 2) = usedSectInfo nvSectorValidCheckCrc id ((n + 1) % 2) → C m' ∧ Q done m') :
    wp C (do
      if ← flashWriteWithCheck (moduleSectStart id ((n + 1) % 2))
          (usedSectInfo nvSectorValidReadyCheckCrc id ((n + 1) % 2)).toBytes then
        if ← flashWriteWithCheck (moduleSectStart id n) (bytes16 nvSectorInvalid) then
          let _ ← flashWriteWithCheck (moduleSectStart id ((n + 1) % 2)) (bytes16 nvSectorValidCheckCrc)
          return done
        else return given
      else return ready) Q m := by
  obtain ⟨m₁, hm₁⟩ : ∃ m₁, m₁ = program m (moduleSectStart id ((n + 1) % 2))
    (usedSectInfo nvSectorValidReadyCheckCrc id ((n + 1) % 2)).toBytes := ⟨_, rfl⟩
  obtain ⟨m₂, hm₂⟩ : ∃ m₂, m₂ = program m₁ (moduleSectStart id n) (bytes16 nvSectorInvalid) := ⟨_, rfl⟩
  obtain ⟨m₃, hm₃⟩ : ∃ m₃, m₃ = program m₂ (moduleSectStart id ((n + 1) % 2)) (bytes16 nvSectorValidCheckCrc) := ⟨_, rfl⟩
  have hj : (n + 1) % 2 < 2 := Nat.mod_lt _ (by decide)
  have hne : n ≠ (n + 1) % 2 := by omega
  have hlen := usedSectInfo_length nvSectorValidReadyCheckCrc id ((n + 1) % 2)
  have hbits : nvSectorValidCheckCrc &&& nvSectorInvalid = nvSectorInvalid := by decide
  have hheaders₁ : HeadersOnly id m m₁ := hm₁ ▸ headersOnly_program id hj hlen.le m
  have hheaders₂ : HeadersOnly id m m₂ := hheaders₁.trans (hm₂ ▸ headersOnly_program id hn (length_flag _) m₁)
  have hheaders₃ : HeadersOnly id m m₃ := hheaders₂.trans (hm₃ ▸ headersOnly_program id hj (length_flag _) m₂)
  have hold₁ : sectInfoAt m₁ id n = usedSectInfo nvSectorValidCheckCrc id n := by
    rw [hm₁, header_other hn hj hne hlen.le, hold]
  have hnew₁ : sectInfoAt m₁ id ((n + 1) % 2) = usedSectInfo nvSectorValidReadyCheckCrc id ((n + 1) % 2) := by
    rw [hm₁, sectInfoAt_program herased]
  have hold₂ : (sectInfoAt m₂ id n).usedFlag = nvSectorInvalid := by
    rw [hm₂, sectInfoAt_flag, hold₁]
    exact hbits
  have hnew₂ : sectInfoAt m₂ id ((n + 1) % 2) = usedSectInfo nvSectorValidReadyCheckCrc id ((n + 1) % 2) := by
    rw [hm₂, header_other hj hn hne.symm (length_flag _), hnew₁]
  have hold₃ : (sectInfoAt m₃ id n).usedFlag = nvSectorInvalid := by
    rw [hm₃, header_other hn hj hne (length_flag _), hold₂]
  have hnew₃ : sectInfoAt m₃ id ((n + 1) % 2) = usedSectInfo nvSectorValidCheckCrc id ((n + 1) % 2) :=
    hm₃ ▸ sectInfoAt_use hnew₂
  have hcut₁ := hC₁ m₁ hheaders₁ hold₁ hnew₁
  have hcut₂ := hC₂ m₂ hheaders₂ hold₂ hnew₂
  obtain ⟨hcut₃, hdone⟩ := hQ m₃ hheaders₃ hold₃ hnew₃
  subst hm₃ hm₂ hm₁
  refine wp_bind.mpr (wp_sectHeader hj herased hC hcut₁ ?_)
  rw [if_pos rfl]
  refine wp_bind.mpr (wp_sectFlag hn (by rw [hold₁]; exact hbits) hcut₁ hcut₂ ?_)
  rw [if_pos rfl]
  refine wp_bind.mpr (wp_sectFlag hj ?_ hcut₂ hcut₃ (wp_pure.mpr ⟨hcut₃, hdone⟩))
  rw [hnew₂]
  show nvSectorValidReadyCheckCrc &&& nvSectorValidCheckCrc = nvSectorValidCheckCrc
  decide

/-- The change of sectors: before the first header the old log counts, and after the second the new one. -/
theorem wp_nvSwitchSector {Q : NvSts → Mem → Prop} (ho : Opened length id m nvSectorValidCheckCrc n log)
    (herased : Erased m (moduleSectStart id ((n + 1) % 2)) 4) (hI : Image id ((n + 1) % 2) m log') (hsz : Sized length log')
    (hne : log' ≠ [])
    (hC : ∀ m', Outside id m m' → (Repr length id m' (lookup log) ∨ Repr length id m' (lookup log')) → C m')
    (hQ : ∀ m', Outside id m m' → Repr length id m' (lookup log') → Q .succ m') :
    wp C (nvSwitchSector id n ((n + 1) % 2)) Q m := by
  have hn := ho.lt
  have hj : (n + 1) % 2 < 2 := Nat.mod_lt _ (by decide)
  have hback : ((n + 1) % 2 + 1) % 2 = n := by omega
  have hbits : nvSectorValidCheckCrc &&& nvSectorInvalid = nvSectorInvalid := by decide
  refine wp_switchHeaders .succ .succ .checkSumError hn ho.header herased
    (hC m (Outside.refl id m) (Or.inl (.active n log ho rfl))) (fun m' hh hold hnew => ?_) (fun m' hh hold hnew => ?_)
    fun m' hh hold hnew => ?_
  · have hcases : n = 0 ∨ n = 1 := by omega
    apply hC m' hh.outside
    rcases hcases with rfl | rfl
    · exact Or.inl (.active 0 log ⟨⟨hn, hold, hh.image hn ho.image, ho.ne, ho.sized⟩, fun h => absurd h Nat.zero_ne_one⟩ rfl)
    · refine Or.inr (.half 0 log' ⟨⟨hj, hnew, hh.image hj hI, hne, hsz⟩, fun h => absurd h Nat.zero_ne_one⟩ ?_ rfl)
      rw [show (0 + 1) % 2 = 1 from rfl, hold]
      exact hbits
  · refine hC m' hh.outside (Or.inr (.half _ log' ⟨⟨hj, hnew, hh.image hj hI, hne, hsz⟩, passed_invalid hj ?_⟩ ?_ rfl))
    · rw [hback, hold]
    · rw [hback, hold, BitVec.and_self]
  · have hm' : Repr length id m' (lookup log') :=
      .active _ log' ⟨⟨hj, hnew, hh.image hj hI, hne, hsz⟩, passed_invalid hj (by rw [hback, hold])⟩ rfl
    exact ⟨hC m' hh.outside (Or.inr hm'), hQ m' hh.outside hm'⟩

end Watermeter.Nv
