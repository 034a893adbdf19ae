import Watermeter.NvDriver

/-! The structures of the NV as they are written and read back, the layout of a sector, and the commands that the driver
sends to the flash. -/

namespace Watermeter.Nv

open NorFlash CrashLogic

variable {m m' : Mem} {a : Nat} {id : Module} {sect : Nat}

/-! ### The structures, written and read -/

theorem readInfoIdx_congr (h : ∀ x, a ≤ x → x < a + 8 → m' x = m x) : readInfoIdx m' a = readInfoIdx m a := by
  rw [readInfoIdx, readInfoIdx, read_congr fun x hl hr => h x hl (by omega),
    read_congr fun x hl hr => h x (by omega) (by omega), h (a + 6) (by omega) (by omega), h (a + 7) (by omega) (by omega)]

theorem readItemHdr_congr (h : ∀ x, a ≤ x → x < a + 8 → m' x = m x) : readItemHdr m' a = readItemHdr m a := by
  rw [readItemHdr, readItemHdr, read32_congr fun x hl hr => h x hl (by omega),
    read_congr fun x hl hr => h x (by omega) (by omega), h (a + 6) (by omega) (by omega), h (a + 7) (by omega) (by omega)]

theorem readSectInfo_congr (h : ∀ x, a ≤ x → x < a + 4 → m' x = m x) : readSectInfo m' a = readSectInfo m a := by
  rw [readSectInfo, readSectInfo, h a (by omega) (by omega), h (a + 1) (by omega) (by omega),
    h (a + 2) (by omega) (by omega), h (a + 3) (by omega) (by omega)]

@[simp] theorem length_covered (idx : InfoIdx) : idx.covered.length = 7 := by
  simp [InfoIdx.covered]

@[simp] theorem length_infoIdx (idx : InfoIdx) : idx.toBytes.length = 8 := by
  rw [InfoIdx.toBytes, List.length_append, length_covered, List.length_singleton]

@[simp] theorem length_itemHdr (hdr : ItemHdr) : hdr.toBytes.length = 8 := by
  simp [ItemHdr.toBytes, ItemHdr.covered, bytes32]

@[simp] theorem length_sectInfo (s : SectInfo) : s.toBytes.length = 4 := rfl

/-- An entry of the index that fits its fields. -/
def InfoIdx.Fits (idx : InfoIdx) : Prop := idx.offset < 2 ^ 32 ∧ idx.size < 2 ^ 16

theorem readInfoIdx_of_read {idx : InfoIdx} (hfits : idx.Fits) (h : read m a 8 = idx.toBytes) : readInfoIdx m a = idx := by
  have hsplit : read m a 8 = read m a 4 ++ (read m (a + 4) 2 ++ [m (a + 6), m (a + 7)]) := by
    rw [read_append m a 4 4, read_append m (a + 4) 2 2]
    rfl
  rw [hsplit, InfoIdx.toBytes, InfoIdx.covered, List.append_assoc, List.append_assoc] at h
  obtain ⟨hoffset, h⟩ := List.append_inj h (by simp)
  obtain ⟨hsize, h⟩ := List.append_inj h (by simp)
  simp only [List.cons_append, List.nil_append, List.cons.injEq] at h
  rw [readInfoIdx, hoffset, hsize, h.1, h.2.1, PyStruct.fromBytes_digits hfits.1, PyStruct.fromBytes_digits hfits.2]

theorem readItemHdr_of_read {hdr : ItemHdr} (hfits : hdr.size < 2 ^ 16) (h : read m a 8 = hdr.toBytes) :
    readItemHdr m a = hdr := by
  have hsplit : read m a 8 = [m a, m (a + 1), m (a + 2), m (a + 3)] ++ (read m (a + 4) 2 ++ [m (a + 6), m (a + 7)]) := by
    rw [read_append m a 4 4, read_append m (a + 4) 2 2]
    rfl
  rw [hsplit, ItemHdr.toBytes, ItemHdr.covered] at h
  obtain ⟨hsum, h⟩ := List.append_inj h rfl
  obtain ⟨hsize, h⟩ := List.append_inj h (by simp)
  simp only [bytes32, List.cons.injEq] at h hsum
  rw [readItemHdr, hsize, h.1, h.2.1, PyStruct.fromBytes_digits hfits, read32, hsum.1, hsum.2.1, hsum.2.2.1, hsum.2.2.2.1,
    u32_bytes]

theorem readSectInfo_of_read {s : SectInfo} (h : read m a 4 = s.toBytes) : readSectInfo m a = s := by
  have hsplit : read m a 4 = [m a, m (a + 1), m (a + 2), m (a + 3)] := rfl
  rw [hsplit, SectInfo.toBytes] at h
  simp only [bytes16, List.cons_append, List.nil_append, List.cons.injEq] at h
  rw [readSectInfo, h.1, h.2.1, h.2.2.1, h.2.2.2.1, u16_bytes]

/-! ### The layout -/

/-- What the proofs use of the layout of a sector: the header, the index, the items. -/
structure Layout (id : Module) (sect : Nat) : Prop where
  idxStart : moduleIdxStart id sect = moduleSectStart id sect + 4
  idxEnd : moduleIdxStart id sect + 8 * moduleIdxNum id ≤ moduleContextStart id sect
  idxNum : 0 < moduleIdxNum id
  ctx_lt : moduleContextStart id sect < moduleSectEnd id sect
  sectEnd_lt : moduleSectEnd id sect < 2 ^ 20
  ctx_mod : moduleContextStart id sect % 4 = 0
  sectEnd_mod : moduleSectEnd id sect % 4 = 0
  ctx : moduleContextStart id sect = moduleSectStart id sect + moduleInfoSize id
  sectEnd : moduleSectEnd id sect = moduleSectStart id sect + nvSectorSize id
  small : moduleSectEnd id sect ≤ moduleContextStart id sect + 8000
  aligned : moduleSectStart id sect % flashSectorSize = 0
  pieces : nvSectorSize id = flashSectorSize * nvRealSectNum id

theorem layout (id : Module) (hs : sect < 2) : Layout id sect := by
  have hcases : sect = 0 ∨ sect = 1 := by omega
  rcases hcases with rfl | rfl <;> cases id <;> constructor <;> decide

theorem align4_mod (n : Nat) : align4 n % 4 = 0 := Nat.mul_mod_left _ 4

theorem le_align4 (n : Nat) : n ≤ align4 n ∧ align4 n ≤ n + 3 := by
  unfold align4
  omega

theorem align4_add {n : Nat} (hn : n % 4 = 0) (k : Nat) : align4 (n + k) = n + align4 k := by
  unfold align4
  omega

theorem align4_le {n k : Nat} (hk : k % 4 = 0) (h : n ≤ k) : align4 n ≤ k := by
  unfold align4
  omega

/-! ### Commands to the flash -/

variable {C : Mem → Prop} {Q : Unit → Mem → Prop} {addr : Nat} {buf : List Byte}

theorem program_nil (m : Mem) (a : Nat) : program m a [] = m :=
  funext fun x => program_outside (by rw [List.length_nil]; omega)

/-- Where a write of so many bytes may be cut: between its pages. -/
def PageCut (addr len j : Nat) : Prop := j = 0 ∨ len ≤ j ∨ (addr + j) % flashPageSize = 0

theorem wp_flashWritePages (pages : Nat) (hlen : addr % flashPageSize + buf.length ≤ flashPageSize * pages)
    (hC : ∀ j, PageCut addr buf.length j → C (program m addr (buf.take j))) (hQ : Q () (program m addr buf)) :
    wp C (flashWritePages pages addr buf) Q m := by
  have hstart := hC 0 (Or.inl rfl)
  rw [List.take_zero, program_nil] at hstart
  induction pages generalizing m addr buf with
  | zero =>
      have hnil : buf = [] := List.eq_nil_of_length_eq_zero (by omega)
      rw [hnil, program_nil] at hQ
      exact wp_pure.mpr ⟨hstart, hQ⟩
  | succ pages ih =>
      obtain ⟨nw, hnw⟩ : ∃ nw, nw = flashPageSize - addr % flashPageSize := ⟨_, rfl⟩
      have hbound : (addr + nw) % flashPageSize = 0 := by
        unfold flashPageSize at hnw ⊢
        omega
      have hjoin : ∀ ys, ys <+: buf.drop nw →
          program (program m addr (buf.take nw)) (addr + nw) ys = program m addr (buf.take nw ++ ys) := by
        intro ys hys
        by_cases hshort : buf.length ≤ nw
        · rw [List.drop_of_length_le hshort, List.prefix_nil] at hys
          rw [hys, program_nil, List.append_nil]
        · have htake : (buf.take nw).length = nw := by
            rw [List.length_take]
            omega
          have happ := program_append m addr (buf.take nw) ys
          rwa [htake] at happ
      have hfirst : C (program m addr (buf.take nw)) := hC nw (Or.inr (Or.inr hbound))
      have hrest : ∀ j, PageCut (addr + nw) (buf.drop nw).length j →
          C (program (program m addr (buf.take nw)) (addr + nw) ((buf.drop nw).take j)) := by
        intro j hj
        rw [hjoin _ (List.take_prefix j _), ← List.take_add]
        apply hC _
        rcases hj with rfl | hj | hj
        · exact Or.inr (Or.inr hbound)
        · rw [List.length_drop] at hj
          exact Or.inr (Or.inl (by omega))
        · exact Or.inr (Or.inr (by rwa [← Nat.add_assoc]))
      rw [flashWritePages, ← hnw]
      refine wp_bind.mpr (wp_perform.mpr ⟨hstart, hfirst, ih ?_ hrest ?_ hfirst⟩)
      · rw [List.length_drop]
        unfold flashPageSize at hlen hnw ⊢
        omega
      · show Q () (program (program m addr _) _ _)
        rw [hjoin _ (List.prefix_refl _), List.take_append_drop]
        exact hQ

theorem wp_flashWrite (hC : ∀ j, PageCut addr buf.length j → C (program m addr (buf.take j)))
    (hQ : Q () (program m addr buf)) : wp C (flashWrite addr buf) Q m := by
  refine wp_flashWritePages _ ?_ hC hQ
  unfold flashPageSize
  omega

/-- A write within a page is not cut. -/
theorem PageCut.whole (hpage : addr % flashPageSize + buf.length ≤ flashPageSize) (hC : C m) (hC' : C (program m addr buf))
    (j : Nat) (hj : PageCut addr buf.length j) : C (program m addr (buf.take j)) := by
  by_cases hlen : buf.length ≤ j
  · rwa [List.take_of_length_le hlen]
  · have hzero : j = 0 := by
      unfold PageCut at hj
      unfold flashPageSize at hj hpage
      omega
    rwa [hzero, List.take_zero, program_nil]

variable {R : Bool → Mem → Prop}

theorem wp_flashWriteWithCheck (hC : ∀ j, PageCut addr buf.length j → C (program m addr (buf.take j)))
    (hfits : Fits m addr buf) (hR : R true (program m addr buf)) : wp C (flashWriteWithCheck addr buf) R m := by
  have hend := hC buf.length (Or.inr (Or.inl (le_refl _)))
  rw [List.take_length] at hend
  refine wp_bind.mpr (wp_flashWrite hC (wp_bind.mpr (wp_get.mpr ⟨hend, wp_pure.mpr ⟨hend, ?_⟩⟩)))
  rwa [read_program_eq_iff.mpr hfits, beq_self_eq_true]

theorem wp_nvSectorErase (id : Module) (hs : sect < 2) (n : Nat)
    (hC : ∀ k ≤ n, C (erase m (moduleSectStart id sect) (flashSectorSize * k)))
    (hQ : Q () (erase m (moduleSectStart id sect) (flashSectorSize * n))) : wp C (nvSectorErase id sect n) Q m := by
  induction n generalizing Q with
  | zero =>
      have hnone : erase m (moduleSectStart id sect) (flashSectorSize * 0) = m :=
        funext fun x => erase_outside (by omega)
      have hstart := hC 0 (le_refl _)
      rw [hnone] at hstart hQ
      exact wp_pure.mpr ⟨hstart, hQ⟩
  | succ k ih =>
      have hnext : Medium.apply (erase m (moduleSectStart id sect) (flashSectorSize * k))
          (FlashOp.erase (moduleSectStart id sect + flashSectorSize * k)) =
          erase m (moduleSectStart id sect) (flashSectorSize * (k + 1)) := by
        show erase _ _ _ = _
        have hstart : (moduleSectStart id sect + flashSectorSize * k) % flashSectorSize = 0 := by
          rw [Nat.add_mul_mod_self_left, (layout id hs).aligned]
        rw [hstart, Nat.sub_zero, erase_append, Nat.mul_succ]
      refine wp_bind.mpr (ih (fun j hj => hC j (by omega)) (wp_perform.mpr ⟨hC k (by omega), ?_⟩))
      rw [hnext]
      exact ⟨hC _ (le_refl _), hQ⟩

end Watermeter.Nv
