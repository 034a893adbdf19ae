import Watermeter.NvRuns

/-! The reset to factory new. A flag stands on the flash from before the first sector is erased until after the last, so
that a reset the power has cut short can be told from one that has not begun, and is done over. -/

namespace Watermeter.Nv

open NorFlash CrashLogic Transition

variable {m m' : Mem} {id : Module} {schema : Schema}

/-- What the reset clears: the modules with items, and the sector of its flag. -/
def Cleared (x : Nat) : Prop := InNv x ∨ cfgFactoryRstCnt ≤ x ∧ x < cfgFactoryRstCnt + flashSectorSize

/-- The memory of a device that is factory new. -/
noncomputable def factoryNew (m : Mem) : Mem :=
  open Classical in fun x => if Cleared x then 0xFF#8 else m x

theorem factoryNew_congr (h : ∀ x, ¬ Cleared x → m' x = m x) : factoryNew m' = factoryNew m := by
  funext x
  unfold factoryNew
  split
  · rfl
  · next hx => exact h x hx

theorem flag_not_inNv {x : Nat} (hl : cfgFactoryRstCnt ≤ x) (hr : x < cfgFactoryRstCnt + flashSectorSize) : ¬ InNv x := by
  rintro ⟨id, -, hx₁, hx₂⟩
  have hapart : moduleSectEnd id 1 ≤ cfgFactoryRstCnt ∨ cfgFactoryRstCnt + flashSectorSize ≤ moduleSectStart id 0 := by
    cases id <;> decide
  omega

variable {C : Mem → Prop}

/-- Erasing a module, sector by sector. -/
theorem wp_nvResetModule {Q : Unit → Mem → Prop}
    (hC : ∀ m', Outside id m m' → C m')
    (hQ : ∀ m', Outside id m m' → Erased m' (moduleSectStart id 0) (2 * nvSectorSize id) → Q () m') :
    wp C (nvResetModule id) Q m := by
  obtain ⟨h01, hend, hsect, hpos⟩ := sectors id
  have hpieces := (layout id (show 0 < 2 by decide)).pieces
  have hmul : ∀ k ≤ nvRealSectNum id, flashSectorSize * k ≤ nvSectorSize id :=
    fun k hk => hpieces ▸ Nat.mul_le_mul_left _ hk
  have hout : ∀ l ≤ nvSectorSize id, Outside id m (erase m (moduleSectStart id 0) l) :=
    fun l hl x hx => erase_outside (by omega)
  have hout' : ∀ l ≤ nvSectorSize id,
      Outside id m (erase (erase m (moduleSectStart id 0) (nvSectorSize id)) (moduleSectStart id 1) l) :=
    fun l hl => (hout _ (le_refl _)).trans fun x hx => erase_outside (by omega)
  refine wp_bind.mpr (wp_nvSectorErase id (by decide) _ (fun k hk => hC _ (hout _ (hmul k hk))) ?_)
  rw [← hpieces]
  refine wp_nvSectorErase id (by decide) _ (fun k hk => hC _ (hout' _ (hmul k hk))) ?_
  rw [← hpieces, hsect, erase_append, ← two_mul]
  exact hQ _ (fun x hx => erase_outside (by omega)) (erased_erase m _ _)

/-- Apart from the items nothing changes. -/
def Keeps (m m' : Mem) : Prop := ∀ x, ¬ InNv x → m' x = m x

/-- What is erased stays erased, and the modules of the list are. -/
structure Wiped (ids : List Module) (m m' : Mem) : Prop where
  keeps : Keeps m m'
  stays : ∀ x, m x = 0xFF#8 → m' x = 0xFF#8
  erased : ∀ id ∈ ids, id ≠ .nwkFrameCount → Erased m' (moduleSectStart id 0) (2 * nvSectorSize id)

theorem wp_nvResetModules {Q : Unit → Mem → Prop} (ids : List Module) (hC : ∀ m', Keeps m m' → C m')
    (hQ : ∀ m', Wiped ids m m' → Q () m') : wp C (nvResetModules ids) Q m := by
  induction ids generalizing m with
  | nil =>
      refine wp_pure.mpr ⟨hC m fun _ _ => rfl, hQ m ⟨fun _ _ => rfl, fun _ h => h, ?_⟩⟩
      exact fun id hid => absurd hid List.not_mem_nil
  | cons id ids ih =>
      have hrest : ∀ m₁, Keeps m m₁ → (∀ x, m x = 0xFF#8 → m₁ x = 0xFF#8) →
          (id ≠ .nwkFrameCount → Erased m₁ (moduleSectStart id 0) (2 * nvSectorSize id)) →
          wp C (nvResetModules ids) Q m₁ := by
        intro m₁ hkeeps hstays herased
        refine ih (fun m' hk => hC m' fun x hx => (hk x hx).trans (hkeeps x hx)) fun m' hw => hQ m' ⟨?_, ?_, ?_⟩
        · exact fun x hx => (hw.keeps x hx).trans (hkeeps x hx)
        · exact fun x hx => hw.stays x (hstays x hx)
        · intro id' hmem hid'
          rcases List.mem_cons.mp hmem with rfl | hmem
          · exact fun x hx₁ hx₂ => hw.stays x (herased hid' x hx₁ hx₂)
          · exact hw.erased id' hmem hid'
      refine wp_ite.mpr ⟨fun hid => ?_, fun hid => hrest m (fun _ _ => rfl) (fun _ h => h) fun h => absurd h hid⟩
      refine wp_bind.mpr (wp_nvResetModule (fun m' hout => hC m' fun x hx => hout.inNv hid hx) fun m₁ hout herased => ?_)
      refine hrest m₁ (fun x hx => hout.inNv hid hx) (fun x hx => ?_) fun _ => herased
      obtain ⟨h01, hend, hsect, hpos⟩ := sectors id
      by_cases hin : moduleSectStart id 0 ≤ x ∧ x < moduleSectEnd id 1
      · exact herased x hin.1 (by omega)
      · rw [hout x (by omega), hx]

theorem flag_program (m : Mem) (h : m cfgFactoryRstCnt = 0xFF#8) :
    nvFacrotyNewRstFlagCheck (program m cfgFactoryRstCnt [itemFieldValid]) = true := by
  rw [nvFacrotyNewRstFlagCheck, program_byte, h]
  decide

/-- The reset cut short: nothing has happened, or the flag stands, or everything is erased. -/
def ResetCut (m m' : Mem) : Prop :=
  m' = m ∨ (nvFacrotyNewRstFlagCheck m' = true ∧ ∀ x, ¬ Cleared x → m' x = m x) ∨ m' = factoryNew m

theorem wp_nvResetToFactoryNew (m : Mem) :
    wp (ResetCut m) nvResetToFactoryNew (fun _ m' => m' = factoryNew m) m := by
  have hflag : Cleared cfgFactoryRstCnt := Or.inr ⟨le_refl _, by decide⟩
  -- from where the flag stands
  have hgo : ∀ m₁, nvFacrotyNewRstFlagCheck m₁ = true → (∀ x, ¬ Cleared x → m₁ x = m x) →
      wp (ResetCut m) (nvResetModules modules >>= fun _ => nvFacrotyNewRstFlagClear)
        (fun _ m' => m' = factoryNew m) m₁ := by
    intro m₁ hset hsame
    have hstands : ∀ m', Keeps m₁ m' → nvFacrotyNewRstFlagCheck m' = true ∧ ∀ x, ¬ Cleared x → m' x = m x := by
      intro m' hk
      refine ⟨?_, fun x hx => (hk x fun hin => hx (Or.inl hin)).trans (hsame x hx)⟩
      rw [nvFacrotyNewRstFlagCheck, hk _ (flag_not_inNv (le_refl _) (by decide))]
      exact hset
    refine wp_bind.mpr (wp_nvResetModules modules (fun m' hk => Or.inr (Or.inl (hstands m' hk))) fun m₂ hw => ?_)
    have hdone : Medium.apply m₂ (FlashOp.erase cfgFactoryRstCnt) = factoryNew m := by
      funext x
      show erase m₂ (cfgFactoryRstCnt - cfgFactoryRstCnt % flashSectorSize) flashSectorSize x = _
      have haligned : cfgFactoryRstCnt - cfgFactoryRstCnt % flashSectorSize = cfgFactoryRstCnt := by decide
      rw [haligned]
      unfold factoryNew
      by_cases hx : Cleared x
      · rw [if_pos hx]
        rcases hx with ⟨id, hid, hl, hr⟩ | ⟨hl, hr⟩
        · obtain ⟨h01, hend, hsect, hpos⟩ := sectors id
          have hmem : id ∈ modules := by
            cases id <;> decide
          have hblank := hw.erased id hmem hid x hl (by omega)
          by_cases hin : cfgFactoryRstCnt ≤ x ∧ x < cfgFactoryRstCnt + flashSectorSize
          · exact erase_inside hin.1 hin.2
          · rw [erase_outside (by omega), hblank]
        · exact erase_inside hl hr
      · rw [if_neg hx, erase_outside]
        · rw [hw.keeps x fun hin => hx (Or.inl hin), hsame x hx]
        · by_contra hin
          exact hx (Or.inr (by omega))
    exact wp_perform.mpr ⟨Or.inr (Or.inl (hstands m₂ hw.keeps)), Or.inr (Or.inr hdone), hdone⟩
  refine wp_bind.mpr (wp_get.mpr ⟨Or.inl rfl, wp_ite.mpr ⟨fun hclear => ?_, fun hset => ?_⟩⟩)
  · have hblank : m cfgFactoryRstCnt = 0xFF#8 := by
      simpa [nvFacrotyNewRstFlagCheck] using hclear
    have hset := flag_program m hblank
    have hsame : ∀ x, ¬ Cleared x → program m cfgFactoryRstCnt [itemFieldValid] x = m x :=
      fun x hx => program_byte_ne _ fun heq => hx (heq ▸ hflag)
    have hpage : cfgFactoryRstCnt % flashPageSize + [itemFieldValid].length ≤ flashPageSize := by decide
    refine wp_bind.mpr (wp_bind.mpr (wp_flashWriteWithCheck (PageCut.whole hpage (Or.inl rfl) ?_) (Erased.fits ?_) ?_))
    · exact Or.inr (Or.inl ⟨hset, hsame⟩)
    · intro x hl hr
      have hx : x = cfgFactoryRstCnt := by
        rw [List.length_singleton] at hr
        omega
      rw [hx, hblank]
    · exact wp_pure.mpr ⟨Or.inr (Or.inl ⟨hset, hsame⟩), hgo _ hset hsame⟩
  · exact hgo m (by simpa using hset) fun _ _ => rfl

theorem factoryNew_outside {x : Nat} (hx : ¬ Cleared x) : factoryNew m x = m x := if_neg hx

theorem holds_factoryNew (schema : Schema) (m : Mem) : Holds schema (factoryNew m) fun _ _ => none := by
  intro id hid
  obtain ⟨h01, hend, hsect, hpos⟩ := sectors id
  have hsize : 4 ≤ nvSectorSize id := by
    cases id <;> decide
  refine .empty (fun n hn => rejected_erased fun x hl hr => if_pos (Or.inl ⟨id, hid, ?_, ?_⟩)) rfl
  all_goals
    have hcases : n = 0 ∨ n = 1 := by omega
    rcases hcases with rfl | rfl <;> omega

/-- The reset, begun and cut short any number of times: what is found then is the memory from before, or the flag
stands, or all is done, and nothing but the items and the flag has changed. Done over, it leaves the memory that it
would have left at once, in which no item is stored. -/
theorem reset_recovers (schema : Schema) (m : Mem) (cuts : List Nat) :
    (run (fun m k => nvResetToFactoryNew.cutAt k m) m cuts = m ∨
        nvFacrotyNewRstFlagCheck (run (fun m k => nvResetToFactoryNew.cutAt k m) m cuts) = true ∨
        run (fun m k => nvResetToFactoryNew.cutAt k m) m cuts = factoryNew m) ∧
      (∀ x, ¬ Cleared x → run (fun m k => nvResetToFactoryNew.cutAt k m) m cuts x = m x) ∧
      nvResetToFactoryNew.final (run (fun m k => nvResetToFactoryNew.cutAt k m) m cuts) = factoryNew m ∧
      Holds schema (nvResetToFactoryNew.final m) fun _ _ => none := by
  have hinv : (run (fun m k => nvResetToFactoryNew.cutAt k m) m cuts = m ∨
      nvFacrotyNewRstFlagCheck (run (fun m k => nvResetToFactoryNew.cutAt k m) m cuts) = true ∨
      run (fun m k => nvResetToFactoryNew.cutAt k m) m cuts = factoryNew m) ∧
      ∀ x, ¬ Cleared x → run (fun m k => nvResetToFactoryNew.cutAt k m) m cuts x = m x := by
    refine run_invariant (P := fun m' => (m' = m ∨ nvFacrotyNewRstFlagCheck m' = true ∨ m' = factoryNew m) ∧
      ∀ x, ¬ Cleared x → m' x = m x) (fun m' k h => ?_) ⟨Or.inl rfl, fun _ _ => rfl⟩ cuts
    obtain ⟨hstate, hsame⟩ := h
    have hnew : factoryNew m' = factoryNew m := factoryNew_congr hsame
    rcases (wp_nvResetToFactoryNew m').cut k with heq | ⟨hset, hsame'⟩ | heq
    · rw [heq]
      exact ⟨hstate, hsame⟩
    · exact ⟨Or.inr (Or.inl hset), fun x hx => (hsame' x hx).trans (hsame x hx)⟩
    · rw [heq, hnew]
      exact ⟨Or.inr (Or.inr rfl), fun x hx => factoryNew_outside hx⟩
  refine ⟨hinv.1, hinv.2, ?_, ?_⟩
  · rw [(wp_nvResetToFactoryNew _).post, factoryNew_congr hinv.2]
  · rw [(wp_nvResetToFactoryNew m).post]
    exact holds_factoryNew schema m

end Watermeter.Nv
