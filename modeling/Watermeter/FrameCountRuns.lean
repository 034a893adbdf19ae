import Mathlib.Data.List.Chain
import Watermeter.FrameCountSave
import Watermeter.Transition

/-! The frame counter over whole runs: saves and reads, any of which the power may cut short. What a receiver must never
see is a count that goes back. -/

namespace Watermeter.Nv

open NorFlash CrashLogic Transition

variable {m m' : Mem} {n : Nat} {counts counts' : List (BitVec 32)} {c v : BitVec 32}

/-! ### Reading -/

/-- The count that takes the place of the last one when that is too far from the one before it. -/
def distrusted (counts : List (BitVec 32)) : Option (BitVec 32) :=
  let prev := counts.getD (counts.length - 2) 0
  if 2 < counts.length ∧ updateFramecountThres < counts.getD (counts.length - 1) 0 - prev then
    some (prev + updateFramecountThres)
  else none

def readCount (counts : List (BitVec 32)) : Option (BitVec 32) := (distrusted counts).or counts.getLast?

def afterRead (counts : List (BitVec 32)) : List (BitVec 32) :=
  match distrusted counts with
  | some c => [c]
  | none => counts

/-- The sector that follows is erased and taken into use with the count alone. -/
theorem wp_forcedHandler {C : Mem → Prop} {Q : NvSts → Mem → Prop} (ho : Counted m nvSectorValidCheckCrc n counts)
    (hc : c ≠ idleWord) (hC : ∀ m', Outside .nwkFrameCount m m' → (KeepsCounts m' counts ∨ KeepsCounts m' [c]) → C m')
    (hQ : ∀ m' ret, Outside .nwkFrameCount m m' → KeepsCounts m' [c] → Q ret m') :
    wp C (nvNwkFrameCountSaveToFlashHandler (some n) c) Q m := by
  have hj := other_lt n
  have hone : nvRealSectNum .nwkFrameCount = 1 := rfl
  have hs := ho.eraseOther
  have hout := erase_outside_module hj m
  have hnow : C m := hC m (Outside.refl _ m) (Or.inl (.active n ho))
  have hcut : C (erase m (moduleSectStart .nwkFrameCount ((n + 1) % 2)) flashSectorSize) :=
    hC _ hout (Or.inl (.active n hs.old))
  refine wp_bind.mpr (wp_bind.mpr ?_)
  rw [hone]
  refine wp_nvSectorErase .nwkFrameCount hj 1 (fun k hk => ?_) (wp_pure.mpr ⟨hcut, ?_⟩)
  · have hcases : k = 0 ∨ k = 1 := by omega
    rcases hcases with rfl | rfl
    · have hnone : erase m (moduleSectStart .nwkFrameCount ((n + 1) % 2)) (flashSectorSize * 0) = m :=
        funext fun x => erase_outside (by omega)
      rwa [hnone]
    · exact hcut
  · exact wp_frameCountWrite_forced hs hc .succ (fun m' hout' h => hC m' (hout.trans hout') h) fun m' hout' h =>
      hQ m' .succ (hout.trans hout') h

theorem wp_nvNwkFrameCountFromFlash {C : Mem → Prop} {Q : Option (BitVec 32) → Mem → Prop} (h : KeepsCounts m counts)
    (hidle : distrusted counts ≠ some idleWord)
    (hC : ∀ m', Outside .nwkFrameCount m m' → (KeepsCounts m' counts ∨ KeepsCounts m' (afterRead counts)) → C m')
    (hQ : ∀ m', Outside .nwkFrameCount m m' → KeepsCounts m' (afterRead counts) → Q (readCount counts) m') :
    wp C nvNwkFrameCountFromFlash Q m := by
  refine wp_bind.mpr (wp_countSector h (fun m' hout hk => hC m' hout (Or.inl hk)) (fun hrej hnil => ?_) fun n m' hout ho => ?_)
  · subst hnil
    have hk : KeepsCounts m [] := .empty hrej rfl
    exact wp_pure.mpr ⟨hC m (Outside.refl _ m) (Or.inl hk), hQ m (Outside.refl _ m) hk⟩
  have hnow : C m' := hC m' hout (Or.inl (.active n ho))
  have hpos : 0 < counts.length := List.length_pos_of_ne_nil ho.ne
  have hlast : counts.getLast? = some (counts.getLast ho.ne) := List.getLast?_eq_some_getLast ho.ne
  refine wp_bind.mpr (wp_get.mpr ⟨hnow, ?_⟩)
  rw [nvNwkFrameCountSearch_eq ho.records ho.lt, hlast]
  dsimp only
  have hfar : (framecountPayloadStart n + 8 < framecountPayloadStart n + 4 * counts.length ∧
      updateFramecountThres < read32 m' (framecountPayloadStart n + 4 * counts.length - 4) -
        read32 m' (framecountPayloadStart n + 4 * counts.length - 8)) ↔
      2 < counts.length ∧ updateFramecountThres <
        counts.getD (counts.length - 1) 0 - counts.getD (counts.length - 2) 0 := by
    refine and_congr_left' (by omega) |>.trans (and_congr_right fun hlen => ?_)
    have hword₁ := ho.records.word (counts.length - 1) (by omega)
    have hword₂ := ho.records.word (counts.length - 2) (by omega)
    have haddr₁ : framecountPayloadStart n + 4 * counts.length - 4 = framecountPayloadStart n + 4 * (counts.length - 1) := by
      omega
    have haddr₂ : framecountPayloadStart n + 4 * counts.length - 8 = framecountPayloadStart n + 4 * (counts.length - 2) := by
      omega
    rw [haddr₁, haddr₂, hword₁, hword₂, List.getD_eq_getElem _ _ (by omega), List.getD_eq_getElem _ _ (by omega)]
  by_cases hcond : 2 < counts.length ∧ updateFramecountThres <
      counts.getD (counts.length - 1) 0 - counts.getD (counts.length - 2) 0
  · have hprev : read32 m' (framecountPayloadStart n + 4 * counts.length - 8) = counts.getD (counts.length - 2) 0 := by
      have hlen := hcond.1
      have hword := ho.records.word (counts.length - 2) (by omega)
      have haddr : framecountPayloadStart n + 4 * counts.length - 8 = framecountPayloadStart n + 4 * (counts.length - 2) := by
        omega
      rw [haddr, hword, List.getD_eq_getElem _ _ (by omega)]
    have hd : distrusted counts = some (counts.getD (counts.length - 2) 0 + updateFramecountThres) := if_pos hcond
    rw [readCount, hd] at hQ
    rw [afterRead, hd] at hC hQ
    rw [hd] at hidle
    rw [if_pos (hfar.mpr hcond), hprev]
    refine wp_bind.mpr (wp_forcedHandler ho (fun heq => hidle (congrArg some heq))
      (fun m'' hout' hk => hC m'' (hout.trans hout') hk) fun m'' ret hout' hk => wp_pure.mpr ⟨?_, ?_⟩)
    · exact hC m'' (hout.trans hout') (Or.inr hk)
    · exact hQ m'' (hout.trans hout') hk
  · have hd : distrusted counts = none := if_neg hcond
    rw [readCount, afterRead, hd, hlast] at hQ
    rw [if_neg (mt hfar.mp hcond)]
    exact wp_pure.mpr ⟨hnow, hQ m' hout (.active n ho)⟩

/-! ### Accesses -/

inductive CountAccess
  | save (frameCount : BitVec 32)
  | read

inductive CountAnswer
  | saved (st : NvSts)
  | got (frameCount : Option (BitVec 32))

def CountAccess.program : CountAccess → Driver CountAnswer
  | .save frameCount => do return .saved (← nvNwkFrameCountSaveToFlash frameCount)
  | .read => do return .got (← nvNwkFrameCountFromFlash)

/-- An access, and the number of commands after which the power fails, if it does. -/
structure CountEvent where
  access : CountAccess
  cut : Option Nat

def countStep (m : Mem) (e : CountEvent) : Mem := (e.access.program.use e.cut m).2

/-- The answers of a run; there is none to an access that is cut short. -/
def countAnswers : Mem → List CountEvent → List (Option CountAnswer)
  | _, [] => []
  | m, e :: events => (e.access.program.use e.cut m).1 :: countAnswers (countStep m e) events

/-- One access to the counts: done, or done or not when it is cut short. -/
inductive Counts (counts : List (BitVec 32)) : CountEvent → Option CountAnswer → List (BitVec 32) → Prop
  | saved (c : BitVec 32) : Counts counts ⟨.save c, none⟩ (some (.saved .succ)) (saveCount counts c)
  | unsaved (c : BitVec 32) (k : Nat) : Counts counts ⟨.save c, some k⟩ none counts
  | late (c : BitVec 32) (k : Nat) : Counts counts ⟨.save c, some k⟩ none (saveCount counts c)
  | got : Counts counts ⟨.read, none⟩ (some (.got (readCount counts))) (afterRead counts)
  | unread (k : Nat) : Counts counts ⟨.read, some k⟩ none counts
  | replaced (k : Nat) : Counts counts ⟨.read, some k⟩ none (afterRead counts)

inductive CountsAll : List (BitVec 32) → List CountEvent → List (Option CountAnswer) → List (BitVec 32) → Prop
  | nil (counts : List (BitVec 32)) : CountsAll counts [] [] counts
  | cons {counts counts₁ counts₂ : List (BitVec 32)} {e : CountEvent} {events : List CountEvent} {a : Option CountAnswer}
      {as : List (Option CountAnswer)} (h : Counts counts e a counts₁) (hs : CountsAll counts₁ events as counts₂) :
      CountsAll counts (e :: events) (a :: as) counts₂

/-- No word that looks like one that is not written is to be written. -/
def Safe (counts : List (BitVec 32)) : CountAccess → Prop
  | .save c => c ≠ idleWord
  | .read => distrusted counts ≠ some idleWord

theorem counts_step (h : KeepsCounts m counts) {e : CountEvent} (hsafe : Safe counts e.access) :
    ∃ counts', Counts counts e (e.access.program.use e.cut m).1 counts' ∧ KeepsCounts (countStep m e) counts' ∧
      Outside .nwkFrameCount m (countStep m e) := by
  obtain ⟨access, cut⟩ := e
  cases access with
  | save c =>
      have hwp : wp (fun m' => Outside .nwkFrameCount m m' ∧ (KeepsCounts m' counts ∨ KeepsCounts m' (saveCount counts c)))
          (CountAccess.save c).program
          (fun a m' => Outside .nwkFrameCount m m' ∧ a = .saved .succ ∧ KeepsCounts m' (saveCount counts c)) m :=
        wp_bind.mpr (wp_nvNwkFrameCountSaveToFlash h hsafe (fun m' hout hk => ⟨hout, hk⟩) fun m' hout hk =>
          wp_pure.mpr ⟨⟨hout, Or.inr hk⟩, hout, rfl, hk⟩)
      rcases hwp.use cut with ⟨a, rfl, ha, hout, rfl, hk⟩ | ⟨k, rfl, ha, hout, hk | hk⟩
      · exact ⟨_, ha ▸ .saved c, hk, hout⟩
      · exact ⟨counts, ha ▸ .unsaved c k, hk, hout⟩
      · exact ⟨_, ha ▸ .late c k, hk, hout⟩
  | read =>
      have hwp : wp (fun m' => Outside .nwkFrameCount m m' ∧ (KeepsCounts m' counts ∨ KeepsCounts m' (afterRead counts)))
          CountAccess.read.program
          (fun a m' => Outside .nwkFrameCount m m' ∧ a = .got (readCount counts) ∧ KeepsCounts m' (afterRead counts)) m :=
        wp_bind.mpr (wp_nvNwkFrameCountFromFlash h hsafe (fun m' hout hk => ⟨hout, hk⟩) fun m' hout hk =>
          wp_pure.mpr ⟨⟨hout, Or.inr hk⟩, hout, rfl, hk⟩)
      rcases hwp.use cut with ⟨a, rfl, ha, hout, rfl, hk⟩ | ⟨k, rfl, ha, hout, hk | hk⟩
      · exact ⟨_, ha ▸ .got, hk, hout⟩
      · exact ⟨counts, ha ▸ .unread k, hk, hout⟩
      · exact ⟨_, ha ▸ .replaced k, hk, hout⟩

/-! ### What the module is for -/

/-- The count, and the threshold above it, are below the word that looks like one that is not written. -/
def Low (c : BitVec 32) : Prop := c.toNat + updateFramecountThres.toNat < idleWord.toNat

def CountAccess.Low : CountAccess → Prop
  | .save c => Nv.Low c
  | .read => True

theorem safe_of_low {a : CountAccess} (htail : ∀ c ∈ counts.tail, Low c) (ha : a.Low) : Safe counts a := by
  have hthres : updateFramecountThres.toNat = 1024 := rfl
  have hidle : idleWord.toNat = 2 ^ 32 - 1 := rfl
  cases a with
  | save c =>
      rintro rfl
      unfold CountAccess.Low Low at ha
      omega
  | read =>
      unfold Safe distrusted
      dsimp only
      split
      · next hcond =>
          intro heq
          cases counts with
          | nil => exact absurd hcond.1 (by simp)
          | cons head rest =>
              have hlen := hcond.1
              rw [List.length_cons] at heq hlen
              have hat : (head :: rest).getD (rest.length + 1 - 2) 0 = rest[rest.length - 2] := by
                rw [show rest.length + 1 - 2 = rest.length - 2 + 1 by omega, List.getD_cons_succ,
                  List.getD_eq_getElem _ _ (by omega)]
              have hlow := htail _ (List.getElem_mem (show rest.length - 2 < rest.length by omega))
              rw [hat, Option.some.injEq] at heq
              have hsum := congrArg BitVec.toNat heq
              unfold Low at hlow
              rw [BitVec.toNat_add] at hsum
              omega
      · rintro ⟨⟩

theorem Counts.low {e : CountEvent} {a : Option CountAnswer} (h : Counts counts e a counts')
    (htail : ∀ c ∈ counts.tail, Low c) (he : e.access.Low) : ∀ c ∈ counts'.tail, Low c := by
  have hsave : ∀ c, Low c → ∀ c' ∈ (saveCount counts c).tail, Low c' := by
    intro c hc c' hmem
    unfold saveCount at hmem
    split at hmem
    · cases counts with
      | nil => exact absurd hmem List.not_mem_nil
      | cons head rest =>
          rcases List.mem_append.mp hmem with hmem | hmem
          · exact htail c' hmem
          · rwa [List.mem_singleton.mp hmem]
    · cases hlast : counts.getLast? with
      | none =>
          rw [hlast] at hmem
          exact absurd hmem List.not_mem_nil
      | some last =>
          rw [hlast] at hmem
          rwa [List.mem_singleton.mp hmem]
  have hread : ∀ c ∈ (afterRead counts).tail, Low c := by
    unfold afterRead
    split
    · exact fun c hmem => absurd hmem List.not_mem_nil
    · exact htail
  cases h with
  | saved c => exact hsave c he
  | late c => exact hsave c he
  | got => exact hread
  | replaced => exact hread
  | unsaved => exact htail
  | unread => exact htail

/-- Whatever is saved and read, and wherever the power fails: the module keeps the counts of one sector, to which a save
adds one or nothing, and of which a read returns the last, or the one before it with the threshold. Nothing else on the
flash changes. -/
theorem frameCount_refines (m : Mem) (counts : List (BitVec 32)) (events : List CountEvent) (h : KeepsCounts m counts)
    (htail : ∀ c ∈ counts.tail, Low c) (hlow : ∀ e ∈ events, e.access.Low) :
    ∃ counts', CountsAll counts events (countAnswers m events) counts' ∧ KeepsCounts (run countStep m events) counts' ∧
      Outside .nwkFrameCount m (run countStep m events) := by
  induction events generalizing m counts with
  | nil => exact ⟨counts, .nil counts, h, Outside.refl _ m⟩
  | cons e events ih =>
      have he := hlow e List.mem_cons_self
      obtain ⟨counts₁, hcounts, hkeeps, hout⟩ := counts_step h (safe_of_low htail he)
      obtain ⟨counts₂, hall, hkeeps', hout'⟩ :=
        ih _ counts₁ hkeeps (hcounts.low htail he) fun e' he' => hlow e' (List.mem_cons_of_mem _ he')
      exact ⟨counts₂, .cons hcounts hall, hkeeps', hout.trans hout'⟩

/-- An erased chip keeps no counts. -/
theorem keepsCounts_blank : KeepsCounts (fun _ => 0xFF#8) [] := .empty (fun _ _ => rejected_erased fun _ _ _ => rfl) rfl

theorem frameCount_refines_blank :
    let events : List CountEvent := [⟨.save 5#32, none⟩, ⟨.save 9#32, some 1⟩, ⟨.read, none⟩]
    ∃ counts', CountsAll [] events (countAnswers (fun _ => 0xFF#8) events) counts' ∧
      KeepsCounts (run countStep (fun _ => 0xFF#8) events) counts' ∧
      Outside .nwkFrameCount (fun _ => 0xFF#8) (run countStep (fun _ => 0xFF#8) events) :=
  frameCount_refines _ [] _ keepsCounts_blank (fun _ h => absurd h List.not_mem_nil)
    (by simp [CountAccess.Low, Low, updateFramecountThres, idleWord])

/-! ### The counter never goes back -/

/-- A count may follow another one. -/
def Follows (c c' : BitVec 32) : Prop := c.toNat ≤ c'.toNat ∧ c'.toNat ≤ c.toNat + updateFramecountThres.toNat

/-- The count that a read returns at this moment. -/
def kept (m : Mem) : Option (BitVec 32) := nvNwkFrameCountFromFlash.result m

/-- A count is saved that may follow the one that a read would return. -/
def CountEvent.Follows (m : Mem) (e : CountEvent) : Prop :=
  ∀ c, e.access = .save c → c ≠ idleWord ∧ ∀ v, kept m = some v → Nv.Follows v c

def FollowAll : Mem → List CountEvent → Prop
  | _, [] => True
  | m, e :: events => e.Follows m ∧ FollowAll (countStep m e) events

/-- Counts that follow each other. -/
def Close (counts : List (BitVec 32)) : Prop := counts.IsChain Follows

theorem Close.trusted (h : Close counts) : distrusted counts = none := by
  apply if_neg
  intro hcond
  obtain ⟨hlen, hfar⟩ := hcond
  have hnext := List.isChain_iff_getElem.mp h (counts.length - 2) (by omega)
  rw [List.getD_eq_getElem _ _ (by omega), List.getD_eq_getElem _ _ (by omega)] at hfar
  obtain ⟨hle, hbound⟩ := hnext
  have hat : counts.length - 2 + 1 = counts.length - 1 := by omega
  simp only [hat] at hle hbound
  rw [BitVec.lt_def, BitVec.toNat_sub_of_le hle] at hfar
  omega

theorem Close.save (h : Close counts) (hc : ∀ v, counts.getLast? = some v → Follows v c) : Close (saveCount counts c) := by
  unfold saveCount
  split
  · refine List.isChain_append.mpr ⟨h, List.isChain_singleton c, fun v hv c' hc' => ?_⟩
    cases hc'
    exact hc v hv
  · cases hlast : counts.getLast? with
    | none => exact List.isChain_singleton c
    | some v => exact List.isChain_pair.mpr (hc v hlast)

theorem saveCount_last (counts : List (BitVec 32)) (c : BitVec 32) : (saveCount counts c).getLast? = some c := by
  unfold saveCount
  split <;> simp

/-- The counts of the module follow each other. -/
structure Rising (m : Mem) (counts : List (BitVec 32)) : Prop where
  keeps : KeepsCounts m counts
  close : Close counts

theorem Rising.kept (h : Rising m counts) : kept m = counts.getLast? := by
  have htrusted := h.close.trusted
  have hwp : wp (fun _ => True) nvNwkFrameCountFromFlash (fun a _ => a = readCount counts) m :=
    wp_nvNwkFrameCountFromFlash h.keeps (by simp [htrusted]) (fun _ _ _ => trivial) fun _ _ _ => rfl
  have hpost : nvNwkFrameCountFromFlash.result m = readCount counts := hwp.post
  rw [Nv.kept, hpost, readCount, htrusted, Option.none_or]

theorem Rising.step (h : Rising m counts) {e : CountEvent} (he : e.Follows m) :
    ∃ counts', Rising (countStep m e) counts' ∧
      (∀ v, counts.getLast? = some v → ∃ v', counts'.getLast? = some v' ∧ v.toNat ≤ v'.toNat) ∧
      ∀ c, e = ⟨.save c, none⟩ → counts'.getLast? = some c := by
  have htrusted := h.close.trusted
  have hsafe : Safe counts e.access := by
    cases haccess : e.access with
    | save c => exact (he c haccess).1
    | read =>
        show distrusted counts ≠ some idleWord
        rw [htrusted]
        rintro ⟨⟩
  have hafter : afterRead counts = counts := by rw [afterRead, htrusted]
  have hsame : ∀ v, counts.getLast? = some v → ∃ v', counts.getLast? = some v' ∧ v.toNat ≤ v'.toNat :=
    fun v hv => ⟨v, hv, le_refl _⟩
  obtain ⟨counts', hcounts, hkeeps, -⟩ := counts_step h.keeps hsafe
  have hsaved : ∀ c, e.access = .save c → Close (saveCount counts c) ∧
      ∀ v, counts.getLast? = some v → ∃ v', (saveCount counts c).getLast? = some v' ∧ v.toNat ≤ v'.toNat := by
    intro c hc
    have hfollows := (he c hc).2
    rw [h.kept] at hfollows
    exact ⟨h.close.save hfollows, fun v hv => ⟨c, saveCount_last counts c, (hfollows v hv).1⟩⟩
  generalize (e.access.program.use e.cut m).1 = a at hcounts
  cases hcounts with
  | saved c =>
      obtain ⟨hclose, hle⟩ := hsaved c rfl
      refine ⟨_, ⟨hkeeps, hclose⟩, hle, fun c' heq => ?_⟩
      cases heq
      exact saveCount_last counts c
  | late c k =>
      obtain ⟨hclose, hle⟩ := hsaved c rfl
      exact ⟨_, ⟨hkeeps, hclose⟩, hle, by rintro c' ⟨⟩⟩
  | unsaved c k => exact ⟨_, ⟨hkeeps, h.close⟩, hsame, by rintro c' ⟨⟩⟩
  | got =>
      rw [hafter] at hkeeps
      exact ⟨_, ⟨hkeeps, h.close⟩, hsame, by rintro c' ⟨⟩⟩
  | unread k => exact ⟨_, ⟨hkeeps, h.close⟩, hsame, by rintro c' ⟨⟩⟩
  | replaced k =>
      rw [hafter] at hkeeps
      exact ⟨_, ⟨hkeeps, h.close⟩, hsame, by rintro c' ⟨⟩⟩

theorem Rising.run (h : Rising m counts) (events : List CountEvent) (hevents : FollowAll m events) :
    ∃ counts', Rising (run countStep m events) counts' ∧
      ∀ v, counts.getLast? = some v → ∃ v', counts'.getLast? = some v' ∧ v.toNat ≤ v'.toNat := by
  induction events generalizing m counts with
  | nil => exact ⟨counts, h, fun v hv => ⟨v, hv, le_refl _⟩⟩
  | cons e events ih =>
      obtain ⟨counts₁, hrising, hle, -⟩ := h.step hevents.1
      obtain ⟨counts₂, hrising', hle'⟩ := ih hrising hevents.2
      refine ⟨counts₂, hrising', fun v hv => ?_⟩
      obtain ⟨v₁, hv₁, hle₁⟩ := hle v hv
      obtain ⟨v₂, hv₂, hle₂⟩ := hle' v₁ hv₁
      exact ⟨v₂, hv₂, hle₁.trans hle₂⟩

theorem followAll_append (m : Mem) (xs ys : List CountEvent) :
    FollowAll m (xs ++ ys) ↔ FollowAll m xs ∧ FollowAll (Transition.run countStep m xs) ys := by
  induction xs generalizing m with
  | nil => exact ⟨fun h => ⟨trivial, h⟩, fun h => h.2⟩
  | cons e xs ih => rw [List.cons_append, FollowAll, ih, FollowAll, and_assoc, run_cons]

/-- A count that has been saved, or that a read has returned, never goes back, wherever the power fails, as long as no
count is saved that is below the one kept or too far above it. -/
theorem frameCount_never_back (m : Mem) (counts : List (BitVec 32)) (h : KeepsCounts m counts) (hclose : Close counts)
    (xs ys : List CountEvent) (e : CountEvent) (hall : FollowAll m (xs ++ e :: ys)) :
    (∀ v, kept (run countStep m xs) = some v →
      ∃ v', kept (run countStep m (xs ++ e :: ys)) = some v' ∧ v.toNat ≤ v'.toNat) ∧
    ∀ c, e = ⟨.save c, none⟩ → ∃ v', kept (run countStep m (xs ++ e :: ys)) = some v' ∧ c.toNat ≤ v'.toNat := by
  obtain ⟨hxs, he, hys⟩ := (followAll_append m xs (e :: ys)).mp hall
  obtain ⟨counts₁, hrising₁, -⟩ := Rising.run ⟨h, hclose⟩ xs hxs
  obtain ⟨counts₂, hrising₂, hle, hsaved⟩ := hrising₁.step he
  obtain ⟨counts₃, hrising₃, hle'⟩ := hrising₂.run ys hys
  have hend : run countStep m (xs ++ e :: ys) = run countStep (countStep (run countStep m xs) e) ys := by
    rw [run_append, run_cons]
  rw [hend, hrising₁.kept, hrising₃.kept]
  refine ⟨fun v hv => ?_, fun c hc => hle' c (hsaved c hc)⟩
  obtain ⟨v₂, hv₂, hle₂⟩ := hle v hv
  obtain ⟨v₃, hv₃, hle₃⟩ := hle' v₂ hv₂
  exact ⟨v₃, hv₃, hle₂.trans hle₃⟩

theorem frameCount_never_back_blank :
    let m : Mem := fun _ => 0xFF#8
    let xs : List CountEvent := [⟨.save 5#32, none⟩]
    let e : CountEvent := ⟨.save 9#32, some 0⟩
    (∀ v, kept (run countStep m xs) = some v →
      ∃ v', kept (run countStep m (xs ++ e :: [⟨.read, none⟩])) = some v' ∧ v.toNat ≤ v'.toNat) ∧
    ∀ c, e = ⟨.save c, none⟩ → ∃ v', kept (run countStep m (xs ++ e :: [⟨.read, none⟩])) = some v' ∧ c.toNat ≤ v'.toNat := by
  intro m xs e
  have hclose : Close [] := List.isChain_nil
  have hblank : Rising m [] := ⟨keepsCounts_blank, hclose⟩
  have hfirst : CountEvent.Follows m ⟨.save 5#32, none⟩ := by
    rintro c ⟨⟩
    refine ⟨by decide, fun v hv => ?_⟩
    rw [hblank.kept] at hv
    cases hv
  obtain ⟨counts₁, hrising, -, hlast⟩ := hblank.step hfirst
  have hsecond : CountEvent.Follows (countStep m ⟨.save 5#32, none⟩) e := by
    rintro c ⟨⟩
    refine ⟨by decide, fun v hv => ?_⟩
    rw [hrising.kept, hlast 5#32 rfl] at hv
    cases hv
    exact ⟨by decide, by decide⟩
  exact frameCount_never_back m [] keepsCounts_blank hclose xs [⟨.read, none⟩] e ⟨hfirst, hsecond, by rintro c ⟨⟩, trivial⟩

end Watermeter.Nv
