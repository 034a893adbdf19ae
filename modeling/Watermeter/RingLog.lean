import Mathlib.Algebra.Group.Basic
import Mathlib.Data.Nat.Cast.Defs
import Mathlib.Algebra.Ring.Defs

/-! A log of numbered records in a ring of `N` slots that are emptied `S` at a time. The newest record
is not marked: a reader starts at slot 0 and follows the records for as long as each is numbered one
above the one before. The numbers are taken in any additive group with one, so they may wrap. -/

namespace RingLog

variable {ρ σ : Type*}

/-- The slots `0 … p` hold records numbered one after the other, and slot `p` holds `r`. -/
inductive Chain [Add σ] [One σ] (seq : ρ → σ) (log : Nat → Option ρ) : Nat → ρ → Prop
  | first {r : ρ} : log 0 = some r → Chain seq log 0 r
  | next {p : Nat} {r r' : ρ} : Chain seq log p r → log (p + 1) = some r' → seq r' = seq r + 1 →
      Chain seq log (p + 1) r'

/-- The record continues the chain that ends with `r`. -/
def Continues [Add σ] [One σ] (seq : ρ → σ) (r : ρ) (slot : Option ρ) : Prop :=
  ∃ r', slot = some r' ∧ seq r' = seq r + 1

instance [Add σ] [One σ] [DecidableEq σ] (seq : ρ → σ) (r : ρ) :
    (slot : Option ρ) → Decidable (Continues seq r slot)
  | none => isFalse (by simp [Continues])
  | some r' => decidable_of_iff (seq r' = seq r + 1) (by simp [Continues])

theorem not_continues_of_none [Add σ] [One σ] {seq : ρ → σ} {r : ρ} {slot : Option ρ} (h : slot = none) :
    ¬ Continues seq r slot := by
  rw [h]
  nofun

/-- The reader: from `r` in slot `i`, at most `fuel` slots on. `none` when the records never stop. -/
def follow [Add σ] [One σ] [DecidableEq σ] (seq : ρ → σ) (log : Nat → Option ρ) :
    Nat → Nat → ρ → Option (Nat × ρ)
  | 0, _, _ => none
  | fuel + 1, i, r =>
    match log (i + 1) with
    | some r' => if seq r' = seq r + 1 then follow seq log fuel (i + 1) r' else some (i, r)
    | none => some (i, r)

/-- One write: slot `q` receives `r`, the slots after it in a part opened by it are emptied, and every
other slot below `N` stays. -/
structure Put (N S : Nat) (log log' : Nat → Option ρ) (q : Nat) (r : ρ) : Prop where
  here : log' q = some r
  opened : q % S = 0 → ∀ j, q < j → j < q + S → log' j = none
  kept : ∀ j, j < N → j ≠ q → (q % S = 0 → j < q ∨ q + S ≤ j) → log' j = log j

/-- The slot after `p` in the ring. -/
def succSlot (N p : Nat) : Nat := if p + 1 = N then 0 else p + 1

theorem succSlot_lt {N p : Nat} (hp : p < N) : succSlot N p < N := by
  unfold succSlot; split <;> omega

theorem succSlot_mod {N : Nat} (hN : 0 < N) (n : Nat) : succSlot N (n % N) = (n + 1) % N := by
  have hlt := Nat.mod_lt n hN
  rw [← Nat.mod_add_mod]
  unfold succSlot
  split
  · next hlast => rw [hlast, Nat.mod_self]
  · exact (Nat.mod_eq_of_lt (by omega : n % N + 1 < N)).symm

/-! ### Chains -/

section Chain

variable [Add σ] [One σ] {seq : ρ → σ} {log log' : Nat → Option ρ} {p : Nat} {r r' : ρ}

theorem Chain.last (h : Chain seq log p r) : log p = some r := by
  cases h with
  | first h => exact h
  | next _ h _ => exact h

theorem Chain.head (h : Chain seq log p r) : ∃ r₀, log 0 = some r₀ := by
  induction h with
  | first h => exact ⟨_, h⟩
  | next _ _ _ ih => exact ih

theorem Chain.congr (h : Chain seq log p r) (heq : ∀ i, i ≤ p → log' i = log i) :
    Chain seq log' p r := by
  induction h with
  | first h => exact .first ((heq 0 (Nat.le_refl _)).trans h)
  | next _ hlog hseq ih =>
    exact .next (ih fun i hi => heq i (by omega)) ((heq _ (Nat.le_refl _)).trans hlog) hseq

/-- A chain is cut at any of its slots. -/
theorem Chain.shorter (h : Chain seq log p r) {i : Nat} (hi : i ≤ p) : ∃ s, Chain seq log i s := by
  induction h with
  | first h =>
    obtain rfl : i = 0 := by omega
    exact ⟨_, .first h⟩
  | @next p r r' hc hlog hseq ih =>
    rcases Nat.lt_or_ge i (p + 1) with hlt | hge
    · exact ih (by omega)
    · obtain rfl : i = p + 1 := by omega
      exact ⟨r', hc.next hlog hseq⟩

variable [DecidableEq σ]

/-- The reader follows a chain to its end. -/
theorem follow_chain (h : Chain seq log p r) (N : Nat) (hp : p < N) :
    ∃ r₀, log 0 = some r₀ ∧ follow seq log N 0 r₀ = follow seq log (N - p) p r := by
  induction h with
  | first h => exact ⟨_, h, rfl⟩
  | @next p r r' hc hlog hseq ih =>
    obtain ⟨r₀, h0, hf⟩ := ih (by omega)
    refine ⟨r₀, h0, hf.trans ?_⟩
    rw [show N - p = (N - (p + 1)) + 1 by omega, follow]
    simp only [hlog, hseq, if_true]

theorem follow_stop {fuel : Nat} (hstop : ¬ Continues seq r (log (p + 1))) :
    follow seq log (fuel + 1) p r = some (p, r) := by
  unfold follow
  cases hlog : log (p + 1) with
  | none => rfl
  | some r' =>
    have hne : seq r' ≠ seq r + 1 := fun h => hstop ⟨r', hlog, h⟩
    simp [hne]

theorem follow_lt {fuel i : Nat} (h : follow seq log fuel i r = some (p, r')) : p < i + fuel := by
  induction fuel generalizing i r with
  | zero => cases h
  | succ fuel ih =>
    unfold follow at h
    split at h
    · split at h
      · have hlt := ih h
        omega
      · cases h
        omega
    · cases h
      omega

/-- The record the reader ends with is the one it starts with or one it has read. -/
theorem follow_mem {fuel i : Nat} (h : follow seq log fuel i r = some (p, r')) :
    p = i ∧ r' = r ∨ i < p ∧ log p = some r' := by
  induction fuel generalizing i r with
  | zero => cases h
  | succ fuel ih =>
    unfold follow at h
    split at h
    · next next hlog =>
      split at h
      · rcases ih h with ⟨rfl, rfl⟩ | ⟨hlt, hread⟩
        · exact Or.inr ⟨Nat.lt_succ_self i, hlog⟩
        · exact Or.inr ⟨by omega, hread⟩
      · cases h
        exact Or.inl ⟨rfl, rfl⟩
    · cases h
      exact Or.inl ⟨rfl, rfl⟩

/-- A chain that stops before the last slot is recovered, with its place. -/
theorem follow_eq_some (h : Chain seq log p r) (hstop : ¬ Continues seq r (log (p + 1))) {N : Nat}
    (hp : p < N) : ∃ r₀, log 0 = some r₀ ∧ follow seq log N 0 r₀ = some (p, r) := by
  obtain ⟨r₀, h0, hf⟩ := follow_chain h N hp
  refine ⟨r₀, h0, hf.trans ?_⟩
  rw [show N - p = (N - p - 1) + 1 by omega]
  exact follow_stop hstop

/-- A chain over all slots is never recovered. -/
theorem follow_eq_none (h : Chain seq log p r) :
    ∃ r₀, log 0 = some r₀ ∧ follow seq log p 0 r₀ = none := by
  cases h with
  | first h => exact ⟨_, h, rfl⟩
  | @next p r _ hc hlog hseq =>
    obtain ⟨r₀, h0, hf⟩ := follow_chain hc (p + 1) (by omega)
    refine ⟨r₀, h0, hf.trans ?_⟩
    rw [show p + 1 - p = 0 + 1 by omega, follow]
    simp [hlog, hseq, follow]

end Chain

/-! ### Writing -/

section Put

variable {N S : Nat} {log log' : Nat → Option ρ} {p q : Nat} {r r' : ρ}

/-- Writing into the next slot extends the chain; writing into slot 0 starts a new one. -/
theorem Put.chain [Add σ] [One σ] {seq : ρ → σ} (hput : Put N S log log' (succSlot N p) r')
    (hp : p < N) (h : Chain seq log p r) (hseq : seq r' = seq r + 1) :
    Chain seq log' (succSlot N p) r' := by
  unfold succSlot at hput ⊢
  split at hput
  · next hlast => rw [if_pos hlast]; exact .first hput.here
  · next hlast =>
    rw [if_neg hlast]
    refine .next (h.congr fun i hi => ?_) hput.here hseq
    exact hput.kept i (by omega) (by omega) fun _ => Or.inl (by omega)

/-- A chain was written up to slot `p`, and since then slots may only have been lost. -/
def Kept [Add σ] [One σ] (seq : ρ → σ) (log : Nat → Option ρ) (lost : Nat → Prop) (p : Nat) (r : ρ) : Prop :=
  ∃ orig, Chain seq orig p r ∧ ∀ i, i ≤ p → log i = orig i ∨ lost i

theorem Kept.of_chain [Add σ] [One σ] {seq : ρ → σ} (h : Chain seq log p r) (lost : Nat → Prop) :
    Kept seq log lost p r :=
  ⟨log, h, fun _ _ => Or.inl rfl⟩

/-- What is not lost is the chain. -/
theorem Kept.chain [Add σ] [One σ] {seq : ρ → σ} {lost : Nat → Prop} (h : Kept seq log lost p r)
    (hlost : ∀ i, i ≤ p → ¬ lost i) : Chain seq log p r := by
  obtain ⟨orig, hchain, hkept⟩ := h
  apply hchain.congr
  intro i hi
  rcases hkept i hi with heq | hl
  · exact heq
  · exact absurd hl (hlost i hi)

theorem Kept.mono [Add σ] [One σ] {seq : ρ → σ} {lost lost' : Nat → Prop} (h : Kept seq log lost p r)
    (hstep : ∀ i, i ≤ p → (log' i = log i ∧ (lost i → lost' i)) ∨ lost' i) : Kept seq log' lost' p r := by
  obtain ⟨orig, hchain, hkept⟩ := h
  refine ⟨orig, hchain, fun i hi => ?_⟩
  rcases hstep i hi with ⟨heq, hmono⟩ | hl
  · rcases hkept i hi with hk | hl
    · exact Or.inl (heq.trans hk)
    · exact Or.inr (hmono hl)
  · exact Or.inr hl

/-- Writing on needs none of the slots that were lost. -/
theorem Put.kept_chain [Add σ] [One σ] {seq : ρ → σ} {lost lost' : Nat → Prop}
    (hput : Put N S log log' (succSlot N p) r') (hp : p < N) (h : Kept seq log lost p r)
    (hseq : seq r' = seq r + 1) (hlost : ∀ i, i < succSlot N p → lost i → lost' i) :
    Kept seq log' lost' (succSlot N p) r' := by
  by_cases hlast : p + 1 = N
  · have hq : succSlot N p = 0 := if_pos hlast
    rw [hq] at hput ⊢
    exact .of_chain (.first hput.here) lost'
  · have hq : succSlot N p = p + 1 := if_neg hlast
    rw [hq] at hput hlost ⊢
    obtain ⟨orig, hchain, hkept⟩ := h
    refine ⟨fun i => if i = p + 1 then some r' else orig i, .next (hchain.congr ?_) (if_pos rfl) hseq, ?_⟩
    · exact fun i hi => if_neg (by omega)
    · intro i hi
      by_cases hnew : i = p + 1
      · subst hnew
        exact Or.inl (hput.here.trans (if_pos rfl).symm)
      · refine (hkept i (by omega)).imp (fun heq => ?_) (hlost i (by omega))
        exact (hput.kept i (by omega) hnew fun _ => Or.inl (by omega)).trans (heq.trans (if_neg hnew).symm)

variable [AddGroupWithOne σ] {seq : ρ → σ}

/-- Every record behind the chain is of the lap before: numbered `N` below the number it would have in
this lap. -/
def Lap (N : Nat) (seq : ρ → σ) (log : Nat → Option ρ) (p : Nat) (r : ρ) : Prop :=
  ∀ j, p < j → j < N → ∀ s, log j = some s → seq s + (N : σ) = seq r + ((j - p : Nat) : σ)

/-- Numbers count up along a chain. -/
theorem Chain.seq_add (h : Chain seq log p r) {i : Nat} (hi : i ≤ p) {s : ρ} (hs : log i = some s) :
    seq s + ((p - i : Nat) : σ) = seq r := by
  induction h with
  | first h =>
    obtain rfl : i = 0 := by omega
    simp [Option.some.inj (hs.symm.trans h)]
  | @next p r r' hc hlog hseq ih =>
    rcases Nat.lt_or_ge i (p + 1) with hlt | hge
    · rw [show p + 1 - i = (p - i) + 1 by omega, Nat.cast_succ, ← add_assoc, ih (by omega), hseq]
    · obtain rfl : i = p + 1 := by omega
      simp [Option.some.inj (hs.symm.trans hlog)]

/-- Writing into the next slot, in order, leaves only records of the lap before behind it. -/
theorem Put.lap (hput : Put N S log log' (succSlot N p) r') (h : Chain seq log p r)
    (hlap : Lap N seq log p r) (hseq : seq r' = seq r + 1) : Lap N seq log' (succSlot N p) r' := by
  intro j hj hjN s hs
  unfold succSlot at hput hj ⊢
  split at hput
  · next hlast =>
    rw [if_pos hlast] at hj ⊢
    have hstay : S ≤ j := by
      by_contra hlt
      rw [hput.opened (Nat.zero_mod S) j hj (by omega)] at hs
      cases hs
    rw [hput.kept j hjN (by omega) fun _ => Or.inr (by omega)] at hs
    have hold := h.seq_add (by omega : j ≤ p) hs
    calc seq s + (N : σ) = seq s + ((p - j : Nat) : σ) + ((1 + j : Nat) : σ) := by
          rw [add_assoc, ← Nat.cast_add, show p - j + (1 + j) = N by omega]
      _ = seq r' + ((j - 0 : Nat) : σ) := by
          rw [hold, Nat.cast_add, Nat.cast_one, ← add_assoc, ← hseq, Nat.sub_zero]
  · next hlast =>
    rw [if_neg hlast] at hj ⊢
    have hstay : (p + 1) % S = 0 → p + 1 + S ≤ j := by
      intro hopen
      by_contra hlt
      rw [hput.opened hopen j hj (by omega)] at hs
      cases hs
    rw [hput.kept j hjN (by omega) fun hopen => Or.inr (hstay hopen)] at hs
    calc seq s + (N : σ) = seq r + ((1 + (j - (p + 1)) : Nat) : σ) := by
          rw [hlap j (by omega) hjN s hs, show j - p = 1 + (j - (p + 1)) by omega]
      _ = seq r' + ((j - (p + 1) : Nat) : σ) := by
          rw [Nat.cast_add, Nat.cast_one, ← add_assoc, ← hseq]

/-- A record of the lap before is not taken for the next one. -/
theorem Lap.stops (h : Lap N seq log p r) (hp : p + 1 < N) (hN : (N : σ) ≠ 0) :
    ¬ Continues seq r (log (p + 1)) := by
  rintro ⟨s, hlog, hseq⟩
  have hlap := h (p + 1) (by omega) hp s hlog
  rw [Nat.add_sub_cancel_left, Nat.cast_one, hseq] at hlap
  exact hN (by simpa using hlap)

end Put

end RingLog
