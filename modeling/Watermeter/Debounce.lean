import Mathlib.Data.Nat.Find
import Mathlib.Data.ENat.Basic

/-! A debounce counter between 1 and `top`: up while the contact is closed, down while it is open, over a
stream of samples. A closure is registered in the poll that reaches `top`. Two registrations have a full
opening between them exactly when no opening that starts at `top` is abandoned half way. -/

namespace Debounce

def poll (top : Nat) (closed : Bool) (d : Nat) : Nat :=
  if closed then if d = top then d else d + 1
  else if d = 1 then d else d - 1

def Reaches (top : Nat) (closed : Bool) (d : Nat) : Prop := closed = true ∧ d + 1 = top

def Clears (closed : Bool) (d : Nat) : Prop := closed = false ∧ d = 2

instance (top : Nat) (closed : Bool) (d : Nat) : Decidable (Reaches top closed d) :=
  inferInstanceAs (Decidable (_ ∧ _))

instance (closed : Bool) (d : Nat) : Decidable (Clears closed d) := inferInstanceAs (Decidable (_ ∧ _))

/-- The value before the sample of time `t`. -/
def level (top : Nat) (samples : Nat → Bool) (d : Nat) : Nat → Nat
  | 0 => d
  | t + 1 => poll top (samples t) (level top samples d t)

/-- Open samples less closed ones among the `n` from time `s` on. -/
def opened (samples : Nat → Bool) (s : Nat) : Nat → Int
  | 0 => 0
  | n + 1 => opened samples s n + if samples (s + n) then -1 else 1

/-- The contact opens at time `s`, and after `n` samples the closed ones have made up for the open ones,
which never were ahead by `top - 1`. -/
def Dip (top : Nat) (samples : Nat → Bool) (s n : Nat) : Prop :=
  0 < n ∧ opened samples s n = 0 ∧
    ∀ k, 0 < k → k < n → 0 < opened samples s k ∧ opened samples s k < (top : Int) - 1

variable {top d : Nat} {closed : Bool} {samples : Nat → Bool}

@[simp] theorem level_zero : level top samples d 0 = d := rfl

@[simp] theorem level_succ (t : Nat) : level top samples d (t + 1) = poll top (samples t) (level top samples d t) := rfl

theorem opened_succ (s n : Nat) :
    opened samples s (n + 1) = opened samples s n + if samples (s + n) then -1 else 1 := rfl

theorem poll_range (h : 1 ≤ d ∧ d ≤ top) : 1 ≤ poll top closed d ∧ poll top closed d ≤ top := by
  unfold poll
  split_ifs <;> omega

theorem level_range (h : 1 ≤ d ∧ d ≤ top) (t : Nat) :
    1 ≤ level top samples d t ∧ level top samples d t ≤ top := by
  induction t with
  | zero => exact h
  | succ t ih => exact poll_range ih

/-- Between the ends a sample moves the value by one. -/
theorem poll_between (h : 1 < d ∧ d < top) : (poll top closed d : Int) = d - if closed then -1 else 1 := by
  unfold poll
  split_ifs <;> omega

theorem poll_eq_top (h : 1 ≤ d ∧ d ≤ top) (htop : 1 < top) :
    poll top closed d = top ↔ closed = true ∧ (d = top ∨ d + 1 = top) := by
  unfold poll
  cases closed with
  | false =>
    simp only [Bool.false_eq_true, if_false, false_and, iff_false]
    split_ifs <;> omega
  | true =>
    simp only [if_true, true_and]
    split_ifs <;> omega

theorem poll_eq_one (h : 1 ≤ d ∧ d ≤ top) (htop : 1 < top) :
    poll top closed d = 1 ↔ closed = false ∧ (d = 1 ∨ d = 2) := by
  unfold poll
  cases closed with
  | false =>
    simp only [Bool.false_eq_true, if_false, true_and]
    split_ifs <;> omega
  | true =>
    simp only [if_true, Bool.true_eq_false, false_and, iff_false]
    split_ifs <;> omega

theorem Reaches.poll (h : Reaches top closed d) : poll top closed d = top := by
  obtain ⟨rfl, hd⟩ := h
  have hne : d ≠ top := by omega
  simp [Debounce.poll, hne, hd]

section Streams

variable (htop : 1 < top)
include htop

/-- While an opening is neither completed nor made up for, it is the distance from `top`. -/
theorem level_of_opened {s n : Nat} (hs : level top samples d s = top)
    (hdip : ∀ k, 0 < k → k < n → 0 < opened samples s k ∧ opened samples s k < (top : Int) - 1)
    (hn : 0 ≤ opened samples s n) : (level top samples d (s + n) : Int) = top - opened samples s n := by
  induction n with
  | zero => simp [opened, hs]
  | succ n ih =>
    rcases Nat.eq_zero_or_pos n with rfl | hpos
    · cases hopen : samples s with
      | true => simp [opened, hopen] at hn
      | false =>
        have hne : top ≠ 1 := by omega
        simp [opened, hopen, hs, poll, hne]
        omega
    · obtain ⟨hlow, hhigh⟩ := hdip n hpos (by omega)
      have hprev := ih (fun k hk hkn => hdip k hk (by omega)) (by omega)
      have hmid : 1 < level top samples d (s + n) ∧ level top samples d (s + n) < top := by omega
      show ((poll top (samples (s + n)) (level top samples d (s + n)) : Nat) : Int) = _
      rw [poll_between hmid, hprev, opened_succ]
      omega

/-- A value that leaves `top` and comes back without having been 1 has made a dip. -/
theorem dip_of_return {s n : Nat} (hs : level top samples d s = top) (hn : 1 < n)
    (hmid : ∀ k, 0 < k → k < n → 1 < level top samples d (s + k) ∧ level top samples d (s + k) < top)
    (hend : level top samples d (s + n) = top) : Dip top samples s n := by
  have hopen : samples s = false := by
    have hlow := (hmid 1 (by omega) hn).2
    cases hsample : samples s with
    | false => rfl
    | true => simp [hs, poll, hsample] at hlow
  have hlevel : ∀ k, 0 < k → k ≤ n → (level top samples d (s + k) : Int) = top - opened samples s k := by
    intro k
    induction k with
    | zero => omega
    | succ k ih =>
      intro _ hk
      rcases Nat.eq_zero_or_pos k with rfl | hpos
      · have hne : top ≠ 1 := by omega
        simp [opened, hopen, hs, poll, hne]
        omega
      · show ((poll top (samples (s + k)) (level top samples d (s + k)) : Nat) : Int) = _
        rw [poll_between (hmid k hpos (by omega)), ih hpos (by omega), opened_succ]
        omega
  refine ⟨by omega, ?_, fun k hk hkn => ?_⟩
  · have hback := hlevel n (by omega) (Nat.le_refl n)
    omega
  · have hk' := hlevel k hk (by omega)
    have hbetween := hmid k hk hkn
    omega

variable (hd : 1 ≤ d ∧ d ≤ top)
include hd

/-- A value that has come to `top` was registered on its way. -/
theorem exists_reaches {v s : Nat} (hv : level top samples d v ≠ top) (hs : level top samples d s = top)
    (hle : v ≤ s) : ∃ r, v ≤ r ∧ r < s ∧ Reaches top (samples r) (level top samples d r) := by
  induction s with
  | zero =>
    obtain rfl : v = 0 := by omega
    exact absurd hs hv
  | succ s ih =>
    rcases Nat.lt_or_ge s v with hlt | hge
    · obtain rfl : v = s + 1 := by omega
      exact absurd hs hv
    obtain ⟨hclosed, hstay | hstep⟩ := (poll_eq_top (level_range hd s) htop).mp hs
    · obtain ⟨r, hr, hrs, hreach⟩ := ih hstay hge
      exact ⟨r, hr, by omega, hreach⟩
    · exact ⟨s, hge, by omega, hclosed, hstep⟩

/-- A dip after a registration gives another one, and no value of 1 between the two. -/
theorem Dip.registers_again {r s n : Nat} (hrs : r < s) (hr : Reaches top (samples r) (level top samples d r))
    (hs : level top samples d s = top) (hdip : Dip top samples s n) :
    ∃ t, t < s ∧ Reaches top (samples t) (level top samples d t) ∧
      Reaches top (samples (s + n - 1)) (level top samples d (s + n - 1)) ∧
      ∀ u, t < u → u < s + n → level top samples d u ≠ 1 := by
  obtain ⟨hn, hback, hmid⟩ := hdip
  have hlevel : ∀ k, k < n → (level top samples d (s + k) : Int) = top - opened samples s k := by
    intro k hk
    refine level_of_opened htop hs (fun j hj hjk => hmid j hj (by omega)) ?_
    rcases Nat.eq_zero_or_pos k with rfl | hpos
    · exact le_refl _
    · exact le_of_lt (hmid k hpos hk).1
  -- the last registration before the dip
  have hlast : ∃ t, t < s ∧ Reaches top (samples t) (level top samples d t) ∧
      ∀ u, t < u → u < s → ¬ Reaches top (samples u) (level top samples d u) := by
    classical
    have hex : ∃ k, k < s ∧ Reaches top (samples (s - 1 - k)) (level top samples d (s - 1 - k)) :=
      ⟨s - 1 - r, by omega, by rw [show s - 1 - (s - 1 - r) = r by omega]; exact hr⟩
    obtain ⟨hlt, hreach⟩ := Nat.find_spec hex
    refine ⟨s - 1 - Nat.find hex, by omega, hreach, fun u hu hus hbad => ?_⟩
    have hmin := Nat.find_min hex (m := s - 1 - u) (by omega)
    exact hmin ⟨by omega, by rw [show s - 1 - (s - 1 - u) = u by omega]; exact hbad⟩
  obtain ⟨t, hts, ht, hnone⟩ := hlast
  refine ⟨t, hts, ht, ?_, fun u htu hun hone => ?_⟩
  · have hfinal := level_of_opened htop hs hmid (le_of_eq hback.symm)
    have htopn : level top samples d (s + n - 1 + 1) = top := by
      rw [show s + n - 1 + 1 = s + n by omega]
      omega
    obtain ⟨hclosed, hstay | hstep⟩ := (poll_eq_top (level_range hd _) htop).mp htopn
    · rcases Nat.eq_zero_or_pos (n - 1) with hzero | hpos
      · obtain rfl : n = 1 := by omega
        rw [Nat.add_sub_cancel] at hclosed
        simp [opened, hclosed] at hback
      · have hlow := (hmid (n - 1) hpos (by omega)).1
        have hprev := hlevel (n - 1) (by omega)
        rw [show s + (n - 1) = s + n - 1 by omega, hstay] at hprev
        omega
    · exact ⟨hclosed, hstep⟩
  · rcases Nat.lt_or_ge s u with hlt | hge
    · have hin := hmid (u - s) (by omega) (by omega)
      have hval := hlevel (u - s) (by omega)
      rw [show s + (u - s) = u by omega, hone] at hval
      omega
    · obtain ⟨r', hr', hrs', hreach⟩ := exists_reaches htop hd (by rw [hone]; omega) hs hge
      exact hnone r' (by omega) hrs' hreach

/-- Two registrations without a value of 1 between them have a dip between them. -/
theorem exists_dip {t₁ t₂ : Nat} (hlt : t₁ < t₂) (h₁ : Reaches top (samples t₁) (level top samples d t₁))
    (h₂ : Reaches top (samples t₂) (level top samples d t₂))
    (hone : ∀ u, t₁ < u → u ≤ t₂ → level top samples d u ≠ 1) :
    ∃ s n, t₁ < s ∧ s + n = t₂ + 1 ∧ level top samples d s = top ∧ Dip top samples s n := by
  have htop₁ : level top samples d (t₁ + 1) = top := h₁.poll
  have htop₂ : level top samples d (t₂ + 1) = top := h₂.poll
  have hbelow : level top samples d t₂ ≠ top := by
    have hstep := h₂.2
    omega
  classical
  -- the last time at `top` before the second registration
  have hex : ∃ k, k ≤ t₂ ∧ level top samples d (t₂ - k) = top :=
    ⟨t₂ - (t₁ + 1), by omega, by rw [show t₂ - (t₂ - (t₁ + 1)) = t₁ + 1 by omega]; exact htop₁⟩
  obtain ⟨hle, hs⟩ := Nat.find_spec hex
  have hafter : t₁ < t₂ - Nat.find hex := by
    have hmin : Nat.find hex ≤ t₂ - (t₁ + 1) :=
      Nat.find_min' hex ⟨by omega, by rw [show t₂ - (t₂ - (t₁ + 1)) = t₁ + 1 by omega]; exact htop₁⟩
    omega
  have hpos : 0 < Nat.find hex := by
    rcases Nat.eq_zero_or_pos (Nat.find hex) with hzero | hpos
    · rw [hzero] at hs
      exact absurd hs hbelow
    · exact hpos
  refine ⟨t₂ - Nat.find hex, Nat.find hex + 1, hafter, by omega, hs, ?_⟩
  refine dip_of_return htop hs (by omega) (fun k hk hkn => ?_) ?_
  · have hrange : 1 ≤ level top samples d (t₂ - Nat.find hex + k) ∧ level top samples d (t₂ - Nat.find hex + k) ≤ top :=
      level_range hd _
    have hne := hone (t₂ - Nat.find hex + k) (by omega) (by omega)
    have hnot : level top samples d (t₂ - Nat.find hex + k) ≠ top := by
      intro hbad
      refine Nat.find_min hex (m := Nat.find hex - k) (by omega) ⟨by omega, ?_⟩
      rw [show t₂ - (Nat.find hex - k) = t₂ - Nat.find hex + k by omega]
      exact hbad
    omega
  · rw [show t₂ - Nat.find hex + (Nat.find hex + 1) = t₂ + 1 by omega]
    exact htop₂

/-- The registrations before time `len` are separated by full openings exactly when no dip that ends by then
follows a registration. -/
theorem separated_iff (len : ℕ∞) :
    (∀ t₁ t₂ : Nat, t₁ < t₂ → (t₂ : ℕ∞) < len → Reaches top (samples t₁) (level top samples d t₁) →
      Reaches top (samples t₂) (level top samples d t₂) → ∃ u, t₁ < u ∧ u ≤ t₂ ∧ level top samples d u = 1) ↔
    ∀ r s n : Nat, r < s → ((s + n : Nat) : ℕ∞) ≤ len → Reaches top (samples r) (level top samples d r) →
      level top samples d s = top → ¬ Dip top samples s n := by
  constructor
  · intro h r s n hrs hlen hr hs hdip
    obtain ⟨t, hts, ht, hagain, hnone⟩ := hdip.registers_again htop hd hrs hr hs
    have hn := hdip.1
    have hbefore : ((s + n - 1 : Nat) : ℕ∞) < len :=
      lt_of_lt_of_le (Nat.cast_lt.mpr (by omega : s + n - 1 < s + n)) hlen
    obtain ⟨u, htu, hu, hone⟩ := h t (s + n - 1) (by omega) hbefore ht hagain
    exact hnone u htu (by omega) hone
  · intro h t₁ t₂ hlt hlen h₁ h₂
    by_contra hnone
    have hone : ∀ u, t₁ < u → u ≤ t₂ → level top samples d u ≠ 1 :=
      fun u hu hut hbad => hnone ⟨u, hu, hut, hbad⟩
    obtain ⟨s, n, hts, hend, hs, hdip⟩ := exists_dip htop hd hlt h₁ h₂ hone
    refine h t₁ s n hts ?_ h₁ hs hdip
    rw [hend]
    exact Order.add_one_le_of_lt hlen

/-- A closure that starts from 1 is registered in the sample that first reaches `top`. -/
theorem first_registration {s u : Nat} (hs : level top samples d s = 1) (hsu : s < u)
    (hu : level top samples d u = top) :
    ∃ r, s ≤ r ∧ r < u ∧ Reaches top (samples r) (level top samples d r) ∧
      ∀ v, s ≤ v → v ≤ r → level top samples d v ≠ top := by
  classical
  have hex : ∃ k, level top samples d (s + k) = top := ⟨u - s, by rw [show s + (u - s) = u by omega]; exact hu⟩
  have hpos : 0 < Nat.find hex := by
    rcases Nat.eq_zero_or_pos (Nat.find hex) with hzero | hpos
    · have hat := Nat.find_spec hex
      rw [hzero, Nat.add_zero, hs] at hat
      omega
    · exact hpos
  have hle : Nat.find hex ≤ u - s := Nat.find_min' hex (by rw [show s + (u - s) = u by omega]; exact hu)
  have hmin : ∀ v, s ≤ v → v < s + Nat.find hex → level top samples d v ≠ top := by
    intro v hv hlt hbad
    exact Nat.find_min hex (m := v - s) (by omega) (by rw [show s + (v - s) = v by omega]; exact hbad)
  refine ⟨s + Nat.find hex - 1, by omega, by omega, ?_, fun v hv hvr => hmin v hv (by omega)⟩
  have hat : level top samples d (s + Nat.find hex - 1 + 1) = top := by
    rw [show s + Nat.find hex - 1 + 1 = s + Nat.find hex by omega]
    exact Nat.find_spec hex
  obtain ⟨hclosed, hstay | hstep⟩ := (poll_eq_top (level_range hd _) htop).mp hat
  · exact absurd hstay (hmin _ (by omega) (by omega))
  · exact ⟨hclosed, hstep⟩

end Streams

/-! ### Ends in turn -/

/-- Whether the last end that a sample before time `t` has reached is `top`. -/
def pending (top : Nat) (samples : Nat → Bool) (d : Nat) : Nat → Bool
  | 0 => false
  | t + 1 =>
    if Reaches top (samples t) (level top samples d t) then true
    else if Clears (samples t) (level top samples d t) then false
    else pending top samples d t

theorem Clears.poll (h : Clears closed d) : poll top closed d = 1 := by
  obtain ⟨rfl, rfl⟩ := h
  simp [Debounce.poll]

/-- The same counter seen from the other end. -/
theorem level_mirror (h : 1 ≤ d ∧ d ≤ top) (t : Nat) :
    level top (fun u => !samples u) (top + 1 - d) t = top + 1 - level top samples d t := by
  induction t with
  | zero => rfl
  | succ t ih =>
    have hrange : 1 ≤ level top samples d t ∧ level top samples d t ≤ top := level_range h t
    rw [level_succ, level_succ, ih, poll, poll]
    cases samples t <;> simp only [Bool.not_false, Bool.not_true, Bool.false_eq_true, if_true, if_false] <;>
      split_ifs <;> omega

/-- A value found at an end that it has not just reached was there before. -/
theorem poll_stays (htop : 1 < top) (h : 1 ≤ d ∧ d ≤ top) (hreach : ¬ Reaches top closed d) (hclear : ¬ Clears closed d)
    (hend : ¬ (1 < poll top closed d ∧ poll top closed d < top)) : poll top closed d = d ∧ ¬ (1 < d ∧ d < top) := by
  have hrange : 1 ≤ poll top closed d ∧ poll top closed d ≤ top := poll_range h
  by_cases hat : poll top closed d = top
  · obtain ⟨hclosed, rfl | hstep⟩ := (poll_eq_top h htop).mp hat
    · exact ⟨hat, by omega⟩
    · exact absurd ⟨hclosed, hstep⟩ hreach
  · have hone : poll top closed d = 1 := by omega
    obtain ⟨hopen, rfl | hstep⟩ := (poll_eq_one h htop).mp hone
    · exact ⟨hone, by omega⟩
    · exact absurd ⟨hopen, hstep⟩ hclear

/-- Since it was last at an end the value has been between them, and that end is the one last reached. -/
theorem exists_visit (htop : 1 < top) (samples : Nat → Bool) (t : Nat) :
    ∃ v, v ≤ t ∧ level top samples 1 v = (if pending top samples 1 t then top else 1) ∧
      ∀ u, v < u → u ≤ t → 1 < level top samples 1 u ∧ level top samples 1 u < top := by
  induction t with
  | zero => exact ⟨0, le_refl 0, rfl, fun u _ _ => by omega⟩
  | succ t ih =>
    have hrange : ∀ u, 1 ≤ level top samples 1 u ∧ level top samples 1 u ≤ top := level_range ⟨le_refl 1, by omega⟩
    by_cases hreach : Reaches top (samples t) (level top samples 1 t)
    · refine ⟨t + 1, le_refl _, ?_, fun u _ _ => by omega⟩
      rw [pending, if_pos hreach, if_pos rfl]
      exact hreach.poll
    by_cases hclear : Clears (samples t) (level top samples 1 t)
    · refine ⟨t + 1, le_refl _, ?_, fun u _ _ => by omega⟩
      rw [pending, if_neg hreach, if_pos hclear]
      exact hclear.poll
    rw [pending, if_neg hreach, if_neg hclear]
    obtain ⟨v, hv, hend, hinside⟩ := ih
    by_cases hat : 1 < level top samples 1 (t + 1) ∧ level top samples 1 (t + 1) < top
    · refine ⟨v, by omega, hend, fun u hu hut => ?_⟩
      rcases Nat.lt_or_ge t u with hlt | hge
      · rw [show u = t + 1 by omega]
        exact hat
      · exact hinside u hu hge
    -- The value stays at the end it was at.
    · have hstay := poll_stays htop (hrange t) hreach hclear hat
      have hvt : v = t := by
        by_contra hne
        exact hstay.2 (hinside t (by omega) (le_refl t))
      refine ⟨t + 1, le_refl _, ?_, fun u _ _ => by omega⟩
      rw [level_succ, hstay.1]
      rwa [hvt] at hend

/-- A dip is the only way to reach `top` twice in turn. -/
theorem Reaches.not_pending (htop : 1 < top) {t : Nat}
    (hdip : ∀ s n, s + n ≤ t + 1 → level top samples 1 s = top → ¬ Dip top samples s n)
    (h : Reaches top (samples t) (level top samples 1 t)) : pending top samples 1 t = false := by
  by_contra hpending
  obtain ⟨v, hv, hend, hinside⟩ := exists_visit htop samples t
  rw [if_pos (Bool.eq_true_of_not_eq_false hpending)] at hend
  have hlt : v < t := by
    by_contra hge
    obtain rfl : v = t := by omega
    have hstep := h.2
    omega
  refine hdip v (t + 1 - v) (by omega) hend (dip_of_return htop hend (by omega) (fun k hk hkn => ?_) ?_)
  · exact hinside (v + k) (by omega) (by omega)
  · rw [show v + (t + 1 - v) = t + 1 by omega]
    exact h.poll

/-- Nor is there another way to fall to 1 twice, or first, than a dip seen from below. -/
theorem Clears.pending (htop : 1 < top) {t : Nat}
    (hdip : ∀ s n, s + n ≤ t + 1 → level top samples 1 s = 1 → ¬ Dip top (fun u => !samples u) s n)
    (h : Clears (samples t) (level top samples 1 t)) : pending top samples 1 t = true := by
  by_contra hpending
  obtain ⟨v, hv, hend, hinside⟩ := exists_visit htop samples t
  rw [if_neg hpending] at hend
  have hlt : v < t := by
    by_contra hge
    obtain rfl : v = t := by omega
    have hstep := h.2
    omega
  have hmirror : ∀ u, level top (fun u => !samples u) top u = top + 1 - level top samples 1 u := by
    intro u
    have hsame : level top (fun u => !samples u) (top + 1 - 1) u = top + 1 - level top samples 1 u :=
      level_mirror ⟨le_refl 1, by omega⟩ u
    rwa [Nat.add_sub_cancel] at hsame
  have hone : level top samples 1 (t + 1) = 1 := h.poll
  have hstart : level top (fun u => !samples u) top v = top := by
    rw [hmirror, hend]
    omega
  refine hdip v (t + 1 - v) (by omega) hend (dip_of_return htop hstart (by omega) (fun k hk hkn => ?_) ?_)
  · have hbetween := hinside (v + k) (by omega) (by omega)
    rw [hmirror]
    omega
  · rw [show v + (t + 1 - v) = t + 1 by omega, hmirror, hone]
    omega

end Debounce
