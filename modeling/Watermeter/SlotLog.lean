import Mathlib.Algebra.BigOperators.Group.Finset.Basic
import Mathlib.Algebra.GroupWithZero.Nat
import Mathlib.Algebra.Order.BigOperators.Group.Finset
import Mathlib.Data.List.Basic
import Mathlib.Logic.Function.Basic

/-! A log of items in slots that are filled one after another. A slot is claimed before its item is written, it
becomes live once the item is complete, and it is dead when a later one has taken its place. The value of a key is that
of its last live slot. -/

namespace SlotLog

inductive Status
  | pending
  | written
  | live
  | dead
  deriving DecidableEq, Repr

structure Slot (K V : Type*) where
  key : K
  value : V
  status : Status
  deriving DecidableEq, Repr

variable {K V : Type*} {k : K} {v : V} {s : Slot K V}

/-- The slot with another status. -/
def Slot.become (s : Slot K V) (status : Status) : Slot K V := { s with status := status }

@[simp] theorem become_key (s : Slot K V) (status : Status) : (s.become status).key = s.key := rfl

@[simp] theorem become_value (s : Slot K V) (status : Status) : (s.become status).value = s.value := rfl

@[simp] theorem become_status (s : Slot K V) (status : Status) : (s.become status).status = status := rfl

/-- The slot holds the key. -/
def Slot.Holds (k : K) (s : Slot K V) : Prop := s.status = .live ∧ s.key = k

variable [DecidableEq K] {log xs ys : List (Slot K V)}

instance (k : K) (s : Slot K V) : Decidable (s.Holds k) := inferInstanceAs (Decidable (_ ∧ _))

def lookup (log : List (Slot K V)) (k : K) : Option V := ((log.filter fun s => s.Holds k).getLast?).map Slot.value

/-! ### Looking up -/

@[simp] theorem lookup_nil (k : K) : lookup ([] : List (Slot K V)) k = none := rfl

theorem lookup_append (xs ys : List (Slot K V)) (k : K) : lookup (xs ++ ys) k = (lookup ys k).or (lookup xs k) := by
  rw [lookup, List.filter_append, List.getLast?_append, lookup, lookup]
  cases (ys.filter fun s => s.Holds k).getLast? <;> rfl

theorem lookup_single (s : Slot K V) (k : K) : lookup [s] k = if s.Holds k then some s.value else none := by
  by_cases h : s.Holds k <;> simp [lookup, h]

/-- A slot that is not live adds nothing. -/
theorem lookup_append_idle (log : List (Slot K V)) (h : s.status ≠ .live) : lookup (log ++ [s]) = lookup log := by
  funext k
  rw [lookup_append, lookup_single, if_neg fun hs => h hs.1, Option.none_or]

theorem lookup_append_live (log : List (Slot K V)) (h : s.status = .live) :
    lookup (log ++ [s]) = Function.update (lookup log) s.key (some s.value) := by
  funext k
  rw [lookup_append, lookup_single]
  by_cases hk : s.key = k
  · subst hk
    rw [if_pos ⟨h, rfl⟩, Function.update_self, Option.some_or]
  · rw [if_neg fun hs => hk hs.2, Function.update_of_ne (Ne.symm hk), Option.none_or]

theorem lookup_eq_none_iff : lookup log k = none ↔ ∀ s ∈ log, ¬ s.Holds k := by
  rw [lookup, Option.map_eq_none_iff, List.getLast?_eq_none_iff, List.filter_eq_nil_iff]
  simp only [decide_eq_true_eq]

/-- The last slot that holds the key gives its value. -/
theorem lookup_last (hs : s.Holds k) (hys : ∀ t ∈ ys, ¬ t.Holds k) : lookup (xs ++ s :: ys) k = some s.value := by
  rw [← List.singleton_append, lookup_append, lookup_append, lookup_single, if_pos hs, lookup_eq_none_iff.mpr hys,
    Option.none_or, Option.some_or]

/-- A key is held by no slot, or there is a last one that holds it. -/
theorem last_holder (log : List (Slot K V)) (k : K) :
    (∀ s ∈ log, ¬ s.Holds k) ∨ ∃ xs s ys, log = xs ++ s :: ys ∧ s.Holds k ∧ ∀ t ∈ ys, ¬ t.Holds k := by
  induction log with
  | nil => exact Or.inl fun s hs => absurd hs List.not_mem_nil
  | cons s log ih =>
      rcases ih with hnone | ⟨xs, t, ys, rfl, ht, hys⟩
      · by_cases hs : s.Holds k
        · exact Or.inr ⟨[], s, log, rfl, hs, hnone⟩
        · exact Or.inl (List.forall_mem_cons.mpr ⟨hs, hnone⟩)
      · exact Or.inr ⟨s :: xs, t, ys, rfl, ht, hys⟩

/-- A slot dies unnoticed when its key is held behind it. -/
theorem lookup_retire (h : ∃ t ∈ ys, t.Holds s.key) : lookup (xs ++ s.become .dead :: ys) = lookup (xs ++ s :: ys) := by
  have hsame : ∀ (u : Slot K V) (k : K), (lookup (u :: ys) k).or (lookup xs k) =
      (lookup ys k).or ((if u.Holds k then some u.value else none).or (lookup xs k)) := by
    intro u k
    rw [← List.singleton_append, lookup_append, lookup_single, Option.or_assoc]
  funext k
  rw [lookup_append, lookup_append, hsame, hsame, if_neg fun hd => Status.noConfusion hd.1]
  by_cases hk : s.Holds k
  · obtain ⟨t, ht, htk⟩ := h
    have hsome : lookup ys k ≠ none := fun hnone => lookup_eq_none_iff.mp hnone t ht (hk.2 ▸ htk)
    obtain ⟨v, hv⟩ := Option.ne_none_iff_exists'.mp hsome
    rw [hv, Option.some_or, Option.some_or]
  · rw [if_neg hk]

/-! ### Moving on -/

/-- What is copied when the log moves on and `k` is about to be put anew: the live slots of the other keys. -/
def survivors (k : K) (log : List (Slot K V)) : List (Slot K V) := log.filter fun s => s.status = .live ∧ s.key ≠ k

theorem survivors_append (k : K) (xs ys : List (Slot K V)) :
    survivors k (xs ++ ys) = survivors k xs ++ survivors k ys := List.filter_append ..

theorem mem_survivors : s ∈ survivors k log ↔ s ∈ log ∧ s.status = .live ∧ s.key ≠ k := by
  rw [survivors, List.mem_filter, decide_eq_true_eq]

theorem lookup_survivors (k : K) (log : List (Slot K V)) :
    lookup (survivors k log) = Function.update (lookup log) k none := by
  funext j
  by_cases hj : j = k
  · subst hj
    rw [Function.update_self, lookup_eq_none_iff]
    rintro s hs ⟨-, rfl⟩
    exact (mem_survivors.mp hs).2.2 rfl
  · rw [Function.update_of_ne hj, lookup, lookup, survivors, List.filter_filter]
    refine congrArg (fun l => (List.getLast? l).map Slot.value) (List.filter_congr fun s _ => ?_)
    by_cases hs : s.Holds j
    · have hne : s.key ≠ k := hs.2 ▸ hj
      simp [hs, hs.1, hne]
    · simp [hs]

/-- No key is held twice. -/
def Distinct (log : List (Slot K V)) : Prop := ((log.filter fun s => s.status = .live).map Slot.key).Nodup

theorem nodup_survivors (hd : Distinct log) (k : K) : ((survivors k log).map Slot.key).Nodup := by
  have hsub : (survivors k log).map Slot.key = ((log.filter fun s => s.status = .live).map Slot.key).filter (· ≠ k) := by
    rw [List.filter_map, List.filter_filter, survivors]
    refine congrArg (List.map Slot.key) (List.filter_congr fun s _ => ?_)
    simp [Function.comp, Bool.and_comm]
  exact hsub ▸ hd.filter _

section Room

variable {keys : Finset K} (hkeys : ∀ s ∈ log, s.status = .live → s.key ∈ keys) (hd : Distinct log) (hk : k ∈ keys)
include hkeys

theorem keys_survivors : ((survivors k log).map Slot.key).toFinset ⊆ keys.erase k := by
  intro j hj
  obtain ⟨s, hs, rfl⟩ := List.mem_map.mp (List.mem_toFinset.mp hj)
  obtain ⟨hmem, hlive, hne⟩ := mem_survivors.mp hs
  exact Finset.mem_erase.mpr ⟨hne, hkeys s hmem hlive⟩

include hd hk

/-- When no key is held twice, what survives are fewer items than there are keys. -/
theorem length_survivors_lt : (survivors k log).length < keys.card := by
  have hcard := Finset.card_le_card (keys_survivors (k := k) hkeys)
  rw [List.toFinset_card_of_nodup (nodup_survivors hd k), List.length_map, Finset.card_erase_of_mem hk] at hcard
  have hpos := Finset.card_pos.mpr ⟨k, hk⟩
  omega

/-- What survives takes no more room than the other keys together. -/
theorem sum_survivors_le (room : K → Nat) :
    ((survivors k log).map fun s => room s.key).sum + room k ≤ ∑ j ∈ keys, room j :=
  calc ((survivors k log).map fun s => room s.key).sum + room k
      = (((survivors k log).map Slot.key).map room).sum + room k := by rw [List.map_map]; rfl
    _ = ∑ j ∈ ((survivors k log).map Slot.key).toFinset, room j + room k := by
        rw [List.sum_toFinset room (nodup_survivors hd k)]
    _ ≤ ∑ j ∈ keys.erase k, room j + room k :=
        Nat.add_le_add_right (Finset.sum_le_sum_of_subset (keys_survivors hkeys)) _
    _ = ∑ j ∈ keys, room j := Finset.sum_erase_add keys room hk

end Room

end SlotLog
