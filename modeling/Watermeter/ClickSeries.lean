import Mathlib.Order.Monotone.Basic
import Mathlib.Data.Nat.Find

/-! Clicks of a button in time. At some passes of a loop the button is pressed or released; presses that
follow the last release within `gap` form a series, and a series is over once `gap` has passed without one. -/

namespace ClickSeries

variable (press release : Nat → Prop) (time : Nat → Nat) (gap : Nat)

/-- At pass `t` some release is at most `gap` old. -/
def Recent (t : Nat) : Prop := ∃ r, r < t ∧ release r ∧ time t ≤ time r + gap

/-- The press of pass `p` is the `n`-th of a series that started fresh. -/
inductive NthPress : Nat → Nat → Prop
  | first {p : Nat} (hpress : press p) (hfresh : ¬ Recent release time gap p) : NthPress 1 p
  | next {n p r q : Nat} (hprev : NthPress n p) (hpr : p < r) (hrelease : release r) (hrq : r < q) (hpress : press q)
      (hlast : ∀ u, p < u → u < q → ¬ press u) (hsoon : time q ≤ time r + gap) : NthPress (n + 1) q

/-- A series of `n` clicks: the press of its last click is at `p` and the release at `q`. -/
structure Series (n p q : Nat) : Prop where
  nth : NthPress press release time gap n p
  after : p < q
  released : release q
  first : ∀ u, p < u → u < q → ¬ release u

/-- At pass `t` the click released at `q` is the last one, and more than `gap` has passed since. -/
structure Over (q t : Nat) : Prop where
  after : q < t
  last : ∀ u, q < u → u ≤ t → ¬ press u
  elapsed : time q + gap < time t

variable {press release : Nat → Prop} {time : Nat → Nat} {gap n m p q t : Nat}

theorem NthPress.pressed (h : NthPress press release time gap n p) : press p := by
  cases h with
  | first hpress _ => exact hpress
  | next _ _ _ _ hpress _ _ => exact hpress

/-- Two presses with none between the later one's time and either of them are one press. -/
theorem last_unique (hp : press p) (hq : press q) (hpt : p < t) (hqt : q < t)
    (hlastp : ∀ u, p < u → u < t → ¬ press u) (hlastq : ∀ u, q < u → u < t → ¬ press u) : p = q := by
  rcases Nat.lt_trichotomy p q with hlt | heq | hgt
  · exact absurd hq (hlastp q hlt hqt)
  · exact heq
  · exact absurd hp (hlastq p hgt hpt)

/-- A press has one place in one series. -/
theorem NthPress.unique (h : NthPress press release time gap n p) (h' : NthPress press release time gap m p) :
    n = m := by
  induction h generalizing m with
  | first _ hfresh =>
    cases h' with
    | first _ _ => rfl
    | next _ _ hrelease hrq _ _ hsoon => exact absurd ⟨_, hrq, hrelease, hsoon⟩ hfresh
  | next hprev hpr hrelease hrq _ hlast hsoon ih =>
    cases h' with
    | first _ hfresh => exact absurd ⟨_, hrq, hrelease, hsoon⟩ hfresh
    | next hprev' hpr' _ hrq' _ hlast' _ =>
      obtain rfl := last_unique hprev.pressed hprev'.pressed (hpr.trans hrq) (hpr'.trans hrq') hlast hlast'
      rw [ih hprev']

/-- The first release after a press closes its click. -/
theorem NthPress.series (h : NthPress press release time gap n p) (hrelease : ∃ r, p < r ∧ r < t ∧ release r) :
    ∃ q, q < t ∧ Series press release time gap n p q := by
  classical
  obtain ⟨hpq, hqt, hq⟩ := Nat.find_spec hrelease
  refine ⟨Nat.find hrelease, hqt, h, hpq, hq, fun u hpu hu hbad => ?_⟩
  exact Nat.find_min hrelease hu ⟨hpu, by omega, hbad⟩

/-- The first pass at which a time is more than `gap` past. -/
theorem exists_first_late (hmono : Monotone time) (h : time q + gap < time t) :
    ∃ u, q < u ∧ u ≤ t ∧ time q + gap < time u ∧ ∀ v, v < u → time v ≤ time q + gap := by
  classical
  have hex : ∃ u, time q + gap < time u := ⟨t, h⟩
  have hlate := Nat.find_spec hex
  refine ⟨Nat.find hex, ?_, Nat.find_min' hex h, hlate, fun v hv => Nat.le_of_not_lt (Nat.find_min hex hv)⟩
  by_contra hle
  have hearly : time (Nat.find hex) ≤ time q := hmono (by omega)
  omega

end ClickSeries
