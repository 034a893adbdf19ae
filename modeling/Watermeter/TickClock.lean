import Mathlib.Data.BitVec

/-! A free-running counter of `w` bits read as a clock. Time is a number of ticks that never wraps; the
counter shows its last `w` bits, and a program tells how long ago a reading was taken by subtracting. -/

namespace TickClock

variable {w : Nat}

/-- What the counter shows at a time. -/
def reading (w now : Nat) : BitVec w := BitVec.ofNat w now

/-- The counter finds more than `span` ticks between `ref` and now. -/
def Exceeds (now : Nat) (ref span : BitVec w) : Prop := span < reading w now - ref

instance (now : Nat) (ref span : BitVec w) : Decidable (Exceeds now ref span) :=
  inferInstanceAs (Decidable (span < reading w now - ref))

theorem reading_sub {since now : Nat} (hpast : since ≤ now) :
    reading w now - reading w since = BitVec.ofNat w (now - since) := by
  rw [reading, reading, BitVec.sub_eq_iff_eq_add, ← BitVec.ofNat_add, Nat.sub_add_cancel hpast]

/-- The comparison sees both numbers modulo a turn of the counter. -/
theorem exceeds_iff {since now span : Nat} (hpast : since ≤ now) :
    Exceeds now (reading w since) (BitVec.ofNat w span) ↔ span % 2 ^ w < (now - since) % 2 ^ w := by
  rw [Exceeds, reading_sub hpast, BitVec.lt_def, BitVec.toNat_ofNat, BitVec.toNat_ofNat]

/-- What the counter calls exceeded is exceeded, when the span fits in the counter. -/
theorem Exceeds.elapsed {since now span : Nat} (hpast : since ≤ now) (hspan : span < 2 ^ w)
    (h : Exceeds now (reading w since) (BitVec.ofNat w span)) : span < now - since := by
  rw [exceeds_iff hpast, Nat.mod_eq_of_lt hspan] at h
  exact h.trans_le (Nat.mod_le _ _)

/-- One tick short of a turn, every span whose low bits are not all ones is called exceeded. -/
theorem exceeds_before_turn (since : Nat) {span : Nat} (hspan : span % 2 ^ w < 2 ^ w - 1) :
    Exceeds (since + (2 ^ w - 1)) (reading w since) (BitVec.ofNat w span) := by
  have hpos : 0 < 2 ^ w := Nat.two_pow_pos w
  rw [exceeds_iff (Nat.le_add_right _ _), Nat.add_sub_cancel_left, Nat.mod_eq_of_lt (a := 2 ^ w - 1) (by omega)]
  exact hspan

end TickClock
