import Mathlib.Data.List.Basic
import Mathlib.Data.List.Forall2
import Mathlib.Tactic.NormNum

/-! Little-endian integers and packed structures, as the `struct` module and `int.to_bytes` write and read
them: a format is a list of unsigned integers and byte strings of given sizes, without alignment. -/

namespace PyStruct

abbrev Byte := BitVec 8

/-- The exceptions of the tools. -/
inductive PyError
  | assertionError
  | overflowError
  | structError
  deriving DecidableEq, Repr

/-! ### Little-endian integers -/

/-- The `n` lowest bytes of a number, the lowest first. -/
def digits : Nat → Nat → List Byte
  | 0, _ => []
  | n + 1, v => BitVec.ofNat 8 v :: digits n (v / 256)

/-- `int.from_bytes(.., byteorder='little')`. -/
def fromBytes : List Byte → Nat
  | [] => 0
  | b :: bs => b.toNat + 256 * fromBytes bs

/-- `int.to_bytes(n, byteorder='little')`. -/
def toBytes (n v : Nat) : Except PyError (List Byte) :=
  if v < 256 ^ n then .ok (digits n v) else .error .overflowError

@[simp] theorem length_digits (n v : Nat) : (digits n v).length = n := by
  induction n generalizing v with
  | zero => rfl
  | succ n ih => rw [digits, List.length_cons, ih]

/-- A number that fits is read back. -/
theorem fromBytes_digits {n v : Nat} (h : v < 256 ^ n) : fromBytes (digits n v) = v := by
  induction n generalizing v with
  | zero => rw [Nat.pow_zero] at h; rw [digits, fromBytes]; omega
  | succ n ih =>
      have hrest : v / 256 < 256 ^ n := Nat.div_lt_of_lt_mul (by rw [← Nat.pow_succ']; exact h)
      rw [digits, fromBytes, ih hrest, BitVec.toNat_ofNat]
      exact Nat.mod_add_div v 256

theorem fromBytes_lt (bs : List Byte) : fromBytes bs < 256 ^ bs.length := by
  induction bs with
  | nil => simp [fromBytes]
  | cons b bs ih =>
      have hb := b.isLt
      rw [fromBytes, List.length_cons, Nat.pow_succ]
      omega

/-! ### Structures -/

/-- A format character: an unsigned integer (`H`, `I`) or a byte string (`32s`). -/
inductive Format
  | uint (size : Nat)
  | bytes (size : Nat)
  deriving DecidableEq, Repr

inductive Value
  | int (v : Int)
  | bytes (bs : List Byte)
  deriving DecidableEq, Repr

def Format.size : Format → Nat
  | uint n => n
  | bytes n => n

/-- A byte string is cut or filled with zeros. -/
def packOne : Format → Value → Except PyError (List Byte)
  | .uint n, .int v => if 0 ≤ v ∧ v < 256 ^ n then .ok (digits n v.toNat) else .error .structError
  | .bytes n, .bytes bs => .ok (bs.take n ++ List.replicate (n - bs.length) 0#8)
  | _, _ => .error .structError

/-- `struct.pack`. -/
def pack : List Format → List Value → Except PyError (List Byte)
  | [], [] => .ok []
  | f :: fs, v :: vs => do
      let head ← packOne f v
      let tail ← pack fs vs
      return head ++ tail
  | _, _ => .error .structError

def unpackOne : Format → List Byte → Value
  | .uint _, bs => .int (fromBytes bs)
  | .bytes _, bs => .bytes bs

/-- `struct.unpack`: the buffer has the size of the format. -/
def unpack : List Format → List Byte → Except PyError (List Value)
  | [], [] => .ok []
  | [], _ :: _ => .error .structError
  | f :: fs, bs =>
      if bs.length < f.size then .error .structError
      else do
        let vs ← unpack fs (bs.drop f.size)
        return unpackOne f (bs.take f.size) :: vs

/-- `struct.calcsize`. -/
def calcsize (fs : List Format) : Nat := (fs.map Format.size).sum

/-- A value that a format takes as it is. -/
def Suits : Format → Value → Prop
  | .uint n, .int v => 0 ≤ v ∧ v < 256 ^ n
  | .bytes n, .bytes bs => bs.length = n
  | _, _ => False

theorem packOne_suits {f : Format} {v : Value} (h : Suits f v) :
    ∃ bs, packOne f v = .ok bs ∧ bs.length = f.size ∧ unpackOne f bs = v := by
  cases f <;> cases v
  · next n v =>
      obtain ⟨v, rfl⟩ := Int.eq_ofNat_of_zero_le h.1
      refine ⟨digits n v, if_pos h, length_digits n v, ?_⟩
      rw [unpackOne, fromBytes_digits (by exact_mod_cast h.2)]
  · exact h.elim
  · exact h.elim
  · next n bs =>
      have hlen : bs.length = n := h
      refine ⟨bs, ?_, hlen, rfl⟩
      rw [packOne, List.take_of_length_le hlen.le, hlen, Nat.sub_self, List.replicate_zero, List.append_nil]

/-- Values that suit a format are packed in its size and read back. -/
theorem pack_suits {fs : List Format} {vs : List Value} (h : List.Forall₂ Suits fs vs) :
    ∃ bs, pack fs vs = .ok bs ∧ bs.length = calcsize fs ∧ unpack fs bs = .ok vs := by
  induction h with
  | nil => exact ⟨[], rfl, rfl, rfl⟩
  | @cons f v fs vs hone _ ih =>
      obtain ⟨head, hpack, hlen, hread⟩ := packOne_suits hone
      obtain ⟨tail, hpack', hlen', hread'⟩ := ih
      refine ⟨head ++ tail, ?_, ?_, ?_⟩
      · rw [pack, hpack, hpack']; rfl
      · rw [List.length_append, hlen, hlen', calcsize, calcsize, List.map_cons, List.sum_cons]
      · have hlong : ¬(head ++ tail).length < f.size := by rw [List.length_append, hlen]; omega
        rw [unpack, if_neg hlong, ← hlen, List.drop_left, List.take_left, hread', hread]
        rfl

/-- Nothing is packed unless every value can be. -/
theorem pack_forall {fs : List Format} {vs : List Value} {bs : List Byte} (h : pack fs vs = .ok bs) :
    List.Forall₂ (fun f v => ∃ b, packOne f v = .ok b) fs vs := by
  induction fs generalizing vs bs with
  | nil =>
      cases vs with
      | nil => exact .nil
      | cons v vs => cases h
  | cons f fs ih =>
      cases vs with
      | nil => cases h
      | cons v vs =>
          rw [pack] at h
          rcases hone : packOne f v with e | head
          · rw [hone] at h; cases h
          · rcases hall : pack fs vs with e | tail
            · rw [hone, hall] at h; cases h
            · exact .cons ⟨head, hone⟩ (ih hall)

theorem packOne_uint {n : Nat} {v : Int} (h : ∃ bs, packOne (.uint n) (.int v) = .ok bs) : 0 ≤ v ∧ v < 256 ^ n := by
  obtain ⟨bs, h⟩ := h
  rw [packOne] at h
  split at h
  · assumption
  · cases h

end PyStruct
