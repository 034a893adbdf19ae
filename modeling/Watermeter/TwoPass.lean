import Mathlib.Algebra.Order.Ring.Nat

/-! Records read out of memory in two passes, without a look at where the message ends within a record: the first
counts them and adds up their data, going on by the length of each until the message is used up, and the second
reads as many into a buffer of the size that comes to. Beside it stands a reader that stays within the message.
The two agree on a message that is whole records; what the first makes of any other message depends on the memory
behind it. -/

namespace TwoPass

variable {β R : Type*}

abbrev Memory (β : Type*) := Nat → β

/-- The memory from an address on. -/
def Memory.from (m : Memory β) (p : Nat) : Memory β := fun k => m (p + k)

/-- A message with what lies behind it. -/
def behind (bs : List β) (rest : Memory β) : Memory β := fun k => if h : k < bs.length then bs.get ⟨k, h⟩ else rest (k - bs.length)

def Memory.first (m : Memory β) (n : Nat) : List β := (List.range n).map m

/-- What the counting pass finds where a record starts: how far it goes on and the bytes of data it adds up; what
the filling pass reads there, with how far that goes on; and the bytes of data that are copied for a record. A
record takes `least` bytes or more. -/
structure Format (β R : Type*) where
  least : Nat
  least_pos : 0 < least
  skip : Memory β → Nat
  least_le : ∀ m, least ≤ skip m
  weight : Memory β → Nat
  read : Memory β → R × Nat
  size : R → Nat

/-- The buffer of a command: the bytes of its head and of each record, before the data. The size of both is
kept in a variable of `lenMod` values. -/
structure Layout where
  head : Nat
  record : Nat
  lenMod : Nat

/-- The size a buffer is asked for; the size of the data and the sum are kept in sixteen bits. -/
def Layout.asked (l : Layout) (n data : Nat) : Nat := ((l.head + n * l.record) % l.lenMod + data % 65536) % 65536

def Layout.needed (l : Layout) (n data : Nat) : Nat := l.head + n * l.record + data

/-- What comes of a message: no buffer, more written than the buffer was asked for, or the command. -/
inductive Parsed (R : Type*)
  | noBuffer
  | overrun
  | command (recs : List R)
  deriving DecidableEq, Repr

namespace Format

variable (f : Format β R)

/-- The bytes of data of each record that is counted in a message of `left` bytes. -/
def counted (m : Memory β) (left : Nat) : List Nat :=
  if left = 0 then [] else f.weight m :: counted (m.from (f.skip m)) (left - f.skip m)
termination_by left
decreasing_by
  have hpos := f.least_pos
  have hle := f.least_le m
  omega

def fill : Nat → Memory β → List R
  | 0, _ => []
  | n + 1, m => (f.read m).1 :: fill n (m.from (f.read m).2)

variable (l : Layout) (alloc : Nat → Bool)

/-- The two passes; the number of the records is kept in eight bits. -/
def parse (m : Memory β) (dataLen : Nat) : Parsed R :=
  let lens := f.counted m dataLen
  let n := lens.length % 256
  let size := l.asked n lens.sum
  if alloc size then
    let recs := f.fill n m
    if size < l.needed n (recs.map f.size).sum then .overrun else .command recs
  else .noBuffer

/-- The bytes that the command of some records takes. -/
def commandSize (recs : List R) : Nat := l.needed recs.length (recs.map f.size).sum

/-- What comes of some records in a buffer of the size of their command. -/
def stored (recs : List R) : Parsed R := if alloc (f.commandSize l recs) then .command recs else .noBuffer

end Format

/-- The records of a message, each read within what is left of it. -/
def checkedParse (checked : List β → Option (R × Nat)) (bs : List β) : Option (List R) :=
  if bs.length = 0 then some []
  else
    match checked bs with
    | none => none
    | some (r, n) => if n = 0 then none else (checkedParse checked (bs.drop n)).map (r :: ·)
termination_by bs.length
decreasing_by
  rw [List.length_drop]
  omega

/-- Where the checked reader finds a record the filling pass reads it, and the counting pass adds up its data and
goes on no less far, as far for the records that are `Tight`. -/
def Follows (f : Format β R) (checked : List β → Option (R × Nat)) (Tight : R → Prop) : Prop :=
  ∀ bs r n, checked bs = some (r, n) → n ≤ bs.length ∧ f.least + f.size r ≤ n ∧ ∀ rest,
    f.read (behind bs rest) = (r, n) ∧ f.weight (behind bs rest) = f.size r ∧
      n ≤ f.skip (behind bs rest) ∧ (Tight r → f.skip (behind bs rest) = n)

/-- Both passes go on by the length of every record, and where the checked reader finds none, the record goes
beyond the message. What is read of a record tells the bytes it is read from. -/
structure Checks (f : Format β R) (checked : List β → Option (R × Nat)) (encode : R → List β) (a b : β) : Prop where
  skip_read : ∀ m, f.skip m = (f.read m).2
  weight_read : ∀ m, f.weight m = f.size (f.read m).1
  size_read : ∀ m, f.least + f.size (f.read m).1 ≤ (f.read m).2
  encode_read : ∀ m, encode (f.read m).1 = m.first (f.read m).2
  inside : ∀ bs r n, checked bs = some (r, n) → n ≤ bs.length ∧ ∀ rest, f.read (behind bs rest) = (r, n)
  outside : ∀ bs, checked bs = none →
    bs.length < (f.read (behind bs fun _ => a)).2 ∧ bs.length < (f.read (behind bs fun _ => b)).2
  different : a ≠ b

/-! ### The memory -/

variable {bs : List β} {rest m : Memory β} {n k : Nat}

theorem behind_of_lt (h : k < bs.length) : behind bs rest k = bs.get ⟨k, h⟩ := dif_pos h

theorem behind_of_le (h : bs.length ≤ k) : behind bs rest k = rest (k - bs.length) := dif_neg (Nat.not_lt.mpr h)

@[simp] theorem behind_zero (x : β) : behind (x :: bs) rest 0 = x := rfl

@[simp] theorem behind_succ (x : β) : behind (x :: bs) rest (k + 1) = behind bs rest k := by
  unfold behind
  simp only [List.length_cons, Nat.add_lt_add_iff_right, Nat.add_sub_add_right]
  split_ifs <;> rfl

@[simp] theorem Memory.from_zero (m : Memory β) : m.from 0 = m := by
  funext k
  exact congrArg m (Nat.zero_add k)

@[simp] theorem behind_from_succ (x : β) : (behind (x :: bs) rest).from (n + 1) = (behind bs rest).from n := by
  funext k
  unfold Memory.from
  rw [Nat.add_right_comm, behind_succ]

@[simp] theorem behind_nil : behind [] rest = rest := by
  funext k
  exact behind_of_le (Nat.zero_le k)

theorem behind_from (h : n ≤ bs.length) : (behind bs rest).from n = behind (bs.drop n) rest := by
  funext k
  unfold Memory.from behind
  have hlt : n + k < bs.length ↔ k < (bs.drop n).length := by
    rw [List.length_drop]
    omega
  by_cases hk : n + k < bs.length
  · rw [dif_pos hk, dif_pos (hlt.mp hk)]
    simp
  · rw [dif_neg hk, dif_neg (mt hlt.mpr hk)]
    congr 1
    rw [List.length_drop]
    omega

theorem Memory.from_from (m : Memory β) (n k : Nat) : (m.from n).from k = m.from (n + k) := by
  funext i
  exact congrArg m (Nat.add_assoc n k i).symm

@[simp] theorem Memory.first_length (m : Memory β) (n : Nat) : (m.first n).length = n := by
  rw [Memory.first, List.length_map, List.length_range]

theorem Memory.first_get (m : Memory β) (h : k < n) : (m.first n)[k]? = some (m k) := by
  rw [Memory.first, List.getElem?_map, List.getElem?_range h]
  rfl

theorem Memory.first_add (m : Memory β) (n k : Nat) : m.first (n + k) = m.first n ++ (m.from n).first k := by
  rw [Memory.first, List.range_add, List.map_append, List.map_map]
  rfl

/-- Bytes read from two memories that go beyond the message differ. -/
theorem first_ne {a b : β} {n k : Nat} (hab : a ≠ b) (hn : bs.length < n) (hk : bs.length < k) :
    (behind bs fun _ => a).first n ≠ (behind bs fun _ => b).first k := fun h => by
  have hat := congrArg (fun l => l[bs.length]?) h
  simp only [Memory.first_get _ hn, Memory.first_get _ hk, behind_of_le (Nat.le_refl _)] at hat
  exact hab (Option.some.inj hat)

theorem behind_first (rest : Memory β) : (behind bs rest).first bs.length = bs := by
  apply List.ext_getElem?
  intro k
  by_cases hk : k < bs.length
  · rw [Memory.first_get _ hk, behind_of_lt hk]
    simp [hk]
  · have hlen : ((behind bs rest).first bs.length).length ≤ k := by rw [Memory.first_length]; omega
    rw [List.getElem?_eq_none hlen, List.getElem?_eq_none (by omega)]

theorem behind_take (h : n ≤ bs.length) (rest : Memory β) : (behind bs rest).first n = bs.take n := by
  have hsplit : (behind bs rest).first bs.length = bs := behind_first rest
  rw [← Nat.add_sub_cancel' h, Memory.first_add] at hsplit
  have hfront := congrArg (List.take n) hsplit
  rwa [List.take_left' (Memory.first_length _ _)] at hfront

/-! ### The passes -/

namespace Format

variable {f : Format β R} {l : Layout} {alloc : Nat → Bool} {recs : List R}

theorem counted_zero (m : Memory β) : f.counted m 0 = [] := by
  rw [counted, if_pos rfl]

theorem counted_pos {left : Nat} (h : left ≠ 0) :
    f.counted m left = f.weight m :: f.counted (m.from (f.skip m)) (left - f.skip m) := by
  rw [counted, if_neg h]

/-- With records of at least `least` bytes there are not too many of them. -/
theorem counted_length_le (m : Memory β) (left : Nat) : (f.counted m left).length * f.least ≤ left + f.least - 1 := by
  induction left using Nat.strongRecOn generalizing m with
  | _ left ih =>
      by_cases hzero : left = 0
      · rw [hzero, counted_zero, List.length_nil, Nat.zero_mul]
        exact Nat.zero_le _
      · have hpos := f.least_pos
        have hskip := f.least_le m
        have hnext := ih (left - f.skip m) (by omega) (m.from (f.skip m))
        rw [counted_pos hzero, List.length_cons, Nat.add_mul, Nat.one_mul]
        by_cases hend : left ≤ f.skip m
        · rw [Nat.sub_eq_zero_of_le hend, counted_zero, List.length_nil, Nat.zero_mul]
          omega
        · omega

theorem counted_few {left : Nat} (hshort : left < 255 * f.least) (m : Memory β) : (f.counted m left).length < 256 := by
  by_contra hmany
  have hle := counted_length_le (f := f) m left
  have hmul := Nat.mul_le_mul_right f.least (Nat.not_lt.mp hmany)
  omega

theorem counted_sum_le {most : Nat} (hmost : ∀ m, f.weight m ≤ most) (m : Memory β) (left : Nat) :
    (f.counted m left).sum ≤ (f.counted m left).length * most := by
  induction left using Nat.strongRecOn generalizing m with
  | _ left ih =>
      by_cases hzero : left = 0
      · rw [hzero, counted_zero]
        exact Nat.zero_le _
      · have hpos := f.least_pos
        have hskip := f.least_le m
        have hweight := hmost m
        have hnext := ih (left - f.skip m) (by omega) (m.from (f.skip m))
        rw [counted_pos hzero, List.sum_cons, List.length_cons, Nat.add_mul, Nat.one_mul]
        omega

/-- A command holds what the filling pass reads. -/
theorem parse_command {left : Nat} (h : f.parse l alloc m left = .command recs) :
    f.fill ((f.counted m left).length % 256) m = recs := by
  simp only [parse] at h
  split at h
  · split at h
    · cases h
    · exact Parsed.command.inj h
  · cases h

end Format

/-- When the sizes fit into their variables the buffer is as large as the command. -/
theorem Layout.asked_eq {l : Layout} {n data : Nat} (hlen : l.head + n * l.record < l.lenMod)
    (hroom : l.needed n data < 65536) : l.asked n data = l.needed n data := by
  rw [needed] at hroom
  rw [asked, needed, Nat.mod_eq_of_lt hlen, Nat.mod_eq_of_lt (by omega : data < 65536), Nat.mod_eq_of_lt hroom]

section Checked

variable {f : Format β R} {checked : List β → Option (R × Nat)} {encode : R → List β} {a b : β} {rs : List R}

theorem checkedParse_nil : checkedParse checked ([] : List β) = some [] := by
  rw [checkedParse]
  exact if_pos rfl

theorem checkedParse_none (hbs : bs.length ≠ 0) (h : checked bs = none) : checkedParse checked bs = none := by
  rw [checkedParse, if_neg hbs, h]

theorem checkedParse_some {r : R} (hbs : bs.length ≠ 0) (h : checked bs = some (r, n)) (hn : n ≠ 0) :
    checkedParse checked bs = (checkedParse checked (bs.drop n)).map (r :: ·) := by
  rw [checkedParse, if_neg hbs, h]
  exact if_neg hn

theorem mem_dropLast_cons {r r' : R} (h : r' ∈ rs.dropLast) : r' ∈ (r :: rs).dropLast := by
  cases rs with
  | nil => cases h
  | cons _ _ => exact List.mem_cons_of_mem r h

/-- On whole records the two passes find what the checked reader finds, when all but the last are tight. -/
theorem Follows.parse_whole {Tight : R → Prop} (h : Follows f checked Tight) (hrs : checkedParse checked bs = some rs)
    (htight : ∀ r ∈ rs.dropLast, Tight r) (rest : Memory β) :
    f.counted (behind bs rest) bs.length = rs.map f.size ∧ f.fill rs.length (behind bs rest) = rs := by
  induction hlen : bs.length using Nat.strongRecOn generalizing bs rs with
  | _ len ih =>
      subst hlen
      by_cases hbs : bs.length = 0
      · obtain rfl := List.length_eq_zero_iff.mp hbs
        rw [checkedParse_nil] at hrs
        obtain rfl := Option.some.inj hrs
        exact ⟨Format.counted_zero _, rfl⟩
      · rcases hr : checked bs with _ | ⟨r, n⟩
        · rw [checkedParse_none hbs hr] at hrs
          cases hrs
        · obtain ⟨hle, hn, hat⟩ := h bs r n hr
          obtain ⟨hread, hweight, hskip, hexact⟩ := hat rest
          have hpos := f.least_pos
          rw [checkedParse_some hbs hr (by omega)] at hrs
          obtain ⟨rs', hrs', rfl⟩ := Option.map_eq_some_iff.mp hrs
          have hshort : (bs.drop n).length < bs.length := by rw [List.length_drop]; omega
          obtain ⟨hcounted, hfill⟩ := ih _ hshort hrs' (fun r' hr' => htight r' (mem_dropLast_cons hr')) rfl
          refine ⟨?_, by rw [List.length_cons, Format.fill, hread, behind_from hle, hfill]⟩
          rw [Format.counted_pos hbs, List.map_cons, hweight]
          rcases rs' with _ | ⟨r', rs'⟩
          · -- the last record: the counting pass is at the end of the message or beyond it
            have hend : bs.length - f.skip (behind bs rest) = 0 := by
              have hlast : (bs.drop n).length = 0 := by
                by_contra hmore
                rw [Format.counted_pos hmore] at hcounted
                cases hcounted
              rw [List.length_drop] at hlast
              omega
            rw [hend, Format.counted_zero]
            rfl
          · have hr' : Tight r := htight r (by simp)
            rw [hexact hr', behind_from hle, ← List.length_drop, hcounted]

/-- The records of a message, with their data, are no longer than the message. -/
theorem Follows.sizes_le {Tight : R → Prop} (h : Follows f checked Tight) (hrs : checkedParse checked bs = some rs) :
    rs.length * f.least + (rs.map f.size).sum ≤ bs.length := by
  induction hlen : bs.length using Nat.strongRecOn generalizing bs rs with
  | _ len ih =>
      subst hlen
      by_cases hbs : bs.length = 0
      · obtain rfl := List.length_eq_zero_iff.mp hbs
        rw [checkedParse_nil] at hrs
        obtain rfl := Option.some.inj hrs
        simp
      · rcases hr : checked bs with _ | ⟨r, n⟩
        · rw [checkedParse_none hbs hr] at hrs
          cases hrs
        · obtain ⟨hle, hn, -⟩ := h bs r n hr
          have hpos := f.least_pos
          rw [checkedParse_some hbs hr (by omega)] at hrs
          obtain ⟨rs', hrs', rfl⟩ := Option.map_eq_some_iff.mp hrs
          have hshort : (bs.drop n).length < bs.length := by rw [List.length_drop]; omega
          have hrest := ih _ hshort hrs' rfl
          rw [List.length_drop] at hrest
          rw [List.length_cons, List.map_cons, List.sum_cons, Nat.add_mul, Nat.one_mul]
          omega

theorem Checks.follows (h : Checks f checked encode a b) : Follows f checked fun _ => True := by
  intro bs r n hr
  obtain ⟨hle, hread⟩ := h.inside bs r n hr
  have hskip : ∀ rest, f.skip (behind bs rest) = n := fun rest => by rw [h.skip_read, hread]
  have hsize := h.size_read (behind bs fun _ => a)
  rw [hread] at hsize
  exact ⟨hle, hsize, fun rest =>
    ⟨hread rest, by rw [h.weight_read, hread], Nat.le_of_eq (hskip rest).symm, fun _ => hskip rest⟩⟩

/-- On any other message the passes count the last record in, and read it from behind the message. -/
theorem Checks.parse_beyond (h : Checks f checked encode a b) (hbs : checkedParse checked bs = none) :
    ∃ k, (f.counted (behind bs fun _ => a) bs.length).length = k ∧
      (f.counted (behind bs fun _ => b) bs.length).length = k ∧
      f.fill k (behind bs fun _ => a) ≠ f.fill k (behind bs fun _ => b) := by
  induction hlen : bs.length using Nat.strongRecOn generalizing bs with
  | _ len ih =>
      subst hlen
      have hne : bs.length ≠ 0 := fun hzero => by
        rw [List.length_eq_zero_iff.mp hzero, checkedParse_nil] at hbs
        cases hbs
      rcases hr : checked bs with _ | ⟨r, n⟩
      · -- the record that goes beyond the message
        obtain ⟨ha, hb⟩ := h.outside bs hr
        refine ⟨1, ?_, ?_, fun hfill => ?_⟩
        · rw [Format.counted_pos hne, h.skip_read, Nat.sub_eq_zero_of_le (Nat.le_of_lt ha), Format.counted_zero]
          rfl
        · rw [Format.counted_pos hne, h.skip_read, Nat.sub_eq_zero_of_le (Nat.le_of_lt hb), Format.counted_zero]
          rfl
        · have hsame := congrArg encode (List.cons.inj hfill).1
          rw [h.encode_read, h.encode_read] at hsame
          exact first_ne h.different ha hb hsame
      · obtain ⟨hle, hn, hat⟩ := h.follows bs r n hr
        have hpos := f.least_pos
        rw [checkedParse_some hne hr (by omega), Option.map_eq_none_iff] at hbs
        have hshort : (bs.drop n).length < bs.length := by rw [List.length_drop]; omega
        obtain ⟨k, hka, hkb, hdiff⟩ := ih _ hshort hbs rfl
        have hcount : ∀ rest, (f.counted (behind bs rest) bs.length).length =
            (f.counted (behind (bs.drop n) rest) (bs.drop n).length).length + 1 := fun rest => by
          rw [Format.counted_pos hne, (hat rest).2.2.2 trivial, behind_from hle, List.length_drop, List.length_cons]
        refine ⟨k + 1, by rw [hcount, hka], by rw [hcount, hkb], fun hfill => ?_⟩
        rw [Format.fill, Format.fill, (hat _).1, (hat _).1, behind_from hle, behind_from hle] at hfill
        exact hdiff (List.cons.inj hfill).2

/-- A message short enough for fewer than 256 records is parsed as it is checked, as far as the buffer goes. -/
theorem Follows.parse_eq {Tight : R → Prop} (h : Follows f checked Tight) (l : Layout) (alloc : Nat → Bool)
    (hshort : bs.length < 255 * f.least) (hrs : checkedParse checked bs = some rs) (htight : ∀ r ∈ rs.dropLast, Tight r)
    (rest : Memory β) :
    f.parse l alloc (behind bs rest) bs.length =
      if alloc (l.asked rs.length (rs.map f.size).sum) then
        if l.asked rs.length (rs.map f.size).sum < f.commandSize l rs then .overrun else .command rs
      else .noBuffer := by
  obtain ⟨hcounted, hfill⟩ := h.parse_whole hrs htight rest
  have hfew := Format.counted_few hshort (behind bs rest)
  rw [hcounted, List.length_map] at hfew
  simp only [Format.parse, hcounted, List.length_map, Nat.mod_eq_of_lt hfew, hfill]
  rfl

/-- Where the sizes of a short message fit into their variables, the buffer is as large as the command. -/
theorem Follows.parse_fits {Tight : R → Prop} (h : Follows f checked Tight) {l : Layout} (alloc : Nat → Bool)
    (hshort : bs.length < 255 * f.least) (hrs : checkedParse checked bs = some rs) (htight : ∀ r ∈ rs.dropLast, Tight r)
    (hlen : l.head + rs.length * l.record < l.lenMod) (hroom : l.head + rs.length * l.record + bs.length < 65536)
    (rest : Memory β) :
    f.parse l alloc (behind bs rest) bs.length = f.stored l alloc rs := by
  have hsizes := h.sizes_le hrs
  have hasked : l.asked rs.length (rs.map f.size).sum = f.commandSize l rs :=
    Layout.asked_eq hlen (by rw [Layout.needed]; omega)
  rw [h.parse_eq l alloc hshort hrs htight rest, hasked, if_neg (Nat.lt_irrefl _), Format.stored]

/-- Of the messages whose sizes fit, those that are whole records are parsed into a command, and for no other is
there one that does not depend on the memory behind it. -/
theorem Checks.parse_iff (h : Checks f checked encode a b) {l : Layout} (alloc : Nat → Bool)
    (hshort : bs.length < 255 * f.least) (hlen : l.head + 255 * l.record < l.lenMod)
    (hroom : l.head + 255 * l.record + bs.length < 65536) :
    (∀ rs, (∀ rest, f.parse l alloc (behind bs rest) bs.length = .command rs) ↔
        checkedParse checked bs = some rs ∧ alloc (f.commandSize l rs) = true) ∧
      ∀ rs rest, checkedParse checked bs = some rs →
        f.parse l alloc (behind bs rest) bs.length = f.stored l alloc rs := by
  have hwhole : ∀ rs rest, checkedParse checked bs = some rs →
      f.parse l alloc (behind bs rest) bs.length = f.stored l alloc rs := fun rs rest hrs => by
    have hfew : rs.length < 256 := by
      rw [← List.length_map f.size, ← (h.follows.parse_whole hrs (fun _ _ => trivial) rest).1]
      exact Format.counted_few hshort _
    have hrecords := Nat.mul_le_mul_right l.record (Nat.le_of_lt_succ hfew)
    exact h.follows.parse_fits alloc hshort hrs (fun _ _ => trivial) (by omega) (by omega) rest
  refine ⟨fun rs => ⟨fun hall => ?_, fun ⟨hrs, halloc⟩ rest => by rw [hwhole rs rest hrs, Format.stored, if_pos halloc]⟩,
    hwhole⟩
  rcases hchecked : checkedParse checked bs with _ | rs'
  · obtain ⟨k, hka, hkb, hdiff⟩ := h.parse_beyond hchecked
    have ha := Format.parse_command (hall fun _ => a)
    have hb := Format.parse_command (hall fun _ => b)
    have hfew : k < 256 := hka ▸ Format.counted_few hshort _
    rw [hka, Nat.mod_eq_of_lt hfew] at ha
    rw [hkb, Nat.mod_eq_of_lt hfew] at hb
    exact absurd (ha.trans hb.symm) hdiff
  · have hat := hall fun _ => a
    rw [hwhole rs' _ hchecked, Format.stored] at hat
    split at hat
    · next halloc =>
        obtain rfl := Parsed.command.inj hat
        exact ⟨rfl, halloc⟩
    · cases hat

/-- The filling pass copies what the counting pass adds up. -/
theorem Checks.fill_sizes (h : Checks f checked encode a b) (m : Memory β) (left : Nat) :
    (f.fill (f.counted m left).length m).map f.size = f.counted m left := by
  induction left using Nat.strongRecOn generalizing m with
  | _ left ih =>
      by_cases hzero : left = 0
      · rw [hzero, Format.counted_zero]
        rfl
      · have hpos := f.least_pos
        have hskip := f.least_le m
        rw [Format.counted_pos hzero, List.length_cons, Format.fill, List.map_cons, ← h.weight_read, ← h.skip_read,
          ih _ (by omega)]

/-- More is written than the buffer was asked for exactly when the size of the command does not fit into sixteen
bits and there is a buffer of what is left of it. -/
theorem Checks.overrun_iff (h : Checks f checked encode a b) {l : Layout} (alloc : Nat → Bool) {left : Nat}
    (hshort : left < 255 * f.least) (hlen : l.lenMod = 65536) (m : Memory β) :
    f.parse l alloc m left = .overrun ↔
      65536 ≤ l.needed (f.counted m left).length (f.counted m left).sum ∧
        alloc (l.needed (f.counted m left).length (f.counted m left).sum % 65536) = true := by
  have hfew := Format.counted_few hshort m
  have hasked : l.asked (f.counted m left).length (f.counted m left).sum =
      l.needed (f.counted m left).length (f.counted m left).sum % 65536 := by
    rw [Layout.asked, Layout.needed, hlen, ← Nat.add_mod]
  simp only [Format.parse, Nat.mod_eq_of_lt hfew, h.fill_sizes, hasked]
  generalize l.needed (f.counted m left).length (f.counted m left).sum = needed
  by_cases halloc : alloc (needed % 65536) = true
  · rw [if_pos halloc]
    by_cases hover : needed % 65536 < needed
    · rw [if_pos hover]
      exact ⟨fun _ => ⟨by omega, halloc⟩, fun _ => rfl⟩
    · rw [if_neg hover]
      exact ⟨fun hcommand => (by cases hcommand), fun hneeded => absurd hneeded.1 (by omega)⟩
  · rw [if_neg halloc]
    exact ⟨fun hnone => (by cases hnone), fun hneeded => absurd hneeded.2 halloc⟩

/-- A message that is built record by record is read back. -/
theorem checkedParse_built {S : Type*} {record : S → R} {sources : List S}
    (hbuilt : ∀ s ∈ sources, ∀ tail, checked (encode (record s) ++ tail) = some (record s, (encode (record s)).length))
    (hpos : ∀ r, (encode r).length ≠ 0) :
    checkedParse checked (sources.flatMap fun s => encode (record s)) = some (sources.map record) := by
  induction sources with
  | nil => exact checkedParse_nil
  | cons s sources ih =>
      have hne : (encode (record s) ++ sources.flatMap fun s => encode (record s)).length ≠ 0 := by
        rw [List.length_append]
        have hfirst := hpos (record s)
        omega
      have hrest := ih fun s' hs' => hbuilt s' (List.mem_cons_of_mem s hs')
      rw [List.flatMap_cons, checkedParse_some hne (hbuilt s List.mem_cons_self _) (hpos _), List.drop_left, hrest]
      rfl

end Checked

end TwoPass
