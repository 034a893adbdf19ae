import Watermeter.NvMove
import Watermeter.Transition

/-! The NV over whole runs: accesses to the items of all modules one after another, any of which the power may cut short
between two commands to the flash. -/

namespace Watermeter.Nv

open NorFlash CrashLogic SlotLog Transition

/-! ### The accesses -/

/-- A write of a single item, with a buffer to be had for the handler of duplicates or not, and a read. -/
inductive Access
  | write (id : Module) (itemId : Byte) (buf : List Byte) (bufFree : Bool)
  | read (id : Module) (itemId : Byte) (tbl : LenCheckTbl)

inductive Answer
  | wrote (st : NvSts)
  | got (r : Except NvSts (List Byte))

/-- The length of each item of each module. -/
abbrev Schema := Module → Byte → Nat

def Access.program (schema : Schema) : Access → Driver Answer
  | .write id itemId buf bufFree => do return .wrote (← nvFlashWriteNew bufFree true id itemId buf)
  | .read id itemId tbl => do return .got (← nvFlashReadNew tbl id itemId (schema id itemId))

/-- The access is one to an item of the module, with its length. -/
def Access.Fits (schema : Schema) : Access → Prop
  | .write id itemId buf _ => id ≠ .nwkFrameCount ∧ itemId ≠ itemFieldIdle ∧ buf.length = schema id itemId
  | .read id itemId _ => id ≠ .nwkFrameCount ∧ itemId ≠ itemFieldIdle

/-- An access, and the number of commands after which the power fails, if it does. -/
structure Event where
  access : Access
  cut : Option Nat

def step (schema : Schema) (m : Mem) (e : Event) : Mem := ((e.access.program schema).use e.cut m).2

/-- The answers of a run; there is none to an access that is cut short. -/
def answers (schema : Schema) : Mem → List Event → List (Option Answer)
  | _, [] => []
  | m, e :: events => ((e.access.program schema).use e.cut m).1 :: answers schema (step schema m e) events

/-! ### What the NV is for -/

/-- What is stored, by module and item. -/
abbrev Store := Module → Byte → Option (List Byte)

def Store.put (σ : Store) (id : Module) (itemId : Byte) (buf : List Byte) : Store :=
  Function.update σ id (Function.update (σ id) itemId (some buf))

/-- One access to the store: a write is done, or refused for want of room, and done or not when it is cut short. -/
inductive Serves (schema : Schema) (σ : Store) : Event → Option Answer → Store → Prop
  | done (id : Module) (itemId : Byte) (buf : List Byte) (bufFree : Bool) :
      Serves schema σ ⟨.write id itemId buf bufFree, none⟩ (some (.wrote .succ)) (σ.put id itemId buf)
  | refused (id : Module) (itemId : Byte) (buf : List Byte) (bufFree : Bool)
      (hno : Refused (schema id) id bufFree itemId (σ id)) :
      Serves schema σ ⟨.write id itemId buf bufFree, none⟩ (some (.wrote .notEnoughSapce)) σ
  | kept (id : Module) (itemId : Byte) (buf : List Byte) (bufFree : Bool) (k : Nat) :
      Serves schema σ ⟨.write id itemId buf bufFree, some k⟩ none σ
  | late (id : Module) (itemId : Byte) (buf : List Byte) (bufFree : Bool) (k : Nat) :
      Serves schema σ ⟨.write id itemId buf bufFree, some k⟩ none (σ.put id itemId buf)
  | got (id : Module) (itemId : Byte) (tbl : LenCheckTbl) :
      Serves schema σ ⟨.read id itemId tbl, none⟩ (some (.got (readBack tbl itemId (σ id itemId)))) σ
  | unread (id : Module) (itemId : Byte) (tbl : LenCheckTbl) (k : Nat) :
      Serves schema σ ⟨.read id itemId tbl, some k⟩ none σ

inductive ServesAll (schema : Schema) : Store → List Event → List (Option Answer) → Store → Prop
  | nil (σ : Store) : ServesAll schema σ [] [] σ
  | cons {σ σ₁ σ₂ : Store} {e : Event} {events : List Event} {a : Option Answer} {as : List (Option Answer)}
      (h : Serves schema σ e a σ₁) (hs : ServesAll schema σ₁ events as σ₂) : ServesAll schema σ (e :: events) (a :: as) σ₂

/-! ### The modules lie apart -/

variable {schema : Schema} {m m' : Mem} {id : Module} {σ : Store} {length : Byte → Nat} {τ : Byte → Option (List Byte)}

/-- Where the items of the modules lie. -/
def InNv (x : Nat) : Prop := ∃ id : Module, id ≠ .nwkFrameCount ∧ moduleSectStart id 0 ≤ x ∧ x < moduleSectEnd id 1

/-- The memory holds the store. -/
def Holds (schema : Schema) (m : Mem) (σ : Store) : Prop := ∀ id, id ≠ .nwkFrameCount → Repr (schema id) id m (σ id)

theorem modules_apart {id id' : Module} (h : id ≠ id') :
    moduleSectEnd id 1 ≤ moduleSectStart id' 0 ∨ moduleSectEnd id' 1 ≤ moduleSectStart id 0 := by
  cases id <;> cases id' <;> first | exact absurd rfl h | (left; decide) | (right; decide)

theorem Repr.congr (h : Repr length id m τ)
    (hsame : ∀ x, moduleSectStart id 0 ≤ x → x < moduleSectEnd id 1 → m' x = m x) : Repr length id m' τ := by
  obtain ⟨h01, hend, hsect, hpos⟩ := sectors id
  have hin : ∀ n < 2, moduleSectStart id 0 ≤ moduleSectStart id n ∧ moduleSectEnd id n ≤ moduleSectEnd id 1 := by
    intro n hn
    have hcases : n = 0 ∨ n = 1 := by omega
    rcases hcases with rfl | rfl <;> omega
  have hheader : ∀ n < 2, sectInfoAt m' id n = sectInfoAt m id n := by
    intro n hn
    have hl := layout id hn
    have hidx := hl.idxStart
    have hidxEnd := hl.idxEnd
    have hctx := hl.ctx_lt
    have hbounds := hin n hn
    exact readSectInfo_congr fun x hx₁ hx₂ => hsame x (by omega) (by omega)
  have hopened : ∀ {flag n log}, Opened length id m flag n log → Opened length id m' flag n log := by
    intro flag n log ho
    have hn := ho.lt
    have hidx := (layout id hn).idxStart
    have hbounds := hin n hn
    refine ⟨⟨hn, ?_, ho.image.congr hn fun x hx₁ hx₂ => hsame x (by omega) (by omega), ho.ne, ho.sized⟩, fun h1 => ?_⟩
    · rw [hheader n hn, ho.header]
    · rw [hheader 0 (by decide)]
      exact ho.passed h1
  rcases h with ⟨hrej, hτ⟩ | ⟨n, log, ho, hτ⟩ | ⟨n, log, ho, hother, hτ⟩
  · refine .empty (fun n hn => ?_) hτ
    rw [hheader n hn]
    exact hrej n hn
  · exact .active n log (hopened ho) hτ
  · refine .half n log (hopened ho) ?_ hτ
    rw [hheader _ (Nat.mod_lt _ (by decide))]
    exact hother

theorem Holds.module (h : Holds schema m σ) (hid : id ≠ .nwkFrameCount) (hout : Outside id m m')
    (hr : Repr (schema id) id m' τ) : Holds schema m' (Function.update σ id τ) := by
  intro id' hid'
  by_cases heq : id' = id
  · subst heq
    rwa [Function.update_self]
  · rw [Function.update_of_ne heq]
    have hapart := modules_apart heq
    exact (h id' hid').congr fun x hx₁ hx₂ => hout x (by omega)

/-! ### A run of accesses -/

theorem wp_write {itemId : Byte} {buf : List Byte} (bufFree : Bool) (h : Repr (schema id) id m τ) (hmod : id ≠ .nwkFrameCount)
    (hitem : itemId ≠ itemFieldIdle) (hlen : buf.length = schema id itemId) :
    wp (fun m' => Outside id m m' ∧
        (Repr (schema id) id m' τ ∨ Repr (schema id) id m' (Function.update τ itemId (some buf))))
      ((Access.write id itemId buf bufFree).program schema)
      (fun a m' => Outside id m m' ∧
        (a = .wrote .succ ∧ Repr (schema id) id m' (Function.update τ itemId (some buf)) ∨
          a = .wrote .notEnoughSapce ∧ Repr (schema id) id m' τ ∧ Refused (schema id) id bufFree itemId τ)) m := by
  refine wp_bind.mpr (wp_nvFlashWriteNew bufFree hlen hitem (fun m' hout hr => ⟨hout, hr⟩) (fun m' hout hr => ?_)
    (fun m' hout hr hno => ?_) h hmod)
  · exact wp_pure.mpr ⟨⟨hout, Or.inr hr⟩, hout, Or.inl ⟨rfl, hr⟩⟩
  · exact wp_pure.mpr ⟨⟨hout, Or.inl hr⟩, hout, Or.inr ⟨rfl, hr, hno⟩⟩

theorem wp_read {itemId : Byte} (tbl : LenCheckTbl) (h : Repr (schema id) id m τ) (hmod : id ≠ .nwkFrameCount)
    (hitem : itemId ≠ itemFieldIdle) :
    wp (fun m' => Outside id m m' ∧ Repr (schema id) id m' τ) ((Access.read id itemId tbl).program schema)
      (fun a m' => Outside id m m' ∧ Repr (schema id) id m' τ ∧ a = .got (readBack tbl itemId (τ itemId))) m := by
  refine wp_bind.mpr (wp_nvFlashReadNew tbl h hmod hitem (fun m' hout hr => ⟨hout, hr⟩) fun m' hout hr => ?_)
  exact wp_pure.mpr ⟨⟨hout, hr⟩, hout, hr, rfl⟩

theorem Outside.inNv (h : Outside id m m') (hmod : id ≠ .nwkFrameCount) {x : Nat} (hx : ¬ InNv x) : m' x = m x := by
  apply h x
  by_contra hin
  exact hx ⟨id, hmod, by omega, by omega⟩

theorem Holds.same (h : Holds schema m σ) (hmod : id ≠ .nwkFrameCount) (hout : Outside id m m')
    (hr : Repr (schema id) id m' (σ id)) : Holds schema m' σ := by
  have hboth := h.module hmod hout hr
  rwa [Function.update_eq_self] at hboth

/-- One access. -/
theorem serves_step (h : Holds schema m σ) {e : Event} (he : e.access.Fits schema) :
    ∃ σ', Serves schema σ e ((e.access.program schema).use e.cut m).1 σ' ∧ Holds schema (step schema m e) σ' ∧
      ∀ x, ¬ InNv x → step schema m e x = m x := by
  obtain ⟨access, cut⟩ := e
  cases access with
  | write id itemId buf bufFree =>
      obtain ⟨hmod, hitem, hlen⟩ := he
      rcases (wp_write bufFree (h id hmod) hmod hitem hlen).use cut with ⟨a, rfl, ha, hout, hq⟩ | ⟨k, rfl, ha, hout, hc⟩
      · rcases hq with ⟨rfl, hr⟩ | ⟨rfl, hr, hno⟩
        · exact ⟨_, ha ▸ .done id itemId buf bufFree, h.module hmod hout hr, fun x hx => hout.inNv hmod hx⟩
        · exact ⟨σ, ha ▸ .refused id itemId buf bufFree hno, h.same hmod hout hr, fun x hx => hout.inNv hmod hx⟩
      · rcases hc with hr | hr
        · exact ⟨σ, ha ▸ .kept id itemId buf bufFree k, h.same hmod hout hr, fun x hx => hout.inNv hmod hx⟩
        · exact ⟨_, ha ▸ .late id itemId buf bufFree k, h.module hmod hout hr, fun x hx => hout.inNv hmod hx⟩
  | read id itemId tbl =>
      obtain ⟨hmod, hitem⟩ := he
      rcases (wp_read tbl (h id hmod) hmod hitem).use cut with ⟨a, rfl, ha, hout, hr, rfl⟩ | ⟨k, rfl, ha, hout, hr⟩
      · exact ⟨σ, ha ▸ .got id itemId tbl, h.same hmod hout hr, fun x hx => hout.inNv hmod hx⟩
      · exact ⟨σ, ha ▸ .unread id itemId tbl k, h.same hmod hout hr, fun x hx => hout.inNv hmod hx⟩

theorem serves_run (events : List Event) (h : Holds schema m σ) (hfits : ∀ e ∈ events, e.access.Fits schema) :
    ∃ σ', ServesAll schema σ events (answers schema m events) σ' ∧ Holds schema (run (step schema) m events) σ' ∧
      ∀ x, ¬ InNv x → run (step schema) m events x = m x := by
  induction events generalizing m σ with
  | nil => exact ⟨σ, .nil σ, h, fun _ _ => rfl⟩
  | cons e events ih =>
      obtain ⟨σ₁, hserves, hholds, hsame⟩ := serves_step h (hfits e List.mem_cons_self)
      obtain ⟨σ₂, hall, hholds', hsame'⟩ := ih hholds fun e' he' => hfits e' (List.mem_cons_of_mem _ he')
      exact ⟨σ₂, .cons hserves hall, hholds', fun x hx => (hsame' x hx).trans (hsame x hx)⟩

/-- An erased chip holds nothing. -/
theorem holds_blank (schema : Schema) : Holds schema (fun _ => 0xFF#8) fun _ _ => none :=
  fun _ _ => .empty (fun _ _ => rejected_erased fun _ _ _ => rfl) rfl

def Access.Puts (id : Module) (itemId : Byte) (buf : List Byte) (a : Access) : Prop :=
  ∃ bufFree, a = .write id itemId buf bufFree

theorem put_other {σ : Store} {id id' : Module} {k k' : Byte} (buf : List Byte) (h : ¬ (id' = id ∧ k' = k)) :
    σ.put id' k' buf id k = σ id k := by
  unfold Store.put
  by_cases hid : id' = id
  · subst hid
    rw [Function.update_self, Function.update_of_ne fun hk => h ⟨rfl, hk.symm⟩]
  · rw [Function.update_of_ne fun heq => hid heq.symm]

theorem put_same (σ : Store) (id : Module) (k : Byte) (buf : List Byte) : σ.put id k buf id k = some buf := by
  rw [Store.put, Function.update_self, Function.update_self]

/-- An item changes to what is written to it, if at all. -/
theorem Serves.value {σ σ' : Store} {e : Event} {a : Option Answer} (h : Serves schema σ e a σ') (id : Module) (k : Byte) :
    σ' id k = σ id k ∨ ∃ buf, e.access.Puts id k buf ∧ σ' id k = some buf := by
  have hput : ∀ (id' : Module) (k' : Byte) (buf : List Byte) (bufFree : Bool),
      σ.put id' k' buf id k = σ id k ∨
        ∃ w, (Access.write id' k' buf bufFree).Puts id k w ∧ σ.put id' k' buf id k = some w := by
    intro id' k' buf bufFree
    by_cases heq : id' = id ∧ k' = k
    · obtain ⟨rfl, rfl⟩ := heq
      exact Or.inr ⟨buf, ⟨bufFree, rfl⟩, put_same σ id' k' buf⟩
    · exact Or.inl (put_other buf heq)
  cases h with
  | done id' k' buf bufFree => exact hput id' k' buf bufFree
  | late id' k' buf bufFree n => exact hput id' k' buf bufFree
  | refused => exact Or.inl rfl
  | kept => exact Or.inl rfl
  | got => exact Or.inl rfl
  | unread => exact Or.inl rfl

theorem ServesAll.value {σ σ' : Store} {events : List Event} {as : List (Option Answer)} (h : ServesAll schema σ events as σ')
    (id : Module) (k : Byte) :
    σ' id k = σ id k ∨ ∃ e ∈ events, ∃ buf, e.access.Puts id k buf ∧ σ' id k = some buf := by
  induction h with
  | nil σ => exact Or.inl rfl
  | @cons σ σ₁ σ₂ e events a as h hs ih =>
      rcases ih with hsame | ⟨e', he', buf, hputs, hbuf⟩
      · rcases h.value id k with hfirst | ⟨buf, hputs, hbuf⟩
        · exact Or.inl (hsame.trans hfirst)
        · exact Or.inr ⟨e, List.mem_cons_self, buf, hputs, hsame.trans hbuf⟩
      · exact Or.inr ⟨e', List.mem_cons_of_mem _ he', buf, hputs, hbuf⟩

theorem read_answer {σ : Store} (h : Holds schema m σ) {itemId : Byte} (tbl : LenCheckTbl) (hmod : id ≠ .nwkFrameCount)
    (hitem : itemId ≠ itemFieldIdle) :
    ((Access.read id itemId tbl).program schema).result m = .got (readBack tbl itemId (σ id itemId)) :=
  (wp_read tbl (h id hmod) hmod hitem).post.2.2

/-- Once a write of an item has returned success, a read returns what was written, or what a later write to the item was
about to write when it was cut short or what it wrote; accesses to other items do not matter. -/
theorem read_written (schema : Schema) (m : Mem) (σ : Store) (xs ys : List Event) (id : Module) (itemId : Byte)
    (buf : List Byte) (bufFree : Bool) (tbl : LenCheckTbl) (h : Holds schema m σ)
    (hfits : ∀ e ∈ xs ++ ⟨.write id itemId buf bufFree, none⟩ :: ys, e.access.Fits schema)
    (hdone : ((Access.write id itemId buf bufFree).program schema).result (run (step schema) m xs) = .wrote .succ) :
    ∃ w, (w = buf ∨ ∃ e ∈ ys, e.access.Puts id itemId w) ∧
      ((Access.read id itemId tbl).program schema).result
          (run (step schema) m (xs ++ ⟨.write id itemId buf bufFree, none⟩ :: ys)) =
        .got (.ok (w.take (nvItemLengthValidCheck tbl itemId w.length))) := by
  obtain ⟨hmod, hitem, hlen⟩ := hfits _ (List.mem_append_right _ List.mem_cons_self)
  obtain ⟨σ₁, -, h₁, -⟩ := serves_run xs h fun e he => hfits e (List.mem_append_left _ he)
  have hwrite := (wp_write bufFree (h₁ id hmod) hmod hitem hlen).post
  rw [hdone] at hwrite
  obtain ⟨hout, hq⟩ := hwrite
  have hr := (hq.resolve_right fun hno => by simp at hno).2
  have h₂ : Holds schema (step schema (run (step schema) m xs) ⟨.write id itemId buf bufFree, none⟩)
      (σ₁.put id itemId buf) := h₁.module hmod hout hr
  obtain ⟨σ₃, hall, h₃, -⟩ := serves_run ys h₂
    fun e he => hfits e (List.mem_append_right _ (List.mem_cons_of_mem _ he))
  have hread := read_answer h₃ tbl hmod hitem
  rw [run_append, run_cons, hread]
  rcases hall.value id itemId with hsame | ⟨e, he, w, hputs, hw⟩
  · rw [hsame, put_same]
    exact ⟨buf, Or.inl rfl, rfl⟩
  · rw [hw]
    exact ⟨w, Or.inr ⟨e, he, hputs⟩, rfl⟩

/-! ### Room -/

/-- The room that an item of so many bytes takes. -/
def roomOf (len : Nat) : Nat := align4 (itemTotalLen len)

/-- The items of the module, all together, find room in a sector. -/
structure Fitting (schema : Schema) (keys : Module → Finset Byte) (id : Module) : Prop where
  card : (keys id).card ≤ moduleIdxNum id
  room : ∑ k ∈ keys id, roomOf (schema id k) ≤ nvSectorSize id - moduleInfoSize id

theorem not_refused {keys : Module → Finset Byte} {k : Byte} (hfit : Fitting schema keys id) (hk : k ∈ keys id)
    (hτ : ∀ j, τ j ≠ none → j ∈ keys id) : ¬ Refused (schema id) id true k τ := by
  have hself : roomOf (schema id k) ≤ ∑ j ∈ keys id, roomOf (schema id j) :=
    Finset.single_le_sum (f := fun j => roomOf (schema id j)) (fun _ _ => Nat.zero_le _) hk
  have hroom := hfit.room
  have hle : itemTotalLen (schema id k) ≤ roomOf (schema id k) := (le_align4 _).1
  have hinfo : moduleInfoSize id ≤ nvSectorSize id := by
    cases id <;> decide
  rintro (hlong | ⟨n, log, hn, rfl, hsz, hd, hfull⟩)
  · omega
  · have hkeys : ∀ s ∈ log, s.status = .live → s.key ∈ keys id := by
      intro s hs hlive
      exact hτ _ fun hnone => lookup_eq_none_iff.mp hnone s hs ⟨hlive, rfl⟩
    have hlt := length_survivors_lt hkeys (hd rfl) hk
    have hsum := sum_survivors_le hkeys (hd rfl) hk fun j => roomOf (schema id j)
    have hcard := hfit.card
    have haddr : bodyAddr id n (survivors k log) =
        moduleContextStart id n + ((survivors k log).map fun s => roomOf (schema id s.key)).sum := by
      rw [bodyAddr, itemAddr, roomBefore, List.take_length]
      refine congrArg (moduleContextStart id n + List.sum ·) (List.map_congr_left fun s hs => ?_)
      rw [itemRoom, roomOf, hsz s (mem_survivors.mp hs).1]
    have hctx := (layout id hn).ctx
    have hend := (layout id hn).sectEnd
    omega

/-- The access is one to an item that room is kept for, with a buffer for the handler of duplicates. -/
def Access.Within (keys : Module → Finset Byte) : Access → Prop
  | .write id itemId _ bufFree => itemId ∈ keys id ∧ bufFree = true
  | .read .. => True

/-- What is stored are items that room is kept for. -/
def Store.Within (σ : Store) (keys : Module → Finset Byte) : Prop := ∀ id k, σ id k ≠ none → k ∈ keys id

theorem Serves.within {keys : Module → Finset Byte} {σ' : Store} {e : Event} {a : Option Answer}
    (h : Serves schema σ e a σ') (hσ : σ.Within keys) (he : e.access.Within keys) : σ'.Within keys := by
  intro id k hne
  rcases h.value id k with hsame | ⟨buf, ⟨bufFree, heq⟩, -⟩
  · exact hσ id k (hsame ▸ hne)
  · rw [heq] at he
    exact he.1

/-- Every write that was answered was done. -/
def NoneRefused (as : List (Option Answer)) : Prop := ∀ a ∈ as, ∀ st, a = some (.wrote st) → st = .succ

section Room

variable {keys : Module → Finset Byte} (hfit : ∀ id, id ≠ .nwkFrameCount → Fitting schema keys id)
include hfit

theorem write_done (h : Holds schema m σ) (hσ : σ.Within keys) {itemId : Byte} {buf : List Byte}
    (hfits : (Access.write id itemId buf true).Fits schema) (hk : itemId ∈ keys id) :
    ((Access.write id itemId buf true).program schema).result m = .wrote .succ := by
  obtain ⟨hmod, hitem, hlen⟩ := hfits
  obtain ⟨-, hq⟩ := (wp_write true (h id hmod) hmod hitem hlen).post
  rcases hq with ⟨ha, -⟩ | ⟨-, -, hno⟩
  · exact ha
  · exact absurd hno (not_refused (hfit id hmod) hk (hσ id))

/-- As long as the items of each module fit into one of its sectors, no write is refused, however often the items have
been written and wherever the power has failed. -/
theorem fitting_never_refused (m : Mem) (σ : Store) (events : List Event) (h : Holds schema m σ) (hσ : σ.Within keys)
    (hfits : ∀ e ∈ events, e.access.Fits schema ∧ e.access.Within keys) : NoneRefused (answers schema m events) := by
  induction events generalizing m σ with
  | nil => exact fun a ha => absurd ha List.not_mem_nil
  | cons e events ih =>
      obtain ⟨he, hin⟩ := hfits e List.mem_cons_self
      obtain ⟨σ₁, hserves, hholds, -⟩ := serves_step h he
      intro a ha st hst
      rcases List.mem_cons.mp ha with rfl | ha
      · obtain ⟨access, cut⟩ := e
        cases cut with
        | some k => exact absurd hst (by simp [Program.use])
        | none =>
            have hst' := Option.some.inj hst
            cases access with
            | read id itemId tbl =>
                obtain ⟨hmod, hitem⟩ := he
                have hgot := (wp_read tbl (h id hmod) hmod hitem).post.2.2
                exact absurd (hgot.symm.trans hst') Answer.noConfusion
            | write id itemId buf bufFree =>
                obtain ⟨hk, rfl⟩ := hin
                exact (Answer.wrote.inj ((write_done hfit h hσ he hk).symm.trans hst')).symm
      · exact ih _ σ₁ hholds (hserves.within hσ hin) (fun e' he' => hfits e' (List.mem_cons_of_mem _ he')) a ha st hst

end Room

theorem fitting_single (id : Module) : Fitting (fun _ _ => 3) (fun _ => {0x2D#8}) id := by
  constructor <;> cases id <;> decide

theorem blank_within (keys : Module → Finset Byte) : Store.Within (fun _ _ => none) keys := fun _ _ h => absurd rfl h

theorem fitting_never_refused_single : NoneRefused (answers (fun _ _ => 3) (fun _ => 0xFF#8)
    [⟨.write .app 0x2D#8 [1#8, 2#8, 3#8] true, some 7⟩, ⟨.write .app 0x2D#8 [4#8, 5#8, 6#8] true, none⟩]) :=
  fitting_never_refused (fun id _ => fitting_single id) _ _ _ (holds_blank _) (blank_within _)
    (by simp [Access.Fits, Access.Within, itemFieldIdle])

theorem read_written_single : ∃ w, (w = [1#8, 2#8, 3#8] ∨ ∃ e ∈ ([⟨.write .app 0x2D#8 [4#8, 5#8, 6#8] true, some 3⟩] :
      List Event), e.access.Puts .app 0x2D#8 w) ∧
    ((Access.read .app 0x2D#8 []).program fun _ _ => 3).result (run (step fun _ _ => 3) (fun _ => 0xFF#8)
        ([] ++ ⟨.write .app 0x2D#8 [1#8, 2#8, 3#8] true, none⟩ ::
          [⟨.write .app 0x2D#8 [4#8, 5#8, 6#8] true, some 3⟩])) =
      .got (.ok (w.take (nvItemLengthValidCheck [] 0x2D#8 w.length))) :=
  read_written (fun _ _ => 3) (fun _ => 0xFF#8) (fun _ _ => none) [] _ .app 0x2D#8 [1#8, 2#8, 3#8] true [] (holds_blank _)
    (by simp [Access.Fits, itemFieldIdle])
    (write_done (fun id _ => fitting_single id) (holds_blank _) (blank_within _) (by simp [Access.Fits, itemFieldIdle])
      (Finset.mem_singleton_self _))

end Watermeter.Nv
