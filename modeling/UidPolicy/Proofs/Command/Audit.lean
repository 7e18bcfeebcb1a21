import UidPolicy.Control.Backing
import UidPolicy.Kernel.Map
import UidPolicy.Pinned.Mode
import UidPolicy.Proofs.Scope

/-!
# Auditing the calls of a program

Which calls a program issues does not show in what it answers: a batch reports a failure and goes
on, and an initialisation renames it. So the calls are written down while the program runs.

- `Backing.Call`: the calls on a backing, and `Issued`, which is what is written down of one.
- `Backing.audited`: the same backing, with a trail of the calls that were issued and of their
  faults.
- `Access.permits`: the calls that are open to a program with an access.
- `Act.Tame`: the operation does not fail as unsupported, and does what a scope allows.
- `KeepsTo`: the audited program runs as the program itself does, issues permitted calls only, and
  neither it nor one of its calls fails as unsupported. `KeepsTo.bind`, `.catching`, `.batch` and
  `.entries` carry this through programs; `KeepsTo.call` asks it of the calls themselves
  (`Backing.Grants`).
-/

namespace UidPolicy

/-! ## Calls -/

/-- The keys of a map. -/
abbrev MapName.Key : MapName → Type
  | configuration | dataSaver => UInt32
  | uidOwner | uidPermission => Uid
  | cookieTag => UInt64
  | ingressDiscard => DiscardKey

/-- The values of a map. -/
abbrev MapName.Value : MapName → Type
  | configuration => UInt32
  | uidOwner => OwnerEntry
  | uidPermission | dataSaver => UInt8
  | cookieTag => TagEntry
  | ingressDiscard => DiscardRule

/-- What is written down of a call on a backing: which operation it was, and on which map. Keys and
values are left out, because what a program may call does not depend on them. -/
inductive Issued where
  | get (map : MapName)
  | put (map : MapName)
  | delete (map : MapName)
  | keys (map : MapName)
  | barrier
  | indexOf
  | nameOf
  deriving DecidableEq, Repr

/-- Whether a call only reads. -/
def Issued.isRead : Issued → Bool
  | get _ | keys _ | indexOf | nameOf => true
  | put _ | delete _ | barrier => false

/-- Whether a program with an access may issue a call. The slots of an array are never removed, so a
removal is permitted on hash maps only. -/
def Access.permits (access : Access) : Issued → Bool
  | .get _ | .keys _ => access.canRead
  | .put _ | .barrier => access.canWrite
  | .delete map => access.canWrite && map.shape.kind != .array
  | .indexOf | .nameOf => true

theorem Access.permits_delete {access : Access} (hwrite : access.canWrite = true) {map : MapName}
    (hmap : map.shape.kind ≠ .array) : access.permits (.delete map) = true := by
  rw [permits, hwrite, Bool.true_and]
  exact bne_iff_ne.2 hmap

namespace Backing

variable {W : Type}

/-- The map with a name. -/
def table (b : Backing W) : (map : MapName) → Table W map.Key map.Value
  | .configuration => b.configuration
  | .uidOwner => b.uidOwner
  | .uidPermission => b.uidPermission
  | .cookieTag => b.cookieTag
  | .dataSaver => b.dataSaver
  | .ingressDiscard => b.ingressDiscard

/-- A call on a backing, with what it answers. Whatever a program does to its maps is made of
these. -/
inductive Call : Type → Type where
  | get (map : MapName) (key : map.Key) : Call (Option map.Value)
  | put (map : MapName) (key : map.Key) (value : map.Value) : Call Unit
  | delete (map : MapName) (key : map.Key) : Call Bool
  | keys (map : MapName) : Call (List map.Key)
  | barrier : Call Unit
  | indexOf (name : String) : Call (Option UInt32)
  | nameOf (index : UInt32) : Call (Option String)

namespace Call

variable {α : Type}

/-- The operation of a call. -/
def run (b : Backing W) : Call α → Op W α
  | get map key => (b.table map).get key
  | put map key value => (b.table map).put key value
  | delete map key => (b.table map).delete key
  | keys map => (b.table map).keys
  | barrier => b.barrier
  | indexOf name => b.indexOf name
  | nameOf index => b.nameOf index

/-- What is written down of a call. -/
def issued : Call α → Issued
  | get map _ => .get map
  | put map .. => .put map
  | delete map _ => .delete map
  | keys map => .keys map
  | barrier => .barrier
  | indexOf _ => .indexOf
  | nameOf _ => .nameOf

end Call

end Backing

/-! ## The trail -/

/-- A call that was issued, and why it failed if it did. The fault is kept also where the program
goes on in spite of it. -/
structure TrailEntry where
  call : Issued
  fault : Option Fault
  deriving DecidableEq, Repr

/-- A world, and the calls that were issued on the way to it, oldest first. A program that only
reports a fault, or ignores one, does not hide it from the trail. -/
structure Audited (W : Type) where
  now : W
  trail : List TrailEntry

/-- Why a run has no answer. -/
def Outcome.fault? {ε W α : Type} (o : Outcome ε W α) : Option ε :=
  match o.result with
  | .ok _ => none
  | .error e => some e

/-- The operation on the world that is now, with an entry for it. -/
def Act.audited {W α : Type} (call : Issued) (x : Op W α) : Op (Audited W) α := fun r =>
  let o := x r.now
  ⟨o.result, ⟨o.world, r.trail ++ [⟨call, o.fault?⟩]⟩, o.events⟩

/-- The audited map. -/
def Table.audited {W K V : Type} (map : MapName) (t : Table W K V) : Table (Audited W) K V where
  get k := (t.get k).audited (.get map)
  put k v := (t.put k v).audited (.put map)
  delete k := (t.delete k).audited (.delete map)
  keys := t.keys.audited (.keys map)

/-- The audited backing. -/
def Backing.audited {W : Type} (b : Backing W) : Backing (Audited W) where
  configuration := b.configuration.audited .configuration
  uidOwner := b.uidOwner.audited .uidOwner
  uidPermission := b.uidPermission.audited .uidPermission
  cookieTag := b.cookieTag.audited .cookieTag
  dataSaver := b.dataSaver.audited .dataSaver
  ingressDiscard := b.ingressDiscard.audited .ingressDiscard
  barrier := b.barrier.audited .barrier
  indexOf name := (b.indexOf name).audited .indexOf
  nameOf index := (b.nameOf index).audited .nameOf
  poisoned := b.poisoned

/-- **Every call leaves its entry**, and does on the world what it does without an audit. -/
theorem Backing.Call.run_audited {W α : Type} (b : Backing W) (c : Call α) :
    c.run b.audited = (c.run b).audited c.issued := by
  cases c with
  | get map => cases map <;> rfl
  | put map => cases map <;> rfl
  | delete map => cases map <;> rfl
  | keys map => cases map <;> rfl
  | barrier | indexOf | nameOf => rfl

/-! ## Programs and their calls -/

/-- A fault other than that something is not supported. -/
def Fault.Supported (e : Fault) : Prop := ∀ what, e ≠ .unsupported what

/-- The operation does to the world what a scope allows, and does not fail as unsupported. The two
go together along a program: what comes after a call runs only where the call has gone through or
its fault was handled. -/
structure Act.Tame {W α : Type} (S : Scope W) (x : Op W α) : Prop where
  failsWith : x.FailsWith Fault.Supported
  within : x.Within S

namespace Act.Tame

variable {W α β : Type} {S : Scope W}

theorem of_still {x : Op W α} (hfails : x.FailsWith Fault.Supported) (hstill : x.Still) :
    x.Tame S :=
  ⟨hfails, hstill.within S⟩

theorem pure (a : α) : (Pure.pure a : Op W α).Tame S :=
  .of_still ((Answering.pure a).failsWith _) (.pure a)

theorem emit (e : Log.Event) : (Act.emit e : Op W Unit).Tame S :=
  .of_still ((Answering.emit e).failsWith _) (.emit e)

theorem read (f : W → α) : (Act.read f : Op W α).Tame S :=
  .of_still ((Answering.read f).failsWith _) (.read f)

theorem fail {e : Fault} (he : e.Supported) : (Act.fail e : Op W α).Tame S :=
  .of_still (.fail he) (.fail e)

theorem bind_answer {x : Op W α} {f : α → Op W β} (hx : x.Tame S)
    (hf : ∀ a, (∃ w, (x.run w).result = .ok a) → (f a).Tame S) : (x >>= f).Tame S where
  failsWith := hx.failsWith.bind_answer fun a ha => (hf a ha).failsWith
  within := hx.within.bind_answer fun a ha => (hf a ha).within

theorem bind {x : Op W α} {f : α → Op W β} (hx : x.Tame S) (hf : ∀ a, (f a).Tame S) :
    (x >>= f).Tame S :=
  hx.bind_answer fun a _ => hf a

end Act.Tame

/-- The calls on a backing that an access permits are tame. This is all that is asked of a backing,
so the maps of a kernel and those in memory are treated alike. -/
def Backing.Grants {W : Type} (b : Backing W) (access : Access) (S : Scope W) : Prop :=
  ∀ {α : Type} (c : Call α), access.permits c.issued = true → (c.run b).Tame S

/-- An entry of a program that keeps to an access: the call is permitted, and if it has failed this
is not because it is unsupported. -/
structure TrailEntry.Conforms (entry : TrailEntry) (access : Access) : Prop where
  permitted : access.permits entry.call = true
  supported : ∀ e, entry.fault = some e → e.Supported

/-- The first program is the second one, audited, and the second one is tame and keeps to an
access. -/
structure KeepsTo {W α : Type} (access : Access) (S : Scope W) (x : Op (Audited W) α)
    (y : Op W α) : Prop extends y.Tame S where
  /-- The audit changes nothing and finds nothing. -/
  audit : ∀ w past, ∃ trail, x.run ⟨w, past⟩
      = ⟨(y.run w).result, ⟨(y.run w).world, past ++ trail⟩, (y.run w).events⟩ ∧
    ∀ entry ∈ trail, entry.Conforms access

namespace KeepsTo

variable {W α β : Type} {access : Access} {S : Scope W}

/-- What issues no call. -/
theorem of_silent {x : Op (Audited W) α} {y : Op W α} (hy : y.Tame S)
    (hsame : ∀ w past, x.run ⟨w, past⟩
      = ⟨(y.run w).result, ⟨(y.run w).world, past⟩, (y.run w).events⟩) :
    KeepsTo access S x y where
  toTame := hy
  audit w past := by
    refine ⟨[], ?_, fun entry hentry => absurd hentry List.not_mem_nil⟩
    rw [hsame, List.append_nil]

theorem pure (a : α) : KeepsTo access S (Pure.pure a) (Pure.pure a) :=
  .of_silent (.pure a) fun _ _ => rfl

theorem emit (e : Log.Event) : KeepsTo access S (Act.emit e) (Act.emit e) :=
  .of_silent (.emit e) fun _ _ => rfl

theorem fail {e : Fault} (he : e.Supported) : KeepsTo access S (Act.fail e : Op _ α) (Act.fail e) :=
  .of_silent (.fail he) fun _ _ => rfl

theorem ofExcept {r : Except Fault α} (hr : ∀ e, r = .error e → e.Supported) :
    KeepsTo access S (Act.ofExcept r) (Act.ofExcept r) := by
  cases r with
  | ok a => exact .pure a
  | error e => exact .fail (hr e rfl)

theorem bind_answer {x : Op (Audited W) α} {y : Op W α} {f : α → Op (Audited W) β}
    {g : α → Op W β} (hx : KeepsTo access S x y)
    (hf : ∀ a, (∃ w, (y.run w).result = .ok a) → KeepsTo access S (f a) (g a)) :
    KeepsTo access S (x >>= f) (y >>= g) where
  toTame := hx.toTame.bind_answer fun a ha => (hf a ha).toTame
  audit w past := by
    obtain ⟨trail, hrun, hconforms⟩ := hx.audit w past
    cases hy : (y.run w).result with
    | error e =>
      -- nothing follows, neither here nor there
      rw [hy] at hrun
      refine ⟨trail, ?_, hconforms⟩
      rw [Act.run_bind_error hrun, Act.run_bind_of_error hy]
    | ok a =>
      rw [hy] at hrun
      obtain ⟨trail', hrun', hconforms'⟩ := (hf a ⟨w, hy⟩).audit (y.run w).world (past ++ trail)
      refine ⟨trail ++ trail', ?_, fun entry hentry => ?_⟩
      · rw [Act.run_bind_ok hrun, Act.run_bind_of_ok hy, hrun', List.append_assoc]
      · exact (List.mem_append.1 hentry).elim (hconforms entry) (hconforms' entry)

theorem bind {x : Op (Audited W) α} {y : Op W α} {f : α → Op (Audited W) β} {g : α → Op W β}
    (hx : KeepsTo access S x y) (hf : ∀ a, KeepsTo access S (f a) (g a)) :
    KeepsTo access S (x >>= f) (y >>= g) := hx.bind_answer fun a _ => hf a

theorem attempt {x : Op (Audited W) α} {y : Op W α} (hx : KeepsTo access S x y) :
    KeepsTo access S (x.attempt : Op _ (Except Fault α)) y.attempt where
  failsWith := (Act.Answering.attempt y).failsWith _
  within := hx.within.attempt
  audit w past := by
    obtain ⟨trail, hrun, hconforms⟩ := hx.audit w past
    refine ⟨trail, ?_, hconforms⟩
    rw [Act.run_attempt, Act.run_attempt, hrun]

/-- What is done about a failure matters for supported faults only. -/
theorem catching {x : Op (Audited W) α} {y : Op W α} {f : Except Fault α → Op (Audited W) β}
    {g : Except Fault α → Op W β} (hx : KeepsTo access S x y)
    (hok : ∀ a, KeepsTo access S (f (.ok a)) (g (.ok a)))
    (herror : ∀ e, e.Supported → KeepsTo access S (f (.error e)) (g (.error e))) :
    KeepsTo access S (x.attempt >>= f) (y.attempt >>= g) := by
  refine hx.attempt.bind_answer fun answer hanswer => ?_
  cases answer with
  | ok a => exact hok a
  | error e =>
    -- it is an answer only if the program itself fails with it somewhere
    obtain ⟨w, hw⟩ := hanswer
    exact herror e (hx.failsWith w e (Except.ok.inj hw))

/-- A batch keeps to what each of its turns keeps to. -/
theorem batch {step : Uid → Op (Audited W) Unit} {step' : Uid → Op W Unit}
    (report : Uid → Fault → Log.Event) (hstep : ∀ uid, KeepsTo access S (step uid) (step' uid))
    (l : List Uid) (o : BatchOutcome) :
    KeepsTo access S (Batch.run step report l o) (Batch.run step' report l o) := by
  induction l generalizing o with
  | nil => exact .pure o
  | cons uid rest ih =>
    refine (hstep uid).catching (fun _ => ih _) fun e _ => ?_
    exact (emit (report uid e)).bind fun _ => ih _

section Backing

variable {b : Backing W} (hb : b.Grants access S)

include hb

/-- A permitted call. -/
theorem call (c : Backing.Call α) (hc : access.permits c.issued = true) :
    KeepsTo access S (c.run b.audited) (c.run b) where
  toTame := hb c hc
  audit w past := by
    refine ⟨[⟨c.issued, ((c.run b).run w).fault?⟩], by rw [c.run_audited]; rfl, ?_⟩
    -- the only entry is the call itself, and it may only fail as permitted calls fail
    intro entry hentry
    obtain rfl := List.mem_singleton.1 hentry
    refine ⟨hc, fun e he => (hb c hc).failsWith w e ?_⟩
    rw [Outcome.fault?] at he
    cases hresult : ((c.run b).run w).result with
    | ok a =>
      rw [hresult] at he
      cases he
    | error e' =>
      rw [hresult] at he
      exact congrArg _ (Option.some.inj he)

theorem get (hread : access.canRead = true) (map : MapName) (key : map.Key) :
    KeepsTo access S ((b.audited.table map).get key) ((b.table map).get key) :=
  call hb (.get map key) hread

theorem put (hwrite : access.canWrite = true) (map : MapName) (key : map.Key)
    (value : map.Value) :
    KeepsTo access S ((b.audited.table map).put key value) ((b.table map).put key value) :=
  call hb (.put map key value) hwrite

/-- A key is removed from hash maps only. -/
theorem delete (hwrite : access.canWrite = true) (map : MapName) (key : map.Key)
    (hmap : map.shape.kind ≠ .array) :
    KeepsTo access S ((b.audited.table map).delete key) ((b.table map).delete key) :=
  call hb (.delete map key) (Access.permits_delete hwrite hmap)

omit hb in
/-- A poisoned lock is a supported fault, so the program may fail there as it likes. -/
theorem acquire (lock : Lock) : KeepsTo access S (b.audited.acquire lock) (b.acquire lock) := by
  show KeepsTo access S (if b.poisoned lock then _ else _) (if b.poisoned lock then _ else _)
  split
  · exact .fail nofun
  · exact .pure ()

/-- Walking over the live entries of a map only reads. -/
theorem entries (hread : access.canRead = true) (map : MapName) :
    KeepsTo access S (b.audited.table map).entries (b.table map).entries := by
  refine (call hb (.keys map) hread).bind fun ks => ?_
  -- by induction on the keys of the walk, whichever they are
  induction ks with
  | nil => exact .pure []
  | cons k ks ih => exact (get hb hread map k).bind fun _ => ih.bind fun _ => .pure _

/-- A hash map is cleared key by key. -/
theorem clear (hread : access.canRead = true) (hwrite : access.canWrite = true) (map : MapName)
    (hmap : map.shape.kind ≠ .array) :
    KeepsTo access S (b.audited.table map).clear (b.table map).clear := by
  refine (call hb (.keys map) hread).bind fun ks => ?_
  induction ks with
  | nil => exact .pure ()
  | cons k ks ih => exact (delete hb hwrite map k hmap).bind fun _ => ih

end Backing

end KeepsTo

end UidPolicy
