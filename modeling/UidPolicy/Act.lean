import UidPolicy.Fault
import UidPolicy.Log.Event

/-!
# Actions

An operation runs in a *world*, the state of the maps it works on.  It answers a value or an
error, leaves a world behind in both cases, and reports events on the way.  One kernel map as its
users see it is a table of four operations, one kernel call per key.

* `Outcome` — what one run leaves behind: answer, world, events.
* `Act ε W α` — an operation on worlds of type `W`; `Op W α` fails with a `Fault`.
* `Act.attempt` — the answer of an operation as a value, so that a failure does not stop
  what follows.
* `Act.emit`, `Act.modify`, `Act.read` — report an event, change the world, read from it.
* `Table W K V` — the operations on a map with keys `K` and values `V`, in worlds `W`.
* `Table.entries` — the live entries along a walk over the keys.
* `Table.clear` — the removal of every key of a walk.

Nothing is undone when an operation fails: the world it leaves behind is the one it had
reached.  `Act` is a lawful monad (`instLawfulMonad`).

A walk over the keys is not a snapshot: it may repeat keys, and a key may have lost its value
by the time it is read.
-/

namespace UidPolicy

/-- What one run of an operation leaves behind.  There is a world whether or not there is an answer,
because nothing is undone when an operation fails. -/
structure Outcome (ε W α : Type) where
  result : Except ε α
  world : W
  /-- The events reported during the run, oldest first.  They are kept when the run fails, so that a
  failure does not hide what led to it. -/
  events : List Log.Event

/-- An operation on worlds of type `W`.  It is a function and nothing else, so that two operations
that behave alike are equal. -/
def Act (ε W α : Type) : Type := W → Outcome ε W α

/-- An operation that fails with a `Fault`. -/
abbrev Op (W α : Type) : Type := Act Fault W α

namespace Act

variable {ε ε' W α β : Type}

/-- Runs an operation in a world.  Lemmas about operations are stated through it, so that `Act` need
not be unfolded. -/
def run (x : Act ε W α) (w : W) : Outcome ε W α := x w

@[ext] theorem ext {x y : Act ε W α} (h : ∀ w, x.run w = y.run w) : x = y := funext h

/-- Answers a value and does nothing else. -/
protected def pure (a : α) : Act ε W α := fun w => ⟨.ok a, w, []⟩

/-- Runs one operation, then the next on its answer; a failure of the first ends the run, in the
world that it has reached by then. -/
protected def bind (x : Act ε W α) (f : α → Act ε W β) : Act ε W β := fun w =>
  match x w with
  | ⟨.ok a, w', log⟩ =>
    let next := f a w'
    ⟨next.result, next.world, log ++ next.events⟩
  | ⟨.error e, w', log⟩ => ⟨.error e, w', log⟩

instance : Monad (Act ε W) where
  pure := Act.pure
  bind := Act.bind

def fail (e : ε) : Act ε W α := fun w => ⟨.error e, w, []⟩

def emit (e : Log.Event) : Act ε W Unit := fun w => ⟨.ok (), w, [e]⟩

def read (f : W → α) : Act ε W α := fun w => ⟨.ok (f w), w, []⟩

def modify (f : W → W) : Act ε W Unit := fun w => ⟨.ok (), f w, []⟩

/-- The answer of an operation as a value: a failure becomes an answer.  What the operation has done
before it failed stays done. -/
def attempt (x : Act ε W α) : Act ε' W (Except ε α) := fun w =>
  let o := x w
  ⟨.ok o.result, o.world, o.events⟩

/-- The given answer, or failure. -/
def ofExcept : Except ε α → Act ε W α
  | .ok a => Act.pure a
  | .error e => fail e

/-- Renames the error of an operation, and leaves everything else of its run as it is. -/
def mapError (f : ε → ε') (x : Act ε W α) : Act ε' W α := fun w =>
  let o := x w
  ⟨o.result.mapError f, o.world, o.events⟩

/-! ## How the parts run -/

@[simp] theorem run_pure (a : α) (w : W) :
    (pure a : Act ε W α).run w = ⟨.ok a, w, []⟩ := rfl

@[simp] theorem run_fail (e : ε) (w : W) :
    (fail e : Act ε W α).run w = ⟨.error e, w, []⟩ := rfl

@[simp] theorem run_emit (e : Log.Event) (w : W) :
    (emit e : Act ε W Unit).run w = ⟨.ok (), w, [e]⟩ := rfl

@[simp] theorem run_read (f : W → α) (w : W) :
    (read f : Act ε W α).run w = ⟨.ok (f w), w, []⟩ := rfl

@[simp] theorem run_attempt (x : Act ε W α) (w : W) :
    (attempt x : Act ε' W _).run w = ⟨.ok (x.run w).result, (x.run w).world, (x.run w).events⟩ :=
  rfl

@[simp] theorem run_mapError (f : ε → ε') (x : Act ε W α) (w : W) :
    (mapError f x).run w = ⟨(x.run w).result.mapError f, (x.run w).world, (x.run w).events⟩ :=
  rfl

/-- A run of two operations in a row, when the first answers. -/
theorem run_bind_ok {x : Act ε W α} {f : α → Act ε W β} {w w' : W} {a : α}
    {log : List Log.Event} (h : x.run w = ⟨.ok a, w', log⟩) :
    (x >>= f).run w
      = ⟨((f a).run w').result, ((f a).run w').world, log ++ ((f a).run w').events⟩ := by
  show Act.bind x f w = _
  unfold Act.bind
  rw [show x w = _ from h]
  rfl

theorem run_bind_error {x : Act ε W α} {f : α → Act ε W β} {w w' : W} {e : ε}
    {log : List Log.Event} (h : x.run w = ⟨.error e, w', log⟩) :
    (x >>= f).run w = ⟨.error e, w', log⟩ := by
  show Act.bind x f w = _
  unfold Act.bind
  rw [show x w = _ from h]

theorem run_bind_of_ok {x : Act ε W α} {f : α → Act ε W β} {w : W} {a : α}
    (h : (x.run w).result = .ok a) :
    (x >>= f).run w
      = ⟨((f a).run (x.run w).world).result, ((f a).run (x.run w).world).world,
          (x.run w).events ++ ((f a).run (x.run w).world).events⟩ :=
  run_bind_ok (by rw [← h])

theorem run_bind_of_error {x : Act ε W α} {f : α → Act ε W β} {w : W} {e : ε}
    (h : (x.run w).result = .error e) :
    (x >>= f).run w = ⟨.error e, (x.run w).world, (x.run w).events⟩ :=
  run_bind_error (by rw [← h])

theorem run_attempt_bind {x : Act ε W α} {f : Except ε α → Act ε' W β} {w w' : W}
    {r : Except ε α} {log : List Log.Event} (h : x.run w = ⟨r, w', log⟩) :
    (attempt x >>= f).run w
      = ⟨((f r).run w').result, ((f r).run w').world, log ++ ((f r).run w').events⟩ :=
  run_bind_ok (by rw [run_attempt, h])

theorem run_bind (x : Act ε W α) (f : α → Act ε W β) (w : W) :
    (x >>= f).run w =
      match (x.run w).result with
      | .ok a =>
        ⟨((f a).run (x.run w).world).result, ((f a).run (x.run w).world).world,
          (x.run w).events ++ ((f a).run (x.run w).world).events⟩
      | .error e => ⟨.error e, (x.run w).world, (x.run w).events⟩ := by
  rcases h : x.run w with ⟨r, w', log⟩
  cases r with
  | ok a => simp [run_bind_ok h]
  | error e => simp [run_bind_error h]

instance instLawfulMonad : LawfulMonad (Act ε W) := LawfulMonad.mk' _
  (fun x => by
    ext w
    show (x >>= fun a => pure (id a)).run w = _
    rw [run_bind]
    rcases x.run w with ⟨r | a, w', log⟩ <;> simp)
  (fun a f => by
    ext w
    rw [run_bind_ok (run_pure a w)]
    rcases (f a).run w with ⟨r, w', log⟩
    simp)
  (fun x f g => by
    ext w
    rcases hx : x.run w with ⟨r | a, w', log⟩
    · rw [run_bind_error (run_bind_error hx), run_bind_error hx]
    · rw [run_bind_ok hx]
      rcases hf : (f a).run w' with ⟨r | b, w'', log'⟩
      · rw [run_bind_error (by rw [run_bind_ok hx, hf]), run_bind_error hf]
      · rw [run_bind_ok (by rw [run_bind_ok hx, hf]), run_bind_ok hf]
        simp)

end Act

/-! ## Tables -/

/-- The operations on one map.  Each of the four is one or more kernel calls on a single key, so
that other processes may come in between any two of them. -/
structure Table (W K V : Type) where
  get : K → Op W (Option V)
  put : K → V → Op W Unit
  /-- Removes a key; answers whether it was there. -/
  delete : K → Op W Bool
  /-- The keys of a walk over the map, in whatever order and possibly with repetitions. -/
  keys : Op W (List K)

namespace Table

variable {W K V : Type}

/-- The entries of some keys, in their order.  Keys without a value are left out, as they may have
been removed since they were listed. -/
def readAll (t : Table W K V) : List K → Op W (List (K × V))
  | [] => pure []
  | k :: ks => do
    let value ← t.get k
    -- the key stays out if it has no value any more
    let rest ← t.readAll ks
    pure (match value with
      | some v => (k, v) :: rest
      | none => rest)

/-- The live entries along a walk: first all keys are listed, then the value of each is read.  In
between others may have their turn, so a listed key may be found without a value. -/
def entries (t : Table W K V) : Op W (List (K × V)) := do
  let ks ← t.keys
  t.readAll ks

/-- Removes some keys in their order; stops at the first failure.  A key that is gone already is no
failure. -/
def deleteAll (t : Table W K V) : List K → Op W Unit
  | [] => pure ()
  | k :: ks => do
    let _ ← t.delete k
    t.deleteAll ks

def clear (t : Table W K V) : Op W Unit := do
  let ks ← t.keys
  t.deleteAll ks

end Table

end UidPolicy
