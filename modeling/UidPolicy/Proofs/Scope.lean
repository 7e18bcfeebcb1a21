import UidPolicy.Proofs.Recorded

/-!
# What operations may do to the world

Two questions can be asked of an operation before the question what exactly it does: which
changes it may make at all, and whether it can fail after it has made one. Both are answered for
a program from the answers for its parts.

- `Scope`: the changes that are allowed. Doing nothing is always among them, and so is one
  allowed change after another. `Scope.keeping` allows what leaves one view of the world alone,
  `Scope.preserving` what preserves an invariant, and `Scope.anything` all there is.
- `Act.Within`: all that an operation does is allowed, whether it answers or fails.
- `Act.Atomic`: where the operation fails, it has changed nothing.
- `Act.Answering`: the operation never fails.
- `Act.FailsWith`: all failures of the operation are of a kind.
- `Backing.Orderly`: reads and lookups change nothing, and neither do writes that fail. Locks
  and barrier are not restricted.
-/

namespace UidPolicy

section Answers

variable {ε ε' α β : Type}

theorem ok_of_mapError {r : Except ε α} {f : ε → ε'} {a : α} (h : r.mapError f = .ok a) :
    r = .ok a := by
  cases r with
  | ok a' => exact congrArg _ (Except.ok.inj h)
  | error e => cases h

theorem error_of_mapError {r : Except ε α} {f : ε → ε'} {e' : ε'}
    (h : r.mapError f = .error e') : ∃ e, r = .error e ∧ f e = e' := by
  cases r with
  | ok a => cases h
  | error e => exact ⟨e, rfl, Except.error.inj h⟩

theorem error_of_bind {r : Except ε α} {f : α → Except ε β} {e : ε}
    (h : (r >>= f) = .error e) : r = .error e ∨ ∃ a, r = .ok a ∧ f a = .error e := by
  cases r with
  | ok a => exact .inr ⟨a, rfl, h⟩
  | error e' => exact .inl (congrArg _ (Except.error.inj h))

end Answers

/-- Changes of the world that are allowed. It is a preorder, so a sequence of operations stays
within a scope if each of them does, however long it is. -/
structure Scope (W : Type) where
  /-- The world may change from the first to the second. -/
  allows : W → W → Prop
  /-- Doing nothing is allowed. -/
  refl : ∀ w, allows w w
  /-- So is one allowed change after another. -/
  trans : ∀ {w w' w''}, allows w w' → allows w' w'' → allows w w''

namespace Scope

variable {W β : Type}

/-- One view of the world stays as it is. What is to be left alone is told by a function of the
world, so it may be a map, a key of a map, or several places at once. -/
def keeping (f : W → β) : Scope W where
  allows w w' := f w' = f w
  refl _ := rfl
  trans h h' := h'.trans h

/-- An invariant is preserved. Where it does not hold to begin with, anything is allowed. -/
def preserving (I : W → Prop) : Scope W where
  allows w w' := I w → I w'
  refl _ := id
  trans h h' := fun hw => h' (h hw)

/-- Everything is allowed. -/
def anything : Scope W where
  allows _ _ := True
  refl _ := trivial
  trans _ _ := trivial

end Scope

namespace Act

variable {ε ε' W α β : Type}

/-- All that the operation does is allowed by the scope, whether it answers or fails. -/
def Within (S : Scope W) (x : Act ε W α) : Prop := ∀ w, S.allows w (x.run w).world

/-- Where the operation fails, it has changed nothing. A caller who sees the fault may try again. -/
def Atomic (x : Act ε W α) : Prop := ∀ w e, (x.run w).result = .error e → (x.run w).world = w

/-- The operation never fails. What goes wrong, if anything, is part of its answer or was
reported. -/
def Answering (x : Act ε W α) : Prop := ∀ w, ∃ a, (x.run w).result = .ok a

/-- Every failure of the operation has a property. -/
def FailsWith (P : ε → Prop) (x : Act ε W α) : Prop := ∀ w e, (x.run w).result = .error e → P e

/-- The two ways that one operation after another can go: the first one fails, or the second one
runs where it ends. -/
theorem run_bind_cases (x : Act ε W α) (f : α → Act ε W β) (w : W) :
    (∃ a, (x.run w).result = .ok a ∧
        ((x >>= f).run w).result = ((f a).run (x.run w).world).result ∧
        ((x >>= f).run w).world = ((f a).run (x.run w).world).world) ∨
      ∃ e, (x.run w).result = .error e ∧
        ((x >>= f).run w).result = .error e ∧ ((x >>= f).run w).world = (x.run w).world := by
  have hrun := run_bind x f w
  cases hx : (x.run w).result with
  | ok a =>
    rw [hx] at hrun
    exact .inl ⟨a, rfl, by rw [hrun], by rw [hrun]⟩
  | error e =>
    rw [hx] at hrun
    exact .inr ⟨e, rfl, by rw [hrun], by rw [hrun]⟩

/-- Where both answer, the first has answered and then the second. -/
theorem of_run_bind_ok {x : Act ε W α} {f : α → Act ε W β} {w : W} {b : β}
    (h : ((x >>= f).run w).result = .ok b) :
    ∃ a, (x.run w).result = .ok a ∧ ((f a).run (x.run w).world).result = .ok b := by
  obtain ⟨a, ha, hresult, -⟩ | ⟨e, -, he, -⟩ := run_bind_cases x f w
  · exact ⟨a, ha, hresult.symm.trans h⟩
  · rw [he] at h
    cases h

theorem of_run_mapError_ok {x : Act ε W α} {f : ε → ε'} {w : W} {a : α}
    (h : ((x.mapError f).run w).result = .ok a) : (x.run w).result = .ok a := ok_of_mapError h

theorem run_map (f : α → β) (x : Act ε W α) (w : W) :
    (f <$> x).run w = ⟨(x.run w).result.map f, (x.run w).world, (x.run w).events⟩ := by
  rw [map_eq_pure_bind, run_bind]
  cases (x.run w).result with
  | ok a =>
    show Outcome.mk (.ok (f a)) _ (_ ++ []) = _
    rw [List.append_nil]
    rfl
  | error e => rfl

/-- A report at the end changes neither the world nor whether there is an answer. -/
theorem run_bind_emit (x : Act ε W α) (report : α → Log.Event) (w : W) :
    ((x >>= fun a => emit (report a)).run w).result = (x.run w).result.map (fun _ => ()) ∧
      ((x >>= fun a => emit (report a)).run w).world = (x.run w).world := by
  rw [run_bind]
  cases (x.run w).result with
  | ok a => exact ⟨rfl, rfl⟩
  | error e => exact ⟨rfl, rfl⟩

/-! ## Operations that change nothing -/

namespace Still

theorem pure (a : α) : (Pure.pure a : Act ε W α).Still := fun _ => rfl

theorem fail (e : ε) : (Act.fail e : Act ε W α).Still := fun _ => rfl

theorem emit (e : Log.Event) : (Act.emit e : Act ε W Unit).Still := fun _ => rfl

theorem read (f : W → α) : (Act.read f : Act ε W α).Still := fun _ => rfl

theorem ofExcept (r : Except ε α) : (Act.ofExcept r : Act ε W α).Still := by
  cases r with
  | ok a => exact pure a
  | error e => exact fail e

theorem bind {x : Act ε W α} {f : α → Act ε W β} (hx : x.Still) (hf : ∀ a, (f a).Still) :
    (x >>= f).Still := by
  intro w
  obtain ⟨a, -, -, hw⟩ | ⟨e, -, -, hw⟩ := run_bind_cases x f w
  · rw [hw, hf, hx]
  · rw [hw, hx]

theorem map {x : Act ε W α} (hx : x.Still) (f : α → β) : (f <$> x).Still :=
  hx.bind fun a => pure (f a)

theorem attempt {x : Act ε W α} (hx : x.Still) : (x.attempt : Act ε' W _).Still := by
  intro w
  rw [run_attempt]
  exact hx w

theorem within {x : Act ε W α} (hx : x.Still) (S : Scope W) : x.Within S := by
  intro w
  rw [hx]
  exact S.refl w

theorem atomic {x : Act ε W α} (hx : x.Still) : x.Atomic := fun w _ _ => hx w

end Still

/-! ## Scopes -/

namespace Within

variable {S : Scope W}

/-- What follows matters for the answers only that the first operation can give. -/
theorem bind_answer {x : Act ε W α} {f : α → Act ε W β} (hx : x.Within S)
    (hf : ∀ a, (∃ w, (x.run w).result = .ok a) → (f a).Within S) : (x >>= f).Within S := by
  intro w
  obtain ⟨a, ha, -, hw⟩ | ⟨e, -, -, hw⟩ := run_bind_cases x f w
  · rw [hw]
    exact S.trans (hx w) (hf a ⟨w, ha⟩ _)
  · rw [hw]
    exact hx w

theorem bind {x : Act ε W α} {f : α → Act ε W β} (hx : x.Within S)
    (hf : ∀ a, (f a).Within S) : (x >>= f).Within S := hx.bind_answer fun a _ => hf a

theorem map {x : Act ε W α} (hx : x.Within S) (f : α → β) : (f <$> x).Within S :=
  hx.bind fun a => (Still.pure (f a)).within S

theorem attempt {x : Act ε W α} (hx : x.Within S) : (x.attempt : Act ε' W _).Within S := by
  intro w
  rw [run_attempt]
  exact hx w

theorem mapError {x : Act ε W α} (hx : x.Within S) (f : ε → ε') : (x.mapError f).Within S := by
  intro w
  rw [run_mapError]
  exact hx w

/-- A batch is within what each of its turns is within. -/
theorem batch {step : Uid → Op W Unit} {l : List Uid} (hstep : ∀ uid ∈ l, (step uid).Within S)
    (report : Uid → Fault → Log.Event) (o : BatchOutcome) :
    (Batch.run step report l o).Within S := by
  intro w
  obtain ⟨outcome, log, hrun, -, -⟩ := Batch.run_eq step report l o w
  rw [hrun]
  exact Batch.worldAfter_induction (P := S.allows w) (S.refl w)
    fun uid huid w' hw' => S.trans hw' (hstep uid huid w')

end Within

/-! ## Failing without a trace -/

theorem Answering.pure (a : α) : (Pure.pure a : Act ε W α).Answering := fun _ => ⟨a, rfl⟩

theorem Answering.read (f : W → α) : (Act.read f : Act ε W α).Answering := fun w => ⟨f w, rfl⟩

theorem Answering.emit (e : Log.Event) : (Act.emit e : Act ε W Unit).Answering :=
  fun _ => ⟨(), rfl⟩

theorem Answering.attempt (x : Act ε W α) : (x.attempt : Act ε' W _).Answering :=
  fun w => ⟨(x.run w).result, rfl⟩

theorem Answering.bind {x : Act ε W α} {f : α → Act ε W β} (hx : x.Answering)
    (hf : ∀ a, (f a).Answering) : (x >>= f).Answering := by
  intro w
  obtain ⟨b, hb⟩ := hx w
  obtain ⟨a, -, hresult, -⟩ | ⟨e, he, -, -⟩ := run_bind_cases x f w
  · rw [hresult]
    exact hf a _
  · rw [hb] at he
    cases he

/-- A batch never fails: failures are part of its answer, one for each turn that fails. -/
theorem Answering.batch (step : Uid → Op W Unit) (report : Uid → Fault → Log.Event)
    (l : List Uid) (o : BatchOutcome) : (Batch.run step report l o).Answering := by
  intro w
  obtain ⟨outcome, log, hrun, -, -⟩ := Batch.run_eq step report l o w
  exact ⟨outcome, by rw [hrun]⟩

theorem Answering.atomic {x : Act ε W α} (hx : x.Answering) : x.Atomic := by
  intro w e he
  obtain ⟨a, ha⟩ := hx w
  rw [ha] at he
  cases he

namespace Atomic

/-- Before the change nothing is changed. -/
theorem after_still {x : Act ε W α} {f : α → Act ε W β} (hx : x.Still)
    (hf : ∀ a, (f a).Atomic) : (x >>= f).Atomic := by
  intro w e he
  obtain ⟨a, -, hresult, hw⟩ | ⟨e', -, -, hw⟩ := run_bind_cases x f w
  · rw [hresult] at he
    rw [hw, hf a _ e he, hx]
  · rw [hw, hx]

/-- After the change nothing fails. -/
theorem bind {x : Act ε W α} {f : α → Act ε W β} (hx : x.Atomic)
    (hf : ∀ a, (f a).Answering) : (x >>= f).Atomic := by
  intro w e he
  obtain ⟨a, -, hresult, -⟩ | ⟨e', he', -, hw⟩ := run_bind_cases x f w
  · obtain ⟨b, hb⟩ := hf a (x.run w).world
    rw [hresult, hb] at he
    cases he
  · rw [hw]
    exact hx w e' he'

theorem map {x : Act ε W α} (hx : x.Atomic) (f : α → β) : (f <$> x).Atomic :=
  hx.bind fun a => .pure (f a)

theorem zoom {V : Type} {x : Act ε V α} (hx : x.Atomic) (p : Part W V) : (x.zoom p).Atomic := by
  intro w e he
  rw [run_zoom] at he ⊢
  rw [hx (p.get w) e he, p.set_get]

end Atomic

end Act

/-! ## Kinds of failures -/

namespace Act

variable {ε ε' W α β : Type}

theorem Answering.failsWith {x : Act ε W α} (hx : x.Answering) (P : ε → Prop) :
    x.FailsWith P := by
  intro w e he
  obtain ⟨a, ha⟩ := hx w
  rw [ha] at he
  cases he

namespace FailsWith

variable {P : ε → Prop}

theorem fail {e : ε} (he : P e) : (Act.fail e : Act ε W α).FailsWith P := by
  intro w e' he'
  exact Except.error.inj he' ▸ he

theorem ofExcept {r : Except ε α} (hr : ∀ e, r = .error e → P e) :
    (Act.ofExcept r : Act ε W α).FailsWith P := by
  cases r with
  | ok a => exact (Answering.pure a).failsWith P
  | error e => exact fail (hr e rfl)

theorem bind_answer {x : Act ε W α} {f : α → Act ε W β} (hx : x.FailsWith P)
    (hf : ∀ a, (∃ w, (x.run w).result = .ok a) → (f a).FailsWith P) : (x >>= f).FailsWith P := by
  intro w e he
  obtain ⟨a, ha, hresult, -⟩ | ⟨e', he', hresult, -⟩ := run_bind_cases x f w
  · exact hf a ⟨w, ha⟩ _ e (hresult.symm.trans he)
  · exact Except.error.inj (hresult.symm.trans he) ▸ hx w e' he'

theorem bind {x : Act ε W α} {f : α → Act ε W β} (hx : x.FailsWith P)
    (hf : ∀ a, (f a).FailsWith P) : (x >>= f).FailsWith P := hx.bind_answer fun a _ => hf a

theorem mapError {Q : ε' → Prop} {x : Act ε W α} {f : ε → ε'} (hx : x.FailsWith P)
    (hf : ∀ e, P e → Q (f e)) : (x.mapError f).FailsWith Q := by
  intro w e' he'
  obtain ⟨e, he, rfl⟩ := error_of_mapError he'
  exact hf e (hx w e he)

end FailsWith

end Act

/-! ## Orderly maps -/

/-- Reads change nothing, and neither do writes that fail. How often any of them fails, and what a
write leaves behind, is left open. -/
structure Table.Orderly {W K V : Type} (t : Table W K V) : Prop where
  get : ∀ k, (t.get k).Still
  keys : t.keys.Still
  put : ∀ k v, (t.put k v).Atomic
  delete : ∀ k, (t.delete k).Atomic

namespace Table

variable {W T K V : Type} {S : Scope W}

theorem Orderly.zoom {t : Table T K V} (ht : t.Orderly) (p : Part W T) :
    (t.zoom p).Orderly where
  get k := (ht.get k).zoom p
  keys := ht.keys.zoom p
  put k v := (ht.put k v).zoom p
  delete k := (ht.delete k).zoom p

theorem Orderly.still_readAll {t : Table W K V} (ht : t.Orderly) (ks : List K) :
    (t.readAll ks).Still := by
  induction ks with
  | nil => exact .pure []
  | cons k ks ih => exact (ht.get k).bind fun _ => ih.bind fun _ => .pure _

theorem Orderly.still_entries {t : Table W K V} (ht : t.Orderly) : t.entries.Still :=
  ht.keys.bind ht.still_readAll

theorem within_readAll {t : Table W K V} (hget : ∀ k, (t.get k).Within S) (ks : List K) :
    (t.readAll ks).Within S := by
  induction ks with
  | nil => exact (Act.Still.pure []).within S
  | cons k ks ih =>
    exact (hget k).bind fun _ => ih.bind fun _ => (Act.Still.pure _).within S

theorem within_deleteAll {t : Table W K V} (hdelete : ∀ k, (t.delete k).Within S)
    (ks : List K) : (t.deleteAll ks).Within S := by
  induction ks with
  | nil => exact (Act.Still.pure ()).within S
  | cons k ks ih => exact (hdelete k).bind fun _ => ih

theorem Orderly.within_clear {t : Table W K V} (ht : t.Orderly)
    (hdelete : ∀ k, (t.delete k).Within S) : t.clear.Within S :=
  (ht.keys.within S).bind (within_deleteAll hdelete)

end Table

theorem Store.orderly_table {K V : Type} [Ranked K] [DecidableEq K] :
    (Store.table : Table (Store K V) K V).Orderly where
  get := Store.still_get
  keys := Store.still_keys
  put k v := by
    -- a write looks for its refusal first, so one that fails has not touched the entries
    intro s e he
    show (Store.put k v s).world = s
    replace he : (Store.put k v s).result = .error e := he
    rw [Store.put] at he ⊢
    cases hfault : s.writeFault? k with
    | none =>
      rw [hfault] at he
      cases he
    | some e' => rfl
  delete k := by
    intro s e he
    show (Store.delete k s).world = s
    replace he : (Store.delete k s).result = .error e := he
    rw [Store.delete] at he ⊢
    cases hfault : s.writeFault? k with
    | none =>
      rw [hfault] at he
      cases he
    | some e' => rfl

/-- Every map is orderly, and looking up an interface changes nothing. All that is proved of batches
is proved from this, for the maps in memory and for opened ones alike. -/
structure Backing.Orderly {W : Type} (b : Backing W) : Prop where
  configuration : b.configuration.Orderly
  uidOwner : b.uidOwner.Orderly
  uidPermission : b.uidPermission.Orderly
  cookieTag : b.cookieTag.Orderly
  dataSaver : b.dataSaver.Orderly
  ingressDiscard : b.ingressDiscard.Orderly
  indexOf : ∀ name, (b.indexOf name).Still
  nameOf : ∀ index, (b.nameOf index).Still

theorem Backing.still_acquire {W : Type} (b : Backing W) (lock : Lock) :
    (b.acquire lock).Still := by
  rw [acquire]
  split
  · exact .fail _
  · exact .pure ()

/-- Behind a lock an operation is refused in every world, or it runs as it is. -/
theorem Backing.acquire_bind_cases {W α : Type} (b : Backing W) (lock : Lock)
    (f : Unit → Op W α) :
    (∃ e, ∀ w, (b.acquire lock >>= f).run w = ⟨.error e, w, []⟩) ∨
      (b.acquire lock >>= f) = f () := by
  cases hlock : b.poisoned lock with
  | true =>
    rw [acquire_of_poisoned hlock]
    exact .inl ⟨_, fun _ => rfl⟩
  | false =>
    rw [acquire_of_not_poisoned hlock]
    exact .inr (pure_bind () f)

end UidPolicy
