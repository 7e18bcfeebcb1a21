import UidPolicy.Proofs.Command.Handles
import UidPolicy.Proofs.Pinned.Contents
import UidPolicy.Proofs.Pinned.Opening
import UidPolicy.Proofs.Table

/-!
# What an access leaves of a map

The access that a map is opened with confines every call through its handle, whatever the calls
are and in whatever order they come.

- `Act.Refused`: an operation that is not supported, on whatever machine.
- `Table.ReadsOnly`, `Table.WritesOnly`: what an access leaves of a table, compared with the table
  of a handle that permits everything (`Handle.fully`).
- `Table.answers_quiet`, `answers_writes`, `answers_alike`: what one call does, many do in a row.
- `Handle.readsOnly_hashTable` and so on: one access on one kind of map.
- `opened_confined`: handles on hash maps and on arrays, as they are opened.
-/

namespace UidPolicy

/-- The operation is not supported, and does nothing: it fails before it asks the kernel for
anything, so that no other process gets a turn either. -/
def Act.Refused {W α : Type} (x : Op W α) : Prop := ∃ what, x = Act.fail (.unsupported what)

namespace Act.Refused

variable {W α β : Type} {x : Op W α}

theorem still (hx : x.Refused) : x.Still := by
  obtain ⟨what, rfl⟩ := hx
  exact .fail _

theorem bind (hx : x.Refused) (f : α → Op W β) : (x >>= f).Refused := by
  obtain ⟨what, rfl⟩ := hx
  refine ⟨what, Act.ext fun w => ?_⟩
  rw [run_bind_error (run_fail _ w), run_fail]

theorem map (hx : x.Refused) (f : α → β) : (f <$> x).Refused := by
  rw [map_eq_pure_bind]
  exact hx.bind _

theorem respects (hx : x.Refused) {R : W → W → Prop} : x.Respects R := by
  obtain ⟨what, rfl⟩ := hx
  exact .fail _

end Act.Refused

/-! ## Tables with an access -/

namespace TableCall

variable {K V : Type}

def reads : TableCall K V → Bool
  | get _ | keys | entries => true
  | put .. | delete _ | clear => false

def writes : TableCall K V → Bool
  | put .. | delete _ => true
  | get _ | keys | entries | clear => false

/-- The outcomes for which what is stored may make a difference: whether there is room for a key,
and whether a key was there. -/
def Telling (name : String) : TableCall K V → Except Fault (TableReply K V) → Prop
  | put .., r => r = .ok .done ∨ r = .error (.resource s!"put {name}" Errno.tooBig)
  | delete _, r => ∃ there, r = .ok (.existed there)
  | get _, _ | keys, _ | entries, _ | clear, _ => False

/-- The same outcome, or two that may be exchanged for each other: whether a key was there, and
whether there was room, is told by what is stored, which a handle that only writes cannot read. -/
def Alike (name : String) (call : TableCall K V) (r r' : Except Fault (TableReply K V)) : Prop :=
  r = r' ∨ call.Telling name r ∧ call.Telling name r'

end TableCall

namespace Table

variable {K V : Type}

/-- A table that permits reads only, next to one on the same map that permits everything. The reads
are equal as operations, so nothing is assumed of the machine, of its walks or of other processes;
only what clearing does needs to be told apart, since it reads before it writes. -/
structure ReadsOnly (t full : Table Kernel K V) (empty : Kernel → Prop) : Prop where
  /-- Whatever is called, the machine is changed by other processes only. -/
  world : ∀ calls k, Kernel.meddling.allows k (t.answers calls k).2
  /-- Without them it is not changed at all, and each call is answered as if it were the only
  one. -/
  quiet : ∀ calls k, k.interference = [] →
    t.answers calls k = (calls.map fun call => ((call.run t).run k).result, k)
  read : ∀ call : TableCall K V, call.reads = true → call.run t = call.run full
  write : ∀ call : TableCall K V, call.writes = true → (call.run t).Refused
  /-- To clear is refused if there is a key, at the first one that is to be removed, -/
  clear_found : ∀ k key keys, (full.keys.run k).result = .ok (key :: keys) →
    ∃ what, (t.clear.run k).result = .error (.unsupported what)
  /-- succeeds if there is none, -/
  clear_empty : ∀ k, (full.keys.run k).result = .ok [] → (t.clear.run k).result = .ok ()
  /-- and fails as the search for keys does. -/
  clear_failed : ∀ k e, (full.keys.run k).result = .error e → (t.clear.run k).result = .error e
  /-- Without other processes the search does not fail, and it finds nothing in an empty map
  only. -/
  found : ∀ k, k.interference = [] →
    ∃ keys, (full.keys.run k).result = .ok keys ∧ (keys = [] ↔ empty k)

/-- A table that permits writes only, next to one on the same map that permits everything. Among
other calls the writes are those of a full table, and what is stored shows in no answer but those of
the writes that tell. -/
structure WritesOnly (t full : Table Kernel K V) (name : String) : Prop where
  write : ∀ call : TableCall K V, call.writes = true → call.run t = call.run full
  /-- Nothing else is supported, clearing neither. -/
  refused : ∀ call : TableCall K V, call.writes = false → (call.run t).Refused
  /-- Among other calls, the writes do and answer what they do and answer alone: a call that is
  refused comes to nothing. -/
  alone : ∀ calls k,
    (((calls.zip (t.answers calls k).1).filter (·.1.writes)).map (·.2), (t.answers calls k).2)
      = full.answers (calls.filter (·.writes)) k
  /-- What is stored makes no difference but for the outcomes that tell: a key that is there may be
  removed, and one that is not is answered as missing. -/
  blind : ∀ calls k k', Kernel.SameButStored k k' →
    List.Forall₂ (fun call r => call.Alike name r.1 r.2) calls
        ((t.answers calls k).1.zip (t.answers calls k').1) ∧
      Kernel.SameButStored (t.answers calls k).2 (t.answers calls k').2

/-- What an access leaves of a table. A full access leaves it as it is, and the others leave the
operations that they permit. -/
def Confined (t full : Table Kernel K V) (empty : Kernel → Prop) (name : String) :
    Access → Prop
  | .readOnly => t.ReadsOnly full empty
  | .writeOnly => t.WritesOnly full name
  | .readWrite => t = full

theorem entries_congr {t t' : Table Kernel K V} (hget : t.get = t'.get) (hkeys : t.keys = t'.keys) :
    t.entries = t'.entries := by
  have hread : t.readAll = t'.readAll := by
    funext ks
    induction ks with
    | nil => rfl
    | cons k ks ih => rw [readAll, readAll, hget, ih]
  rw [entries, entries, hkeys, hread]

section ReadsOnly

variable {t full : Table Kernel K V}

/-- Where calls leave the machine to other processes and there are none, each is answered as if it
were the only one. -/
theorem answers_quiet (hcall : ∀ call : TableCall K V, (call.run t).Within Kernel.meddling)
    (calls : List (TableCall K V)) {k : Kernel} (hquiet : k.interference = []) :
    t.answers calls k = (calls.map fun call => ((call.run t).run k).result, k) := by
  induction calls with
  | nil => rfl
  | cons call calls ih =>
    -- with nobody around, what a call may do to the machine is nothing
    have hsame : ((call.run t).run k).world = k := Kernel.eq_of_meddling hquiet (hcall call k)
    rw [answers, hsame, ih]
    rfl

/-- A table reads only if its reads are those of the other, and its writes are refused. -/
theorem readsOnly_of_same (hput : ∀ k v, (t.put k v).Refused)
    (hdelete : ∀ k, (t.delete k).Refused) (hget : t.get = full.get) (hkeys : t.keys = full.keys)
    (hreads : ∀ k, (full.get k).Within Kernel.meddling) (hwalk : full.keys.Within Kernel.meddling)
    {empty : Kernel → Prop} (hfound : ∀ k, k.interference = [] →
      ∃ keys, (full.keys.run k).result = .ok keys ∧ (keys = [] ↔ empty k)) :
    t.ReadsOnly full empty := by
  have hcall : ∀ call : TableCall K V, (call.run t).Within Kernel.meddling :=
    TableCall.within_run (hget ▸ hreads) (fun k v => (hput k v).still.within _)
      (fun k => (hdelete k).still.within _) (hkeys ▸ hwalk)
  -- clearing is a search and then removals, so the first key that is found decides
  have hclear : t.clear = full.keys >>= t.deleteAll := by rw [clear, hkeys]
  refine ⟨within_answers hcall, fun calls _ => answers_quiet hcall calls,
    fun call hread => ?_, fun call hwrite => ?_, fun k key keys hfull => ?_,
    fun k hfull => ?_, fun k e hfull => ?_, hfound⟩
  -- the composed reads are made of the two that the tables share
  · cases call with
    | get key => rw [TableCall.run, TableCall.run, hget]
    | keys => rw [TableCall.run, TableCall.run, hkeys]
    | entries => rw [TableCall.run, TableCall.run, entries_congr hget hkeys]
    | put | delete | clear => exact absurd hread Bool.false_ne_true
  · cases call with
    | put key value => exact (hput key value).map _
    | delete key => exact (hdelete key).map _
    | get | keys | entries | clear => exact absurd hwrite Bool.false_ne_true
  · -- the first key cannot be removed
    obtain ⟨what, hrefused⟩ : (t.deleteAll (key :: keys)).Refused := (hdelete key).bind _
    rw [hclear, Act.run_bind_of_ok hfull, hrefused]
    exact ⟨what, rfl⟩
  · rw [hclear, Act.run_bind_of_ok hfull]
    rfl
  · rw [hclear, Act.run_bind_of_error hfull]

end ReadsOnly

end Table

/-! ## Several writes -/

namespace Table

variable {K V : Type} {t full : Table Kernel K V} {name : String}

/-- What is refused leaves the machine as it was to the calls that follow. -/
theorem answers_writes
    (hwrite : ∀ call : TableCall K V, call.writes = true → call.run t = call.run full)
    (hrefused : ∀ call : TableCall K V, call.writes = false → (call.run t).Refused)
    (calls : List (TableCall K V)) (k : Kernel) :
    (((calls.zip (t.answers calls k).1).filter (·.1.writes)).map (·.2), (t.answers calls k).2)
      = full.answers (calls.filter (·.writes)) k := by
  induction calls generalizing k with
  | nil => rfl
  | cons call calls ih =>
    rw [answers, List.zip_cons_cons, List.filter_cons, List.filter_cons]
    -- a write is made on both sides, a refused call on the left only
    cases hwrites : call.writes with
    | true =>
      have hrest := ih ((call.run t).run k).world
      rw [if_pos rfl, if_pos rfl, answers, List.map_cons, ← hwrite call hwrites, ← hrest]
    | false =>
      have hstill : ((call.run t).run k).world = k := (hrefused call hwrites).still k
      rw [if_neg Bool.false_ne_true, if_neg Bool.false_ne_true, hstill, ih]

/-- What each call does up to its telling outcomes, several do in a row, by induction on them: the
machines differ in what is stored only, before every call. -/
theorem answers_alike
    (hcall : ∀ call : TableCall K V,
      (call.run t).RespectsUpTo Kernel.SameButStored (call.Telling name))
    (calls : List (TableCall K V)) {k k' : Kernel} (hsame : Kernel.SameButStored k k') :
    List.Forall₂ (fun call r => call.Alike name r.1 r.2) calls
        ((t.answers calls k).1.zip (t.answers calls k').1) ∧
      Kernel.SameButStored (t.answers calls k).2 (t.answers calls k').2 := by
  induction calls generalizing k k' with
  | nil => exact ⟨.nil, hsame⟩
  | cons call calls ih =>
    -- the outcomes of this call may differ, but the machines still differ in what is stored only
    obtain ⟨hreply, hworld⟩ := hcall call k k' hsame
    obtain ⟨hreplies, hlast⟩ := ih hworld
    exact ⟨.cons hreply hreplies, hlast⟩

/-- A table writes only if its writes are those of the other, and the rest is refused. -/
theorem writesOnly_of_same (hput : t.put = full.put) (hdelete : t.delete = full.delete)
    (hget : ∀ k, (t.get k).Refused) (hkeys : t.keys.Refused)
    (hputs : ∀ k v, (t.put k v).RespectsUpTo Kernel.SameButStored fun r =>
      r = .ok () ∨ r = .error (.resource s!"put {name}" Errno.tooBig))
    (hdeletes : ∀ k, (t.delete k).RespectsUpTo Kernel.SameButStored fun r =>
      r = .ok true ∨ r = .ok false) :
    t.WritesOnly full name := by
  have hwrite : ∀ call : TableCall K V, call.writes = true → call.run t = call.run full := by
    intro call hwrites
    cases call with
    | put key value => rw [TableCall.run, TableCall.run, hput]
    | delete key => rw [TableCall.run, TableCall.run, hdelete]
    | get | keys | entries | clear => exact absurd hwrites Bool.false_ne_true
  have hrefused : ∀ call : TableCall K V, call.writes = false → (call.run t).Refused := by
    intro call hreads
    cases call with
    | get key => exact (hget key).map _
    | keys => exact hkeys.map _
    | entries => exact (hkeys.bind _).map _
    | clear => exact (hkeys.bind _).map _
    | put | delete => exact absurd hreads.symm Bool.false_ne_true
  -- what is refused depends on nothing, and the two writes tell as much as their calls do
  have hcall : ∀ call : TableCall K V,
      (call.run t).RespectsUpTo Kernel.SameButStored (call.Telling name) := by
    intro call
    cases call with
    | put key value =>
      refine (hputs key value).map ?_
      rintro r (rfl | rfl)
      · exact .inl rfl
      · exact .inr rfl
    | delete key =>
      refine (hdeletes key).map ?_
      rintro r (rfl | rfl)
      · exact ⟨true, rfl⟩
      · exact ⟨false, rfl⟩
    | get | keys | entries | clear => exact .of_respects (hrefused _ rfl).respects
  exact ⟨hwrite, hrefused, answers_writes hwrite hrefused,
    fun calls _ _ hsame => answers_alike hcall calls hsame⟩

end Table

/-! ## The operations of a handle -/

namespace Handle

/-- The same map, opened for everything. It need not have been opened so: the handle is what the
operations of a confined one are compared to. -/
def fully (h : Handle) : Handle := { h with access := .readWrite }

variable {h : Handle}

theorem checkRead_fully (hread : h.access.canRead = true) (operation : String) :
    h.checkRead operation = h.fully.checkRead operation :=
  (checkRead_eq hread operation).trans (checkRead_eq rfl operation).symm

theorem checkWrite_fully (hwrite : h.access.canWrite = true) (operation : String) :
    h.checkWrite operation = h.fully.checkWrite operation :=
  (checkWrite_eq hwrite operation).trans (checkWrite_eq rfl operation).symm

theorem refused_checkRead (hread : h.access.canRead = false) (operation : String) :
    (h.checkRead operation).Refused := by
  refine ⟨s!"{operation} on write-only map {h.name}", ?_⟩
  rw [checkRead, Access.checkRead, hread]
  rfl

theorem refused_checkWrite (hwrite : h.access.canWrite = false) (operation : String) :
    (h.checkWrite operation).Refused := by
  refine ⟨s!"{operation} on read-only map {h.name}", ?_⟩
  rw [checkWrite, Access.checkWrite, hwrite]
  rfl

/-! ## Hash maps -/

section Hash

variable {K V : Type} [Stored K] [Stored V]

theorem readsOnly_hashTable (haccess : h.access = .readOnly) :
    (h.hashTable K V).ReadsOnly (h.fully.hashTable K V)
      fun k => (k.maps h.map).content = ∅ := by
  have hread : h.access.canRead = true := by rw [haccess]; rfl
  have hwrite : h.access.canWrite = false := by rw [haccess]; rfl
  refine Table.readsOnly_of_same (fun k v => (refused_checkWrite hwrite "put").bind _)
    (fun k => (refused_checkWrite hwrite "delete").bind _) ?_ ?_
    (fun k => (tame_hashGet rfl k).within) (tame_hashKeys rfl).within fun k hquiet => ?_
  · funext key
    show h.hashGet key = h.fully.hashGet key
    rw [hashGet, checkRead_fully hread]
    rfl
  · show h.hashKeys = h.fully.hashKeys
    rw [hashKeys, checkRead_fully hread]
    rfl
  -- the walk lists every key once, so it is empty exactly if the map is
  · obtain ⟨log, hrun⟩ := run_hashKeys (h := h.fully) (K := K) rfl hquiet
    refine ⟨_, congrArg Outcome.result hrun, ?_⟩
    rw [List.map_eq_nil_iff, ← List.length_eq_zero_iff, KMap.length_walked, List.length_eq_zero_iff]
    exact SortedMap.keys_eq_nil_iff

theorem writesOnly_hashTable (haccess : h.access = .writeOnly) :
    (h.hashTable K V).WritesOnly (h.fully.hashTable K V) h.name := by
  have hread : h.access.canRead = false := by rw [haccess]; rfl
  have hwrite : h.access.canWrite = true := by rw [haccess]; rfl
  refine Table.writesOnly_of_same ?_ ?_ (fun k => (refused_checkRead hread "get").bind _)
    ((refused_checkRead hread "keys").bind _) (fun k v => ?_) fun k => ?_
  · funext key value
    show h.hashPut key value = h.fully.hashPut key value
    rw [hashPut, checkWrite_fully hwrite]
    rfl
  · funext key
    show h.hashDelete key = h.fully.hashDelete key
    rw [hashDelete, checkWrite_fully hwrite]
    rfl
  · show (h.hashPut k v).RespectsUpTo _ _
    rw [hashPut, checkWrite_eq hwrite, pure_bind]
    exact respects_calling (Kernel.respects_update _ _ _)
  · show (h.hashDelete k).RespectsUpTo _ _
    rw [hashDelete, checkWrite_eq hwrite, pure_bind]
    exact respects_orAbsent (Kernel.respects_delete _ _)

theorem confined_hashTable (h : Handle) : (h.hashTable K V).Confined (h.fully.hashTable K V)
    (fun k => (k.maps h.map).content = ∅) h.name h.access := by
  cases haccess : h.access with
  | readOnly => exact readsOnly_hashTable haccess
  | writeOnly => exact writesOnly_hashTable haccess
  | readWrite =>
    show h.hashTable K V = h.fully.hashTable K V
    rw [fully, ← haccess]

end Hash

/-! ## Arrays -/

section Array

variable {V : Type} [Stored V]

theorem refused_arrayDelete (index : UInt32) : (h.arrayDelete index).Refused := ⟨_, rfl⟩

theorem readsOnly_arrayTable (haccess : h.access = .readOnly) :
    (h.arrayTable V).ReadsOnly (h.fully.arrayTable V) fun _ => h.capacity = 0 := by
  have hread : h.access.canRead = true := by rw [haccess]; rfl
  have hwrite : h.access.canWrite = false := by rw [haccess]; rfl
  refine Table.readsOnly_of_same (fun k v => (refused_checkWrite hwrite "put").bind _)
    refused_arrayDelete ?_ ?_ (fun k => (tame_arrayGet rfl k).within) (tame_arrayKeys rfl).within
    fun k hquiet => ?_
  · funext index
    show h.arrayGet index = h.fully.arrayGet index
    rw [arrayGet, checkRead_fully hread]
    rfl
  · show h.arrayKeys = h.fully.arrayKeys
    rw [arrayKeys, checkRead_fully hread]
    rfl
  · obtain ⟨log, hrun⟩ := run_arrayKeys (h := h.fully) (k := k) rfl
    refine ⟨_, congrArg Outcome.result hrun, ?_⟩
    rw [List.map_eq_nil_iff, List.range_eq_nil]
    rfl

theorem writesOnly_arrayTable (haccess : h.access = .writeOnly) :
    (h.arrayTable V).WritesOnly (h.fully.arrayTable V) h.name := by
  have hread : h.access.canRead = false := by rw [haccess]; rfl
  have hwrite : h.access.canWrite = true := by rw [haccess]; rfl
  refine Table.writesOnly_of_same ?_ rfl (fun k => (refused_checkRead hread "get").bind _)
    ((refused_checkRead hread "keys").bind _) (fun k v => ?_) fun k => ?_
  · funext index value
    show h.arrayPut index value = h.fully.arrayPut index value
    rw [arrayPut, checkWrite_fully hwrite]
    rfl
  · show (h.arrayPut k v).RespectsUpTo _ _
    rw [arrayPut, checkWrite_eq hwrite, pure_bind]
    split
    · exact respects_calling (Kernel.respects_update _ _ _)
    · -- the handle refuses the index, without asking the machine
      exact .of_respects (.fail _)
  · exact .of_respects (refused_arrayDelete k).respects

theorem confined_arrayTable (h : Handle) : (h.arrayTable V).Confined (h.fully.arrayTable V)
    (fun _ => h.capacity = 0) h.name h.access := by
  cases haccess : h.access with
  | readOnly => exact readsOnly_arrayTable haccess
  | writeOnly => exact writesOnly_arrayTable haccess
  | readWrite =>
    show h.arrayTable V = h.fully.arrayTable V
    rw [fully, ← haccess]

end Array

end Handle

/-! ## Opened maps -/

/-- **The access that a map is opened with confines its handle**, and no slot of an array can be
removed whatever the access. -/
theorem opened_confined {K V : Type} [Stored K] [Stored V] (path : String) (access : Access)
    (sharing : Sharing) (start : Kernel) (h : Handle) :
    (((Pinned.openHash K V path access sharing).run start).result = .ok h →
        (h.hashTable K V).Confined (h.fully.hashTable K V)
          (fun k => (k.maps h.map).content = ∅) h.name access) ∧
      (((Pinned.openArray V path access sharing).run start).result = .ok h →
        (h.arrayTable V).Confined (h.fully.arrayTable V) (fun _ => h.capacity = 0) h.name access ∧
          ∀ index, ((h.arrayTable V).delete index).Refused) := by
  constructor
  · intro hopened
    obtain rfl : h.access = access :=
      Wish.access_of_opening ⟨Pinned.expectedHash K V, path, access, sharing⟩ hopened
    exact h.confined_hashTable
  · intro hopened
    obtain rfl : h.access = access :=
      Wish.access_of_opening ⟨Pinned.expectedArray V, path, access, sharing⟩ hopened
    exact ⟨h.confined_arrayTable, Handle.refused_arrayDelete⟩

/-- A machine where a rule is recorded, but the walk over the records is refused. Clearing walks
before it removes, so it fails with the fault of the walk here, not with the refusal. -/
def unwalkable : Kernel :=
  { Kernel.fresh.put MapName.uidOwner.place (Stored.encode (10001 : Uid))
      (Stored.encode (⟨0, 0, 1⟩ : OwnerEntry)) with
    interference := [⟨MapName.uidOwner.place, .next, none, .refuse Errno.inputOutput⟩] }

/-- The handle on its rule records, for reading only. -/
def ownersToRead : Handle :=
  ⟨MapName.uidOwner.place, MapName.uidOwner.pin, .readOnly, .handle 0, MapName.uidOwner.capacity⟩

/-- The handle on its configuration, for writing only. -/
def configurationToWrite : Handle :=
  ⟨MapName.configuration.place, MapName.configuration.pin, .writeOnly, .handle 0,
    MapName.configuration.capacity⟩

/-- Opening the rule records for reading only. -/
def openOwners : Pinned.Opening Handle :=
  Pinned.openHash Uid OwnerEntry (Path.join Config.default.pinRoot MapName.uidOwner.pin) .readOnly
    .lockless

/-- Opening the configuration for writing only. -/
def openConfiguration : Pinned.Opening Handle :=
  Pinned.openArray UInt32 (Path.join Config.default.pinRoot MapName.configuration.pin) .writeOnly
    .single

theorem unwalkable_confined :
    ((openOwners.run unwalkable).result = .ok ownersToRead ∧
        (ownersToRead.hashTable Uid OwnerEntry).ReadsOnly
          (ownersToRead.fully.hashTable Uid OwnerEntry)
          fun k => (k.maps MapName.uidOwner.place).content = ∅) ∧
      (openConfiguration.run unwalkable).result = .ok configurationToWrite ∧
        (configurationToWrite.arrayTable UInt32).WritesOnly
            (configurationToWrite.fully.arrayTable UInt32) MapName.configuration.pin ∧
          ∀ index, ((configurationToWrite.arrayTable UInt32).delete index).Refused := by
  have howners : (openOwners.run unwalkable).result = .ok ownersToRead := by decide +kernel
  have hconfiguration : (openConfiguration.run unwalkable).result = .ok configurationToWrite := by
    decide +kernel
  have hread := (opened_confined (K := Uid) (V := OwnerEntry) _ _ _ _ _).1 howners
  have hwrite := (opened_confined (K := UInt32) (V := UInt32) _ _ _ _ _).2 hconfiguration
  exact ⟨⟨howners, hread⟩, hconfiguration, hwrite⟩

/-- To clear the rule records fails with the error of the walk: neither is it refused as
unsupported, nor is the map empty. -/
theorem unwalkable_clear :
    let k := (openOwners.run unwalkable).world
    let cleared := ((ownersToRead.hashTable Uid OwnerEntry).clear.run k).result
    (openOwners.run unwalkable).result = .ok ownersToRead ∧
      cleared = .error (.resource s!"iterate {MapName.uidOwner.pin}" Errno.inputOutput) ∧
      ¬((∃ what, cleared = .error (.unsupported what)) ∨
        (k.maps MapName.uidOwner.place).content = ∅ ∧ cleared = .ok ()) := by
  intro k cleared
  have hopened : (openOwners.run unwalkable).result = .ok ownersToRead := by decide +kernel
  have hclear : cleared
      = .error (.resource s!"iterate {MapName.uidOwner.pin}" Errno.inputOutput) := by
    decide +kernel
  refine ⟨hopened, hclear, ?_⟩
  rw [hclear]
  rintro (⟨what, hwhat⟩ | ⟨-, hdone⟩)
  · cases hwhat
  · cases hdone

end UidPolicy
