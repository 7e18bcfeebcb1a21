import UidPolicy.Proofs.Pinned.Opening

/-!
# Several openings in a row

The maps of a directory are opened one after the other, and a failure closes those that were
opened.

- `Pinned.openThen`: openings in a row, for any list of wishes.
- `PinnedMaps.wishes`: what is opened for the six maps of a directory. Each map is opened the way
  that is asked for, except that of the tagged sockets, which is never locked.
- `PinnedMaps.openAll_eq`: opening the six maps is `openThen` for these wishes.
- `openThen_denied`, `unaffected_openThen`: a failure leaves the locks as they were and comes
  from one of the wishes, and without locks nothing is affected by those of others.
- `access_of_openFor`: the handles of a command have the access that its class asks for.
-/

namespace UidPolicy

namespace Pinned

/-- Opens several maps, and goes on with their handles; a failure closes those that were
opened. -/
def openThen {α : Type} : List Wish → (List Handle → Opening α) → Opening α
  | [], next => next []
  | w :: ws, next => do
    let h ← w.opening
    holding h (openThen ws fun hs => next (h :: hs))

end Pinned

/-- What a map has to be. It is checked after the lock is taken, so a map of the wrong sizes is
refused with the lock given up again. -/
def MapName.expected : MapName → Pinned.Expected
  | configuration => Pinned.expectedArray UInt32
  | uidOwner => Pinned.expectedHash Uid OwnerEntry
  | uidPermission => Pinned.expectedHash Uid UInt8
  | cookieTag => Pinned.expectedHash UInt64 TagEntry
  | dataSaver => Pinned.expectedArray UInt8
  | ingressDiscard => Pinned.expectedHash DiscardKey DiscardRule

namespace PinnedMaps

/-- How a map of a directory is opened: the map of the tagged sockets is never locked, because
another process writes it as well, which asks for no lock. -/
def wish (root : String) (access : Access) (sharing : Sharing) (name : MapName) : Wish where
  expected := name.expected
  path := Path.join root name.pin
  access := access
  sharing := if name = .cookieTag then .lockless else sharing

/-- What is opened for the six maps of a directory, in order. The order decides which lock is found
to be taken first, and so which map a refused command names. -/
def wishes (root : String) (access : Access) (sharing : Sharing) : List Wish :=
  MapName.all.map (wish root access sharing)

/-- The six maps with given handles. -/
def ofHandles : List Handle → PinnedMaps
  | [configuration, uidOwner, uidPermission, cookieTag, dataSaver, ingressDiscard] =>
    ⟨configuration, uidOwner, uidPermission, cookieTag, dataSaver, ingressDiscard⟩
  | _ => default

theorem handles_ofHandles {hs : List Handle} (h : hs.length = 6) : (ofHandles hs).handles = hs := by
  match hs, h with
  | [_, _, _, _, _, _], _ => rfl

/-- What comes after the openings: the access that was given is reported, and the handles become the
maps of the command. -/
def report (root : String) (access : Access) (sharing : Sharing) (hs : List Handle) :
    Pinned.Opening PinnedMaps := do
  Act.emit ⟨.info, .loader, "netd maps opened",
    [("pin_root", .text root), ("access", .text access.name), ("writer", .text sharing.name)]⟩
  pure (ofHandles hs)

end PinnedMaps

namespace PinnedMaps

theorem answering_report (root : String) (access : Access) (sharing : Sharing)
    (hs : List Handle) : (report root access sharing hs).Answering :=
  (Act.Answering.emit _).bind fun _ => .pure _

theorem still_report (root : String) (access : Access) (sharing : Sharing)
    (hs : List Handle) : (report root access sharing hs).Still :=
  (Act.Still.emit _).bind fun _ => .pure _

/-- **Opening the six maps is a row of openings.** What holds of one opening is carried along the
row by induction, so the six calls need not be gone through one by one. -/
theorem openAll_eq (root : String) (access : Access) (sharing : Sharing) :
    openAll root access sharing
      = Pinned.openThen (wishes root access sharing) (report root access sharing) := by
  -- the report never fails, so there is nothing to close for it
  have hlast : ∀ (h : Handle) (hs : List Handle),
      Pinned.holding h (report root access sharing hs) = report root access sharing hs :=
    fun h hs => (answering_report root access sharing hs).cleaningUp _
  simp only [wishes, MapName.all, List.map, Pinned.openThen, hlast]
  rfl

end PinnedMaps

/-! ## Failures -/

namespace Pinned

section Rows

variable {α : Type} {ws : List Wish} {next : List Handle → Opening α}

/-- **A row of openings that fails leaves no lock behind**, and it is one of the openings that
fails. -/
theorem openThen_denied (hnext : ∀ hs, (next hs).Answering) {k : Kernel} (hk : k.Numbered)
    {e : OpenError} (h : ((openThen ws next).run k).result = .error e) :
    ((openThen ws next).run k).world.locks = k.locks ∧
      ∃ w ∈ ws, ∃ k₁ k₂, w.Denied k₁ k₂ e := by
  induction ws generalizing next k with
  | nil =>
    obtain ⟨a, ha⟩ := hnext [] k
    rw [openThen, ha] at h
    cases h
  | cons w ws ih =>
    rw [openThen] at h ⊢
    -- the failure is that of the first map or of a later one; in the second case the first is
    -- closed on the way out
    rcases w.opening_cases k with ⟨handle, hresult, hgranted, -⟩ | ⟨e', hresult, hdenied⟩
    · rw [Act.run_bind_of_ok hresult] at h ⊢
      cases hrest : ((openThen ws fun hs => next (handle :: hs)).run
          (w.opening.run k).world).result with
      | ok a =>
        rw [holding, Act.run_cleaningUp_ok _ hrest, hrest] at h
        cases h
      | error e'' =>
        rw [holding, Act.run_cleaningUp_error _ hrest] at h ⊢
        cases h
        obtain ⟨hlocks, v, hv, hdenied⟩ :=
          ih (fun hs => hnext (handle :: hs)) (hgranted.numbered hk) hrest
        -- the later ones have left the locks as they found them, so closing restores the start
        exact ⟨hgranted.locks_close hk hlocks, v, List.mem_cons_of_mem _ hv, hdenied⟩
    · rw [Act.run_bind_of_error hresult] at h ⊢
      cases h
      exact ⟨hdenied.locks hk, w, List.mem_cons_self .., k, _, hdenied⟩

/-- A row of openings that answers goes on with handles that have the accesses asked for. -/
theorem openThen_ok {k : Kernel} {a : α} (h : ((openThen ws next).run k).result = .ok a) :
    ∃ hs k', hs.map Handle.access = ws.map Wish.access ∧ ((next hs).run k').result = .ok a := by
  induction ws generalizing next k with
  | nil => exact ⟨[], k, rfl, h⟩
  | cons w ws ih =>
    obtain ⟨handle, hopened, hrest⟩ := Act.of_run_bind_ok h
    rw [holding, Act.result_cleaningUp] at hrest
    obtain ⟨hs, k', haccess, hnext⟩ := ih hrest
    refine ⟨handle :: hs, k', ?_, hnext⟩
    rw [List.map_cons, List.map_cons, haccess, w.access_of_opening hopened]

theorem unaffected_openThen (hnext : ∀ hs, (next hs).Unaffected)
    (hws : ∀ w ∈ ws, w.sharing.lock? = none) : (openThen ws next).Unaffected := by
  induction ws generalizing next with
  | nil => exact hnext []
  | cons w ws ih =>
    refine (Wish.unaffected_opening (hws w (List.mem_cons_self ..))).bind fun handle => ?_
    -- to close a map comes to nothing as well, where nothing is locked
    refine Act.Unaffected.cleaningUp (ih (fun hs => hnext (handle :: hs)) fun v hv => ?_) _
    exact hws v (List.mem_cons_of_mem _ hv)

end Rows

end Pinned

namespace PinnedMaps

theorem unaffected_report (root : String) (access : Access) (sharing : Sharing)
    (hs : List Handle) : (report root access sharing hs).Unaffected :=
  (Act.Unaffected.emit _).bind fun _ => .pure _

/-- What a command opens: a command that writes asks for everything as the only writer, and one that
only reads asks for reading without a lock. -/
def commandWishes (config : Config) (readOnly : Bool) : List Wish :=
  wishes config.pinRoot (config.modes readOnly).1 (config.modes readOnly).2

theorem lock?_of_mem_commandWishes {config : Config} {w : Wish}
    (h : w ∈ commandWishes config true) : w.sharing.lock? = none := by
  obtain ⟨name, -, rfl⟩ := List.mem_map.1 h
  show (if name = .cookieTag then Sharing.lockless else .lockless).lock? = none
  rw [ite_self]
  rfl

/-- The row of openings of a command. -/
def commandRow (config : Config) (readOnly : Bool) : Pinned.Opening PinnedMaps :=
  Pinned.openThen (commandWishes config readOnly)
    (report config.pinRoot (config.modes readOnly).1 (config.modes readOnly).2)

theorem run_openFor (config : Config) (readOnly : Bool) (k : Kernel) :
    ((openFor config readOnly).run k).result
        = ((commandRow config readOnly).run k).result.mapError (Error.mk config.pinRoot) ∧
      ((openFor config readOnly).run k).world = ((commandRow config readOnly).run k).world := by
  rw [commandRow, commandWishes, ← openAll_eq]
  unfold openFor
  rcases config.modes readOnly with ⟨access, sharing⟩
  -- the row ends in an error or in maps; the command adds the directory to the one, and passes on
  -- the other
  rcases hrun : (openAll config.pinRoot access sharing).run k with ⟨e | m, k', log⟩
  · have hfirst : ((openAll config.pinRoot access sharing).mapError
        (Error.mk config.pinRoot)).run k = ⟨.error ⟨config.pinRoot, e⟩, k', log⟩ := by
      rw [Act.run_mapError, hrun]
      rfl
    rw [Act.run_bind_error hfirst]
    exact ⟨rfl, rfl⟩
  · have hfirst : ((openAll config.pinRoot access sharing).mapError
        (Error.mk config.pinRoot)).run k = ⟨.ok m, k', log⟩ := by
      rw [Act.run_mapError, hrun]
      rfl
    rw [Act.run_bind_ok hfirst]
    exact ⟨rfl, rfl⟩

section Ends

variable {config : Config} {readOnly : Bool} {k : Kernel}

theorem commandRow_of_ok {m : PinnedMaps}
    (h : ((openFor config readOnly).run k).result = .ok m) :
    ((commandRow config readOnly).run k).result = .ok m := by
  rw [(run_openFor config readOnly k).1] at h
  exact ok_of_mapError h

/-- A command opens every map with the access that its class asks for, so a command that only reads
has no handle that it could write with. -/
theorem access_of_openFor {m : PinnedMaps}
    (h : ((openFor config readOnly).run k).result = .ok m) :
    ∀ handle ∈ m.handles, handle.access = (config.modes readOnly).1 := by
  obtain ⟨hs, k', haccess, hreport⟩ := Pinned.openThen_ok (commandRow_of_ok h)
  -- six wishes, so six handles, and these are the six maps
  have hlength : hs.length = 6 := by
    rw [← List.length_map (f := Handle.access), haccess]
    rfl
  obtain rfl : ofHandles hs = m := by
    obtain ⟨_, -, hreport⟩ := Act.of_run_bind_ok hreport
    exact Except.ok.inj hreport
  rw [handles_ofHandles hlength]
  intro handle hhandle
  have hasked := haccess ▸ List.mem_map_of_mem hhandle
  obtain ⟨w, hw, haccess⟩ := List.mem_map.1 hasked
  obtain ⟨name, -, rfl⟩ := List.mem_map.1 hw
  exact haccess.symm

theorem commandRow_of_error {e : Error}
    (h : ((openFor config readOnly).run k).result = .error e) :
    ((commandRow config readOnly).run k).result = .error e.cause := by
  rw [(run_openFor config readOnly k).1] at h
  obtain ⟨cause, hcause, rfl⟩ := error_of_mapError h
  exact hcause

/-- A command that cannot open all maps leaves no lock behind: the handles that it had opened go
with it. -/
theorem locks_openFor (hk : k.Numbered) {e : Error}
    (h : ((openFor config readOnly).run k).result = .error e) :
    ((openFor config readOnly).run k).world.locks = k.locks := by
  have hrow := commandRow_of_error h
  rw [(run_openFor config readOnly k).2]
  rw [commandRow] at hrow ⊢
  exact (Pinned.openThen_denied (answering_report _ _ _) hk hrow).1

theorem not_isLock_openFor (hk : k.Numbered) {e : Error}
    (h : ((openFor config true).run k).result = .error e) : ¬e.cause.IsLock := by
  obtain ⟨-, w, hw, k₁, k₂, hdenied⟩ :=
    Pinned.openThen_denied (answering_report _ _ _) hk (commandRow_of_error h)
  exact hdenied.not_isLock (lock?_of_mem_commandWishes hw)

/-- What other owners have locked does not matter to a command that only reads: it is answered as on
a machine where nothing is locked. -/
theorem result_openFor_unlocked :
    ((openFor config true).run k.unlocked).result = ((openFor config true).run k).result := by
  have hrow : (commandRow config true).Unaffected :=
    Pinned.unaffected_openThen (unaffected_report _ _ _) fun _ => lock?_of_mem_commandWishes
  rw [(run_openFor config true _).1, (run_openFor config true _).1, hrow k]

end Ends

end PinnedMaps

end UidPolicy
