import Mathlib.Data.List.Perm.Basic
import UidPolicy.Proofs.Pinned.Clients

/-!
# Writers never overlap

Any number of clients open and close maps on one machine, in any order of their openings, and in
between anything else may happen to the machine except to its locks, the numbers of its maps, and
the places of its pins. The pins lie in any directories, and a pin may go at any time.

- `Scene`, `Move`: the machine with its clients, and what can happen next.
- `Scene.Sound`: the invariant of a run. The locks of the machine are those of the live handles.
- `Loads`: opening all maps for a command is a client's run of openings, or it leaves no lock.
- `writers_apart`: after every run, the handles of single writers stand alone.
-/

namespace UidPolicy

/-- The machine and the clients of its maps. The clients take their turns in any order, so a command
may be interrupted between any two of its openings. -/
structure Scene where
  kernel : Kernel
  clients : List Client

/-- What can happen next. Every move is atomic: one opening is one turn, with its lock, its
descriptor and its checks, since nobody else sees what lies between them but through the lock. -/
inductive Move where
  /-- A client comes for some maps. -/
  | arrive (wishes : List Wish)
  /-- A client opens the next map that it wants. -/
  | proceed (client : Nat)
  /-- A client closes one of its handles. -/
  | drop (client handle : Nat)
  /-- The pins of a map are removed. -/
  | unpin (map : MapRef)
  /-- Something else happens to the machine. `Kernel.disturb` makes of any change one that touches
  neither the locks nor the places and numbers of the maps. -/
  | meanwhile (change : Kernel → Kernel)

namespace Kernel

/-- The machine after a change that concerns neither the locks nor where the maps are and how they
are numbered. What the maps hold, which calls are interfered with and which interfaces there are
may change in any way. -/
def disturb (k : Kernel) (change : Kernel → Kernel) : Kernel :=
  { change k with
    pins := k.pins
    maps := fun map => { (change k).maps map with id := (k.maps map).id }
    locks := k.locks
    nextOwner := k.nextOwner }

/-- A map without pins is found nowhere, and every other map where it was. No move makes a pin, so
the paths that led to it lead nowhere from then on. -/
theorem Charted.unpin {start k : Kernel} (h : start.Charted k) (map : MapRef) :
    start.Charted (k.unpin map) where
  pins path found hfound := h.pins path found (Option.filter_eq_some_iff.1 hfound).1
  ids := h.ids

/-- Maps that have pins are told apart by their numbers. The kernel gives every map its own, and a
number is the offset of the byte that is locked for the map. -/
def DistinctIds (k : Kernel) : Prop :=
  ∀ path path' map map', k.pins path = some map → k.pins path' = some map' →
    (k.maps map).id = (k.maps map').id → map = map'

/-- Two paths are those of one directory of pins, however they are written: the same path may be
spelt in several ways, and the text of it does not tell. -/
def SameDirectory (k : Kernel) (root root' : String) : Prop :=
  ∀ name : MapName, k.pins (Path.join root name.pin) = k.pins (Path.join root' name.pin)

end Kernel

namespace Client

/-- The client came to run a command that writes, on the maps of a configured directory. -/
def Writes (c : Client) (config : Config) : Prop :=
  c.asked = PinnedMaps.commandWishes config false

/-- How a command that writes opens a map. That of the tagged sockets is opened so as well, but
without a lock, because another process writes it too. -/
def writerWish (config : Config) (name : MapName) : Wish :=
  PinnedMaps.wish config.pinRoot (config.modes false).1 (config.modes false).2 name

/-- The client has a map of its directory open for writing. -/
def Has (c : Client) (config : Config) (name : MapName) : Prop :=
  ∃ l ∈ c.live, l.wish = writerWish config name

/-- A command that writes is the only writer of every map that is not one of the tagged
sockets. -/
theorem isWriter_writerWish (config : Config) {name : MapName} (hname : name ≠ .cookieTag) :
    (writerWish config name).sharing.IsWriter := by
  have hsharing : (writerWish config name).sharing = (config.modes false).2 := if_neg hname
  rw [hsharing]
  show (if config.waitForWriter then Sharing.singleWait else .single).IsWriter
  cases config.waitForWriter with
  | true => exact .inr rfl
  | false => exact .inl rfl

end Client

namespace Scene

/-- All handles that are open. -/
def live (s : Scene) : List Live := s.clients.flatMap Client.live

/-- What comes of a move. A move of a client that is not there, or of one that has nothing left to
open, changes nothing. -/
def step (s : Scene) : Move → Scene
  | .arrive wishes => { s with clients := s.clients ++ [.new wishes] }
  | .proceed i =>
    match s.clients[i]? with
    | none => s
    | some c => ⟨(c.proceed s.kernel).2, s.clients.set i (c.proceed s.kernel).1⟩
  | .drop i j =>
    match s.clients[i]? with
    | none => s
    | some c =>
      match c.live[j]? with
      | none => s
      | some l =>
        ⟨s.kernel.close l.handle, s.clients.set i { c with live := c.live.eraseIdx j }⟩
  | .unpin map => { s with kernel := s.kernel.unpin map }
  | .meanwhile change => { s with kernel := s.kernel.disturb change }

/-- What comes of several moves. -/
def after (s : Scene) (moves : List Move) : Scene := moves.foldl step s

/-- The invariant of a run: the locks that are held are those of the live handles and of the start,
and the maps are where they were. Everything else about exclusion follows from it without looking at
a run again. -/
structure Sound (start : Kernel) (s : Scene) : Prop where
  holds : Holds start s.kernel s.live
  honest : ∀ c ∈ s.clients, c.Honest

section Steps

variable {start : Kernel} {s : Scene}

/-- The handles of one client, and those of the others. A turn changes those of one client only, and
the invariant does not depend on their order. -/
theorem live_perm {i : Nat} {c : Client} (h : s.clients[i]? = some c) :
    s.live.Perm (c.live ++ (s.clients.eraseIdx i).flatMap Client.live) ∧
      ∀ k c', (Scene.mk k (s.clients.set i c')).live.Perm
        (c'.live ++ (s.clients.eraseIdx i).flatMap Client.live) := by
  obtain ⟨hi, rfl⟩ := List.getElem?_eq_some_iff.1 h
  constructor
  · exact (List.getElem_cons_eraseIdx_perm hi).symm.flatMap_right Client.live
  · exact fun k c' => (List.set_perm_cons_eraseIdx hi c').flatMap_right Client.live

theorem honest_set (h : ∀ c ∈ s.clients, c.Honest) {i : Nat} {c' : Client} (hc' : c'.Honest) :
    ∀ c ∈ s.clients.set i c', c.Honest := by
  intro c hc
  rcases List.mem_or_eq_of_mem_set hc with hc | rfl
  · exact h c hc
  · exact hc'

/-- **Every move keeps up the invariant**, one case for each: an opening by what it grants or
denies, a closing by what it gives up, and the others because they touch no lock. -/
theorem Sound.step (h : s.Sound start) (m : Move) : (s.step m).Sound start := by
  cases m with
  | arrive wishes =>
    refine ⟨?_, fun c hc => ?_⟩
    · show Holds start s.kernel ((s.clients ++ [Client.new wishes]).flatMap Client.live)
      rw [List.flatMap_append]
      exact (List.append_nil s.live).symm ▸ h.holds
    · rcases List.mem_append.1 hc with hc | hc
      · exact h.honest c hc
      · rw [List.mem_singleton.1 hc]
        exact ⟨fun l hl => absurd hl List.not_mem_nil, fun w hw => hw⟩
  | proceed i =>
    rw [Scene.step]
    cases hc : s.clients[i]? with
    | none => exact h
    | some c =>
      -- one client moves and the others stay, so its handles are brought to the front and back
      obtain ⟨hbefore, hafter⟩ := live_perm hc
      refine ⟨?_, honest_set h.honest ?_⟩
      · exact (Client.holds_proceed (h.holds.perm hbefore)).perm (hafter _ _).symm
      · exact (Client.honest_proceed (h.honest c (List.mem_of_getElem? hc))).1
  | drop i j =>
    rw [Scene.step]
    cases hc : s.clients[i]? with
    | none => exact h
    | some c =>
      obtain ⟨hbefore, hafter⟩ := live_perm hc
      dsimp only
      cases hl : c.live[j]? with
      | none => exact h
      | some l =>
        obtain ⟨hj, rfl⟩ := List.getElem?_eq_some_iff.1 hl
        have hlive : c.live.Perm (c.live[j] :: c.live.eraseIdx j) :=
          (List.getElem_cons_eraseIdx_perm hj).symm
        have hc' := h.honest c (List.mem_of_getElem? hc)
        refine ⟨?_, honest_set h.honest ⟨fun l hl => ?_, hc'.wanted⟩⟩
        · exact (h.holds.perm (hbefore.trans (hlive.append_right _))).close.perm
            (hafter _ { c with live := c.live.eraseIdx j }).symm
        · exact hc'.live l (List.mem_of_mem_eraseIdx hl)
  | unpin map =>
    exact ⟨h.holds.of_locks rfl (Nat.le_refl _) (h.holds.charted.unpin map), h.honest⟩
  | meanwhile change =>
    -- whatever else changes, the pins and the numbers of the maps are those of before
    have hcharted : start.Charted (s.kernel.disturb change) :=
      ⟨h.holds.charted.pins, h.holds.charted.ids⟩
    exact ⟨h.holds.of_locks rfl (Nat.le_refl _) hcharted, h.honest⟩

/-- The invariant holds after every run, by induction on it. -/
theorem Sound.after (h : s.Sound start) (moves : List Move) : (s.after moves).Sound start := by
  induction moves generalizing s with
  | nil => exact h
  | cons m moves ih => exact ih (h.step m)

end Steps

/-! ## Loading all maps -/

/-- The moves of a client that comes for some maps and opens them without being interrupted: so a
command opens its maps where nobody else has a turn. -/
def loading (s : Scene) (wishes : List Wish) : List Move :=
  .arrive wishes :: List.replicate wishes.length (.proceed s.clients.length)

theorem after_replicate_proceed (cs : List Client) (n : Nat) (c : Client) (k : Kernel) :
    (Scene.mk k (cs ++ [c])).after (List.replicate n (.proceed cs.length))
      = ⟨(Client.proceeds n (c, k)).2, cs ++ [(Client.proceeds n (c, k)).1]⟩ := by
  induction n generalizing c k with
  | zero => rfl
  | succ n ih =>
    have hstep : (Scene.mk k (cs ++ [c])).step (.proceed cs.length)
        = ⟨(c.proceed k).2, cs ++ [(c.proceed k).1]⟩ := by
      simp [step]
    show ((Scene.mk k (cs ++ [c])).step (.proceed cs.length)).after _ = _
    rw [hstep, ih]
    rfl

/-- What is left of a loading. -/
theorem after_loading (s : Scene) (wishes : List Wish) :
    s.after (s.loading wishes)
      = ⟨(Client.proceeds wishes.length (.new wishes, s.kernel)).2,
          s.clients ++ [(Client.proceeds wishes.length (.new wishes, s.kernel)).1]⟩ :=
  after_replicate_proceed s.clients wishes.length (.new wishes) s.kernel

/-- Opening all maps for a command in one go: it is the loading of a client, and where it fails
no lock is left behind. -/
structure Loads (s : Scene) (config : Config) (readOnly : Bool) : Prop where
  opened : ∀ m, ((PinnedMaps.openFor config readOnly).run s.kernel).result = .ok m →
    s.after (s.loading (PinnedMaps.commandWishes config readOnly))
      = ⟨((PinnedMaps.openFor config readOnly).run s.kernel).world,
          s.clients ++ [⟨PinnedMaps.commandWishes config readOnly, [],
            (List.zipWith (Live.on s.kernel) (PinnedMaps.commandWishes config readOnly)
              m.handles).reverse⟩]⟩
  failed : ∀ e, ((PinnedMaps.openFor config readOnly).run s.kernel).result = .error e →
    ((PinnedMaps.openFor config readOnly).run s.kernel).world.locks = s.kernel.locks ∧
      ((∀ name, e.cause ≠ .waits name) →
        s.after (s.loading (PinnedMaps.commandWishes config readOnly))
          = ⟨((PinnedMaps.openFor config readOnly).run s.kernel).world,
              s.clients ++ [⟨PinnedMaps.commandWishes config readOnly, [], []⟩]⟩)

theorem loads {s : Scene} (hs : s.kernel.Numbered) (config : Config) (readOnly : Bool) :
    s.Loads config readOnly := by
  have hworld := (PinnedMaps.run_openFor config readOnly s.kernel).2
  rw [PinnedMaps.commandRow] at hworld
  obtain ⟨hopened, hfailed⟩ := Client.proceeds_new (PinnedMaps.commandWishes config readOnly)
    (PinnedMaps.answering_report config.pinRoot (config.modes readOnly).1 (config.modes readOnly).2)
    (PinnedMaps.still_report config.pinRoot (config.modes readOnly).1 (config.modes readOnly).2)
    s.kernel
  -- a command reports after its openings, and that neither fails nor touches the machine
  constructor
  · intro m hm
    obtain ⟨hs', k₁, hlength, hreport, hproceeds⟩ := hopened m (PinnedMaps.commandRow_of_ok hm)
    obtain rfl : PinnedMaps.ofHandles hs' = m := Except.ok.inj hreport
    rw [after_loading, hproceeds, hworld, PinnedMaps.handles_ofHandles hlength]
  · intro e he
    refine ⟨PinnedMaps.locks_openFor hs he, fun hwaits => ?_⟩
    rw [after_loading, hfailed e.cause (PinnedMaps.commandRow_of_error he) hwaits, hworld]

/-! ## Exclusion -/

/-- An opening asks for what a live handle keeps from it: the two are for one map, and one of them
is to be its only writer. -/
structure Blocks (l : Live) (w : Wish) (map : MapRef) : Prop where
  map : l.handle.map = map
  locked : l.wish.sharing ≠ .lockless
  writer : w.sharing.IsWriter ∨ l.wish.sharing.IsWriter

/-- Single writers do not overlap with others, and failed openings leave no lock. All of it is about
an instant of a run: what is open is compared with what else is open, and an opening is judged by
the locks that are held when it is made. -/
structure Exclusive (start : Kernel) (s : Scene) : Prop where
  /-- A live handle is on the map that its path led to, and its number is the one of this map: the
  pin may have been removed since, but no other map has been found under it. -/
  fits : ∀ l ∈ s.live, l.Fits start
  /-- Of two live handles on maps with one number, whoever has opened them, the only writer leaves
  the other one without a lock. -/
  apart : s.live.Pairwise Live.Apart
  /-- No two commands that write have one map open, whatever its name and its directory are for
  each of them, unless it is opened as that of the tagged sockets. -/
  commands : s.clients.Pairwise fun c c' => ∀ config config', c.Writes config → c'.Writes config' →
    ∀ name name', name ≠ .cookieTag → name' ≠ .cookieTag →
      start.pins (Path.join config.pinRoot name.pin)
        = start.pins (Path.join config'.pinRoot name'.pin) →
      ¬(c.Has config name ∧ c'.Has config' name')
  /-- So at most one command that writes has the maps of a directory open: a second one that had any
  of them would be a second writer of that map. -/
  directories : s.clients.Pairwise fun c c' => ∀ config config', c.Writes config →
    c'.Writes config' → start.SameDirectory config.pinRoot config'.pinRoot →
    ∀ name, name ≠ .cookieTag → ¬(c.Has config name ∧ c'.Has config' name)
  /-- Nothing is locked but by live handles, and by those who held locks at the start: no lock
  outlives its handle, however a client came to its end. -/
  locks : ∀ held, held ∈ s.kernel.locks ↔
    held ∈ start.locks ∨ ∃ l ∈ s.live, l.lock? = some held
  /-- An opening that fails leaves the locks as they were, also where the lock had been taken before
  a check failed. -/
  denied : ∀ (w : Wish) e, (w.opening.run s.kernel).result = .error e →
    (w.opening.run s.kernel).world.locks = s.kernel.locks
  /-- It fails because of a lock only if the very map that it asks for is kept from it, by a live
  handle or by a lock on its byte that was there at the start. Here the numbers of the maps have to
  be distinct: what is locked of one map must not be in the way of another. -/
  refused : ∀ (w : Wish) e, (w.opening.run s.kernel).result = .error e → e.IsLock →
    ∃ map, start.pins w.path = some map ∧
      ((∃ held ∈ start.locks, held.range.contains (start.maps map).id.toNat = true) ∨
        ∃ l ∈ s.live, Blocks l w map)
  /-- A client that cannot go on leaves no lock, and nobody else loses one: the handles that it had
  opened are closed with it. -/
  givesUp : ∀ i c w ws e, s.clients[i]? = some c → c.wanted = w :: ws →
    (w.opening.run s.kernel).result = .error e → (∀ name, e ≠ .waits name) →
    ∀ held, held ∈ (s.step (.proceed i)).kernel.locks ↔
      held ∈ s.kernel.locks ∧ ∀ l ∈ c.live, held.owner ≠ l.handle.owner
  /-- An opening without a lock ends as it would if nothing were locked, and if it fails this is
  not because of a lock. -/
  lockless : ∀ w : Wish, w.sharing = .lockless →
    (w.opening.run s.kernel).result = (w.opening.run s.kernel.unlocked).result ∧
      ∀ e, (w.opening.run s.kernel).result = .error e → ¬e.IsLock
  /-- The map of the tagged sockets is always opened without a lock, whatever the command asks
  for. -/
  tags : ∀ root access sharing, (PinnedMaps.wish root access sharing .cookieTag).sharing = .lockless
  /-- A command that only reads opens its maps as if nothing were locked, so a command that writes
  never keeps it waiting. -/
  readers : ∀ config,
    ((PinnedMaps.openFor config true).run s.kernel).result
        = ((PinnedMaps.openFor config true).run s.kernel.unlocked).result ∧
      ∀ e, ((PinnedMaps.openFor config true).run s.kernel).result = .error e → ¬e.cause.IsLock
  /-- All maps in one go: the answer of the load, the locks and the handles agree with the single
  openings. -/
  loads : ∀ config readOnly, s.Loads config readOnly

theorem mem_locks_closeAll (ls : List Live) (k : Kernel) (held : HeldLock) :
    held ∈ (ls.foldl (fun k l => k.close l.handle) k).locks ↔
      held ∈ k.locks ∧ ∀ l ∈ ls, held.owner ≠ l.handle.owner := by
  induction ls generalizing k with
  | nil => exact ⟨fun h => ⟨h, fun l hl => absurd hl List.not_mem_nil⟩, And.left⟩
  | cons l ls ih =>
    rw [List.foldl_cons, ih, Kernel.close, Kernel.mem_locks_release, List.forall_mem_cons,
      and_assoc]

section Exclusion

variable {start : Kernel} {s : Scene}

/-- Two handles on one map have one number, so that two only writers would have locked one byte.
Their locks exclude each other, and the second one would not have been granted. -/
theorem Sound.not_writers (h : s.Sound start) {l l' : Live} (hapart : l.Apart l')
    (hl : l ∈ s.live) (hl' : l' ∈ s.live)
    (hpaths : start.pins l.wish.path = start.pins l'.wish.path) :
    ¬(l.wish.sharing.IsWriter ∧ l'.wish.sharing.IsWriter) := by
  rintro ⟨hwriter, hwriter'⟩
  have hfits := h.holds.fits l hl
  have hfits' := h.holds.fits l' hl'
  have hmap : l.handle.map = l'.handle.map :=
    Option.some.inj (hfits.map.symm.trans (hpaths.trans hfits'.map))
  have hlockless := hapart.left (by rw [hfits.id, hfits'.id, hmap]) hwriter
  rw [hlockless] at hwriter'
  rcases hwriter' with hcase | hcase <;> cases hcase

theorem Sound.commands (h : s.Sound start) : s.clients.Pairwise fun c c' =>
    ∀ config config', c.Writes config → c'.Writes config' →
      ∀ name name', name ≠ .cookieTag → name' ≠ .cookieTag →
        start.pins (Path.join config.pinRoot name.pin)
          = start.pins (Path.join config'.pinRoot name'.pin) →
        ¬(c.Has config name ∧ c'.Has config' name') := by
  have hapart := (List.pairwise_flatMap.1 h.holds.apart).2
  refine hapart.imp_of_mem fun {c c'} hc hc' hapart => ?_
  rintro config config' - - name name' hname hname' hpaths ⟨⟨l, hl, hwish⟩, l', hl', hwish'⟩
  -- both handles are on the map that the two paths lead to, and both are its only writers
  refine h.not_writers (hapart l hl l' hl') (List.mem_flatMap.2 ⟨c, hc, hl⟩)
    (List.mem_flatMap.2 ⟨c', hc', hl'⟩) ?_ ⟨?_, ?_⟩
  · rw [hwish, hwish']
    exact hpaths
  · rw [hwish]
    exact Client.isWriter_writerWish config hname
  · rw [hwish']
    exact Client.isWriter_writerWish config' hname'

/-- Of two locks that conflict, one is that of an only writer: two shared locks never conflict. -/
theorem isWriter_of_conflicts {sharing sharing' : Sharing} {kind kind' : LockKind}
    (hkind : sharing.lock? = some kind) (hkind' : sharing'.lock? = some kind')
    (hconflict : kind'.conflicts kind = true) : sharing.IsWriter ∨ sharing'.IsWriter := by
  have hwriter : ∀ sharing : Sharing, sharing.lock? = some .write → sharing.IsWriter := by
    intro sharing h
    cases sharing with
    | single => exact .inl rfl
    | singleWait => exact .inr rfl
    | shared | lockless => cases h
  cases kind with
  | write => exact .inl (hwriter _ hkind)
  | read =>
    cases kind' with
    | write => exact .inr (hwriter _ hkind')
    | read => cases hconflict

/-- Who is in the way of an opening: the lock that excludes it is that of a live handle or one of
the start, and by the numbers it is on the same map. -/
theorem Sound.refused (h : s.Sound start) (hids : start.DistinctIds) (w : Wish) {e : OpenError}
    (he : (w.opening.run s.kernel).result = .error e) (hlock : e.IsLock) :
    ∃ map, start.pins w.path = some map ∧
      ((∃ held ∈ start.locks, held.range.contains (start.maps map).id.toNat = true) ∨
        ∃ l ∈ s.live, Blocks l w map) := by
  obtain ⟨handle, hresult, -⟩ | ⟨e', hresult, hdenied⟩ := w.opening_cases s.kernel
  · cases hresult.symm.trans he
  · obtain rfl : e' = e := Except.error.inj (hresult.symm.trans he)
    obtain ⟨map, kind, hmap, hkind, hexcluded⟩ := hdenied.lock hlock
    have hmap := h.holds.charted.pins _ _ hmap
    refine ⟨map, hmap, ?_⟩
    rw [h.holds.charted.ids map] at hexcluded
    obtain ⟨held, hheld, hexcludes⟩ := List.any_eq_true.1 hexcluded
    simp only [Bool.and_eq_true] at hexcludes
    obtain ⟨⟨-, hoverlaps⟩, hconflict⟩ := hexcludes
    -- the lock that is in the way was there at the start, or it is that of a live handle
    rcases (h.holds.locks held).1 hheld with hbefore | ⟨l, hl, hlocked⟩
    · obtain ⟨byte, hbyte, hown⟩ := ByteRange.overlaps_iff.1 hoverlaps
      refine .inl ⟨held, hbefore, ?_⟩
      rwa [ByteRange.contains_single.1 hown] at hbyte
    · obtain ⟨kind', hkind', rfl⟩ := Option.map_eq_some_iff.1 hlocked
      have hfits := h.holds.fits l hl
      have hid : l.id = (start.maps map).id :=
        UInt32.toNat_inj.1 (ByteRange.overlaps_single.1 hoverlaps)
      refine .inr ⟨l, hl, hids _ _ _ _ hfits.map hmap (hfits.id.symm.trans hid), fun hnone => ?_,
        isWriter_of_conflicts hkind hkind' hconflict⟩
      rw [hnone] at hkind'
      cases hkind'

/-- What the invariant comes to, at every instant of a run. -/
theorem Sound.exclusive (h : s.Sound start) (hids : start.DistinctIds) : s.Exclusive start := by
  have hk := h.holds.kernel_numbered
  -- most parts are the invariant itself; the others ask for one more opening and how it ends
  have hdenied : ∀ (w : Wish) e, (w.opening.run s.kernel).result = .error e →
      (w.opening.run s.kernel).world.locks = s.kernel.locks := by
    intro w e he
    obtain ⟨handle, hresult, -⟩ | ⟨e', -, hdenied⟩ := w.opening_cases s.kernel
    · rw [hresult] at he
      cases he
    · exact hdenied.locks hk
  refine
    { fits := h.holds.fits
      apart := h.holds.apart
      commands := h.commands
      directories := h.commands.imp fun hcommands config config' hc hc' hsame name hname =>
        hcommands config config' hc hc' name name hname hname (hsame name)
      locks := h.holds.locks
      denied := hdenied
      refused := fun w e => h.refused hids w
      givesUp := fun i c w ws e hc hwanted he hwaits held => ?_
      lockless := fun w hw => ?_
      tags := fun _ _ _ => rfl
      readers := fun config => ?_
      loads := loads hk }
  · rw [Scene.step, hc]
    show held ∈ (c.proceed s.kernel).2.locks ↔ _
    rw [Client.proceed_of_error hwanted he hwaits, mem_locks_closeAll, hdenied w e he]
  · have hnone : w.sharing.lock? = none := by rw [hw]; rfl
    refine ⟨by rw [Wish.unaffected_opening hnone s.kernel], fun e he => ?_⟩
    obtain ⟨handle, hresult, -⟩ | ⟨e', hresult, hdenied⟩ := w.opening_cases s.kernel
    · rw [hresult] at he
      cases he
    · obtain rfl : e' = e := Except.error.inj (hresult.symm.trans he)
      exact hdenied.not_isLock hnone
  · refine ⟨PinnedMaps.result_openFor_unlocked.symm, fun e he => ?_⟩
    exact PinnedMaps.not_isLock_openFor hk he

end Exclusion

/-- A machine without clients: whatever locks are held belong to others. -/
def start (k : Kernel) : Scene := ⟨k, []⟩

/-- **Writers never overlap**: after any moves of any clients on a machine where no handle holds a
lock to begin with, single writers stand alone, and all locks are those of live handles. The maps
of the machine have any distinct numbers, and any directories hold their pins. -/
theorem writers_apart {k : Kernel} (hothers : ∀ held ∈ k.locks, ∀ n, held.owner ≠ .handle n)
    (hids : k.DistinctIds) (moves : List Move) : ((start k).after moves).Exclusive k := by
  -- before anybody comes, the locks are those of the start
  have hholds : Holds k k [] := by
    refine ⟨hothers, .refl k, ?_, .nil, fun held => ⟨.inl, ?_⟩, ?_, .nil⟩
    · exact fun l hl => absurd hl List.not_mem_nil
    · exact fun h => h.resolve_right fun ⟨l, hl, _⟩ => List.not_mem_nil hl
    · exact fun l hl => absurd hl List.not_mem_nil
  have hstart : (start k).Sound k := ⟨hholds, fun c hc => absurd hc List.not_mem_nil⟩
  exact (hstart.after moves).exclusive hids

/-- The maps that the pins of a guest stand for: it has maps of its own, except that the pin of the
permissions is one more pin of the map of the host. -/
def guestPlace (name : MapName) : MapRef :=
  if name = .uidPermission then name.place else name.place + 6

/-- A machine with two directories of pins, whose maps are numbered downwards from a thousand.
Another process has locked the bytes below five hundred, where no map has its number. -/
def sharedMachine : Kernel :=
  { Kernel.fresh with
    pins := fun path =>
      (Kernel.pinsIn "/sys/fs/bpf/netd_shared" MapName.place path).or
        (Kernel.pinsIn "/mnt/guest/netd" guestPlace path)
    maps := fun map =>
      .new (.ofNat (1000 - map)) ((MapName.all[map % 6]?).elim default MapName.shape) .ascending
    locks := [⟨.process 0, ⟨0, 500⟩, .write⟩] }

theorem lt_of_pins {path : String} {map : MapRef} (h : sharedMachine.pins path = some map) :
    map < 12 := by
  have hplace : ∀ {directory place}, Kernel.pinsIn directory place path = some map →
      ∃ name, place name = map := by
    intro directory place h
    obtain ⟨name, -, hname⟩ := Option.map_eq_some_iff.1 h
    exact ⟨name, hname⟩
  rcases Option.or_eq_some_iff.1 h with h | ⟨-, h⟩
  · obtain ⟨name, rfl⟩ := hplace h
    cases name <;> decide
  · obtain ⟨name, rfl⟩ := hplace h
    cases name <;> decide

theorem distinctIds_sharedMachine : sharedMachine.DistinctIds := by
  -- counting down is injective as long as it does not reach zero
  have hnumbers : ∀ m n : Nat, m < 12 → n < 12 →
      UInt32.ofNat (1000 - m) = UInt32.ofNat (1000 - n) → m = n := by
    intro m n hm hn hid
    have hid := congrArg UInt32.toNat hid
    simp only [UInt32.toNat_ofNat'] at hid
    omega
  intro path path' map map' hmap hmap' hid
  exact hnumbers map map' (lt_of_pins hmap) (lt_of_pins hmap') hid

/-- The configuration of a guest. Its directory is written with an empty segment, and is the same as
the other one. -/
def guestConfig : Config := { Config.default with bpfFs := "/mnt//guest/.", pinDir := "netd" }

/-- Commands that write come for the maps of the host and of the guest, and go on by turns until the
guest's finds its permissions held and gives up. Then comes one that only reads, one more that
writes and is refused at once, and one that would wait; and when the first has closed its newest
handle, the pins of the host's rules go, and somebody who comes for these finds nothing. -/
def crowdedMoves : List Move :=
  let host := PinnedMaps.commandWishes Config.default false
  let waiting := PinnedMaps.commandWishes { Config.default with waitForWriter := true } false
  let rules : Wish := ⟨MapName.uidOwner.expected,
    Path.join Config.default.pinRoot MapName.uidOwner.pin, .readOnly, .shared⟩
  [.arrive host, .arrive (PinnedMaps.commandWishes guestConfig false), .proceed 0, .proceed 1,
    .proceed 0, .proceed 1, .proceed 0, .proceed 1,
    .arrive (PinnedMaps.commandWishes Config.default true), .proceed 2, .arrive host, .proceed 3,
    .arrive waiting, .proceed 4, .drop 0 0, .unpin MapName.uidOwner.place, .arrive [rules],
    .proceed 5]

theorem crowdedMoves_apart :
    (∀ held ∈ sharedMachine.locks, ∀ n, held.owner ≠ .handle n) ∧ sharedMachine.DistinctIds ∧
      ((start sharedMachine).after crowdedMoves).Exclusive sharedMachine := by
  have hothers : ∀ held ∈ sharedMachine.locks, ∀ n, held.owner ≠ .handle n := by
    intro held hheld n howner
    rw [List.mem_singleton.1 hheld] at howner
    cases howner
  exact ⟨hothers, distinctIds_sharedMachine,
    writers_apart hothers distinctIds_sharedMachine crowdedMoves⟩

/-- How many handles the clients have in the end. -/
example : ((start sharedMachine).after crowdedMoves).clients.map (·.live.length)
    = [2, 0, 1, 0, 0, 0] := by
  decide +kernel

end Scene

end UidPolicy
