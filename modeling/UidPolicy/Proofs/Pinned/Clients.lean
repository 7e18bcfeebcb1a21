import UidPolicy.Proofs.Pinned.Loading

/-!
# Clients of the maps

A client opens maps one after the other and holds the handles until it closes them. Between two of
its openings anything may happen, so a client takes one opening at a time.

- `Live`: a handle that is open, with the wish that it fulfils and the number of its map.
  `Live.Apart`: of two handles on maps with one number, one that is its only writer leaves the other
  without a lock.
- `Kernel.Charted`: the paths of a machine lead where they led at the start, or nowhere any more.
- `Holds`: the locks of the machine are those of the live handles, and those of other owners that
  were there at the start. Opening and closing keep this up (`Holds.granted`, `Holds.denied`,
  `Holds.close`).
- `Client`, `Client.proceed`: the next opening of a client. One that would wait is not made; one
  that fails otherwise closes all that the client holds.
- `Client.proceeds_openThen`: left alone, a client does what a row of openings does.
-/

namespace UidPolicy

/-! ## Where the maps are -/

/-- The paths of a machine lead where they led at the start, or nowhere any more, and its maps have
the numbers that they had. What they store is another matter. -/
structure Kernel.Charted (start k : Kernel) : Prop where
  pins : ∀ path map, k.pins path = some map → start.pins path = some map
  ids : ∀ map, (k.maps map).id = (start.maps map).id

namespace Kernel.Charted

variable {start k k' : Kernel}

theorem refl (k : Kernel) : k.Charted k := ⟨fun _ _ => id, fun _ => rfl⟩

theorem of_atlas (h : start.Charted k) (hatlas : k'.atlas = k.atlas) : start.Charted k' where
  pins path map hmap := h.pins path map (pins_eq hatlas ▸ hmap)
  ids map := (id_eq hatlas map).trans (h.ids map)

end Kernel.Charted

/-! ## Live handles -/

/-- A way of sharing that makes a handle the only writer. There are two, which take the same lock
and differ in whether they wait for it. -/
def Sharing.IsWriter (sharing : Sharing) : Prop := sharing = .single ∨ sharing = .singleWait

theorem Sharing.IsWriter.lock? {sharing : Sharing} (h : sharing.IsWriter) :
    sharing.lock? = some .write := by
  rcases h with rfl | rfl <;> rfl

theorem Sharing.eq_lockless {sharing : Sharing} (h : sharing.lock? = none) :
    sharing = .lockless := by
  cases sharing with
  | lockless => rfl
  | single | singleWait | shared => cases h

/-- A handle that is open, with the wish that it fulfils and the number of its map. The number is
what the machine told when the map was opened, and it is the byte that was locked. -/
structure Live where
  wish : Wish
  handle : Handle
  id : UInt32

namespace Live

/-- The handle that fulfils a wish on a machine. The number of the map is noted when it is opened:
that is the byte that was locked. -/
def on (k : Kernel) (w : Wish) (h : Handle) : Live := ⟨w, h, (k.maps h.map).id⟩

theorem on_congr {k k' : Kernel} (h : k'.atlas = k.atlas) : on k' = on k := by
  funext w handle
  rw [on, on, Kernel.id_eq h]

/-- The lock of the handle. -/
def lock? (l : Live) : Option HeldLock := l.wish.sharing.lockBy l.handle.owner l.id

/-- The handle is what was wished for: its map is the one that the path led to at the start, and
its number is the one of this map. -/
structure Fits (start : Kernel) (l : Live) : Prop where
  access : l.handle.access = l.wish.access
  map : start.pins l.wish.path = some l.handle.map
  id : l.id = (start.maps l.handle.map).id

/-- Of two handles on maps with one number, the only writer leaves the other one without a lock.
Locks are taken on a byte, so it is the numbers that have to be equal here, not the maps. -/
structure Apart (l l' : Live) : Prop where
  left : l.id = l'.id → l.wish.sharing.IsWriter → l'.wish.sharing = .lockless
  right : l.id = l'.id → l'.wish.sharing.IsWriter → l.wish.sharing = .lockless

theorem Apart.symm {l l' : Live} (h : l.Apart l') : l'.Apart l :=
  ⟨fun hid => h.right hid.symm, fun hid => h.left hid.symm⟩

theorem lock?_eq_some {l : Live} {kind : LockKind} (h : l.wish.sharing.lock? = some kind) :
    l.lock? = some ⟨l.handle.owner, Pinned.lockedRange l.id, kind⟩ := by
  rw [lock?, Sharing.lockBy, h]
  rfl

end Live

namespace Wish.Granted

variable {w : Wish} {start k k' : Kernel} {h : Handle} (hgranted : w.Granted k k' h)

include hgranted

theorem fits (hk : start.Charted k) : (Live.on k' w h).Fits start where
  access := hgranted.access
  map := hk.pins _ _ hgranted.map
  id := (Kernel.id_eq hgranted.atlas h.map).trans (hk.ids h.map)

/-- A handle that was granted stands apart from every handle of another owner whose lock was held:
on maps with one number the two ask for the same byte. -/
theorem apart {l : Live} (hl : ∀ held, l.lock? = some held → held ∈ k.locks)
    (howner : l.handle.owner ≠ h.owner) : (Live.on k' w h).Apart l := by
  -- the new lock was free, so it conflicts with no lock that another owner has on the same byte
  have hnone : ∀ kind kind', w.sharing.lock? = some kind → l.wish.sharing.lock? = some kind' →
      (Live.on k' w h).id = l.id → kind'.conflicts kind = false := by
    intro kind kind' hkind hkind' hid
    have hbyte : (Pinned.lockedRange l.id).overlaps (Pinned.lockedRange (k.maps h.map).id)
        = true := by
      refine ByteRange.overlaps_single.2 (congrArg UInt32.toNat ?_)
      exact hid.symm.trans (Kernel.id_eq hgranted.atlas h.map)
    have hheld := List.any_eq_false.1 (hgranted.free kind hkind) _
      (hl _ (Live.lock?_eq_some hkind'))
    rw [decide_eq_true howner, hbyte, Bool.true_and, Bool.true_and] at hheld
    exact Bool.eq_false_iff.2 hheld
  constructor
  · intro hid hwriter
    refine Sharing.eq_lockless (Option.eq_none_iff_forall_ne_some.2 fun kind' hkind' => ?_)
    -- a lock for writing conflicts with every lock, so the other handle has none
    have := hnone .write kind' hwriter.lock? hkind' hid
    cases kind' <;> cases this
  · intro hid hwriter
    refine Sharing.eq_lockless (Option.eq_none_iff_forall_ne_some.2 fun kind hkind => ?_)
    have := hnone kind .write hkind hwriter.lock? hid
    cases kind <;> cases this

end Wish.Granted

/-! ## The locks that are held -/

/-- The machine holds the locks of some live handles, and besides them those that other owners
have held since the start. -/
structure Holds (start k : Kernel) (ls : List Live) : Prop where
  /-- The others are not owners of a number, so that no new owner is taken for one of them when it
  gives up its lock. -/
  others : ∀ held ∈ start.locks, ∀ n, held.owner ≠ .handle n
  charted : start.Charted k
  numbered : ∀ l ∈ ls, ∃ n, l.handle.owner = .handle n ∧ n < k.nextOwner
  distinct : ls.Pairwise fun l l' => l.handle.owner ≠ l'.handle.owner
  locks : ∀ held, held ∈ k.locks ↔ held ∈ start.locks ∨ ∃ l ∈ ls, l.lock? = some held
  fits : ∀ l ∈ ls, l.Fits start
  apart : ls.Pairwise Live.Apart

namespace Holds

variable {start k k' : Kernel} {ls ls' : List Live}

theorem kernel_numbered (h : Holds start k ls) : k.Numbered := by
  intro held hheld n hn
  rcases (h.locks held).1 hheld with hother | ⟨l, hl, hlock⟩
  · exact absurd hn (h.others held hother n)
  · obtain ⟨m, hm, hlt⟩ := h.numbered l hl
    rw [← Sharing.owner_of_lockBy hlock, hn] at hm
    cases hm
    exact hlt

theorem perm (h : Holds start k ls) (hperm : ls.Perm ls') : Holds start k ls' where
  others := h.others
  charted := h.charted
  numbered l hl := h.numbered l (hperm.mem_iff.2 hl)
  distinct := (hperm.pairwise_iff fun h => h.symm).1 h.distinct
  locks held := by
    rw [h.locks held]
    simp only [hperm.mem_iff]
  fits l hl := h.fits l (hperm.mem_iff.2 hl)
  apart := (hperm.pairwise_iff fun h => h.symm).1 h.apart

/-- Only the locks of the machine, its numbers and its pins matter: what is stored may change as it
likes, and other processes change nothing else. -/
theorem of_locks (h : Holds start k ls) (hlocks : k'.locks = k.locks)
    (hnext : k.nextOwner ≤ k'.nextOwner) (hcharted : start.Charted k') : Holds start k' ls where
  others := h.others
  charted := hcharted
  numbered l hl := by
    obtain ⟨n, hn, hlt⟩ := h.numbered l hl
    exact ⟨n, hn, by omega⟩
  distinct := h.distinct
  locks held := by rw [hlocks, h.locks]
  fits := h.fits
  apart := h.apart

theorem denied (h : Holds start k ls) {w : Wish} {e : OpenError} (hdenied : w.Denied k k' e) :
    Holds start k' ls :=
  h.of_locks (hdenied.locks h.kernel_numbered) hdenied.nextOwner
    (h.charted.of_atlas hdenied.atlas)

theorem granted (h : Holds start k ls) {w : Wish} {handle : Handle}
    (hgranted : w.Granted k k' handle) : Holds start k' (.on k' w handle :: ls) := by
  have hnext : k'.nextOwner = k.nextOwner + 1 := congrArg Prod.snd hgranted.register
  -- the new owner has a number that none of the live handles has
  have hnew : ∀ l ∈ ls, l.handle.owner ≠ handle.owner := by
    intro l hl howner
    obtain ⟨n, hn, hlt⟩ := h.numbered l hl
    rw [howner, hgranted.owner] at hn
    cases hn
    omega
  refine
    { others := h.others
      charted := h.charted.of_atlas hgranted.atlas
      numbered := fun l hl => ?_
      distinct := List.pairwise_cons.2 ⟨fun l hl => (hnew l hl).symm, h.distinct⟩
      locks := fun held => ?_
      fits := List.forall_mem_cons.2 ⟨hgranted.fits h.charted, h.fits⟩
      apart := List.pairwise_cons.2 ⟨fun l hl => ?_, h.apart⟩ }
  · rcases List.mem_cons.1 hl with rfl | hl
    · exact ⟨k.nextOwner, hgranted.owner, by omega⟩
    · obtain ⟨n, hn, hlt⟩ := h.numbered l hl
      exact ⟨n, hn, by omega⟩
  · have hlocks : k'.locks = _ := congrArg Prod.fst hgranted.register
    have hid : (Live.on k' w handle).id = (k.maps handle.map).id :=
      Kernel.id_eq hgranted.atlas handle.map
    rw [hlocks, List.mem_append, Option.mem_toList, h.locks held, ← hid]
    simp only [List.mem_cons, exists_eq_or_imp]
    exact or_left_comm
  · exact hgranted.apart (fun held hheld => (h.locks held).2 (.inr ⟨l, hl, hheld⟩)) (hnew l hl)

/-- Closing a handle gives up its lock and no other. -/
theorem close {l : Live} (h : Holds start k (l :: ls)) : Holds start (k.close l.handle) ls := by
  obtain ⟨hapartOwner, hdistinct⟩ := List.pairwise_cons.1 h.distinct
  refine ⟨h.others, h.charted.of_atlas rfl,
    fun l' hl' => h.numbered l' (List.mem_cons_of_mem _ hl'), hdistinct, ?_,
    fun l' hl' => h.fits l' (List.mem_cons_of_mem _ hl'), (List.pairwise_cons.1 h.apart).2⟩
  obtain ⟨n, hn, -⟩ := h.numbered l (List.mem_cons_self ..)
  intro held
  rw [Kernel.close, Kernel.mem_locks_release, h.locks held]
  simp only [List.mem_cons, exists_eq_or_imp]
  -- what the owner of the closed handle held is its lock and no other: the others have owners of
  -- their own
  constructor
  · rintro ⟨hother | hown | hrest, howner⟩
    · exact .inl hother
    · exact absurd (Sharing.owner_of_lockBy hown) howner
    · exact .inr hrest
  · rintro (hother | ⟨l', hl', hlock⟩)
    · exact ⟨.inl hother, fun howner => h.others held hother n (howner.trans hn)⟩
    · refine ⟨.inr (.inr ⟨l', hl', hlock⟩), fun howner => hapartOwner l' hl' ?_⟩
      exact howner.symm.trans (Sharing.owner_of_lockBy hlock)

/-- Closing several handles gives up their locks and no others. -/
theorem closeAll (h : Holds start k (ls ++ ls')) :
    Holds start (ls.foldl (fun k l => k.close l.handle) k) ls' := by
  induction ls generalizing k with
  | nil => exact h
  | cons l ls ih => exact ih (close h)

end Holds

/-! ## Clients -/

/-- A client of the maps: a process that opens some maps one after the other, and goes on when it
has them all. What it came for is kept beside what it still wants, to tell what an open handle is
for. -/
structure Client where
  /-- All that it came for. -/
  asked : List Wish
  /-- What it has still to open, in order. -/
  wanted : List Wish
  /-- What it holds, the newest handle first. -/
  live : List Live

namespace Client

/-- A client that has not opened anything yet. -/
def new (wishes : List Wish) : Client := ⟨wishes, wishes, []⟩

/-- The client opens the next map that it wants. Where it would have to wait, nothing happens;
where the map cannot be opened, it closes all that it holds and gives up. -/
def proceed (c : Client) (k : Kernel) : Client × Kernel :=
  match c.wanted with
  | [] => (c, k)
  | w :: ws =>
    match (w.opening.run k).result with
    | .ok h =>
      ({ c with wanted := ws, live := .on (w.opening.run k).world w h :: c.live },
        (w.opening.run k).world)
    | .error (.waits _) => (c, k)
    | .error _ =>
      ({ c with wanted := [], live := [] },
        c.live.foldl (fun k l => k.close l.handle) (w.opening.run k).world)

/-- Several openings in a row, nobody else having a turn between them. -/
def proceeds : Nat → Client × Kernel → Client × Kernel
  | 0, ck => ck
  | n + 1, ck => proceeds n (ck.1.proceed ck.2)

/-- The client holds and wants only what it came for. Nothing else lets one conclude from what a
client came for which handles it cannot have. -/
structure Honest (c : Client) : Prop where
  live : ∀ l ∈ c.live, l.wish ∈ c.asked
  wanted : ∀ w ∈ c.wanted, w ∈ c.asked

section Proceed

variable {c : Client} {k : Kernel}

theorem proceed_of_wanted_nil (h : c.wanted = []) : c.proceed k = (c, k) := by
  rw [proceed, h]

theorem proceeds_of_wanted_nil (h : c.wanted = []) (n : Nat) : proceeds n (c, k) = (c, k) := by
  induction n with
  | zero => rfl
  | succ n ih => rw [proceeds, proceed_of_wanted_nil h, ih]

theorem proceed_of_ok {w : Wish} {ws : List Wish} {h : Handle} (hwanted : c.wanted = w :: ws)
    (hresult : (w.opening.run k).result = .ok h) :
    c.proceed k
      = ({ c with wanted := ws, live := .on (w.opening.run k).world w h :: c.live },
          (w.opening.run k).world) := by
  simp only [proceed, hwanted, hresult]

theorem proceed_of_waits {w : Wish} {ws : List Wish} {name : String}
    (hwanted : c.wanted = w :: ws) (hresult : (w.opening.run k).result = .error (.waits name)) :
    c.proceed k = (c, k) := by
  simp only [proceed, hwanted, hresult]

theorem proceed_of_error {w : Wish} {ws : List Wish} {e : OpenError}
    (hwanted : c.wanted = w :: ws) (hresult : (w.opening.run k).result = .error e)
    (hwaits : ∀ name, e ≠ .waits name) :
    c.proceed k = ({ c with wanted := [], live := [] },
      c.live.foldl (fun k l => k.close l.handle) (w.opening.run k).world) := by
  cases e with
  | waits name => exact absurd rfl (hwaits name)
  | _ => simp only [proceed, hwanted, hresult]

/-- **The next opening of a client keeps the locks in order**, whichever way it goes: a granted
handle joins the others, a denied one leaves the machine as it was and the client gives up what it
had, and a client that waits has changed nothing. -/
theorem holds_proceed {start : Kernel} {others : List Live}
    (h : Holds start k (c.live ++ others)) :
    Holds start (c.proceed k).2 ((c.proceed k).1.live ++ others) := by
  cases hwanted : c.wanted with
  | nil => rwa [proceed_of_wanted_nil hwanted]
  | cons w ws =>
    rcases w.opening_cases k with
      ⟨handle, hresult, hgranted, -⟩ | ⟨e, hresult, hdenied⟩
    · rw [proceed_of_ok hwanted hresult]
      exact h.granted hgranted
    -- an opening that would wait is not made, so there is nothing to keep up
    · by_cases hwaits : ∃ name, e = .waits name
      · obtain ⟨name, rfl⟩ := hwaits
        rwa [proceed_of_waits hwanted hresult]
      · rw [proceed_of_error hwanted hresult fun name he => hwaits ⟨name, he⟩]
        exact (h.denied hdenied).closeAll

theorem honest_proceed (h : c.Honest) :
    (c.proceed k).1.Honest ∧ (c.proceed k).1.asked = c.asked := by
  cases hwanted : c.wanted with
  | nil => rw [proceed_of_wanted_nil hwanted]; exact ⟨h, rfl⟩
  | cons w ws =>
    have hw : w ∈ c.asked := h.wanted w (hwanted ▸ List.mem_cons_self ..)
    -- what is opened was wanted, and what is closed is held no more
    cases hresult : (w.opening.run k).result with
    | ok handle =>
      rw [proceed_of_ok hwanted hresult]
      refine ⟨⟨fun l hl => ?_, fun v hv => h.wanted v (hwanted ▸ List.mem_cons_of_mem _ hv)⟩, rfl⟩
      rcases List.mem_cons.1 hl with rfl | hl
      · exact hw
      · exact h.live l hl
    | error e =>
      by_cases hwaits : ∃ name, e = .waits name
      · obtain ⟨name, rfl⟩ := hwaits
        rw [proceed_of_waits hwanted hresult]
        exact ⟨h, rfl⟩
      · rw [proceed_of_error hwanted hresult fun name he => hwaits ⟨name, he⟩]
        have hheld : ∀ l ∈ ([] : List Live), l.wish ∈ c.asked := nofun
        exact ⟨⟨hheld, nofun⟩, rfl⟩

end Proceed

/-- **A client that is left alone does what a row of openings does**: it ends with the same
handles on the same machine, or it gives up and leaves the machine as the row does, everything
that it held before closed as well. -/
theorem proceeds_openThen {α : Type} {ws : List Wish} {next : List Handle → Pinned.Opening α}
    (hnext : ∀ hs, (next hs).Answering) (hstill : ∀ hs, (next hs).Still) {c : Client}
    (hwanted : c.wanted = ws) (k : Kernel) :
    (∀ a, ((Pinned.openThen ws next).run k).result = .ok a →
        ∃ hs k₁, hs.length = ws.length ∧ ((next hs).run k₁).result = .ok a ∧
          proceeds ws.length (c, k)
            = ({ c with wanted := [], live := (List.zipWith (Live.on k) ws hs).reverse ++ c.live },
                ((Pinned.openThen ws next).run k).world)) ∧
      ∀ e, ((Pinned.openThen ws next).run k).result = .error e → (∀ name, e ≠ .waits name) →
        proceeds ws.length (c, k)
          = ({ c with wanted := [], live := [] },
              c.live.foldl (fun k l => k.close l.handle)
                ((Pinned.openThen ws next).run k).world) := by
  induction ws generalizing next c k with
  | nil =>
    refine ⟨fun a ha => ⟨[], k, rfl, ha, ?_⟩, fun e he => ?_⟩
    · obtain ⟨asked, wanted, live⟩ := c
      obtain rfl : wanted = [] := hwanted
      rw [Pinned.openThen, hstill [] k]
      rfl
    · obtain ⟨a, ha⟩ := hnext [] k
      rw [Pinned.openThen, ha] at he
      cases he
  | cons w ws ih =>
    rw [Pinned.openThen, List.length_cons, proceeds]
    cases hresult : (w.opening.run k).result with
    | error e =>
      rw [Act.run_bind_of_error hresult]
      refine ⟨fun a ha => ?_, fun e' he' hwaits => ?_⟩
      · cases ha
      · cases he'
        rw [proceed_of_error hwanted hresult hwaits, proceeds_of_wanted_nil rfl]
    | ok h =>
      rw [Act.run_bind_of_ok hresult, proceed_of_ok hwanted hresult]
      have hrest := ih (fun hs => hnext (h :: hs)) (fun hs => hstill (h :: hs))
        (c := { c with wanted := ws, live := .on (w.opening.run k).world w h :: c.live }) rfl
        (w.opening.run k).world
      -- what was opened before has left the numbers of the maps as they were
      rw [Live.on_congr (w.granted_of_opening hresult).1.atlas] at hrest ⊢
      rw [Pinned.holding]
      -- the first map is open; the rest of the row ends on its own, and a failure there closes the
      -- first one too
      cases hopened : ((Pinned.openThen ws fun hs => next (h :: hs)).run
          (w.opening.run k).world).result with
      | ok a =>
        rw [Act.run_cleaningUp_ok _ hopened]
        refine ⟨fun b hb => ?_, fun e he => ?_⟩
        · obtain ⟨hs, k₁, hlength, ha, hproceeds⟩ := hrest.1 b hb
          refine ⟨h :: hs, k₁, congrArg (· + 1) hlength, ha, hproceeds.trans ?_⟩
          rw [List.zipWith_cons_cons, List.reverse_cons, List.append_assoc]
          rfl
        · rw [hopened] at he
          cases he
      | error e =>
        rw [Act.run_cleaningUp_error _ hopened]
        refine ⟨fun a ha => ?_, fun e' he' hwaits => ?_⟩
        · cases ha
        · cases he'
          exact hrest.2 e hopened hwaits

theorem proceeds_new {α : Type} (ws : List Wish) {next : List Handle → Pinned.Opening α}
    (hnext : ∀ hs, (next hs).Answering) (hstill : ∀ hs, (next hs).Still) (k : Kernel) :
    (∀ a, ((Pinned.openThen ws next).run k).result = .ok a →
        ∃ hs k₁, hs.length = ws.length ∧ ((next hs).run k₁).result = .ok a ∧
          proceeds ws.length (new ws, k)
            = (⟨ws, [], (List.zipWith (Live.on k) ws hs).reverse⟩,
                ((Pinned.openThen ws next).run k).world)) ∧
      ∀ e, ((Pinned.openThen ws next).run k).result = .error e → (∀ name, e ≠ .waits name) →
        proceeds ws.length (new ws, k)
          = (⟨ws, [], []⟩, ((Pinned.openThen ws next).run k).world) := by
  have hwanted : (new ws).wanted = ws := rfl
  obtain ⟨hopened, hfailed⟩ := proceeds_openThen hnext hstill hwanted k
  refine ⟨fun a ha => ?_, hfailed⟩
  obtain ⟨hs, k₁, hlength, ha, hproceeds⟩ := hopened a ha
  refine ⟨hs, k₁, hlength, ha, hproceeds.trans ?_⟩
  show (Client.mk _ _ (_ ++ []), _) = _
  rw [List.append_nil]
  rfl

end Client

end UidPolicy
