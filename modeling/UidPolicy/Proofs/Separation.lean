import UidPolicy.Proofs.Dependence
import UidPolicy.Proofs.Memory.Setting
import UidPolicy.Proofs.Request

/-!
# The controllers do not interfere

Each controller has a place of its own: a map, or one key of the configuration map. What it does
there, and what it answers, does not depend on the requests that the other controllers serve in
between.

- `Store.Spot`, `Store.spot`: all that reads and writes of one key of a map meet.
- `World.AgreeAt`: two worlds agree on the place that a lock guards, its chosen failures
  included. The selector's place counts the calls of the barrier as well.
- `Request.respects_agreeAt`, `Request.agreeAt_after`: a controller's own requests preserve
  agreement on its place, and requests that write elsewhere leave the place alone.
- `Separate`: a run, compared with the runs of the single controllers.
- `controllers_separate`: every run without an initialisation, from any world, is separate.
-/

namespace UidPolicy

open Memory (World Setting)

/-! ## One key of a map -/

/-- All that reads and writes of one key meet: what is stored there, whether reads fail, and whether
writes of this key do. Two maps with the same spot cannot be told apart under this key. -/
structure Store.Spot (V : Type) where
  -- the four things that the operations of one key look up; whatever else a map has, its walk and
  -- the other keys, no read or write of the key can see
  stored : Option V
  vanished : Bool
  /-- Why a write fails, if it does. -/
  refusal : Option Fault
  readErrno : Option Errno

namespace Store

variable {K V : Type} [Ranked K] [DecidableEq K]

/-- What reads and writes of a key meet in a map. -/
def spot (s : Store K V) (k : K) : Spot V :=
  ⟨s.content.get? k, s.vanished k, s.writeFault? k, s.readErrno⟩

omit [DecidableEq K] in
theorem result_get_of_spot {s s' : Store K V} {k : K} (h : s.spot k = s'.spot k) :
    ((get k).run s).result = ((get k).run s').result := by
  have hstored : s.content.get? k = s'.content.get? k := congrArg Spot.stored h
  have hvanished : s.vanished k = s'.vanished k := congrArg Spot.vanished h
  have hread : s.readErrno = s'.readErrno := congrArg Spot.readErrno h
  have hvisible : s.visible? k = s'.visible? k := by
    rw [visible?, visible?, hstored, hvanished]
  show (get k s).result = (get k s').result
  rw [get, get, hread]
  cases s'.readErrno with
  | some errno => rfl
  | none => exact congrArg Except.ok hvisible

/-- So is what a write answers, and what it leaves behind there. -/
theorem put_of_spot {s s' : Store K V} {k : K} (h : s.spot k = s'.spot k) (v : V) :
    ((put k v).run s).result = ((put k v).run s').result ∧
      ((put k v).run s).world.spot k = ((put k v).run s').world.spot k := by
  have hfault : s.writeFault? k = s'.writeFault? k := congrArg Spot.refusal h
  have hread : s.readErrno = s'.readErrno := congrArg Spot.readErrno h
  show (put k v s).result = (put k v s').result ∧
    (put k v s).world.spot k = (put k v s').world.spot k
  rw [put, put, hfault]
  cases hrefuse : s'.writeFault? k with
  | some e => exact ⟨rfl, h⟩
  | none =>
    -- what is stored afterwards is the value that both wrote, and the refusals are those of before
    refine ⟨rfl, ?_⟩
    -- a written key reads back, also where it had vanished from under the walk
    have hspot : ∀ t : Store K V,
        (t.touched k (t.content.insert k v)).spot k
          = ⟨some v, false, t.writeFault? k, t.readErrno⟩ := by
      intro t
      have hstored : (t.content.insert k v).get? k = some v := by
        rw [SortedMap.get?_insert, if_pos rfl]
      have hpresent : (t.touched k (t.content.insert k v)).vanished k = false := if_pos rfl
      rw [spot, hpresent]
      exact congrArg (fun stored => Spot.mk stored false _ _) hstored
    rw [hspot, hspot, hfault, hread]

theorem spot_put_of_ne (s : Store K V) {k k' : K} (hk : k' ≠ k) (v : V) :
    ((put k v).run s).world.spot k' = s.spot k' := by
  show (put k v s).world.spot k' = s.spot k'
  rw [put]
  cases s.writeFault? k with
  | some e => rfl
  | none =>
    have hstored : (s.content.insert k v).get? k' = s.content.get? k' := by
      rw [SortedMap.get?_insert, if_neg hk]
    have hvanished : (s.touched k (s.content.insert k v)).vanished k' = s.vanished k' := if_neg hk
    show Spot.mk ((s.content.insert k v).get? k') _ _ _ = _
    rw [hstored, hvanished]
    rfl

end Store

/-! ## Agreement on a place -/

namespace Memory.World

/-- The worlds agree on the place that a lock guards, its chosen failures included. The place may be
a whole map or one key of it: two controllers share a map, with one key each. -/
def AgreeAt : Lock → World → World → Prop
  | .uidOwner, w, w' => w.uidOwner = w'.uidOwner
  | .permission, w, w' => w.uidPermission = w'.uidPermission
  | .ingressDiscard, w, w' => w.ingressDiscard = w'.ingressDiscard
  | .dataSaver, w, w' => w.dataSaver = w'.dataSaver
  | .chainSwitch, w, w' =>
    w.configuration.spot ChainSwitch.key = w'.configuration.spot ChainSwitch.key
  | .statsSelector, w, w' =>
    (w.configuration.spot Stats.key, w.barrierCalls)
      = (w'.configuration.spot Stats.key, w'.barrierCalls)

namespace AgreeAt

variable {l : Lock} {w w' w'' : World}

theorem refl (l : Lock) (w : World) : AgreeAt l w w := by
  cases l <;> exact rfl

theorem symm (h : AgreeAt l w w') : AgreeAt l w' w := by
  cases l <;> exact Eq.symm h

theorem trans (h : AgreeAt l w w') (h' : AgreeAt l w' w'') : AgreeAt l w w'' := by
  cases l <;> exact Eq.trans h h'

end AgreeAt

/-- The place that a lock guards stays as it is. What happens to other keys of the same map is none
of its business. -/
def sparing (l : Lock) : Scope World where
  allows := AgreeAt l
  refl := AgreeAt.refl l
  trans := AgreeAt.trans

end Memory.World

open Memory.World (AgreeAt)

/-! ## What the operations on the places do -/

namespace Memory.Setting

variable (s : Setting)

/-- How a call of the barrier ends depends on nothing but the selector's place: on the selector,
its failures, and the number of calls before. -/
def BarrierSeparate : Prop := ∀ w w', AgreeAt .statsSelector w w' → s.barrier w = s.barrier w'

/-- All that a controller does at its place preserves agreement there. -/
theorem respects_agreeAt (hbarrier : s.BarrierSeparate) (l : Lock) :
    s.backing.Respects (AgreeAt l) l := by
  cases l with
  | uidOwner => exact Store.table.respects_zoom World.uidOwnerPart
  | permission => exact Store.table.respects_zoom World.uidPermissionPart
  | ingressDiscard => exact Store.table.respects_zoom World.ingressDiscardPart
  | dataSaver => exact Store.table.respects_zoom World.dataSaverPart
  | chainSwitch =>
    refine ⟨fun w w' hw => ⟨Store.result_get_of_spot hw, ?_⟩, fun v w w' hw => ?_⟩
    · rw [s.orderly.configuration.get, s.orderly.configuration.get]
      exact hw
    · exact Store.put_of_spot hw v
  -- this place is a key and the count of barrier calls, so a write and the barrier each move one
  -- half of it
  | statsSelector =>
    have hparts : ∀ {w w' : World}, AgreeAt .statsSelector w w' →
        w.configuration.spot Stats.key = w'.configuration.spot Stats.key ∧
          w.barrierCalls = w'.barrierCalls :=
      fun hw => ⟨congrArg Prod.fst hw, congrArg Prod.snd hw⟩
    refine ⟨fun w w' hw => ⟨Store.result_get_of_spot (hparts hw).1, ?_⟩, fun v w w' hw => ?_,
      fun w w' hw => ⟨hbarrier w w' hw, ?_⟩⟩
    · rw [s.orderly.configuration.get, s.orderly.configuration.get]
      exact hw
    · obtain ⟨hanswer, hspot⟩ := Store.put_of_spot (hparts hw).1 v
      exact ⟨hanswer, Prod.ext hspot (hparts hw).2⟩
    · exact Prod.ext (hparts hw).1 (congrArg (· + 1) (hparts hw).2)

/-- A write to one place leaves every other place alone, be it another key of the same map. -/
theorem writes_spare {l l' : Lock} (hne : l' ≠ l) :
    s.backing.WritesWithin (World.sparing l) l' := by
  cases l' with
  | uidOwner | permission | ingressDiscard =>
    refine ⟨fun _ _ _ => ?_, fun _ _ => ?_⟩ <;> cases l <;>
      first | exact absurd rfl hne | exact rfl
  | dataSaver => intro _ _; cases l <;> first | exact absurd rfl hne | exact rfl
  -- the two words live in one map, under different keys
  | chainSwitch =>
    intro v w
    cases l with
    | chainSwitch => exact absurd rfl hne
    | statsSelector =>
      have hkeys : Stats.key ≠ ChainSwitch.key := by decide
      have hspot := Store.spot_put_of_ne w.configuration hkeys v
      exact congrArg (fun spot => (spot, w.barrierCalls)) hspot.symm
    | _ => exact rfl
  | statsSelector =>
    intro v w
    cases l with
    | statsSelector => exact absurd rfl hne
    | chainSwitch =>
      have hkeys : ChainSwitch.key ≠ Stats.key := by decide
      exact (Store.spot_put_of_ne w.configuration hkeys v).symm
    | _ => exact rfl

theorem barrier_spares {l : Lock} (hl : l ≠ .statsSelector) :
    s.backing.barrier.Within (World.sparing l) := by
  cases l with
  | statsSelector => exact absurd rfl hl
  | _ => exact fun _ => rfl

/-- No write, and no call of the barrier, reaches the tagged sockets. -/
theorem writes_keep_tags (l : Lock) : s.backing.WritesWithin (.keeping World.cookieTag) l := by
  cases l with
  | uidOwner | permission | ingressDiscard => exact ⟨fun _ _ _ => rfl, fun _ _ => rfl⟩
  | dataSaver | chainSwitch | statsSelector => exact fun _ _ => rfl

end Memory.Setting

/-! ## Runs -/

namespace Request

variable {s : Setting} {l : Lock} {r : Request} {w w' : World}

/-- A controller's own request answers alike where its place is the same, and leaves it the
same. -/
theorem respects_agreeAt (hbarrier : s.BarrierSeparate) (howner : r.owner = some l) :
    (r.run s.backing).Respects (AgreeAt l) :=
  respects howner (fun _ => .pure _) (s.respects_agreeAt hbarrier l)

theorem agreeAt_after (hl : l ∉ r.written) : AgreeAt l w (after s.backing w r) := by
  -- by its writes, none of which is at this place, and the barrier, which a request of another
  -- place does not call
  refine within s.orderly (S := World.sparing l) (fun l' hl' => ?_) (fun hswap => ?_) w
  · refine s.writes_spare fun hsame => hl ?_
    rw [← hsame]
    exact hl'
  · refine s.barrier_spares fun hselector => hl ?_
    rw [hswap, hselector]
    exact .head _

/-- The requests of a run that belong to one controller, in their order. Queries and the
initialisation belong to none. -/
def ownedBy (l : Lock) (rs : List Request) : List Request := rs.filter fun r => r.owner = some l

/-- **One controller's part of a run**: from worlds that agree on its place, the whole run and the
run of its own requests agree on it again, and answer its requests alike. -/
theorem owned_part (hbarrier : s.BarrierSeparate) {rs : List Request} (hinit : .init ∉ rs)
    (hw : AgreeAt l w w') :
    AgreeAt l (afterAll s.backing w rs) (afterAll s.backing w' (ownedBy l rs)) ∧
      (answers s.backing w rs).filter (fun a => a.1.owner = some l)
        = answers s.backing w' (ownedBy l rs) := by
  induction rs generalizing w w' with
  | nil => exact ⟨hw, rfl⟩
  | cons r rs ih =>
    obtain ⟨hfirst, hrest⟩ := not_or.1 (mt List.mem_cons.2 hinit)
    by_cases howner : r.owner = some l
    · obtain ⟨hanswer, hnext⟩ := respects_agreeAt hbarrier howner w w' hw
      obtain ⟨hplace, hanswers⟩ := ih hrest hnext
      have howned : ownedBy l (r :: rs) = r :: ownedBy l rs :=
        List.filter_cons_of_pos (decide_eq_true howner)
      have hkept : (answers s.backing w (r :: rs)).filter (fun a => a.1.owner = some l)
          = (r, ((r.run s.backing).run w).result) :: answers s.backing (after s.backing w' r)
              (ownedBy l rs) := by
        rw [answers, List.filter_cons, if_pos (decide_eq_true howner)]
        exact congrArg (List.cons _) hanswers
      rw [howned, hkept, hanswer]
      exact ⟨hplace, rfl⟩
    -- a request of another controller writes elsewhere: the whole run moves on alone, still in
    -- agreement
    · have hspared : l ∉ r.written := fun hl => howner (owner_of_written (Ne.symm hfirst) hl)
      have hnext : AgreeAt l (after s.backing w r) w' := (agreeAt_after hspared).symm.trans hw
      obtain ⟨hplace, hanswers⟩ := ih hrest hnext
      have howned : ownedBy l (r :: rs) = ownedBy l rs :=
        List.filter_cons_of_neg (by simpa using howner)
      have hdropped : (answers s.backing w (r :: rs)).filter (fun a => a.1.owner = some l)
          = (answers s.backing (after s.backing w r) rs).filter fun a => a.1.owner = some l :=
        List.filter_cons_of_neg (by simpa using howner)
      rw [howned, hdropped]
      exact ⟨hplace, hanswers⟩

/-- No request reaches the tagged sockets. -/
theorem cookieTag_afterAll (s : Setting) (w : World) (rs : List Request) :
    (afterAll s.backing w rs).cookieTag = w.cookieTag := by
  refine afterAll_induction s.backing (P := fun w' => w'.cookieTag = w.cookieTag) rfl
    fun r _ w' hw' => ?_
  have hkept : (after s.backing w' r).cookieTag = w'.cookieTag :=
    within s.orderly (S := .keeping World.cookieTag) (fun l _ => s.writes_keep_tags l)
      (fun _ _ => rfl) w'
  exact hkept.trans hw'

/-- A query in the middle of a run changes neither the world after it nor another answer, also where
it fails. -/
theorem query_inserted (s : Setting) (w : World) {q : Request} (hq : q.written = [])
    (before rest : List Request) :
    afterAll s.backing w (before ++ q :: rest) = afterAll s.backing w (before ++ rest) ∧
      ∃ answer later,
        answers s.backing w (before ++ q :: rest)
            = answers s.backing w before ++ (q, answer) :: later ∧
          answers s.backing w (before ++ rest) = answers s.backing w before ++ later := by
  have hstill : ∀ w, after s.backing w q = w := still s.orderly hq
  constructor
  · rw [afterAll_append, afterAll_append]
    show afterAll _ (after _ _ q) rest = _
    rw [hstill]
  · refine ⟨((q.run s.backing).run (afterAll s.backing w before)).result,
      answers s.backing (afterAll s.backing w before) rest, ?_, answers_append ..⟩
    rw [answers_append, answers, hstill]

end Request

/-! ## Separation -/

open Request (afterAll answers ownedBy)

/-- A run, compared with the runs of the single controllers: if all that anyone can see of a
controller is what it would have been alone, then no other one has interfered. -/
structure Separate (s : Setting) (w : World) (rs : List Request) : Prop where
  /-- Each place ends as if only its controller had been asked. -/
  place : ∀ l, AgreeAt l (afterAll s.backing w rs) (afterAll s.backing w (ownedBy l rs))
  /-- Each controller answers as if only it had been asked, with the same faults at the same
  requests. -/
  answered : ∀ l, (answers s.backing w rs).filter (fun a => a.1.owner = some l)
    = answers s.backing w (ownedBy l rs)
  /-- The tagged sockets are out of reach. -/
  tags : (afterAll s.backing w rs).cookieTag = w.cookieTag
  /-- A query more, anywhere in the run, changes neither a map nor an answer. -/
  query : ∀ before rest q, rs = before ++ rest → q.written = [] →
    afterAll s.backing w (before ++ q :: rest) = afterAll s.backing w rs ∧
      ∃ answer later,
        answers s.backing w (before ++ q :: rest)
            = answers s.backing w before ++ (q, answer) :: later ∧
          answers s.backing w rs = answers s.backing w before ++ later

/-- **The controllers do not interfere**: every run without an initialisation is separate, from
any world and with any failures. -/
theorem controllers_separate (s : Setting) (hbarrier : s.BarrierSeparate) (w : World)
    (rs : List Request) (hinit : .init ∉ rs) : Separate s w rs where
  place l := (Request.owned_part hbarrier hinit (AgreeAt.refl l w)).1
  answered l := (Request.owned_part hbarrier hinit (AgreeAt.refl l w)).2
  tags := Request.cookieTag_afterAll s w rs
  query := by
    rintro before rest q rfl hq
    exact Request.query_inserted s w hq before rest

/-- Both words are stored, writes of the record of 10002 fail, and data saver cannot be read. -/
def troubledWorld : World :=
  { World.empty with
    configuration :=
      { (Store.empty : Store UInt32 UInt32) with content := .ofList [(0, 4), (1, 1)] }
    uidOwner := Store.empty.failWritesFor 10002
    dataSaver := { (Store.empty : Store UInt32 UInt8) with readErrno := some .inputOutput } }

/-- The permissions' lock is poisoned, and the barrier fails at its second call. -/
def troubledSetting : Setting where
  interfaces := []
  poisoned l := l = .permission
  barrier w :=
    if w.barrierCalls = 1 then .error (.resource "synchronize_kernel_rcu" .inputOutput) else .ok ()

/-- Requests of five controllers, and queries about several maps, in between each other. -/
def mixedRun : List Request :=
  [.swapStats, .setChain .standby true, .mutate (.replaceChain .oemDeny1 [10001, 10002]),
    .isBlocked 10001 false, .setSaver true, .saver, .swapStats, .setPermission 10001 12,
    .setChain .dozable false, .sizes]

theorem barrierSeparate_troubledSetting : troubledSetting.BarrierSeparate := by
  intro w w' hw
  have hcalls : w.barrierCalls = w'.barrierCalls := congrArg Prod.snd hw
  rw [troubledSetting]
  dsimp only
  rw [hcalls]

/-- The run is separate in spite of its failures. Its first two requests change both words of the
configuration. -/
theorem mixedRun_separate :
    troubledSetting.BarrierSeparate ∧ .init ∉ mixedRun ∧
      Separate troubledSetting troubledWorld mixedRun ∧
      (afterAll troubledSetting.backing troubledWorld
        [.swapStats, .setChain .standby true]).configuration.content.toList
          = [(0, 12), (1, 0)] := by
  have hinit : .init ∉ mixedRun := by simp [mixedRun]
  refine ⟨barrierSeparate_troubledSetting, hinit, ?_, by decide⟩
  exact controllers_separate troubledSetting barrierSeparate_troubledSetting troubledWorld mixedRun
    hinit

end UidPolicy
