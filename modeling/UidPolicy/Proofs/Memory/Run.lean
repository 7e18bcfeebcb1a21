import UidPolicy.Proofs.Memory.Setting
import UidPolicy.Proofs.Request

/-!
# Runs

A run is a list of turns. At each turn the failures of the maps and the setting are chosen anew,
and one request is made; what the maps hold is carried from turn to turn. A request that fails
does not end the run.

- `Turn`, `Turn.after`, `afterTurns`: a turn, and the world after one turn or several.
- `EachTurn P`: every turn of a run has a property `P` of the world that it starts from.
- `eachTurn_iff`: an invariant survives a run exactly if no turn breaks it.
- `settled`: what the last fitting entry of a log makes of a value. `logged`: the log of a run.
- `afterTurns_settled`: a view of the world that every turn settles by what it logs is settled by
  the log of the whole run.
-/

namespace UidPolicy

open Memory (World Setting)

namespace Memory

/-- The chosen failures of the six maps. They may be others at every turn, so a run meets any
failure at any time. -/
structure Faults where
  configuration : Store.Faults UInt32
  uidOwner : Store.Faults Uid
  uidPermission : Store.Faults Uid
  cookieTag : Store.Faults UInt64
  dataSaver : Store.Faults UInt32
  ingressDiscard : Store.Faults DiscardKey

/-- No map has failures. -/
def Faults.none : Faults := ⟨.none, .none, .none, .none, .none, .none⟩

/-- The same content and count of barrier calls, with other failures. What is stored survives from
turn to turn, and the failures do not. -/
def World.under (w : World) (f : Faults) : World where
  configuration := w.configuration.under f.configuration
  uidOwner := w.uidOwner.under f.uidOwner
  uidPermission := w.uidPermission.under f.uidPermission
  cookieTag := w.cookieTag.under f.cookieTag
  dataSaver := w.dataSaver.under f.dataSaver
  ingressDiscard := w.ingressDiscard.under f.ingressDiscard
  barrierCalls := w.barrierCalls

/-- What a query answers in every setting, whatever fails elsewhere, is one value. Any setting will
do to find out which, and the one without failures is among them. -/
theorem answers_iff_eq {α : Type} {x : Setting → Op World α} {P : Faults → Prop} {w : World}
    {a b : α} (hnone : P .none)
    (hanswer : ∀ s f, P f → ((x s).run (w.under f)).result = .ok b) :
    (∀ s f, P f → ((x s).run (w.under f)).result = .ok a) ↔ a = b := by
  constructor
  · intro h
    have hboth := (h (.ofHost ⟨[], none⟩) .none hnone).symm.trans
      (hanswer (.ofHost ⟨[], none⟩) .none hnone)
    exact Except.ok.inj hboth
  · rintro rfl
    exact hanswer

end Memory

/-! ## Turns -/

/-- A request, with all that it meets besides the content of the maps. A run is a list of turns, and
nothing about one turn binds the next. -/
structure Turn where
  faults : Memory.Faults
  setting : Setting
  request : Request

namespace Turn

/-- A request where nothing fails and there are no interfaces. -/
def plain (r : Request) : Turn := ⟨.none, .ofHost ⟨[], none⟩, r⟩

/-- The world in which the request of a turn is made. -/
def start (t : Turn) (w : World) : World := w.under t.faults

/-- What the request leaves behind: its answer, the world after it and its reports. -/
def outcome (t : Turn) (w : World) : Outcome Fault World Reply :=
  (t.request.run t.setting.backing).run (t.start w)

/-- The world after the turn, whether or not the request succeeds. -/
def after (t : Turn) (w : World) : World := (t.outcome w).world

/-- A request that puts an operation's answer in the form of a reply ends as the operation does. -/
theorem outcome_map {α : Type} {t : Turn} {x : Op World α} {g : α → Reply}
    (hrequest : t.request.run t.setting.backing = g <$> x) (w : World) :
    t.outcome w = ⟨(x.run (t.start w)).result.map g, (x.run (t.start w)).world,
      (x.run (t.start w)).events⟩ := by
  rw [outcome, hrequest, Act.run_map]

end Turn

/-- The world after some turns. A turn that fails does not end the run. -/
def afterTurns (w : World) (ts : List Turn) : World := ts.foldl (fun w t => t.after w) w

/-- Every turn of a run has a property, at the world that it starts from. The property may speak of
that world, as whether an argument is refused depends on it. -/
def EachTurn (P : World → Turn → Prop) (w : World) : List Turn → Prop
  | [] => True
  | t :: ts => P w t ∧ EachTurn P (t.after w) ts

section Runs

variable {I : World → Prop} {P : World → Turn → Prop} {w : World}

theorem eachTurn_of_invariant (hkeep : ∀ (w : World) (t : Turn), I w → I (t.after w))
    (hturn : ∀ w t, I w → P w t) (hw : I w) (ts : List Turn) : EachTurn P w ts := by
  induction ts generalizing w with
  | nil => exact trivial
  | cons t ts ih => exact ⟨hturn w t hw, ih (hkeep w t hw)⟩

/-- **An invariant survives a run exactly if no turn breaks it**, by induction on the run: in either
direction the invariant holds up to a turn, so what the turn meets there decides. -/
theorem eachTurn_iff (hturn : ∀ (w : World) (t : Turn), I w → (I (t.after w) ↔ P w t)) (hw : I w)
    (ts : List Turn) : EachTurn (fun w t => I (t.after w)) w ts ↔ EachTurn P w ts := by
  induction ts generalizing w with
  | nil => exact Iff.rfl
  | cons t ts ih =>
    -- in either direction the invariant is carried to the next turn along with the property
    constructor
    · rintro ⟨hkept, hrest⟩
      exact ⟨(hturn w t hw).1 hkept, (ih hkept).1 hrest⟩
    · rintro ⟨hfirst, hrest⟩
      have hkept := (hturn w t hw).2 hfirst
      exact ⟨hkept, (ih hkept).2 hrest⟩

end Runs

/-! ## Logs -/

section Logs

variable {α β : Type} {fits : β → Bool} {make : β → α}

/-- What the last fitting entry of a log makes of a value; without one the value stays. -/
def settled (fits : β → Bool) (make : β → α) (log : List β) (a : α) : α :=
  ((log.reverse.find? fits).map make).getD a

theorem settled_singleton (entry : β) (a : α) :
    settled fits make [entry] a = if fits entry = true then make entry else a := by
  rw [settled, List.reverse_singleton, List.find?_singleton]
  cases fits entry with
  | true => rfl
  | false => rfl

theorem settled_of_unfit {log : List β} (hunfit : ∀ entry ∈ log, fits entry = false) (a : α) :
    settled fits make log a = a := by
  have hnone : log.reverse.find? fits = none := by
    rw [List.find?_eq_none]
    intro entry hentry
    rw [hunfit entry (List.mem_reverse.1 hentry)]
    exact Bool.false_ne_true
  rw [settled, hnone]
  rfl

/-- A value that is settled in another form settles alike. -/
theorem settled_map {γ : Type} (g : α → γ) (log : List β) (a : α) :
    settled fits (fun entry => g (make entry)) log (g a) = g (settled fits make log a) := by
  rw [settled, settled]
  cases log.reverse.find? fits with
  | some entry => rfl
  | none => rfl

/-- Of a log and its continuation, the continuation decides where it has a fitting entry. So what a
run logs can be cut between any two turns. -/
theorem settled_append (log log' : List β) (a : α) :
    settled fits make (log ++ log') a = settled fits make log' (settled fits make log a) := by
  rw [settled, settled, settled, List.reverse_append, List.find?_append]
  cases log'.reverse.find? fits with
  | some entry => rfl
  | none => rfl

/-- What the turns of a run log, in their order. What a turn logs may depend on the world that it
starts from. -/
def logged (log : World → Turn → List β) : World → List Turn → List β
  | _, [] => []
  | w, t :: ts => log w t ++ logged log (t.after w) ts

/-- **A view that every turn settles by its log, a run settles by its log.** This is how the history
of a map is told from single turns: the induction on the run is made here, once for all maps. -/
theorem afterTurns_settled (view : World → α) {log : World → Turn → List β} {ts : List Turn}
    (hturn : ∀ t ∈ ts, ∀ w, view (t.after w) = settled fits make (log w t) (view w)) (w : World) :
    view (afterTurns w ts) = settled fits make (logged log w ts) (view w) := by
  induction ts generalizing w with
  | nil => rfl
  | cons t ts ih =>
    have hrest := ih (fun t' ht' => hturn t' (List.mem_cons_of_mem _ ht')) (t.after w)
    calc view (afterTurns w (t :: ts))
        = settled fits make (logged log (t.after w) ts) (view (t.after w)) := hrest
      _ = settled fits make (logged log (t.after w) ts)
            (settled fits make (log w t) (view w)) := by rw [hturn t (List.mem_cons_self ..)]
      _ = settled fits make (logged log w (t :: ts)) (view w) := (settled_append ..).symm

end Logs

end UidPolicy
