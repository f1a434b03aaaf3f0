import VolumeLifecycle.Proofs.Agent.Exclusion
import VolumeLifecycle.Proofs.Mounts.Board

namespace VolumeLifecycle

open Agent (Action Journal)

/-- A journal that also keeps the order in which calls are served. -/
structure Ledger (World : Type) where
  journal : Journal World
  served : List Serving := []

namespace Ledger

variable {World : Type}

/-- The ledger of an agent that has been given no command yet. -/
def begin (gate : Gate) (world : World) : Ledger World :=
  ⟨.begin gate world, []⟩

def agent (l : Ledger World) : Agent World :=
  l.journal.agent

def act (c : Config) (perform : Agent.Perform World) (l : Ledger World) (action : Action) :
    Ledger World where
  journal := l.journal.act c perform action
  served := match action with
    | .step n =>
      l.served ++ ((l.agent.served? n).map fun call => Serving.next l.served n call.kind).toList
    | _ => l.served

def run (c : Config) (perform : Agent.Perform World) (l : Ledger World) (actions : List Action) :
    Ledger World :=
  actions.foldl (act c perform) l

def attaches (l : Ledger World) : Nat :=
  l.agent.calls.countP fun r => r.call.kind = .attachAndMountDevice

/-- Whether the repair of a mount was overtaken by another mount: when it was told of the volume, no
mount of the provider had been served, and when it then saw the mount table, an attach had been. -/
def IsOvertaken (l : Ledger World) (n : Nat) : Prop :=
  Serving.told? l.served n = some false ∧ Serving.found? l.served n = some true

instance (l : Ledger World) (n : Nat) : Decidable (l.IsOvertaken n) :=
  inferInstanceAs (Decidable (_ ∧ _))

/-- Whether a mount entry was unmounted, and a mount was overtaken. -/
def IsDisturbed (l : Ledger World) : Prop :=
  (∃ r ∈ l.agent.calls, r.call.kind = .unmountFileSystem) ∧ ∃ n, l.IsOvertaken n

variable {c : Config} {l : Ledger World}

/-- Only a task that has been served a call can have been overtaken. -/
theorem IsOvertaken.exists_served {n : Nat} (h : l.IsOvertaken n) : ∃ e ∈ l.served, e.ticket = n := by
  obtain ⟨e, hfound, -⟩ := Option.map_eq_some_iff.1 h.2
  have hticket := List.find?_some hfound
  simp only [Bool.and_eq_true, decide_eq_true_eq] at hticket
  exact ⟨e, List.mem_of_find?_eq_some hfound, hticket.1⟩

/-- What a task saw first stays what it saw first. -/
theorem IsOvertaken.act {n : Nat} (h : l.IsOvertaken n) (perform : Agent.Perform World)
    (action : Action) : (l.act c perform action).IsOvertaken n := by
  cases action with
  | step m =>
    unfold IsOvertaken Ledger.act
    dsimp only
    cases l.agent.served? m with
    | none =>
      rw [Option.map_none, Option.toList_none, List.append_nil]
      exact h
    | some call =>
      rw [Option.map_some, Option.toList_some, Serving.told?_append, Serving.found?_append, h.1, h.2]
      exact ⟨rfl, rfl⟩
  | _ => exact h

/-- No call is forgotten. -/
theorem mem_calls_act {r : Agent.CallRecord World} (h : r ∈ l.agent.calls)
    (perform : Agent.Perform World) (action : Action) : r ∈ (l.act c perform action).agent.calls := by
  cases action with
  | start id holds host command => exact h
  | resume id =>
    change r ∈ ((l.agent.resume? id).getD l.agent).calls
    unfold Agent.resume?
    cases l.agent.tasks.find? fun t => t.id = id && t.held?.isSome <;> exact h
  | step n =>
    change r ∈ (l.agent.step perform n).calls
    rcases Agent.step_takes perform l.agent n with ⟨hsame, -⟩ | ⟨t, -, -, htakes⟩
    · rwa [hsame]
    · generalize l.agent.step perform n = a at htakes ⊢
      generalize l.agent.made? n = made at htakes
      cases htakes with
      | called => exact List.mem_cons_of_mem _ h
      | _ => exact h

theorem IsDisturbed.act (h : l.IsDisturbed) (perform : Agent.Perform World) (action : Action) :
    (l.act c perform action).IsDisturbed := by
  obtain ⟨⟨r, hr, hkind⟩, n, hn⟩ := h
  exact ⟨⟨r, mem_calls_act hr perform action, hkind⟩, n, hn.act perform action⟩

end Ledger
end VolumeLifecycle
