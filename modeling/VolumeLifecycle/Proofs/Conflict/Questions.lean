import VolumeLifecycle.Proofs.Program.Ends

namespace VolumeLifecycle

def Exchange.answer? : Exchange → Option (Except Failure Provider.Response)
  | ⟨.call (.provider .get _), reply⟩ => some reply
  | _ => none

def answers (es : List Exchange) : List (Except Failure Provider.Response) :=
  es.filterMap Exchange.answer?

def Effect.NoQuestion : Effect → Prop
  | .call c => c.kind ≠ .provider .get
  | _ => True

/-- A reply to a question shows a volume if it has one and carries no error. -/
theorem Provider.Response.intoVolume_eq_ok_iff {response : Provider.Response} {name : String}
    {volume : Volume} :
    response.intoVolume name = .ok volume ↔ response.err = "" ∧ response.volume = some volume := by
  by_cases herr : response.err = ""
  · cases hvolume : response.volume <;> simp [intoVolume, check, herr, hvolume]
  · simp [intoVolume, check, herr]

theorem answers_append (es es' : List Exchange) : answers (es ++ es') = answers es ++ answers es' :=
  List.filterMap_append

/-- Exchanges without a question have no answers. -/
theorem answers_eq_nil {es : List Exchange} (h : ∀ ex ∈ es, ex.effect.NoQuestion) :
    answers es = [] := by
  refine List.filterMap_eq_nil_iff.2 fun ex hex => ?_
  have hnone := h ex hex
  obtain ⟨effect, reply⟩ := ex
  cases effect with
  | call c =>
    cases c with
    | provider op request =>
      cases op with
      | get => exact absurd rfl hnone
      | _ => rfl
    | _ => rfl
  | _ => rfl

/-- A conflict wait goes on after a reply that settles nothing. -/
theorem Conflict.Wait.phase_afterProbe (w : Wait) (deadline : Option Nat)
    {reply : Except Failure Provider.Response} (h : judgeReply w.name w.host reply = none) :
    (w.afterProbe (fun found => w.loop.withPhase (Poll.Loop.afterProbe deadline found))
      reply).loop.phase = .checking deadline := by
  simp only [afterProbe, h]
  rfl

namespace Workflow

open Conflict

variable {es : List Exchange} {name : String} {host : Host} {verdict : Verdict}

/-- A conflict wait runs into its time limit, or its last exchange is the question whose reply settles
it. -/
inductive Settled (name : String) (host : Host) : List Exchange → Verdict → Prop where
  | timedOut (es : List Exchange) : Settled name host es .timedOut
  | answered (es : List Exchange) (reply : Except Failure Provider.Response) {verdict : Verdict}
      (hreply : judgeReply name host reply = some verdict) :
    Settled name host (es ++ [⟨.call (.provider .get (.named name)), reply⟩]) verdict

theorem Settled.cons (h : Settled name host es verdict) (ex : Exchange) :
    Settled name host (ex :: es) verdict := by
  cases h with
  | timedOut => exact .timedOut _
  | answered es reply hreply => exact .answered (ex :: es) reply hreply

/-- A wait that is not over yet will be settled so. Each step leaves a wait of the same sort, but for
the reset at the time limit and for a reply that settles it. -/
theorem settled_of_not_ended {w : Wait} (hphase : ∀ o, w.loop.phase ≠ .ended o)
    (h : (Program.await w fun v => .done (Except.ok v)).Runs es
      (some (Except.ok verdict : Except Failure Verdict))) :
    Settled w.name w.host es verdict := by
  induction es generalizing w with
  | nil =>
    obtain ⟨name, host, kind, ⟨tick, phase⟩, settled⟩ := w
    cases phase with
    | ended o => exact absurd rfl (hphase o)
    | _ =>
      obtain ⟨_, _, hcons, -⟩ := Program.Runs.await_asks_inv rfl h
      cases hcons
  | cons ex rest ih =>
    obtain ⟨name, host, kind, ⟨tick, phase⟩, settled⟩ := w
    cases phase with
    | ended o => exact absurd rfl (hphase o)
    | starting timeout =>
      obtain ⟨time, _, hcons, hnext⟩ := Program.Runs.await_asks_inv rfl h
      cases hcons
      exact (ih (fun o ho => by cases ho) hnext).cons _
    | napping deadline duration =>
      obtain ⟨_, _, hcons, hnext⟩ := Program.Runs.await_asks_inv rfl h
      cases hcons
      exact (ih (fun o ho => by cases ho) hnext).cons _
    | checking deadline =>
      obtain ⟨time, _, hcons, hnext⟩ := Program.Runs.await_asks_inv rfl h
      cases hcons
      refine (ih (fun o ho => ?_) hnext).cons _
      simp only [Poll.Loop.withPhase, Poll.Loop.afterCheck] at ho
      split at ho <;> cases ho
    | expiring =>
      obtain ⟨_, _, hcons, hnext⟩ := Program.Runs.await_asks_inv rfl h
      cases hcons
      obtain ⟨-, hover⟩ := Program.runs_done_iff.1 (hnext.await_ended_inv rfl)
      cases hover
      exact .timedOut _
    | probing deadline =>
      obtain ⟨reply, _, hcons, hnext⟩ := Program.Runs.await_asks_inv rfl h
      cases hcons
      cases hreply : judgeReply name host reply with
      | none =>
        have hgoes := Wait.phase_afterProbe ⟨name, host, kind, ⟨tick, .probing deadline⟩, settled⟩
          deadline hreply
        exact (ih (fun o ho => by cases hgoes.symm.trans ho) hnext).cons _
      | some found =>
        have hover := Wait.view_afterProbe ⟨name, host, kind, ⟨tick, .probing deadline⟩, settled⟩
          deadline hreply
        obtain ⟨rfl, hfound⟩ := Program.runs_done_iff.1 (hnext.await_ended_inv hover)
        cases hfound
        exact .answered [] reply hreply

/-- A conflict wait that has come to its end was settled by its last question. -/
theorem settled_of_await {kind : Kind} {tick timeout : Nat}
    (h : Ends (await (.start name host kind tick timeout)) es (.ok verdict)) :
    Settled name host es verdict :=
  settled_of_not_ended (w := .start name host kind tick timeout) (fun o ho => by cases ho) h

end Workflow
end VolumeLifecycle
