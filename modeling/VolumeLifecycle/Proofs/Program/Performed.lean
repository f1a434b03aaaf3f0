import VolumeLifecycle.Proofs.Program.Runs

namespace VolumeLifecycle

def calls (es : List Exchange) : List Call :=
  es.filterMap fun ex => match ex.effect with
    | .call c => some c
    | _ => none

theorem calls_append (es es' : List Exchange) : calls (es ++ es') = calls es ++ calls es' :=
  List.filterMap_append

theorem mem_calls_iff {es : List Exchange} {c : Call} :
    c ∈ calls es ↔ ∃ reply : c.Reply, ⟨.call c, reply⟩ ∈ es := by
  rw [calls, List.mem_filterMap]
  constructor
  · rintro ⟨⟨effect, reply⟩, hmem, hcall⟩
    cases effect with
    | call c' =>
      cases hcall
      exact ⟨reply, hmem⟩
    | _ => cases hcall
  · rintro ⟨reply, hmem⟩
    exact ⟨_, hmem, rfl⟩

def kinds (es : List Exchange) : List Call.Kind :=
  (calls es).map Call.kind

theorem kinds_append (es es' : List Exchange) : kinds (es ++ es') = kinds es ++ kinds es' := by
  simp only [kinds, calls_append, List.map_append]

/-- If something comes after a row of exchanges in which it does not occur, it comes after all of
them. -/
theorem exists_append_of_not_mem {xs ys before after : List Exchange} {ex : Exchange}
    (h : xs ++ ys = before ++ ex :: after) (hxs : ex ∉ xs) :
    ∃ rest, before = xs ++ rest ∧ ys = rest ++ ex :: after := by
  rcases List.append_eq_append_iff.1 h with ⟨rest, hbefore, hys⟩ | ⟨rest, hsplit, hrest⟩
  · exact ⟨rest, hbefore, hys⟩
  · cases rest with
    | nil => exact ⟨[], by simpa using hsplit.symm, hrest.symm⟩
    | cons first rest =>
      cases hrest
      exact absurd (by simp [hsplit]) hxs

/-- A call that was made is among the kinds of calls of its run. -/
theorem kind_mem_kinds {es : List Exchange} {c : Call} {reply : c.Reply}
    (h : ⟨.call c, reply⟩ ∈ es) : c.kind ∈ kinds es :=
  List.mem_map_of_mem (mem_calls_iff.2 ⟨reply, h⟩)

/-- Every kind of the calls is that of a call of the sort. -/
theorem Program.AllCalls.exists_of_mem_kinds {ok : Call → Prop} {es : List Exchange}
    (h : AllCalls ok es) {kind : Call.Kind} (hkind : kind ∈ kinds es) : ∃ c, ok c ∧ c.kind = kind := by
  obtain ⟨c, hc, hkind⟩ := List.mem_map.1 hkind
  obtain ⟨reply, hmem⟩ := mem_calls_iff.1 hc
  exact ⟨c, h _ hmem c rfl, hkind⟩

namespace Program

variable {α World : Type} {perform : World → (e : Effect) → e.Reply × World}

/-- Rows of exchanges as a world performs them when nobody else acts: every reply is the one that
the world gives in the state to which the exchanges before it have led. -/
inductive Performed (perform : World → (e : Effect) → e.Reply × World) :
    World → List Exchange → World → Prop where
  | nil (w : World) : Performed perform w [] w
  | cons {w : World} {e : Effect} {rest : List Exchange} {w' : World}
      (hrest : Performed perform (perform w e).2 rest w') :
    Performed perform w (⟨e, (perform w e).1⟩ :: rest) w'

namespace Performed

variable {w w' : World} {es es' : List Exchange}

theorem nil_inv (h : Performed perform w [] w') : w' = w := by
  cases h
  rfl

theorem cons_inv {e : Effect} {reply : e.Reply} (h : Performed perform w (⟨e, reply⟩ :: es) w') :
    (perform w e).1 = reply ∧ Performed perform (perform w e).2 es w' := by
  cases h with
  | cons hrest => exact ⟨rfl, hrest⟩

/-- An exchange is performed if its reply is the world's, and what follows is performed in the world
after it. -/
theorem cons_iff {e : Effect} {answer reply : e.Reply} {w₁ : World} (hperform : perform w e = (answer, w₁)) :
    Performed perform w (⟨e, reply⟩ :: es) w' ↔ reply = answer ∧ Performed perform w₁ es w' := by
  have hcons : Performed perform (perform w e).2 es w' →
      Performed perform w (⟨e, (perform w e).1⟩ :: es) w' := .cons
  rw [hperform] at hcons
  constructor
  · intro h
    obtain ⟨hreply, hrest⟩ := h.cons_inv
    rw [hperform] at hreply hrest
    exact ⟨hreply.symm, hrest⟩
  · rintro ⟨rfl, hrest⟩
    exact hcons hrest

theorem append_inv (h : Performed perform w (es ++ es') w') :
    ∃ mid, Performed perform w es mid ∧ Performed perform mid es' w' := by
  induction es generalizing w with
  | nil => exact ⟨w, .nil w, h⟩
  | cons ex rest ih =>
    cases h with
    | cons hrest =>
      obtain ⟨mid, hfirst, hsecond⟩ := ih hrest
      exact ⟨mid, .cons hfirst, hsecond⟩

end Performed

/-- The exchanges of a program with a world are performed by it. -/
theorem trace_performed (perform : World → (e : Effect) → e.Reply × World) (fuel : Nat)
    (p : Program α) (w : World) :
    Performed perform w (trace perform fuel p w).exchanges (trace perform fuel p w).world := by
  induction fuel generalizing p w with
  | zero => exact .nil w
  | succ fuel ih =>
    rw [trace]
    cases p.view with
    | done a => exact .nil w
    | asks e next => exact .cons (ih _ _)
    | enters name op next => exact ih _ _

end Program
end VolumeLifecycle
