import VolumeLifecycle.Proofs.Agent.Step

namespace VolumeLifecycle

namespace Agent

variable {World : Type}

/-- A task is past its calls: it is gone, or it has its response and is leaving. -/
def Closed (a : Agent World) (n : Nat) : Prop :=
  ∀ t, a.task? n = some t → ∃ r, t.stage = .leaving r

namespace Journal

variable {j : Journal World}

/-- The critical calls of a name are those of the given tasks, one section after the other, and all
sections but the last are closed. -/
structure Serial (j : Journal World) (name : String) (order : List Nat) : Prop where
  nodup : order.Nodup
  requested : ∀ n ∈ order, j.requested? n = some name
  made : ∀ n ∈ order, j.sectionOf n ≠ []
  log_eq : j.log name = order.flatMap j.sectionOf
  closed : ∀ n ∈ order.dropLast, j.agent.Closed n

theorem sectionOf_append (m : Mark) (n : Nat) :
    { j with marks := j.marks ++ [m] }.sectionOf n =
      j.sectionOf n ++ if m.isCritical = true ∧ m.ticket = n then [m] else [] := by
  simp only [sectionOf, List.filter_append, List.filter_cons, List.filter_nil, Bool.and_eq_true,
    decide_eq_true_eq]

/-- A call counts for the log of a name if it is a critical one for that name. -/
theorem log_append (m : Mark) (name : String) :
    { j with marks := j.marks ++ [m] }.log name =
      j.log name ++
        if m.isCritical = true ∧ j.requested? m.ticket = some name then [m] else [] := by
  change (j.marks ++ [m]).filter
    (fun k => k.isCritical && decide (j.requested? k.ticket = some name)) = _
  simp only [log, List.filter_append, List.filter_cons, List.filter_nil, Bool.and_eq_true,
    decide_eq_true_eq]

/-- A section is made of the critical calls of one task. -/
theorem mem_sectionOf {m : Mark} {n : Nat} :
    m ∈ j.sectionOf n ↔ m ∈ j.marks ∧ m.isCritical = true ∧ m.ticket = n := by
  simp [sectionOf, List.mem_filter]

theorem mem_log {m : Mark} {name : String} :
    m ∈ j.log name ↔ m ∈ j.marks ∧ m.isCritical = true ∧ j.requested? m.ticket = some name := by
  simp [log, List.mem_filter]

/-- A call that is critical needs the section to have begun, or opens it. -/
theorem isCritical_eq_false {n : Nat} {command : Command} (hcommand : j.commands[n]? = some command)
    {call : Call} (hopens : command.opens call = false) (hmade : j.sectionOf n = []) :
    j.isCritical n call = false := by
  have hmarks : ∀ m ∈ j.marks, m.isCritical = true → m.ticket ≠ n := by
    intro m hm hcritical hticket
    have hin := mem_sectionOf.2 ⟨hm, hcritical, hticket⟩
    simp [hmade] at hin
  have hany : (j.marks.any fun m => m.ticket = n && m.isCritical) = false := by
    refine List.any_eq_false.2 fun m hm => ?_
    cases hcritical : m.isCritical with
    | false => simp
    | true => simpa using hmarks m hm hcritical
  rw [isCritical, hcommand, hany]
  simpa using hopens

/-- The critical calls of a task whose command asks for a name are among those of the name. -/
theorem mem_log_of_mem_sectionOf {n : Nat} {name : String} (hname : j.requested? n = some name)
    {m : Mark} (hm : m ∈ j.sectionOf n) : m ∈ j.log name := by
  obtain ⟨hmark, hcritical, rfl⟩ := mem_sectionOf.1 hm
  exact mem_log.2 ⟨hmark, hcritical, hname⟩

namespace Serial

variable {name : String} {order : List Nat}

/-- A task with critical calls has its place in the order of its name. -/
theorem mem_of_sectionOf_ne_nil (h : j.Serial name order) {n : Nat}
    (hname : j.requested? n = some name) (hmade : j.sectionOf n ≠ []) : n ∈ order := by
  obtain ⟨m, hm⟩ := List.exists_mem_of_ne_nil _ hmade
  have hlog := mem_log_of_mem_sectionOf hname hm
  rw [h.log_eq] at hlog
  obtain ⟨k, hk, hmk⟩ := List.mem_flatMap.1 hlog
  rwa [← (mem_sectionOf.1 hm).2.2, (mem_sectionOf.1 hmk).2.2]

/-- If the sections stay what they are and closed ones stay closed, the order stays right. -/
theorem of_same_sections (h : j.Serial name order) {j' : Journal World}
    (hrequested : ∀ n ∈ order, j'.requested? n = j.requested? n)
    (hsection : ∀ n ∈ order, j'.sectionOf n = j.sectionOf n) (hlog : j'.log name = j.log name)
    (hclosed : ∀ n ∈ order, j.agent.Closed n → j'.agent.Closed n) : j'.Serial name order where
  nodup := h.nodup
  requested n hn := (hrequested n hn).trans (h.requested n hn)
  made n hn := hsection n hn ▸ h.made n hn
  log_eq := by
    rw [hlog, h.log_eq, List.flatMap_def, List.flatMap_def]
    exact congrArg List.flatten (List.map_congr_left fun n hn => (hsection n hn).symm)
  closed n hn := hclosed n (List.dropLast_subset order hn) (h.closed n hn)

/-- A task that makes a critical call while all others of its name are closed makes it in the last
section. -/
theorem append (h : j.Serial name order) {m : Mark} (hcritical : m.isCritical = true)
    (hname : j.requested? m.ticket = some name) (hopen : ¬ j.agent.Closed m.ticket)
    (hothers : ∀ n ∈ order, n ≠ m.ticket → j.agent.Closed n) :
    ∃ order', { j with marks := j.marks ++ [m] }.Serial name order' := by
  have hkept : ∀ ns : List Nat, m.ticket ∉ ns →
      ns.flatMap { j with marks := j.marks ++ [m] }.sectionOf = ns.flatMap j.sectionOf := by
    intro ns hns
    rw [List.flatMap_def, List.flatMap_def]
    refine congrArg List.flatten (List.map_congr_left fun n hn => ?_)
    have hne : m.ticket ≠ n := fun heq => hns (heq ▸ hn)
    rw [sectionOf_append, if_neg (by simp [hne]), List.append_nil]
  have hmade : ∀ n ∈ order, { j with marks := j.marks ++ [m] }.sectionOf n ≠ [] := by
    intro n hn
    rw [sectionOf_append]
    simp [h.made n hn]
  have hlog : { j with marks := j.marks ++ [m] }.log name = j.log name ++ [m] := by
    rw [log_append, if_pos ⟨hcritical, hname⟩]
  have hown : { j with marks := j.marks ++ [m] }.sectionOf m.ticket = j.sectionOf m.ticket ++ [m] := by
    rw [sectionOf_append, if_pos ⟨hcritical, rfl⟩]
  by_cases hmem : m.ticket ∈ order
  · -- The section has begun. It is not closed, so it is the last one and goes on.
    have hne : order ≠ [] := List.ne_nil_of_mem hmem
    have hsplit := List.dropLast_concat_getLast hne
    have hlast : order.getLast hne = m.ticket := by
      rw [← hsplit, List.mem_append, List.mem_singleton] at hmem
      rcases hmem with hmem | hmem
      · exact absurd (h.closed _ hmem) hopen
      · exact hmem.symm
    have hbefore : m.ticket ∉ order.dropLast := fun hmem => hopen (h.closed _ hmem)
    refine ⟨order, h.nodup, h.requested, hmade, ?_, h.closed⟩
    rw [hlog, h.log_eq, ← hsplit, hlast, List.flatMap_append, List.flatMap_append,
      hkept _ hbefore, List.flatMap_singleton, List.flatMap_singleton, hown, List.append_assoc]
  · -- The section begins, and all before it are closed.
    have hempty : j.sectionOf m.ticket = [] :=
      Classical.byContradiction fun hmade => hmem (h.mem_of_sectionOf_ne_nil hname hmade)
    refine ⟨order ++ [m.ticket], ?_, ?_, ?_, ?_, ?_⟩
    · refine List.nodup_append.2 ⟨h.nodup, by simp, ?_⟩
      rintro n hn k hk rfl
      exact hmem (List.mem_singleton.1 hk ▸ hn)
    · intro n hn
      rcases List.mem_append.1 hn with hn | hn
      · exact h.requested n hn
      · rw [List.mem_singleton.1 hn]
        exact hname
    · intro n hn
      rcases List.mem_append.1 hn with hn | hn
      · exact hmade n hn
      · rw [List.mem_singleton.1 hn, hown]
        simp
    · rw [hlog, h.log_eq, List.flatMap_append, hkept _ hmem, List.flatMap_singleton, hown, hempty,
        List.nil_append]
    · intro n hn
      rw [List.dropLast_concat] at hn
      exact hothers n hn fun heq => hmem (heq ▸ hn)

end Serial

end Journal
end Agent
end VolumeLifecycle
