import VolumeLifecycle.Path
import VolumeLifecycle.Proofs.Text.Split

namespace VolumeLifecycle

namespace Path

variable {dir : Path} {name other : String}

/-- The components of a text behind a directory: those that a text has wherever it stands. -/
def steps (text : List Char) : List Component :=
  (Text.splitChars '/' text).filterMap Component.ofPiece?

theorem steps_append (s t : List Char) : steps (s ++ '/' :: t) = steps s ++ steps t := by
  rw [steps, Text.splitChars_append, List.filterMap_append]
  rfl

theorem steps_nil : steps [] = [] := rfl

/-- A slash at the end does not count. -/
theorem steps_concat (s : List Char) : steps (s ++ ['/']) = steps s := by
  rw [steps_append, steps_nil, List.append_nil]

def start (text : List Char) : List Component :=
  if text.head? = some '/' then [.root]
  else if (Text.splitChars '/' text).head? = some ['.'] then [.current]
  else []

theorem components_eq (p : Path) : p.components = start p.text.toList ++ steps p.text.toList := by
  simp only [components, start, isAbsolute, decide_eq_true_iff]
  split
  · rfl
  · split <;> rfl

/-- How a path starts is seen up to its first slash. -/
theorem start_append {s : List Char} (h : s ≠ []) (t : List Char) :
    start (s ++ '/' :: t) = start s := by
  have hhead : (s ++ '/' :: t).head? = s.head? := by
    rw [List.head?_append, List.head?_eq_some_head h, Option.some_or]
  have hpiece : (Text.splitChars '/' (s ++ '/' :: t)).head? = (Text.splitChars '/' s).head? := by
    have hne : Text.splitChars '/' s ≠ [] := Text.splitChars_ne_nil s
    rw [Text.splitChars_append, List.head?_append, List.head?_eq_some_head hne, Option.some_or]
  rw [start, start, hhead, hpiece]

theorem join_of_isAbsolute (h : (Path.mk name).isAbsolute = true) : dir.join name = ⟨name⟩ :=
  if_pos h

theorem join_of_empty (h : dir.text = "") : dir.join name = ⟨name⟩ := by
  unfold join
  split
  · rfl
  · simp [h]

/-- A relative name adds its steps to the components of a directory, whether the directory ends in a slash
or not. -/
theorem components_join (hdir : dir.text ≠ "") (h : (Path.mk name).isAbsolute = false) :
    (dir.join name).components = dir.components ++ steps name.toList := by
  obtain ⟨text⟩ := dir
  have htext : text.toList ≠ [] := fun hnil => hdir (String.toList_inj.1 hnil)
  rw [components_eq, components_eq]
  unfold join
  simp only [h, Bool.false_eq_true, if_false, Bool.or_eq_true, decide_eq_true_iff]
  split
  case isTrue hends =>
    have hlast : text.toList.getLast? = some '/' :=
      hends.resolve_left fun hempty => hdir (String.isEmpty_iff.1 hempty)
    obtain ⟨front, hfront⟩ := List.getLast?_eq_some_iff.1 hlast
    have hstart : start (front ++ '/' :: name.toList) = start (front ++ ['/']) := by
      cases front with
      | nil => rfl
      | cons c rest =>
        have hne : c :: rest ≠ [] := List.cons_ne_nil _ _
        rw [start_append hne, start_append hne]
    rw [String.toList_append, hfront, List.append_assoc, List.singleton_append, hstart, steps_append,
      steps_concat, List.append_assoc]
  case isFalse =>
    have hslash : (text ++ "/" ++ name).toList = text.toList ++ '/' :: name.toList := by
      rw [String.toList_append, String.toList_append, List.append_assoc]
      rfl
    rw [hslash, start_append htext, steps_append, List.append_assoc]

/-- A step is a double dot or a name. -/
theorem mem_steps {text : List Char} {step : Component} (h : step ∈ steps text) :
    step = .parent ∨ ∃ s, step = .name s := by
  obtain ⟨piece, -, hpiece⟩ := List.mem_filterMap.1 h
  unfold Component.ofPiece? at hpiece
  split at hpiece
  · cases hpiece
  · split at hpiece
    · exact .inl (Option.some.inj hpiece).symm
    · exact .inr ⟨piece, (Option.some.inj hpiece).symm⟩

theorem exists_names_iff {text : List Char} :
    (∃ names : List (List Char), steps text = names.map Component.name) ↔ .parent ∉ steps text := by
  constructor
  · rintro ⟨names, hnames⟩ hparent
    rw [hnames] at hparent
    obtain ⟨s, -, hs⟩ := List.mem_map.1 hparent
    cases hs
  · intro hparent
    suffices h : ∀ added : List Component, (∀ step ∈ added, ∃ s, step = .name s) →
        ∃ names : List (List Char), added = names.map Component.name by
      refine h _ fun step hstep => (mem_steps hstep).resolve_left ?_
      rintro rfl
      exact hparent hstep
    intro added
    induction added with
    | nil => exact fun _ => ⟨[], rfl⟩
    | cons step rest ih =>
      intro hadded
      obtain ⟨s, rfl⟩ := hadded step List.mem_cons_self
      obtain ⟨names, rfl⟩ := ih fun step hstep => hadded step (List.mem_cons_of_mem _ hstep)
      exact ⟨s :: names, rfl⟩

/-- A path whose components are those of a directory and then names, at least one. -/
def IsBelow (p dir : Path) : Prop :=
  ∃ names : List (List Char), names ≠ [] ∧
    p.components = dir.components ++ names.map Component.name

/-- A relative name stays below a directory exactly if it has some step and no double dot. -/
theorem isBelow_join_iff (hdir : dir.text ≠ "") (h : (Path.mk name).isAbsolute = false) :
    (dir.join name).IsBelow dir ↔ steps name.toList ≠ [] ∧ .parent ∉ steps name.toList := by
  have hsteps : ∀ names : List (List Char),
      (dir.join name).components = dir.components ++ names.map Component.name ↔
        steps name.toList = names.map Component.name := by
    intro names
    rw [components_join hdir h, List.append_right_inj]
  simp only [IsBelow, hsteps]
  constructor
  · rintro ⟨names, hne, hnames⟩
    refine ⟨fun hnil => hne ?_, exists_names_iff.1 ⟨names, hnames⟩⟩
    exact List.map_eq_nil_iff.1 (hnames.symm.trans hnil)
  · rintro ⟨hne, hparent⟩
    obtain ⟨names, hnames⟩ := exists_names_iff.2 hparent
    refine ⟨names, fun hnil => hne ?_, hnames⟩
    rw [hnames, hnil, List.map_nil]

theorem components_of_isAbsolute (h : (Path.mk name).isAbsolute = true) :
    (Path.mk name).components = .root :: steps name.toList := by
  rw [components_eq, start, if_pos (of_decide_eq_true h), List.singleton_append]

/-- Two names give the same path exactly if they have the same steps, provided that they are both relative
or both absolute. -/
theorem sameAs_join_iff (hdir : dir.text ≠ "")
    (h : (Path.mk name).isAbsolute = (Path.mk other).isAbsolute) :
    (dir.join name).sameAs (dir.join other) = true ↔
      steps name.toList = steps other.toList := by
  rw [sameAs, decide_eq_true_iff]
  cases hname : (Path.mk name).isAbsolute with
  | false =>
    rw [components_join hdir hname, components_join hdir (h ▸ hname), List.append_right_inj]
  | true =>
    have hother : (Path.mk other).isAbsolute = true := h ▸ hname
    rw [join_of_isAbsolute hname, join_of_isAbsolute hother, components_of_isAbsolute hname,
      components_of_isAbsolute hother, List.cons.injEq, and_iff_right rfl]

/-- A name that is one step of a path: it has no slash and is neither empty nor one of the dots. -/
structure IsPlain (name : String) : Prop where
  noSlash : '/' ∉ name.toList
  nonempty : name.toList ≠ []
  notCurrent : name.toList ≠ ['.']
  notParent : name.toList ≠ ['.', '.']

theorem IsPlain.isAbsolute_eq (h : IsPlain name) : (Path.mk name).isAbsolute = false :=
  decide_eq_false fun hhead => h.noSlash (List.mem_of_head? hhead)

theorem IsPlain.steps_eq (h : IsPlain name) : steps name.toList = [.name name.toList] := by
  rw [steps, Text.splitChars_of_not_mem h.noSlash]
  simp [Component.ofPiece?, h.nonempty, h.notCurrent, h.notParent]

/-- A plain name is the one name that it adds to a directory, the empty one included. -/
theorem IsPlain.components_join (h : IsPlain name) (dir : Path) :
    (dir.join name).components = dir.components ++ [.name name.toList] := by
  by_cases hdir : dir.text = ""
  · have hstart : start name.toList = [] := by
      have hhead : name.toList.head? ≠ some '/' := fun hhead => h.noSlash (List.mem_of_head? hhead)
      rw [start, if_neg hhead, Text.splitChars_of_not_mem h.noSlash]
      simp [h.notCurrent]
    have hempty : dir.components = [] := by
      rw [components_eq, hdir]
      rfl
    rw [join_of_empty hdir, components_eq, hstart, hempty, h.steps_eq]
  · rw [Path.components_join hdir h.isAbsolute_eq, h.steps_eq]

theorem IsPlain.isBelow_join (h : IsPlain name) (dir : Path) : (dir.join name).IsBelow dir :=
  ⟨[name.toList], List.cons_ne_nil _ _, h.components_join dir⟩

theorem IsPlain.sameAs_join_iff (h : IsPlain name) (h' : IsPlain other) (dir : Path) :
    (dir.join name).sameAs (dir.join other) = true ↔ name = other := by
  rw [sameAs, decide_eq_true_iff, h.components_join, h'.components_join, List.append_right_inj,
    List.singleton_inj, Component.name.injEq, String.toList_inj]

end Path
end VolumeLifecycle
