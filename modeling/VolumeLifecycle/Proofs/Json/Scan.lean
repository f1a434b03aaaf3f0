import Mathlib.Data.List.Forall2
import VolumeLifecycle.Json.Token

namespace VolumeLifecycle.Json

namespace Token

/-- What may follow a word or a number: nothing, or a token of one character. -/
def Ends (tail : List Char) : Prop :=
  ∀ c ∈ tail.head?, (punctuation? c).isSome

/-- Characters that are the given tokens wherever a token may end behind them. -/
def Spell (cs : List Char) (ts : List Token) : Prop :=
  ∀ tail, Ends tail → scan .between (cs ++ tail) = (scan .between tail).map (ts ++ ·)

variable {c : Char} {t : Token} {cs ds tail : List Char} {ts us : List Token}

theorem scan_cons (state : State) (c : Char) (rest : List Char) :
    scan state (c :: rest) =
      (state.step? c).bind fun p => (scan p.2 rest).map (p.1 ++ ·) := by
  rw [scan]
  cases state.step? c with
  | none => rfl
  | some p =>
    cases hrest : scan p.2 rest <;> simp [hrest]

/-- A character that ends no token leaves the rest to be scanned from the next state. -/
theorem scan_step {state next : State} (h : state.step? c = some ([], next)) (rest : List Char) :
    scan state (c :: rest) = scan next rest := by
  rw [scan_cons, h, Option.bind_some]
  exact congrFun Option.map_id _

theorem mem_of_punctuation (h : (punctuation? c).isSome) :
    c ∈ ['[', ']', '\x7b', '\x7d', ',', ':'] := by
  unfold punctuation? at h
  repeat' split at h
  all_goals simp_all

theorem begin?_of_punctuation (h : punctuation? c = some t) :
    State.begin? c = some ([t], .between) := by
  have hc := mem_of_punctuation (Option.isSome_of_eq_some h)
  simp only [List.mem_cons, List.not_mem_nil, or_false] at hc
  rcases hc with rfl | rfl | rfl | rfl | rfl | rfl <;>
    · cases h
      rfl

/-- Punctuation is neither a letter nor a part of a number. -/
theorem not_part_of_punctuation (h : (punctuation? c).isSome) :
    isWordPart c = false ∧ isNumberPart c = false := by
  have hc := mem_of_punctuation h
  simp only [List.mem_cons, List.not_mem_nil, or_false] at hc
  rcases hc with rfl | rfl | rfl | rfl | rfl | rfl <;> exact ⟨rfl, rfl⟩

theorem ends_nil : Ends [] :=
  nofun

theorem ends_cons (h : punctuation? c = some t) (rest : List Char) : Ends (c :: rest) := by
  rintro d ⟨⟩
  exact Option.isSome_of_eq_some h

/-- Characters that are spelled by tokens are read as them. -/
theorem Spell.tokens (h : Spell cs ts) : scan .between cs = some ts := by
  have hscan := h [] ends_nil
  rw [List.append_nil] at hscan
  simpa [scan, State.finish?] using hscan

theorem spell_nil : Spell [] [] :=
  fun _ _ => (congrFun Option.map_id _).symm

/-- Punctuation is a token by itself, whatever follows. -/
theorem scan_punctuation (h : punctuation? c = some t) (tail : List Char) :
    scan .between (c :: tail) = (scan .between tail).map (t :: ·) := by
  rw [scan_cons, State.step?, begin?_of_punctuation h]
  rfl

/-- Two parts with punctuation between them. -/
theorem Spell.between (h : Spell cs ts) (hc : punctuation? c = some t) (h' : Spell ds us) :
    Spell (cs ++ c :: ds) (ts ++ t :: us) := by
  intro tail htail
  rw [List.append_assoc, List.cons_append, h _ (ends_cons hc _), scan_punctuation hc, h' tail htail]
  simp [Function.comp_def]

/-- A part between two tokens of one character. -/
theorem Spell.enclosed {c' : Char} {t' : Token} (h : Spell cs ts) (hc : punctuation? c = some t)
    (hc' : punctuation? c' = some t') : Spell (c :: (cs ++ [c'])) (t :: (ts ++ [t'])) := by
  intro tail htail
  rw [List.cons_append, scan_punctuation hc, List.append_assoc, List.cons_append, List.nil_append,
    h _ (ends_cons hc' _), scan_punctuation hc']
  simp [Function.comp_def]

/-- Parts with commas between them. -/
theorem spell_intercalate {css : List (List Char)} {tss : List (List Token)}
    (h : List.Forall₂ Spell css tss) :
    Spell ([','].intercalate css) ([Token.comma].intercalate tss) := by
  induction h with
  | nil => exact spell_nil
  | cons hfirst hrest ih =>
    cases hrest with
    | nil => simpa using hfirst
    | cons hsecond hmore =>
      rw [List.intercalate_cons_cons, List.intercalate_cons_cons, List.append_assoc, List.append_assoc]
      exact hfirst.between rfl ih

/-- States in which the scanner gathers characters of one sort and turns them into a token in the end. -/
structure Gathers (gather : List Char → State) (isPart : Char → Bool)
    (ofParts? : List Char → Option Token) : Prop where
  more : ∀ parts c, isPart c = true → (gather parts).step? c = some ([], gather (c :: parts))
  ends : ∀ parts c, isPart c = false → (gather parts).step? c =
    (ofParts? parts.reverse).bind fun t => (State.begin? c).map fun p => (t :: p.1, p.2)
  finish : ∀ parts, (gather parts).finish? = (ofParts? parts.reverse).map ([·])

theorem gathers_word : Gathers .word isWordPart ofWord? where
  more _ _ h := if_pos h
  ends parts c h := by
    rw [State.step?, h]
    cases ofWord? parts.reverse <;> cases State.begin? c <;> rfl
  finish _ := rfl

theorem gathers_number : Gathers .number isNumberPart ofNumber? where
  more _ _ h := if_pos h
  ends parts c h := by
    rw [State.step?, h]
    cases ofNumber? parts.reverse <;> cases State.begin? c <;> rfl
  finish _ := rfl

namespace Gathers

variable {gather : List Char → State} {isPart : Char → Bool} {ofParts? : List Char → Option Token}

theorem scan_parts (h : Gathers gather isPart ofParts?) (hcs : ∀ c ∈ cs, isPart c = true)
    (parts tail : List Char) :
    scan (gather parts) (cs ++ tail) = scan (gather (cs.reverse ++ parts)) tail := by
  induction cs generalizing parts with
  | nil => rfl
  | cons c cs ih =>
    obtain ⟨hc, hcs⟩ := List.forall_mem_cons.1 hcs
    rw [List.cons_append, scan_step (h.more parts c hc), ih hcs, List.reverse_cons, List.append_assoc]
    rfl

theorem scan_end (h : Gathers gather isPart ofParts?) {parts : List Char}
    (ht : ofParts? parts.reverse = some t) (htail : Ends tail)
    (hparts : ∀ c, (punctuation? c).isSome → isPart c = false) :
    scan (gather parts) tail = (scan .between tail).map (t :: ·) := by
  cases tail with
  | nil =>
    rw [scan, scan, h.finish, ht]
    rfl
  | cons c rest =>
    obtain ⟨u, hu⟩ := Option.isSome_iff_exists.1 (htail c rfl)
    have hstep := h.ends parts c (hparts c (htail c rfl))
    rw [begin?_of_punctuation hu, ht] at hstep
    rw [scan_punctuation hu, scan_cons, hstep]
    simp [Function.comp_def]

/-- A character that begins a token and others that all extend it spell that token, if what ends it
is no part of it. -/
theorem spell (h : Gathers gather isPart ofParts?)
    (hparts : ∀ c, (punctuation? c).isSome → isPart c = false)
    (hbegin : State.between.step? c = some ([], gather [c])) (hcs : ∀ d ∈ cs, isPart d = true)
    (ht : ofParts? (c :: cs) = some t) : Spell (c :: cs) [t] := by
  intro tail htail
  rw [List.cons_append, scan_step hbegin, h.scan_parts hcs]
  exact h.scan_end (by simpa using ht) htail hparts

end Gathers

theorem spell_word (hbegin : State.between.step? c = some ([], .word [c]))
    (hcs : ∀ d ∈ cs, isWordPart d = true) (h : ofWord? (c :: cs) = some t) : Spell (c :: cs) [t] :=
  gathers_word.spell (fun _ hd => (not_part_of_punctuation hd).1) hbegin hcs h

theorem spell_number (hbegin : State.between.step? c = some ([], .number [c]))
    (hcs : ∀ d ∈ cs, isNumberPart d = true) (h : ofNumber? (c :: cs) = some t) : Spell (c :: cs) [t] :=
  gathers_number.spell (fun _ hd => (not_part_of_punctuation hd).2) hbegin hcs h

end Token
end VolumeLifecycle.Json
