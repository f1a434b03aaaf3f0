import Mathlib.Logic.Function.Basic
import VolumeLifecycle.Proofs.Options.Lifting

namespace VolumeLifecycle

namespace Dict

/-- The look-ups of a map do not depend on the order in which its entries are listed. -/
theorem lookup_of_perm {α : Type} {entries : List (String × α)} {d : Dict α}
    (h : entries.Perm d.entries) (name : String) : entries.lookup name = d.get? name := by
  have hnodup : (entries.map Prod.fst).Nodup := (h.map Prod.fst).nodup_iff.2 d.nodup_keys
  refine Option.ext fun value => ?_
  exact (lookup_eq_some_iff_mem hnodup).trans
    (h.mem_iff.trans (lookup_eq_some_iff_mem d.nodup_keys).symm)

/-- In whatever order the entries of a second map are put into a first one, this gives their union. -/
theorem insertAll_of_perm {α : Type} {entries : List (String × α)} (d : Dict α) {e : Dict α}
    (h : entries.Perm e.entries) : d.insertAll entries = d.union e := by
  have hnodup : (entries.map Prod.fst).Nodup := (h.map Prod.fst).nodup_iff.2 e.nodup_keys
  refine ext_get? fun name => ?_
  rw [get?_insertAll d hnodup, get?_union, lookup_of_perm h]

end Dict

namespace Options

def Key.ofName? (name : String) : Option Key :=
  Key.all.find? fun key => key.name = name

def readInto (o : Options) (value : Json) : Key → Except Expectation Options
  | .filesystem => (readText value).map fun x => { o with filesystem := x }
  | .fsMode => (readText value).map fun x => { o with fsMode := x }
  | .fsOwner => (readText value).map fun x => { o with fsOwner := x }
  | .initiators => (readTexts value).map fun x => { o with initiators := x }
  | .delayedCreate => (readFlag value).map fun x => { o with delayedCreate := x }
  | .mountConflictDelay => (readDelay value).map fun x => { o with mountConflictDelay := x }
  | .deleteConflictDelay => (readDelay value).map fun x => { o with deleteConflictDelay := x }
  | .cloneOf => (readText value).map fun x => { o with cloneOf := x }
  | .importVol => (readText value).map fun x => { o with importVol := x }
  | .help => .ok { o with help := readHelp value }

/-- The options with an entry taken up: read if its option is known, else kept. -/
def readEntry (o : Options) (entry : String × Json) : Except Failure Options :=
  match Key.ofName? entry.1 with
  | some key => (readInto o entry.2 key).mapError (invalidValue key entry.2)
  | none => .ok { o with extra := o.extra.insert entry.1 entry.2 }

/-- The options that entries give, taken up in the order in which they are listed. -/
def ofEntries (entries : List (String × Json)) : Except Failure Options :=
  entries.foldlM readEntry {}

theorem Key.ofName?_name (key : Key) : Key.ofName? key.name = some key := by
  cases key <;> decide

/-- A known option is found under its own name. -/
theorem Key.ofName?_eq_some_iff {name : String} {key : Key} :
    Key.ofName? name = some key ↔ key.name = name := by
  constructor
  · intro h
    simpa using List.find?_some (p := fun key : Key => decide (key.name = name)) h
  · rintro rfl
    exact key.ofName?_name

theorem Key.ofName?_eq_none_iff {name : String} :
    Key.ofName? name = none ↔ Key.isKnown name = false := by
  simp [Key.ofName?, Key.isKnown]

section Read

variable {o p : Options} {value : Json} {key : Key} {g : Grammar} {α : Type}
  {read : Json → Reading α} {write : α → Json} {set : Option α → Options}

theorem map_set_eq_ok (h : g.Reader read write) (hread : (read value).map set = .ok p)
    (hset : ∀ x other, (set x).written other = if other = key then x.map write else o.written other)
    (hextra : ∀ x, (set x).extra = o.extra) :
    g.Admits value ∧ p.extra = o.extra ∧
      ∀ other, p.written other = if other = key then g.normal value else o.written other := by
  cases hvalue : read value with
  | error expected =>
    rw [hvalue] at hread
    cases hread
  | ok x =>
    rw [hvalue] at hread
    cases hread
    obtain ⟨hadmits, hnormal⟩ := h.eq_ok_iff.1 hvalue
    exact ⟨hadmits, hextra x, fun other => (hset x other).trans (by rw [hnormal])⟩

/-- The setting of an option fails exactly if its grammar refuses the value. -/
theorem map_set_eq_error_iff (h : g.Reader read write) {expected : Expectation} :
    (read value).map set = .error expected ↔ g.refusal? value = some expected := by
  rw [← h.eq_error_iff]
  cases read value <;> simp [Except.map]

end Read

/-- A value that is read into options sets its own option to its normal form, and nothing else. -/
theorem readInto_eq_ok {o p : Options} {value : Json} {key : Key} (h : readInto o value key = .ok p) :
    key.grammar.Admits value ∧ p.extra = o.extra ∧
      ∀ other, p.written other = if other = key then key.grammar.normal value else o.written other := by
  cases key with
  | filesystem | fsMode | fsOwner | cloneOf | importVol =>
    exact map_set_eq_ok Grammar.reader_text h (by intro x other; cases other <;> rfl) fun _ => rfl
  | initiators =>
    exact map_set_eq_ok Grammar.reader_texts h (by intro x other; cases other <;> rfl) fun _ => rfl
  | delayedCreate =>
    exact map_set_eq_ok Grammar.reader_flag h (by intro x other; cases other <;> rfl) fun _ => rfl
  | mountConflictDelay | deleteConflictDelay =>
    exact map_set_eq_ok Grammar.reader_delay h (by intro x other; cases other <;> rfl) fun _ => rfl
  | help =>
    cases h
    refine ⟨.any value, rfl, fun other => ?_⟩
    cases other with
    | help => exact Grammar.readHelp_eq
    | _ => rfl

theorem readInto_eq_error_iff {o : Options} {value : Json} {key : Key} {expected : Expectation} :
    readInto o value key = .error expected ↔ key.grammar.refusal? value = some expected := by
  cases key with
  | filesystem | fsMode | fsOwner | cloneOf | importVol => exact map_set_eq_error_iff Grammar.reader_text
  | initiators => exact map_set_eq_error_iff Grammar.reader_texts
  | delayedCreate => exact map_set_eq_error_iff Grammar.reader_flag
  | mountConflictDelay | deleteConflictDelay => exact map_set_eq_error_iff Grammar.reader_delay
  | help => exact ⟨nofun, nofun⟩

/-- An entry is refused with the complaint of its option, if it has one. -/
theorem readEntry_eq_error_iff {o : Options} {entry : String × Json} {f : Failure} :
    readEntry o entry = .error f ↔
      ∃ key : Key, key.name = entry.1 ∧ key.complaint? entry.2 = some f := by
  unfold readEntry
  cases hkey : Key.ofName? entry.1 with
  | none =>
    refine ⟨nofun, ?_⟩
    rintro ⟨key, hname, -⟩
    rw [Key.ofName?_eq_some_iff.2 hname] at hkey
    cases hkey
  | some key =>
    have hmap : (readInto o entry.2 key).mapError (invalidValue key entry.2) = .error f ↔
        ∃ expected, readInto o entry.2 key = .error expected ∧ invalidValue key entry.2 expected = f := by
      cases readInto o entry.2 key <;> simp [Except.mapError]
    have hcomplaint : key.complaint? entry.2 = some f ↔
        ∃ expected, readInto o entry.2 key = .error expected ∧ invalidValue key entry.2 expected = f := by
      simp only [Key.complaint?, Option.map_eq_some_iff, readInto_eq_error_iff]
    dsimp only
    rw [hmap, ← hcomplaint]
    constructor
    · exact fun h => ⟨key, Key.ofName?_eq_some_iff.1 hkey, h⟩
    · rintro ⟨other, hname, h⟩
      cases hkey.symm.trans (Key.ofName?_eq_some_iff.2 hname)
      exact h

/-- An entry of a new name adds itself to the look-ups that the options are lifted from. -/
theorem Lifts.readEntry {look : String → Option Json} {o p : Options} {entry : String × Json}
    (h : Lifts look o) (hnew : look entry.1 = none) (hread : Options.readEntry o entry = .ok p) :
    Lifts (Function.update look entry.1 (some entry.2)) p := by
  obtain ⟨name, value⟩ := entry
  unfold Options.readEntry at hread
  cases hkey : Key.ofName? name with
  | none =>
    have hunknown := Key.ofName?_eq_none_iff.1 hkey
    have hne : ∀ key : Key, key.name ≠ name := by
      rintro key rfl
      exact absurd key.isKnown_name (by simp [hunknown])
    simp only [hkey, Except.ok.injEq] at hread
    subst hread
    refine ⟨fun key v hv => ?_, fun key => ?_, fun other => ?_⟩
    · rw [Function.update_of_ne (hne key)] at hv
      exact h.admits key v hv
    · rw [Function.update_of_ne (hne key)]
      exact h.written key
    · rw [Dict.get?_insert]
      by_cases hother : other = name
      · subst hother
        simp [hunknown]
      · rw [if_neg hother, Function.update_of_ne hother]
        exact h.extra other
  | some key =>
    obtain rfl := Key.ofName?_eq_some_iff.1 hkey
    have hinto : readInto o value key = .ok p := by
      simp only [hkey] at hread
      cases hvalue : readInto o value key <;> simp [hvalue, Except.mapError] at hread ⊢
      exact hread
    obtain ⟨hadmits, hextra, hwritten⟩ := readInto_eq_ok hinto
    refine ⟨fun other v hv => ?_, fun other => ?_, fun other => ?_⟩
    · by_cases hother : other = key
      · subst hother
        rw [Function.update_self] at hv
        cases hv
        exact hadmits
      · rw [Function.update_of_ne (Key.name_injective.ne hother)] at hv
        exact h.admits other v hv
    · rw [hwritten]
      by_cases hother : other = key
      · subst hother
        simp
      · rw [if_neg hother, Function.update_of_ne (Key.name_injective.ne hother)]
        exact h.written other
    · rw [hextra, h.extra]
      by_cases hother : other = key.name
      · subst hother
        simp [key.isKnown_name]
      · rw [Function.update_of_ne hother]

/-- Entries of new names add themselves one after the other. -/
theorem Lifts.foldlM {look : String → Option Json} {entries : List (String × Json)} {o p : Options}
    (h : Lifts look o) (hnodup : (entries.map Prod.fst).Nodup)
    (hnew : ∀ entry ∈ entries, look entry.1 = none)
    (hread : entries.foldlM Options.readEntry o = .ok p) :
    Lifts (fun name => (entries.lookup name).or (look name)) p := by
  induction entries generalizing look o with
  | nil =>
    cases hread
    exact h
  | cons entry entries ih =>
    obtain ⟨hhead, htail⟩ := List.nodup_cons.1 hnodup
    rw [List.foldlM_cons] at hread
    obtain ⟨q, hq, hrest⟩ := bind_eq_ok.1 hread
    have hlifts := h.readEntry (hnew entry List.mem_cons_self) hq
    have hne : ∀ e ∈ entries, e.1 ≠ entry.1 := fun e he heq => hhead (heq ▸ List.mem_map_of_mem he)
    have hlater : ∀ e ∈ entries, Function.update look entry.1 (some entry.2) e.1 = none := by
      intro e he
      rw [Function.update_of_ne (hne e he)]
      exact hnew e (List.mem_cons_of_mem _ he)
    have hlook : (fun name => (entries.lookup name).or
        (Function.update look entry.1 (some entry.2) name)) =
        fun name => ((entry :: entries).lookup name).or (look name) := by
      funext name
      rw [Dict.lookup_cons]
      by_cases hname : name = entry.1
      · have hnone : entries.lookup entry.1 = none :=
          List.lookup_eq_none_iff.2 fun e he => bne_iff_ne.2 (hne e he).symm
        simp [hname, hnone]
      · simp [hname]
    rw [← hlook]
    exact ih hlifts htail hlater hrest

theorem foldlM_readEntry_eq_error {entries : List (String × Json)} {o : Options} {f : Failure}
    (h : entries.foldlM readEntry o = .error f) :
    ∃ entry ∈ entries, ∃ key : Key, key.name = entry.1 ∧ key.complaint? entry.2 = some f := by
  induction entries generalizing o with
  | nil => cases h
  | cons entry entries ih =>
    rw [List.foldlM_cons] at h
    obtain hf | ⟨p, -, hrest⟩ := bind_eq_error.1 h
    · exact ⟨entry, List.mem_cons_self, readEntry_eq_error_iff.1 hf⟩
    · obtain ⟨other, hother, hcomplaint⟩ := ih hrest
      exact ⟨other, List.mem_cons_of_mem _ hother, hcomplaint⟩

theorem lifts_default : Lifts (fun _ => none) {} where
  admits _ _ := nofun
  written key := by cases key <;> rfl
  extra name := by
    rw [ite_self]
    rfl

/-- Whatever the order, a failure is the complaint of one of the entries. -/
theorem complaint_of_ofEntries {entries : List (String × Json)} {map : Dict Json} {f : Failure}
    (h : entries.Perm map.entries) (hf : ofEntries entries = .error f) :
    ∃ key value, map.get? (Key.name key) = some value ∧ key.complaint? value = some f := by
  obtain ⟨entry, hentry, key, hname, hcomplaint⟩ := foldlM_readEntry_eq_error hf
  refine ⟨key, entry.2, ?_, hcomplaint⟩
  rw [hname]
  exact (Dict.lookup_eq_some_iff_mem map.nodup_keys).2 (h.mem_iff.1 hentry)

/-- Whatever the order, the entries of a map give the options that the map gives. -/
theorem ofEntries_eq_ok_iff {entries : List (String × Json)} {map : Dict Json} {o : Options}
    (h : entries.Perm map.entries) : ofEntries entries = .ok o ↔ ofDict map = .ok o := by
  have hlifts : ∀ {p}, ofEntries entries = .ok p → Lifts map.get? p := by
    intro p hp
    have hnodup : (entries.map Prod.fst).Nodup := (h.map Prod.fst).nodup_iff.2 map.nodup_keys
    have hall := lifts_default.foldlM hnodup (fun _ _ => rfl) hp
    have hlook : (fun name => (entries.lookup name).or none) = map.get? := by
      funext name
      rw [Option.or_none, Dict.lookup_of_perm h]
    rwa [hlook] at hall
  constructor
  · exact fun ho => ofDict_eq_ok_iff_lifts.2 (hlifts ho)
  · intro ho
    have hmap := ofDict_eq_ok_iff_lifts.1 ho
    cases hread : ofEntries entries with
    | ok p => rw [(hlifts hread).unique hmap]
    | error f =>
      obtain ⟨key, value, hvalue, hcomplaint⟩ := complaint_of_ofEntries h hread
      have hadmits := hmap.admits key value hvalue
      rw [Key.complaint?, Grammar.admits_iff.1 hadmits] at hcomplaint
      cases hcomplaint

/-- Every complaint about an entry is the failure in some order: the one in which the entry comes
first. -/
theorem exists_ofEntries_eq_error {map : Dict Json} {key : Key} {value : Json} {f : Failure}
    (hvalue : map.get? key.name = some value) (hf : key.complaint? value = some f) :
    ∃ entries, List.Perm entries map.entries ∧ ofEntries entries = .error f := by
  have hmem : (key.name, value) ∈ map.entries := (Dict.lookup_eq_some_iff_mem map.nodup_keys).1 hvalue
  obtain ⟨before, behind, hsplit⟩ := List.append_of_mem hmem
  have hfirst : readEntry {} (key.name, value) = .error f := readEntry_eq_error_iff.2 ⟨key, rfl, hf⟩
  refine ⟨(key.name, value) :: (before ++ behind), ?_, ?_⟩
  · rw [hsplit]
    exact List.perm_middle.symm
  · rw [ofEntries, List.foldlM_cons, hfirst]
    rfl

end Options
end VolumeLifecycle
