import VolumeLifecycle.Proofs.Options.Entries

namespace VolumeLifecycle.Options

def highest (global driver request : Dict Json) (name : String) : Option Json :=
  (request.get? name).or ((driver.get? name).or (global.get? name))

/-- A failure that is about a value which the grammar of its option does not admit: it names the option and
what is expected instead. -/
def NamesOffence (look : String → Option Json) (f : Failure) : Prop :=
  ∃ key value expected, look (Key.name key) = some value ∧ ¬key.grammar.Admits value ∧
    key.grammar.refusal? value = some expected ∧ f = invalidValue key value expected

/-- Of three layers the value in the highest one counts. -/
theorem get?_layers (global driver request : Dict Json) (name : String) :
    ((global.union driver).union request).get? name = highest global driver request name := by
  rw [Dict.get?_union, Dict.get?_union, highest]

/-- A complaint about the value of a known option names an offence. -/
theorem namesOffence_of_complaint {look : String → Option Json} {key : Key} {value : Json} {f : Failure}
    (hvalue : look key.name = some value) (h : key.complaint? value = some f) : NamesOffence look f := by
  obtain ⟨expected, hexpected, rfl⟩ := Option.map_eq_some_iff.1 h
  refine ⟨key, value, expected, hvalue, fun hadmits => ?_, hexpected, rfl⟩
  rw [Grammar.admits_iff.1 hadmits] at hexpected
  cases hexpected

theorem NamesOffence.exists_complaint {look : String → Option Json} {f : Failure}
    (h : NamesOffence look f) :
    ∃ key value, look (Key.name key) = some value ∧ key.complaint? value = some f := by
  obtain ⟨key, value, expected, hvalue, -, hexpected, rfl⟩ := h
  exact ⟨key, value, hvalue, Option.map_eq_some_iff.2 ⟨expected, hexpected, rfl⟩⟩

/-- Options that can be lifted offend in nothing. -/
theorem Lifts.not_offence {look : String → Option Json} {o : Options} {f : Failure} (h : Lifts look o) :
    ¬NamesOffence look f := by
  rintro ⟨key, value, -, hvalue, hnot, -⟩
  exact hnot (h.admits key value hvalue)

/-- Layers with the same values on top give the same options. -/
theorem layered_congr {global driver request global' driver' request' : Dict Json}
    (h : ∀ name, highest global' driver' request' name = highest global driver request name) :
    layered global' driver' request' = layered global driver request := by
  have hmerged : (global'.union driver').union request' = (global.union driver).union request := by
    refine Dict.ext_get? fun name => ?_
    rw [get?_layers, get?_layers, h]
  rw [layered, layered, hmerged]

/-- Layered options are accepted exactly if the grammar of every known option admits the value in the
highest layer that has the option. That value alone determines the option, also where it leaves it unset;
values below it never matter. The order in which the entries of the layers are met does not show, except
that the failure names the offending option met first, and that may be any of them. -/
theorem layered_by_highest (global driver request : Dict Json) :
    let top := highest global driver request
    ((∃ o, layered global driver request = .ok o) ↔
      ∀ key value, top (Key.name key) = some value → key.grammar.Admits value) ∧
    (∀ o, layered global driver request = .ok o →
      (∀ key, o.written key = (top key.name).bind key.grammar.normal) ∧
      (∀ key value, top (Key.name key) = some value →
        (o.written key = none ↔ key.grammar.Unsets value)) ∧
      ∀ name, o.extra.get? name = if Key.isKnown name then none else top name) ∧
    (∀ f, layered global driver request = .error f → NamesOffence top f) ∧
    (∀ global' driver' request', (∀ name, highest global' driver' request' name = top name) →
      layered global' driver' request' = layered global driver request) ∧
    ∀ driverEntries requestEntries entries,
      driverEntries.Perm driver.entries → requestEntries.Perm request.entries →
      entries.Perm ((global.insertAll driverEntries).insertAll requestEntries).entries →
      (∀ o, ofEntries entries = .ok o ↔ layered global driver request = .ok o) ∧
      (∀ f, ofEntries entries = .error f → NamesOffence top f) ∧
      ∀ f, NamesOffence top f → ∃ reordered, reordered.Perm entries ∧
        ofEntries reordered = .error f := by
  intro top
  have htop : ((global.union driver).union request).get? = top :=
    funext (get?_layers global driver request)
  refine ⟨?_, fun o ho => ?_, fun f hf => ?_, fun _ _ _ => layered_congr,
    fun _ _ entries hdriver hrequest hentries => ?_⟩
  · rw [← htop]
    exact exists_ofDict_iff
  · have hlifts := ofDict_eq_ok_iff_lifts.1 ho
    rw [htop] at hlifts
    refine ⟨hlifts.written, fun key value hvalue => ?_, hlifts.extra⟩
    rw [hlifts.written, hvalue, Option.bind_some]
    exact Grammar.normal_eq_none_iff (hlifts.admits key value hvalue)
  · obtain ⟨key, value, hvalue, hcomplaint⟩ := complaint_of_ofDict hf
    rw [htop] at hvalue
    exact namesOffence_of_complaint hvalue hcomplaint
  · rw [Dict.insertAll_of_perm global hdriver, Dict.insertAll_of_perm _ hrequest] at hentries
    refine ⟨fun o => ofEntries_eq_ok_iff hentries, fun f hf => ?_, fun f hf => ?_⟩
    · obtain ⟨key, value, hvalue, hcomplaint⟩ := complaint_of_ofEntries hentries hf
      rw [htop] at hvalue
      exact namesOffence_of_complaint hvalue hcomplaint
    · obtain ⟨key, value, hvalue, hcomplaint⟩ := hf.exists_complaint
      rw [← htop] at hvalue
      obtain ⟨reordered, hperm, herror⟩ := exists_ofEntries_eq_error hvalue hcomplaint
      exact ⟨reordered, hperm.trans hentries.symm, herror⟩

/-- A default that is no mode at all does not matter under one that the request gives. -/
theorem layered_by_highest_shadowed :
    ∃ o, layered (.ofList [(Key.fsMode.name, .array [])]) .empty
        (.ofList [(Key.fsMode.name, .string "0755 ")]) = .ok o ∧
      o.written .fsMode = some (.string "0755") := by
  obtain ⟨⟨-, haccepts⟩, hfields, -⟩ := layered_by_highest
    (.ofList [(Key.fsMode.name, .array [])]) .empty (.ofList [(Key.fsMode.name, .string "0755 ")])
  obtain ⟨o, ho⟩ := haccepts fun key value hvalue => by
    cases key with
    | fsMode =>
      cases hvalue
      exact .text _
    | _ => cases hvalue
  exact ⟨o, ho, (hfields o ho).1 .fsMode⟩

/-- Null does not leave every option unset: it asks for help. -/
theorem null_asks_for_help : ¬∀ (global driver request : Dict Json) (o : Options) (key : Key),
    layered global driver request = .ok o → highest global driver request key.name = some .null →
      o.written key = none := by
  intro h
  have hunset := h (.ofList [(Key.help.name, .bool true)]) .empty (.ofList [(Key.help.name, .null)])
    { help := true } .help rfl rfl
  cases hunset

end VolumeLifecycle.Options
