import VolumeLifecycle.Proofs.Options.Grammar
import VolumeLifecycle.Proofs.Options.Lookup

namespace VolumeLifecycle.Options

/-- Options that look-ups give: each known option as the grammar reads the value found, and every other
name with its value as it is. -/
structure Lifts (look : String → Option Json) (o : Options) : Prop where
  admits : ∀ key value, look (Key.name key) = some value → key.grammar.Admits value
  written : ∀ key, o.written key = (look key.name).bind key.grammar.normal
  extra : ∀ name, o.extra.get? name = if Key.isKnown name then none else look name

def Key.complaint? (key : Key) (value : Json) : Option Failure :=
  (key.grammar.refusal? value).map (invalidValue key value)

theorem Key.name_injective : Function.Injective Key.name := by
  intro a b
  cases a <;> cases b <;> first | exact fun _ => rfl | exact fun h => absurd h (by decide)

/-- Options are determined by what they are written as and by the entries kept unread. -/
theorem ext_written {o p : Options} (h : ∀ key, o.written key = p.written key)
    (hextra : o.extra = p.extra) : o = p := by
  have hstring := Option.map_injective Grammar.reader_text.injective
  have hstrings := Option.map_injective Grammar.reader_texts.injective
  have hbool := Option.map_injective Grammar.reader_flag.injective
  have hnatural := Option.map_injective Grammar.reader_delay.injective
  have hhelp : o.help = p.help := by
    have hwritten := h .help
    cases ho : o.help <;> cases hp : p.help <;> simp [written, ho, hp] at hwritten ⊢
  obtain ⟨⟩ := o
  obtain ⟨⟩ := p
  simp only [Options.mk.injEq]
  exact ⟨hstring (h .filesystem), hstring (h .fsMode), hstring (h .fsOwner), hstrings (h .initiators),
    hbool (h .delayedCreate), hnatural (h .mountConflictDelay), hnatural (h .deleteConflictDelay),
    hstring (h .cloneOf), hstring (h .importVol), hhelp, hextra⟩

section Setting

variable {map : Dict Json} {key : Key} {α : Type} {read : Json → Reading α} {write : α → Json}

theorem setting_eq_ok_iff (h : key.grammar.Reader read write) {x : Option α} :
    setting map key read = .ok x ↔
      (∀ value, map.get? key.name = some value → key.grammar.Admits value) ∧
        x.map write = (map.get? key.name).bind key.grammar.normal := by
  unfold setting
  cases map.get? key.name with
  | none => cases x <;> simp
  | some value =>
    have hread : (read value).mapError (invalidValue key value) = .ok x ↔ read value = .ok x := by
      cases read value <;> simp [Except.mapError]
    simpa [hread] using h.eq_ok_iff

theorem setting_eq_error (h : key.grammar.Reader read write) {f : Failure}
    (hf : setting map key read = .error f) :
    ∃ value, map.get? key.name = some value ∧ key.complaint? value = some f := by
  unfold setting at hf
  cases hvalue : map.get? key.name with
  | none => simp [hvalue] at hf
  | some value =>
    simp only [hvalue] at hf
    cases hread : read value with
    | ok x => simp [hread, Except.mapError] at hf
    | error expected =>
      simp only [hread, Except.mapError, Except.error.injEq] at hf
      refine ⟨value, rfl, ?_⟩
      rw [Key.complaint?, h.eq_error_iff.1 hread, ← hf]
      rfl

end Setting

theorem asksForHelp_eq_iff {map : Dict Json} {o : Options} : asksForHelp map = o.help ↔
    o.written .help = (map.get? Key.help.name).bind Key.help.grammar.normal := by
  have hinj : ∀ b : Bool, b = o.help ↔ o.written .help = if b then some (.bool true) else none := by
    intro b
    cases b <;> cases hhelp : o.help <;> simp [written, hhelp]
  rw [hinj, asksForHelp]
  cases map.get? Key.help.name with
  | none => rfl
  | some value =>
    rw [Grammar.readHelp_eq]
    rfl

/-- The options that a map gives are those that its look-ups lift to. -/
theorem ofDict_eq_ok_iff_lifts {map : Dict Json} {o : Options} :
    ofDict map = .ok o ↔ Lifts map.get? o := by
  have hset : ∀ (key : Key) {α : Type} {read : Json → Reading α} {write : α → Json},
      key.grammar.Reader read write → ∀ {x : Option α}, setting map key read = .ok x ↔
        (∀ value, map.get? key.name = some value → key.grammar.Admits value) ∧
          x.map write = (map.get? key.name).bind key.grammar.normal :=
    fun key _ _ _ h _ => setting_eq_ok_iff h
  rw [ofDict_eq_ok_iff, hset .filesystem Grammar.reader_text, hset .fsMode Grammar.reader_text,
    hset .fsOwner Grammar.reader_text, hset .initiators Grammar.reader_texts,
    hset .delayedCreate Grammar.reader_flag, hset .mountConflictDelay Grammar.reader_delay,
    hset .deleteConflictDelay Grammar.reader_delay, hset .cloneOf Grammar.reader_text,
    hset .importVol Grammar.reader_text, asksForHelp_eq_iff]
  constructor
  · rintro ⟨h₁, h₂, h₃, h₄, h₅, h₆, h₇, h₈, h₉, hhelp, hextra⟩
    refine ⟨fun key => ?_, fun key => ?_, fun name => ?_⟩
    · cases key
      exacts [h₁.1, h₂.1, h₃.1, h₄.1, h₅.1, h₆.1, h₇.1, h₈.1, h₉.1, fun value _ => .any value]
    · cases key
      exacts [h₁.2, h₂.2, h₃.2, h₄.2, h₅.2, h₆.2, h₇.2, h₈.2, h₉.2, hhelp]
    · rw [← hextra, get?_unknownEntries]
  · rintro ⟨hadmits, hwritten, hextra⟩
    have hboth := fun key => And.intro (hadmits key) (hwritten key)
    have hunknown : unknownEntries map = o.extra :=
      Dict.ext_get? fun name => (get?_unknownEntries map name).trans (hextra name).symm
    exact ⟨hboth _, hboth _, hboth _, hboth _, hboth _, hboth _, hboth _, hboth _, hboth _, hwritten _,
      hunknown⟩

/-- Where a map does not lift, one of its values is complained of. -/
theorem complaint_of_ofDict {map : Dict Json} {f : Failure} (h : ofDict map = .error f) :
    ∃ key value, map.get? (Key.name key) = some value ∧ key.complaint? value = some f := by
  have hset : ∀ (key : Key) {α : Type} {read : Json → Reading α} {write : α → Json},
      key.grammar.Reader read write → setting map key read = .error f →
        ∃ key value, map.get? (Key.name key) = some value ∧ key.complaint? value = some f :=
    fun key _ _ _ hreader hf => ⟨key, setting_eq_error hreader hf⟩
  simp only [ofDict, bind_eq_error] at h
  rcases h with h | ⟨_, _, h | ⟨_, _, h | ⟨_, _, h | ⟨_, _, h | ⟨_, _, h | ⟨_, _, h | ⟨_, _, h |
    ⟨_, _, h | ⟨_, _, h⟩⟩⟩⟩⟩⟩⟩⟩⟩
  · exact hset .filesystem Grammar.reader_text h
  · exact hset .fsMode Grammar.reader_text h
  · exact hset .fsOwner Grammar.reader_text h
  · exact hset .initiators Grammar.reader_texts h
  · exact hset .delayedCreate Grammar.reader_flag h
  · exact hset .mountConflictDelay Grammar.reader_delay h
  · exact hset .deleteConflictDelay Grammar.reader_delay h
  · exact hset .cloneOf Grammar.reader_text h
  · exact hset .importVol Grammar.reader_text h
  · cases h

theorem Lifts.unique {look : String → Option Json} {o p : Options} (ho : Lifts look o)
    (hp : Lifts look p) : o = p :=
  ext_written (fun key => (ho.written key).trans (hp.written key).symm)
    (Dict.ext_get? fun name => (ho.extra name).trans (hp.extra name).symm)

/-- A map lifts exactly if the values of all known options are admitted. -/
theorem exists_ofDict_iff {map : Dict Json} : (∃ o, ofDict map = .ok o) ↔
    ∀ key value, map.get? (Key.name key) = some value → key.grammar.Admits value := by
  constructor
  · rintro ⟨o, ho⟩
    exact (ofDict_eq_ok_iff_lifts.1 ho).admits
  · intro hadmits
    cases hread : ofDict map with
    | ok o => exact ⟨o, rfl⟩
    | error f =>
      obtain ⟨key, value, hvalue, hcomplaint⟩ := complaint_of_ofDict hread
      rw [Key.complaint?, Grammar.admits_iff.1 (hadmits key value hvalue)] at hcomplaint
      cases hcomplaint

end VolumeLifecycle.Options
