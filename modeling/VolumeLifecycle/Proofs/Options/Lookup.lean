import VolumeLifecycle.Dict.Lookup
import VolumeLifecycle.Options.Basic

namespace VolumeLifecycle.Options

def written (o : Options) : Key → Option Json
  | .filesystem => o.filesystem.map .string
  | .fsMode => o.fsMode.map .string
  | .fsOwner => o.fsOwner.map .string
  | .initiators => o.initiators.map .strings
  | .delayedCreate => o.delayedCreate.map .bool
  | .mountConflictDelay => o.mountConflictDelay.map .natural
  | .deleteConflictDelay => o.deleteConflictDelay.map .natural
  | .cloneOf => o.cloneOf.map .string
  | .importVol => o.importVol.map .string
  | .help => if o.help then some (.bool true) else none

/-- An option that is put into a map is found under its name if it is set, and nothing else changes. -/
theorem get?_put (map : Dict Json) (key : Key) (value : Option Json) (name : String) :
    (put map key value).get? name = if name = key.name then value.or (map.get? name)
      else map.get? name := by
  cases value with
  | none => simp [put]
  | some v => simp [put, Dict.get?_insert]

/-- A known option is found in the map as it is written; an unknown one of its name only if it is
unset. -/
theorem get?_toDict (o : Options) (key : Key) :
    o.toDict.get? key.name = (o.written key).or (o.extra.get? key.name) := by
  cases key <;> simp [toDict, get?_put, Key.name, written]

theorem Key.isKnown_name (key : Key) : Key.isKnown key.name = true := by
  cases key <;> decide

theorem Key.isKnown_iff {name : String} : Key.isKnown name = true ↔ ∃ key : Key, key.name = name := by
  constructor
  · intro h
    obtain ⟨key, -, hkey⟩ := List.any_eq_true.1 h
    exact ⟨key, of_decide_eq_true hkey⟩
  · rintro ⟨key, rfl⟩
    exact key.isKnown_name

/-- The entries that are kept unread are those of names that are not known. -/
theorem get?_unknownEntries (map : Dict Json) (name : String) :
    (unknownEntries map).get? name = if Key.isKnown name then none else map.get? name := by
  have hfilter := Dict.lookup_filter_name (fun other => !Key.isKnown other) map.entries name
  refine hfilter.trans ?_
  cases Key.isKnown name <;> rfl

theorem bind_eq_ok {ε α β : Type} {x : Except ε α} {f : α → Except ε β} {b : β} :
    (x >>= f) = .ok b ↔ ∃ a, x = .ok a ∧ f a = .ok b := by
  cases x with
  | error e => exact ⟨nofun, nofun⟩
  | ok a =>
    constructor
    · exact fun h => ⟨a, rfl, h⟩
    · rintro ⟨_, ⟨⟩, h⟩
      exact h

theorem bind_eq_error {ε α β : Type} {x : Except ε α} {f : α → Except ε β} {e : ε} :
    (x >>= f) = .error e ↔ x = .error e ∨ ∃ a, x = .ok a ∧ f a = .error e := by
  cases x with
  | error e' =>
    constructor
    · rintro ⟨⟩
      exact .inl rfl
    · rintro (⟨⟨⟩⟩ | ⟨_, ⟨⟩, _⟩)
      rfl
  | ok a =>
    constructor
    · exact fun h => .inr ⟨a, rfl, h⟩
    · rintro (⟨⟨⟩⟩ | ⟨_, ⟨⟩, h⟩)
      exact h

/-- The options that a map gives, one by one. -/
theorem ofDict_eq_ok_iff {map : Dict Json} {o : Options} :
    ofDict map = .ok o ↔
      setting map .filesystem readText = .ok o.filesystem ∧
      setting map .fsMode readText = .ok o.fsMode ∧
      setting map .fsOwner readText = .ok o.fsOwner ∧
      setting map .initiators readTexts = .ok o.initiators ∧
      setting map .delayedCreate readFlag = .ok o.delayedCreate ∧
      setting map .mountConflictDelay readDelay = .ok o.mountConflictDelay ∧
      setting map .deleteConflictDelay readDelay = .ok o.deleteConflictDelay ∧
      setting map .cloneOf readText = .ok o.cloneOf ∧
      setting map .importVol readText = .ok o.importVol ∧
      asksForHelp map = o.help ∧ unknownEntries map = o.extra := by
  simp only [ofDict, bind_eq_ok]
  constructor
  · rintro ⟨_, h₁, _, h₂, _, h₃, _, h₄, _, h₅, _, h₆, _, h₇, _, h₈, _, h₉, h⟩
    cases h
    exact ⟨h₁, h₂, h₃, h₄, h₅, h₆, h₇, h₈, h₉, rfl, rfl⟩
  · rintro ⟨h₁, h₂, h₃, h₄, h₅, h₆, h₇, h₈, h₉, hhelp, hextra⟩
    refine ⟨_, h₁, _, h₂, _, h₃, _, h₄, _, h₅, _, h₆, _, h₇, _, h₈, _, h₉, ?_⟩
    rw [hhelp, hextra]
    rfl

/-- A map gives the mark of a volume whose filesystem is created on first mount: as a truth value, or
as its text. -/
def GivesMark (map : Dict Json) : Prop :=
  map.get? Key.delayedCreate.name = some (.bool true) ∨
    ∃ s, map.get? Key.delayedCreate.name = some (.string s) ∧ Text.trim s = "true"

theorem readFlag_eq_true_iff (value : Json) :
    readFlag value = .ok (some true) ↔
      value = .bool true ∨ ∃ s, value = .string s ∧ Text.trim s = "true" := by
  cases value with
  | string s =>
    by_cases htrue : Text.trim s = "true"
    · simp [readFlag, htrue]
    · by_cases hfalse : Text.trim s = "false"
      · simp [readFlag, hfalse]
      · simp [readFlag, htrue, hfalse]
  | _ => simp [readFlag]

/-- The options that are read from a map are marked exactly if the map gives the mark. -/
theorem delayedCreate_eq_true_iff {map : Dict Json} {o : Options} (h : ofDict map = .ok o) :
    o.delayedCreate = some true ↔ GivesMark map := by
  have hmark := (ofDict_eq_ok_iff.1 h).2.2.2.2.1
  unfold setting at hmark
  unfold GivesMark
  cases hvalue : map.get? Key.delayedCreate.name with
  | none =>
    simp only [hvalue] at hmark
    simp [← Except.ok.inj hmark]
  | some value =>
    simp only [hvalue] at hmark
    have hread : readFlag value = .ok o.delayedCreate := by
      cases hflag : readFlag value with
      | error e =>
        rw [hflag] at hmark
        cases hmark
      | ok flag =>
        rw [hflag] at hmark
        exact congrArg Except.ok (Except.ok.inj hmark)
    have hiff := readFlag_eq_true_iff value
    simpa [hread] using hiff

end VolumeLifecycle.Options
