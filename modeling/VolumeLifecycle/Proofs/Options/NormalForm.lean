import VolumeLifecycle.Proofs.Options.Lifting

namespace VolumeLifecycle.Options

/-- Options written to a map and read again, a number of times. -/
def relifted : Nat → Options → Except Failure Options
  | 0, o => .ok o
  | n + 1, o => ofDict o.toDict >>= relifted n

/-- The texts in options: those of the textual options and the entries of the initiators. -/
def texts (o : Options) : List String :=
  o.filesystem.toList ++ o.fsMode.toList ++ o.fsOwner.toList ++ o.initiators.getD [] ++
    o.cloneOf.toList ++ o.importVol.toList

/-- A name that is not known is found in the written map as it was kept. -/
theorem get?_toDict_of_unknown (o : Options) {name : String} (h : Key.isKnown name = false) :
    o.toDict.get? name = o.extra.get? name := by
  have hne : ∀ key : Key, name ≠ key.name := by
    rintro key rfl
    rw [key.isKnown_name] at h
    cases h
  simp only [toDict, get?_put, if_neg (hne _)]

section Lifts

variable {look : String → Option Json} {o : Options}

/-- What a lifted option is written as is a normal form of its grammar. -/
theorem Lifts.isNormal (h : Lifts look o) {key : Key} {w : Json} (hw : o.written key = some w) :
    key.grammar.IsNormal w := by
  rw [h.written] at hw
  obtain ⟨value, hvalue, hnormal⟩ := Option.bind_eq_some_iff.1 hw
  exact Grammar.isNormal_of_admits (h.admits key value hvalue) hnormal

/-- No known option is kept unread. -/
theorem Lifts.get?_extra (h : Lifts look o) (key : Key) : o.extra.get? key.name = none := by
  rw [h.extra, if_pos key.isKnown_name]

theorem Lifts.get?_toDict (h : Lifts look o) (key : Key) : o.toDict.get? key.name = o.written key := by
  rw [Options.get?_toDict, h.get?_extra, Option.or_none]

/-- Lifted options are what the map lifts to that they are written as. -/
theorem Lifts.toDict (h : Lifts look o) : Lifts o.toDict.get? o where
  admits key w hw := by
    rw [h.get?_toDict] at hw
    exact (h.isNormal hw).admits
  written key := by
    rw [h.get?_toDict]
    cases hw : o.written key with
    | none => rfl
    | some w => exact (h.isNormal hw).normal_eq.symm
  extra name := by
    cases hknown : Key.isKnown name with
    | true =>
      obtain ⟨key, rfl⟩ := Key.isKnown_iff.1 hknown
      exact h.get?_extra key
    | false => exact (get?_toDict_of_unknown o hknown).symm

/-- All texts of lifted options are neat. -/
theorem Lifts.neat_of_mem_texts (h : Lifts look o) : ∀ s ∈ o.texts, Text.Neat s := by
  have hfield : ∀ (key : Key) (x : Option String), o.written key = x.map .string →
      ∀ s ∈ x.toList, Text.Neat s := by
    intro key x hx s hs
    have hsome : x = some s := by simpa using hs
    rw [hsome] at hx
    exact (h.isNormal hx).neat
  intro s hs
  simp only [texts, List.mem_append] at hs
  rcases hs with ((((hs | hs) | hs) | hs) | hs) | hs
  · exact hfield .filesystem _ rfl s hs
  · exact hfield .fsMode _ rfl s hs
  · exact hfield .fsOwner _ rfl s hs
  · cases hl : o.initiators with
    | none => simp [hl] at hs
    | some l =>
      have hw : o.written .initiators = some (.strings l) := congrArg (Option.map Json.strings) hl
      exact (h.isNormal hw).neat_of_mem rfl s (by simpa [hl] using hs)
  · exact hfield .cloneOf _ rfl s hs
  · exact hfield .importVol _ rfl s hs

end Lifts

/-- Reading reaches a normal form in one step. Whatever a map lifts to is written to a map that lifts to
the same, however often this is repeated; it keeps no known option unread, and its texts are neither empty
nor have they blanks at their ends. -/
theorem lifting_normalizes {map : Dict Json} {o : Options} (h : ofDict map = .ok o) :
    ofDict o.toDict = .ok o ∧ (∀ n, relifted n o = .ok o) ∧
      (∀ key, o.extra.get? (Key.name key) = none) ∧ ∀ s ∈ o.texts, Text.Neat s := by
  have hlifts := ofDict_eq_ok_iff_lifts.1 h
  have hagain : ofDict o.toDict = .ok o := ofDict_eq_ok_iff_lifts.2 hlifts.toDict
  refine ⟨hagain, fun n => ?_, hlifts.get?_extra, hlifts.neat_of_mem_texts⟩
  induction n with
  | zero => rfl
  | succ n ih =>
    rw [relifted, hagain]
    exact ih

/-- Options as users give them: with blanks around their texts, a mode and a delay of the wrong type, and
some that are there without being set. -/
def untidyMap : Dict Json :=
  .ofList [(Key.filesystem.name, .string " ext4 "), (Key.fsMode.name, .natural 755),
    (Key.initiators.name, .string "eth0, ,eth1 "), (Key.mountConflictDelay.name, .string "+60"),
    (Key.cloneOf.name, .string " "), (Key.help.name, .null), ("pool", .string " gold ")]

def tidyOptions : Options :=
  { filesystem := some "ext4", fsMode := some "755", initiators := some ["eth0", "eth1"]
    mountConflictDelay := some 60, help := true, extra := .ofList [("pool", .string " gold ")] }

/-- Options with blanks, odd types and unset values are tidied once, and stay as they are then. -/
theorem lifting_normalizes_untidy : ofDict untidyMap = .ok tidyOptions ∧
    ofDict tidyOptions.toDict = .ok tidyOptions ∧ (∀ n, relifted n tidyOptions = .ok tidyOptions) ∧
      (∀ key, tidyOptions.extra.get? (Key.name key) = none) ∧ ∀ s ∈ tidyOptions.texts, Text.Neat s :=
  have hread : ofDict untidyMap = .ok tidyOptions := rfl
  ⟨hread, lifting_normalizes hread⟩

end VolumeLifecycle.Options
