import VolumeLifecycle.Options.Basic
import VolumeLifecycle.Proofs.Json.NumberText
import VolumeLifecycle.Proofs.Text.Unsigned

namespace VolumeLifecycle.Options

/-- A grammar of known options. -/
inductive Grammar where
  | text
  | texts
  | flag
  | delay
  | help

def Key.grammar : Key → Grammar
  | filesystem | fsMode | fsOwner | cloneOf | importVol => .text
  | initiators => .texts
  | delayedCreate => .flag
  | mountConflictDelay | deleteConflictDelay => .delay
  | help => .help

namespace Grammar

/-- The values of a grammar. All take null, a text also numbers, and help takes everything; a truth value
may be given as its text, and so may a delay, with a plus or without. -/
inductive Admits : Grammar → Json → Prop where
  | null (g : Grammar) : Admits g .null
  | text (s : String) : Admits text (.string s)
  | number (n : Json.Number) : Admits text (.number n)
  | joined (s : String) : Admits texts (.string s)
  | listed (l : List String) : Admits texts (.strings l)
  | truth (b : Bool) : Admits flag (.bool b)
  | truthText {s : String} (b : Bool) : Text.trim s = toString b → Admits flag (.string s)
  | seconds {n : Nat} : n ≤ maxDelay → Admits delay (.natural n)
  | secondsText {s : String} {n : Nat} :
      Text.Spells (Text.trim s).toList n → n ≤ maxDelay → Admits delay (.string s)
  | any (value : Json) : Admits help value

/-- What an admitted value is written as once it has been read, or nothing if it leaves the option
unset. -/
def normal : Grammar → Json → Option Json
  | text, .string s => (trimmed? s).map .string
  | text, .number n => some (.string n.text)
  | texts, .string s => (nonEmpty? ((Text.split ',' s).filterMap trimmed?)).map .strings
  | texts, .array items => (nonEmpty? ((items.filterMap asText?).filterMap trimmed?)).map .strings
  | flag, .bool b => some (.bool b)
  | flag, .string s => some (.bool (Text.trim s = "true"))
  | delay, .number n => some (.number n)
  | delay, .string s => some (.natural (Text.digitsValue 0 (Text.dropPlus (Text.trim s).toList)))
  | help, .bool false => none
  | help, _ => some (.bool true)
  | _, _ => none

theorem normal_text (s : String) : text.normal (.string s) = (trimmed? s).map .string :=
  rfl

theorem normal_flagText (s : String) : flag.normal (.string s) = some (.bool (Text.trim s = "true")) :=
  rfl

theorem normal_secondsText (s : String) : delay.normal (.string s) =
    some (.natural (Text.digitsValue 0 (Text.dropPlus (Text.trim s).toList))) :=
  rfl

/-- The normal form of a list of texts has them trimmed, without the blank ones. -/
theorem normal_listed (l : List String) :
    texts.normal (.strings l) = (nonEmpty? (l.filterMap trimmed?)).map .strings := by
  have htexts : (l.map Json.string).filterMap asText? = l := by
    rw [List.filterMap_map]
    exact List.filterMap_some
  change (nonEmpty? (((l.map Json.string).filterMap asText?).filterMap trimmed?)).map Json.strings = _
  rw [htexts]

/-- What a reading asks for in place of the value, if it is not one. -/
def refused? {α : Type} : Reading α → Option Expectation
  | .ok _ => none
  | .error expected => some expected

/-- What is asked for in place of a value that a grammar does not admit. -/
def refusal? : Grammar → Json → Option Expectation
  | text, value => refused? (readText value)
  | texts, value => refused? (readTexts value)
  | flag, value => refused? (readFlag value)
  | delay, value => refused? (readDelay value)
  | help, _ => none

section Reader

variable {α : Type} {g : Grammar} {read : Json → Reading α} {write : α → Json}

/-- A reader of a grammar, whose settings are written by `write`: it takes the admitted values and reads
each of them as its normal form. -/
structure Reader (g : Grammar) (read : Json → Reading α) (write : α → Json) : Prop where
  injective : Function.Injective write
  admits : ∀ value x, read value = .ok x → g.Admits value
  reads : ∀ value, g.Admits value → ∃ x, read value = .ok x ∧ x.map write = g.normal value
  refuses : ∀ value, g.refusal? value = refused? (read value)

/-- A reader takes a value exactly if the grammar admits it, and makes of it what it is normally
written as. -/
theorem Reader.eq_ok_iff (h : g.Reader read write) {value : Json} {x : Option α} :
    read value = .ok x ↔ g.Admits value ∧ x.map write = g.normal value := by
  constructor
  · intro hread
    have hadmits := h.admits value x hread
    obtain ⟨y, hy, hnormal⟩ := h.reads value hadmits
    cases hread.symm.trans hy
    exact ⟨hadmits, hnormal⟩
  · rintro ⟨hadmits, hx⟩
    obtain ⟨y, hy, hnormal⟩ := h.reads value hadmits
    rw [hy, Option.map_injective h.injective (hx.trans hnormal.symm)]

/-- A reader refuses a value exactly if the grammar does, for the same reason. -/
theorem Reader.eq_error_iff (h : g.Reader read write) {value : Json} {expected : Expectation} :
    read value = .error expected ↔ g.refusal? value = some expected := by
  rw [h.refuses]
  cases hread : read value <;> simp [refused?]

theorem Reader.admits_iff (h : g.Reader read write) {value : Json} :
    g.Admits value ↔ g.refusal? value = none := by
  rw [h.refuses]
  constructor
  · intro hadmits
    obtain ⟨x, hx, -⟩ := h.reads value hadmits
    rw [hx]
    rfl
  · intro hnone
    cases hread : read value with
    | ok x => exact h.admits value x hread
    | error expected => simp [hread, refused?] at hnone

end Reader

/-- Texts are read as their grammar says. -/
theorem reader_text : Reader text readText .string where
  injective _ _ h := Json.string.inj h
  admits value x h := by
    cases value <;> cases h
    · exact .null _
    · exact .number _
    · exact .text _
  reads value h := by
    cases h
    · exact ⟨none, rfl, rfl⟩
    · exact ⟨_, rfl, rfl⟩
    · exact ⟨_, rfl, rfl⟩
  refuses _ := rfl

theorem mapM_asText?_eq_some_iff {items : List Json} {l : List String} :
    items.mapM asText? = some l ↔ items = l.map .string := by
  induction items generalizing l with
  | nil => simp [eq_comm]
  | cons item items ih =>
    cases item with
    | string s => cases l <;> simp [asText?, Option.bind_eq_some_iff, ih, and_comm]
    | _ => cases l <;> simp [asText?]

/-- Lists of texts are read as their grammar says. -/
theorem reader_texts : Reader texts readTexts .strings where
  injective _ _ h := List.map_injective_iff.2 (fun _ _ h => Json.string.inj h) (Json.array.inj h)
  admits value x h := by
    cases value with
    | null => exact .null _
    | string s => exact .joined s
    | array items =>
      cases hitems : items.mapM asText? with
      | none => simp [readTexts, hitems] at h
      | some l =>
        rw [mapM_asText?_eq_some_iff.1 hitems]
        exact .listed l
    | _ => cases h
  reads value h := by
    cases h with
    | null => exact ⟨none, rfl, rfl⟩
    | joined s => exact ⟨_, rfl, rfl⟩
    | listed l =>
      have hitems := mapM_asText?_eq_some_iff.2 (rfl : l.map Json.string = l.map Json.string)
      refine ⟨nonEmpty? (l.filterMap trimmed?), ?_, ?_⟩
      · simp only [readTexts, Json.strings, hitems]
      · exact (normal_listed l).symm
  refuses _ := rfl

/-- Truth values are read as their grammar says. -/
theorem reader_flag : Reader flag readFlag .bool where
  injective _ _ h := Json.bool.inj h
  admits value x h := by
    cases value with
    | null => exact .null _
    | bool b => exact .truth b
    | string s =>
      by_cases htrue : Text.trim s = "true"
      · exact .truthText true htrue
      · by_cases hfalse : Text.trim s = "false"
        · exact .truthText false hfalse
        · simp [readFlag, htrue, hfalse] at h
    | _ => cases h
  reads value h := by
    cases h with
    | null => exact ⟨none, rfl, rfl⟩
    | truth b => exact ⟨some b, rfl, rfl⟩
    | @truthText s b hs =>
      have htext : Text.trim s = if b then "true" else "false" := by cases b <;> exact hs
      refine ⟨some b, ?_, ?_⟩
      · cases b <;> simp [readFlag, htext]
      · cases b <;> simp [normal_flagText, htext]
  refuses _ := rfl

theorem readNatural_number (n : Json.Number) :
    readNatural (.number n) = n.natural?.elim (.error .natural) fun n => .ok (some n) := by
  unfold readNatural
  dsimp only
  cases n.natural? <;> rfl

theorem readNatural_string (s : String) : readNatural (.string s) =
    (Text.unsigned? (Text.trim s)).elim (.error .natural) fun n => .ok (some n) := by
  unfold readNatural
  dsimp only
  cases Text.unsigned? (Text.trim s) <;> rfl

/-- An unsigned integer is read from itself or from its text. -/
theorem readNatural_cases {value : Json} {x : Option Nat} (h : readNatural value = .ok x) :
    value = .null ∧ x = none ∨
      ∃ n, x = some n ∧ (value = .natural n ∨
        ∃ s, value = .string s ∧ Text.unsigned? (Text.trim s) = some n) := by
  cases value with
  | null =>
    cases h
    exact .inl ⟨rfl, rfl⟩
  | number number =>
    cases number with
    | float y => cases h
    | integer k =>
      by_cases hk : 0 ≤ k
      · have hread : readNatural (.number (.integer k)) = .ok (some k.toNat) := by
          simp [readNatural_number, Json.Number.natural?, hk]
        cases hread.symm.trans h
        refine .inr ⟨k.toNat, rfl, .inl ?_⟩
        rw [Json.natural, Int.toNat_of_nonneg hk]
      · simp [readNatural_number, Json.Number.natural?, hk] at h
  | string s =>
    cases hs : Text.unsigned? (Text.trim s) with
    | none => simp [readNatural_string, hs] at h
    | some n =>
      have hread : readNatural (.string s) = .ok (some n) := by simp [readNatural_string, hs]
      cases hread.symm.trans h
      exact .inr ⟨n, rfl, .inr ⟨s, rfl, hs⟩⟩
  | _ => cases h

/-- A delay is an unsigned integer up to the longest delay. -/
theorem readDelay_eq_ok_iff {value : Json} {x : Option Nat} : readDelay value = .ok x ↔
    readNatural value = .ok x ∧ ∀ n, x = some n → n ≤ maxDelay := by
  unfold readDelay
  split
  · next n hn =>
    rw [hn]
    split
    · next hlarge =>
      constructor
      · exact nofun
      · rintro ⟨h, hle⟩
        cases h
        have := hle n rfl
        omega
    · next hle =>
      constructor
      · intro h
        cases h
        refine ⟨rfl, fun m hm => ?_⟩
        cases hm
        omega
      · exact And.left
  · next hreading =>
    constructor
    · intro h
      refine ⟨h, fun n hn => ?_⟩
      exact absurd (h.trans (congrArg Except.ok hn)) (hreading n)
    · exact And.left

/-- Delays are read as their grammar says. -/
theorem reader_delay : Reader delay readDelay .natural where
  injective _ _ h := by
    simpa [Json.natural] using h
  admits value x h := by
    obtain ⟨hnatural, hle⟩ := readDelay_eq_ok_iff.1 h
    obtain ⟨rfl, rfl⟩ | ⟨n, rfl, rfl | ⟨s, rfl, hs⟩⟩ := readNatural_cases hnatural
    · exact .null _
    · exact .seconds (hle n rfl)
    · exact .secondsText (Text.unsigned?_eq_some_iff.1 hs).1 (hle n rfl)
  reads value h := by
    cases h with
    | null => exact ⟨none, rfl, rfl⟩
    | @seconds n hn =>
      refine ⟨some n, readDelay_eq_ok_iff.2 ⟨?_, ?_⟩, rfl⟩
      · simp [Json.natural, readNatural_number, Json.Number.natural?]
      · rintro _ ⟨⟩
        exact hn
    | @secondsText s n hs hn =>
      have hsize : n < UInt64.size := Nat.lt_of_le_of_lt hn (by decide)
      have hread := Text.unsigned?_eq_some_iff.2 ⟨hs, hsize⟩
      have hvalue := (Text.denotes_iff.1 (Text.spells_iff.1 hs)).2
      refine ⟨some n, readDelay_eq_ok_iff.2 ⟨?_, ?_⟩, ?_⟩
      · simp [readNatural_string, hread]
      · rintro _ ⟨⟩
        exact hn
      · rw [normal_secondsText, hvalue]
        rfl
  refuses _ := rfl

/-- The help flag is read as its normal form says. -/
theorem readHelp_eq {value : Json} :
    (if readHelp value then some (.bool true) else none) = normal help value := by
  cases value with
  | bool b => cases b <;> rfl
  | _ => rfl

/-- A value is admitted unless something else is asked for. -/
theorem admits_iff {g : Grammar} {value : Json} : g.Admits value ↔ g.refusal? value = none := by
  cases g with
  | text => exact reader_text.admits_iff
  | texts => exact reader_texts.admits_iff
  | flag => exact reader_flag.admits_iff
  | delay => exact reader_delay.admits_iff
  | help => exact ⟨fun _ => rfl, fun _ => .any value⟩

/-- The values of a grammar that leave their option unset: null and what has only blanks in it. Null asks
for help like any other value; only `false` does not. -/
inductive Unsets : Grammar → Json → Prop where
  | null {g : Grammar} : g ≠ help → Unsets g .null
  | blank {s : String} : Text.isBlankText s = true → Unsets text (.string s)
  | blankPieces {s : String} :
      (∀ piece ∈ Text.split ',' s, Text.isBlankText piece = true) → Unsets texts (.string s)
  | blanks {l : List String} : (∀ s ∈ l, Text.isBlankText s = true) → Unsets texts (.strings l)
  | declined : Unsets help (.bool false)

/-- Nothing is left exactly of a blank text. -/
theorem trimmed?_eq_none_iff {s : String} : trimmed? s = none ↔ Text.isBlankText s = true := by
  simp [trimmed?]

theorem nonEmpty?_eq_none_iff {l : List String} :
    (nonEmpty? (l.filterMap trimmed?)).map Json.strings = none ↔
      ∀ s ∈ l, Text.isBlankText s = true := by
  simp [nonEmpty?, trimmed?_eq_none_iff]

/-- An admitted value has no normal form exactly if it leaves its option unset. -/
theorem normal_eq_none_iff {g : Grammar} {value : Json} (h : g.Admits value) :
    g.normal value = none ↔ g.Unsets value := by
  constructor
  · intro hnone
    cases h with
    | null g =>
      refine .null ?_
      rintro rfl
      cases hnone
    | text s => exact .blank (trimmed?_eq_none_iff.1 (Option.map_eq_none_iff.1 hnone))
    | joined s => exact .blankPieces (nonEmpty?_eq_none_iff.1 hnone)
    | listed l =>
      rw [normal_listed] at hnone
      exact .blanks (nonEmpty?_eq_none_iff.1 hnone)
    | any value =>
      cases value with
      | bool b =>
        cases b with
        | false => exact .declined
        | true => cases hnone
      | _ => cases hnone
    | _ => cases hnone
  · intro hunsets
    cases hunsets with
    | null hne => cases g <;> first | rfl | exact absurd rfl hne
    | blank hs => exact Option.map_eq_none_iff.2 (trimmed?_eq_none_iff.2 hs)
    | blankPieces hs => exact nonEmpty?_eq_none_iff.2 hs
    | blanks hl =>
      rw [normal_listed]
      exact nonEmpty?_eq_none_iff.2 hl
    | declined => rfl

/-- The values that settings of a grammar are written as. -/
inductive IsNormal : Grammar → Json → Prop where
  | text {s : String} : Text.Neat s → IsNormal text (.string s)
  | texts {l : List String} : l ≠ [] → (∀ s ∈ l, Text.Neat s) → IsNormal texts (.strings l)
  | flag (b : Bool) : IsNormal flag (.bool b)
  | delay {n : Nat} : n ≤ maxDelay → IsNormal delay (.natural n)
  | help : IsNormal help (.bool true)

/-- A trimmed text has no blanks at its ends. -/
theorem neat_of_trimmed? {s t : String} (h : trimmed? s = some t) : Text.Neat t := by
  unfold trimmed? at h
  split at h
  · cases h
  · next hs =>
    cases h
    exact Text.neat_trim (Bool.not_eq_true _ ▸ hs)

theorem trimmed?_of_neat {s : String} (h : Text.Neat s) : trimmed? s = some s := by
  rw [trimmed?, h.isBlankText_eq, h.trim_eq]
  rfl

/-- Trimming leaves a list of neat texts alone. -/
theorem filterMap_trimmed? {l : List String} (h : ∀ s ∈ l, Text.Neat s) :
    l.filterMap trimmed? = l := by
  rw [List.filterMap_congr fun s hs => trimmed?_of_neat (h s hs)]
  exact List.filterMap_some

/-- What is left of a list of texts is a normal form. -/
theorem isNormal_nonEmpty? {l : List String} {w : Json}
    (h : (nonEmpty? (l.filterMap trimmed?)).map Json.strings = some w) : texts.IsNormal w := by
  obtain ⟨kept, hkept, rfl⟩ := Option.map_eq_some_iff.1 h
  unfold nonEmpty? at hkept
  split at hkept
  · cases hkept
  · next hne =>
    cases hkept
    refine .texts (by simpa using hne) fun s hs => ?_
    obtain ⟨t, -, ht⟩ := List.mem_filterMap.1 hs
    exact neat_of_trimmed? ht

/-- Whatever is admitted has a normal form or leaves its option unset. -/
theorem isNormal_of_admits {g : Grammar} {value w : Json} (h : g.Admits value)
    (hw : g.normal value = some w) : g.IsNormal w := by
  cases h with
  | null g =>
    cases g <;> cases hw
    exact .help
  | text s =>
    obtain ⟨t, ht, rfl⟩ := Option.map_eq_some_iff.1 hw
    exact .text (neat_of_trimmed? ht)
  | number n =>
    cases hw
    exact .text n.neat_text
  | joined s => exact isNormal_nonEmpty? hw
  | listed l => exact isNormal_nonEmpty? (normal_listed l ▸ hw)
  | truth b =>
    cases hw
    exact .flag b
  | truthText b _ =>
    cases hw
    exact .flag _
  | seconds hn =>
    cases hw
    exact .delay hn
  | secondsText hs hn =>
    cases hw
    rw [(Text.denotes_iff.1 (Text.spells_iff.1 hs)).2]
    exact .delay hn
  | any value =>
    have hhelp : w = .bool true := by
      cases value with
      | bool b => cases b <;> cases hw; rfl
      | _ => cases hw; rfl
    rw [hhelp]
    exact .help

/-- A normal value is admitted. -/
theorem IsNormal.admits {g : Grammar} {w : Json} (h : g.IsNormal w) : g.Admits w := by
  cases h with
  | text _ => exact .text _
  | texts _ _ => exact .listed _
  | flag b => exact .truth b
  | delay hn => exact .seconds hn
  | help => exact .any _

/-- A normal form reads as itself. -/
theorem IsNormal.normal_eq {g : Grammar} {w : Json} (h : g.IsNormal w) : g.normal w = some w := by
  cases h with
  | text hs => simp [normal_text, trimmed?_of_neat hs]
  | texts hne hl =>
    rw [normal_listed, filterMap_trimmed? hl]
    simp [nonEmpty?, hne]
  | flag b => rfl
  | delay hn => rfl
  | help => rfl

/-- A normal text has no blanks at its ends. -/
theorem IsNormal.neat {g : Grammar} {s : String} (h : g.IsNormal (.string s)) : Text.Neat s := by
  cases h
  assumption

/-- The texts of a normal list have no blanks at their ends. -/
theorem IsNormal.neat_of_mem {g : Grammar} {w : Json} {l : List String} (h : g.IsNormal w)
    (hw : w = .strings l) : ∀ s ∈ l, Text.Neat s := by
  cases h with
  | texts _ hl =>
    cases reader_texts.injective hw
    exact hl
  | _ => cases hw

end Grammar
end VolumeLifecycle.Options
