import VolumeLifecycle.Dict.Lookup
import VolumeLifecycle.Json.Draft
import VolumeLifecycle.Proofs.Json.Tokens

namespace VolumeLifecycle.Json

open Token (Spell)

/-- Values in which every number is an integer that is kept as one. -/
inductive Integral : Json → Prop where
  | null : Integral .null
  | bool (b : Bool) : Integral (.bool b)
  | number {n : Int} (h : Number.InRange n) : Integral (.number (.integer n))
  | string (s : String) : Integral (.string s)
  | array {items : List Json} (h : ∀ j ∈ items, Integral j) : Integral (.array items)
  | object {members : List (String × Json)} (h : ∀ m ∈ members, Integral m.2) :
    Integral (.object members)

/-- Values as they are kept: the names of the members of an object strictly increase. -/
inductive Ordered : Json → Prop where
  | null : Ordered .null
  | bool (b : Bool) : Ordered (.bool b)
  | number (n : Number) : Ordered (.number n)
  | string (s : String) : Ordered (.string s)
  | array {items : List Json} (h : ∀ j ∈ items, Ordered j) : Ordered (.array items)
  | object {members : List (String × Json)} (h : ∀ m ∈ members, Ordered m.2)
      (hsorted : members.Pairwise fun m n => m.1 < n.1) : Ordered (.object members)

mutual

def depth : Json → Nat
  | .array items => itemsDepth items + 1
  | .object members => membersDepth members + 1
  | _ => 0

def itemsDepth : List Json → Nat
  | [] => 0
  | item :: rest => max item.depth (itemsDepth rest)

def membersDepth : List (String × Json) → Nat
  | [] => 0
  | (_, value) :: rest => max value.depth (membersDepth rest)

end

mutual

def tokens : Json → List Token
  | .null => [.null]
  | .bool b => [.bool b]
  | .number n => [.number (some n)]
  | .string s => [.string (some s)]
  | .array items => .openBracket :: ([Token.comma].intercalate (itemTokens items) ++ [.closeBracket])
  | .object members =>
    .openBrace :: ([Token.comma].intercalate (memberTokens members) ++ [.closeBrace])

def itemTokens : List Json → List (List Token)
  | [] => []
  | item :: rest => item.tokens :: itemTokens rest

def memberTokens : List (String × Json) → List (List Token)
  | [] => []
  | (key, value) :: rest => (.string (some key) :: .colon :: value.tokens) :: memberTokens rest

end

theorem spell_items {items : List Json} (h : ∀ j ∈ items, Spell j.text.toList j.tokens) :
    List.Forall₂ Spell ((itemTexts items).map String.toList) (itemTokens items) := by
  induction items with
  | nil => exact .nil
  | cons item rest ih =>
    obtain ⟨hitem, hrest⟩ := List.forall_mem_cons.1 h
    rw [itemTexts, itemTokens]
    exact .cons hitem (ih hrest)

theorem spell_members {members : List (String × Json)}
    (h : ∀ m ∈ members, Spell m.2.text.toList m.2.tokens) :
    List.Forall₂ Spell ((memberTexts members).map String.toList) (memberTokens members) := by
  induction members with
  | nil => exact .nil
  | cons m rest ih =>
    obtain ⟨hvalue, hrest⟩ := List.forall_mem_cons.1 h
    have hmember : Spell (quote m.1 ++ ":" ++ m.2.text).toList
        (.string (some m.1) :: .colon :: m.2.tokens) := by
      rw [String.toList_append, String.toList_append, List.append_assoc]
      exact (Token.spell_quote m.1).between rfl hvalue
    rw [memberTexts, memberTokens]
    exact .cons hmember (ih hrest)

theorem Integral.spell_text {j : Json} (h : j.Integral) : Spell j.text.toList j.tokens := by
  induction h with
  | null =>
    rw [text, tokens]
    exact Token.spell_word rfl (List.all_eq_true.1 rfl) rfl
  | bool b =>
    rw [tokens]
    cases b with
    | true =>
      rw [text]
      exact Token.spell_word rfl (List.all_eq_true.1 rfl) rfl
    | false =>
      rw [text]
      exact Token.spell_word rfl (List.all_eq_true.1 rfl) rfl
  | number h =>
    rw [text, tokens]
    exact Token.spell_integer h
  | string s =>
    rw [text, tokens]
    exact Token.spell_quote s
  | array h ih =>
    rw [text, tokens, String.toList_append, String.toList_append, String.toList_intercalate]
    exact (Token.spell_intercalate (spell_items ih)).enclosed rfl rfl
  | object h ih =>
    rw [text, tokens, String.toList_append, String.toList_append, String.toList_intercalate]
    exact (Token.spell_intercalate (spell_members ih)).enclosed rfl rfl

namespace Draft

variable {frames : List Frame} {rest : List Token}

theorem run?_cons (state : Progress) (token : Token) (rest : List Token) :
    run? state (token :: rest) = (state.step? token).bind (run? · rest) := by
  rw [run?]

/-- A piece that is not nested too deep is delivered when it is closed. -/
theorem close_eq_deliver {d : Draft} (h : frames.length < maxDepth) :
    close d frames = deliver d frames := by
  rw [close, if_neg (by omega)]

/-- Where a value may stand, its tokens deliver its tree. -/
def Delivered (j : Json) : Prop :=
  ∀ frames rest, j.depth + frames.length ≤ maxDepth →
    run? (.value frames) (j.tokens ++ rest) = run? (deliver j.draft frames) rest

/-- An array whose first item comes is as one that is open already. -/
theorem run?_firstItem (j : Json) (frames : List Frame) (rest : List Token) :
    run? (.firstItem frames) (j.tokens ++ rest) =
      run? (.value (.list [] :: frames)) (j.tokens ++ rest) := by
  cases j <;> rw [tokens] <;> rfl

/-- The items that are still to come in an open array, and the end of the array. -/
theorem run?_items {items : List Json} (hne : items ≠ []) (h : ∀ j ∈ items, Delivered j)
    (before : List Draft) (hdepth : itemsDepth items + (frames.length + 1) ≤ maxDepth) :
    run? (.value (.list before :: frames))
        ([Token.comma].intercalate (itemTokens items) ++ .closeBracket :: rest) =
      run? (close (.list (before.reverse ++ drafts items)) frames) rest := by
  induction items generalizing before with
  | nil => exact absurd rfl hne
  | cons item items ih =>
    obtain ⟨hitem, hitems⟩ := List.forall_mem_cons.1 h
    rw [itemsDepth] at hdepth
    have hroom : item.depth + (Frame.list before :: frames).length ≤ maxDepth := by
      rw [List.length_cons]
      omega
    cases items with
    | nil =>
      rw [itemTokens, itemTokens, List.intercalate_singleton, hitem _ _ hroom, drafts, drafts,
        deliver, run?_cons]
      exact congrArg (fun ds => run? (close (.list ds) frames) rest) (List.reverse_cons ..)
    | cons next items =>
      -- The comma brings the array back to where it waits for an item, with one more put away.
      have hdeeper : itemsDepth (next :: items) + (frames.length + 1) ≤ maxDepth := by omega
      have hmore := ih (List.cons_ne_nil _ _) hitems (item.draft :: before) hdeeper
      rw [List.reverse_cons, List.append_assoc, List.singleton_append] at hmore
      rw [itemTokens, itemTokens, List.intercalate_cons_cons, List.append_assoc, List.append_assoc,
        hitem _ _ hroom, drafts, deliver, List.singleton_append, run?_cons]
      exact hmore

/-- The entries of an object as they are gathered, the last one first. -/
def gathered (entries : List (String × Draft)) : List (Option String × Draft) :=
  (entries.map fun e => (some e.1, e.2)).reverse

theorem ofEntries_gathered (entries : List (String × Draft)) :
    ofEntries (gathered entries) = .members entries := by
  have hnames : ((entries.map fun e => (some e.1, e.2)).mapM fun e => e.1.map (·, e.2)) =
      some entries := by
    induction entries with
    | nil => rfl
    | cons e rest ih => simp [ih]
  rw [ofEntries, gathered, List.reverse_reverse, hnames]

/-- The members that are still to come in an open object, and the end of the object. -/
theorem run?_members {members : List (String × Json)} (hne : members ≠ [])
    (h : ∀ m ∈ members, Delivered m.2) (before : List (String × Draft))
    (hdepth : membersDepth members + (frames.length + 1) ≤ maxDepth) :
    run? (.key (gathered before) frames)
        ([Token.comma].intercalate (memberTokens members) ++ .closeBrace :: rest) =
      run? (close (.members (before ++ memberDrafts members)) frames) rest := by
  induction members generalizing before with
  | nil => exact absurd rfl hne
  | cons m members ih =>
    obtain ⟨key, value⟩ := m
    obtain ⟨hvalue, hmembers⟩ := List.forall_mem_cons.1 h
    rw [membersDepth] at hdepth
    have hroom : value.depth + (Frame.members (gathered before) (some key) :: frames).length ≤
        maxDepth := by
      rw [List.length_cons]
      omega
    have hmember : ∀ more, run? (.key (gathered before) frames)
        (.string (some key) :: .colon :: (value.tokens ++ more)) =
          run? (.separator (.members (gathered (before ++ [(key, value.draft)])) (some key)) frames)
            more := by
      intro more
      rw [run?_cons]
      refine (run?_cons _ _ _).trans ?_
      refine (hvalue _ more hroom).trans ?_
      simp [deliver, gathered]
    cases members with
    | nil =>
      rw [memberTokens, memberTokens, List.intercalate_singleton, List.cons_append, List.cons_append,
        hmember, memberDrafts, memberDrafts, run?_cons, ← ofEntries_gathered]
      rfl
    | cons next members =>
      have hdeeper : membersDepth (next :: members) + (frames.length + 1) ≤ maxDepth := by omega
      have hmore := ih (List.cons_ne_nil _ _) hmembers (before ++ [(key, value.draft)]) hdeeper
      rw [List.append_assoc, List.singleton_append] at hmore
      rw [memberTokens, memberTokens, List.intercalate_cons_cons, List.append_assoc, List.append_assoc,
        List.cons_append, List.cons_append, hmember, memberDrafts, List.singleton_append, run?_cons]
      exact hmore

theorem delivered_of_integral {j : Json} (h : j.Integral) : Delivered j := by
  induction h with
  | null =>
    intro frames rest _
    rw [tokens, draft]
    rfl
  | bool b =>
    intro frames rest _
    rw [tokens, draft]
    rfl
  | number h =>
    intro frames rest _
    rw [tokens, draft]
    rfl
  | string s =>
    intro frames rest _
    rw [tokens, draft]
    rfl
  | @array items h ih =>
    intro frames rest hdepth
    rw [depth] at hdepth
    have hclose : ∀ ds, close (.list ds) frames = deliver (.list ds) frames :=
      fun ds => close_eq_deliver (by omega)
    rw [tokens, draft, List.cons_append, List.append_assoc, List.singleton_append, run?_cons, ← hclose]
    cases items with
    | nil =>
      rw [itemTokens, drafts]
      rfl
    | cons item items =>
      have hroom : itemsDepth (item :: items) + (frames.length + 1) ≤ maxDepth := by omega
      refine Eq.trans ?_ (run?_items (List.cons_ne_nil item items) ih [] hroom)
      cases items with
      | nil =>
        rw [itemTokens, itemTokens, List.intercalate_singleton]
        exact run?_firstItem item frames _
      | cons next items =>
        rw [itemTokens, itemTokens, List.intercalate_cons_cons, List.append_assoc, List.append_assoc]
        exact run?_firstItem item frames _
  | @object members h ih =>
    intro frames rest hdepth
    rw [depth] at hdepth
    have hclose : ∀ entries, close (.members entries) frames = deliver (.members entries) frames :=
      fun entries => close_eq_deliver (by omega)
    rw [tokens, draft, List.cons_append, List.append_assoc, List.singleton_append, run?_cons, ← hclose]
    cases members with
    | nil =>
      rw [memberTokens, memberDrafts]
      rfl
    | cons m members =>
      have hroom : membersDepth (m :: members) + (frames.length + 1) ≤ maxDepth := by omega
      refine Eq.trans ?_ (run?_members (List.cons_ne_nil m members) ih [] hroom)
      cases members with
      | nil =>
        rw [memberTokens, memberTokens, List.intercalate_singleton]
        rfl
      | cons next members =>
        rw [memberTokens, memberTokens, List.intercalate_cons_cons]
        rfl

/-- The tree of the text of a value is the tree of the value. -/
theorem ofText?_text {j : Json} (h : j.Integral) (hdepth : j.depth ≤ maxDepth) :
    ofText? j.text = some j.draft := by
  have htree := delivered_of_integral h [] [] hdepth
  rw [List.append_nil] at htree
  rw [ofText?, Token.ofText?, h.spell_text.tokens]
  exact htree

end Draft

theorem values?_drafts {items : List Json} (h : ∀ j ∈ items, j.draft.value? = some j) :
    Draft.values? (drafts items) = some items := by
  induction items with
  | nil => rw [drafts, Draft.values?]
  | cons item rest ih =>
    obtain ⟨hitem, hrest⟩ := List.forall_mem_cons.1 h
    rw [drafts, Draft.values?, hitem, ih hrest]
    rfl

theorem entryValues?_memberDrafts {members : List (String × Json)}
    (h : ∀ m ∈ members, m.2.draft.value? = some m.2) :
    Draft.entryValues? (memberDrafts members) = some members := by
  induction members with
  | nil => rw [memberDrafts, Draft.entryValues?]
  | cons m rest ih =>
    obtain ⟨hvalue, hrest⟩ := List.forall_mem_cons.1 h
    rw [memberDrafts, Draft.entryValues?, hvalue, ih hrest]
    rfl

/-- The tree of a value as it is kept has that value. -/
theorem Ordered.value?_draft {j : Json} (h : j.Ordered) : j.draft.value? = some j := by
  induction h with
  | null => rw [draft, Draft.value?]
  | bool b => rw [draft, Draft.value?]
  | number n => rw [draft, Draft.value?]
  | string s => rw [draft, Draft.value?]
  | array h ih =>
    rw [draft, Draft.value?, values?_drafts ih]
    rfl
  | @object members h hsorted ih =>
    have hdict : Dict.ofList members = ⟨members, hsorted⟩ :=
      Dict.ofList_eq_of_perm (List.Perm.refl _)
    rw [draft, Draft.value?, entryValues?_memberDrafts ih, Option.map_some, hdict]
    rfl

end VolumeLifecycle.Json
