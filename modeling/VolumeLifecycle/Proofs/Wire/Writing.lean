import VolumeLifecycle.Proofs.Json.Text
import VolumeLifecycle.Proofs.Wire.Faults

namespace VolumeLifecycle.Wire

open Json (Draft)

variable {α β γ : Type}

mutual

/-- Values whose free-form values are as they are kept, with integers for numbers. A field is left out only
if it holds its default. -/
inductive Writable : {α : Type} → Codec α → α → Prop where
  | text (s : String) : Writable .text s
  | bool (b : Bool) : Writable .bool b
  | word (n : UInt64) : Writable .word n
  | via {α β : Type} {c : Codec β} {write : α → β} {read : β → α} {a : α}
      (hread : read (write a) = a) (h : Writable c (write a)) : Writable (c.via write read) a
  | choice {α : Type} {name : α → String} {values : List α} {a : α} (hmem : a ∈ values)
      (hname : name.Injective) : Writable (.choice name values) a
  | list {α : Type} {c : Codec α} {as : List α} (h : ∀ a ∈ as, Writable c a) : Writable c.list as
  | missing {α : Type} {c : Codec α} : Writable c.optional none
  | there {α : Type} {c : Codec α} {a : α} (hc : c.Definite) (h : Writable c a) :
    Writable c.optional (some a)
  | json {j : Json} (hintegral : j.Integral) (hordered : j.Ordered) : Writable .json j
  | dict {α : Type} {c : Codec α} {m : Dict α} (h : ∀ e ∈ m.entries, Writable c e.2) :
    Writable (.dict c) m
  | record {α : Type} {r : Record α} {a : α} (h : WritableRow r.fields (r.toRow a)) :
    Writable r.codec a

/-- Rows of the values of fields that are writable one by one. -/
inductive WritableRow : {γ : Type} → Fields γ → γ → Prop where
  | nil : WritableRow .nil ()
  | cons {β γ : Type} {f : Field β} {rest : Fields γ} {b : β} {row : γ} (h : Writable f.codec b)
      (hhidden : f.isHidden b = true → f.fallback = some b) (hrest : WritableRow rest row) :
    WritableRow (.cons f rest) (b, row)

end

namespace WritableRow

variable {key : String} {c : Codec β} {rest : Fields γ} {row : γ}

theorem required {b : β} (h : Writable c b) (hrest : WritableRow rest row) :
    WritableRow (.cons (.required key c) rest) (b, row) :=
  .cons h nofun hrest

theorem defaulted {b fallback : β} (h : Writable c b) (hrest : WritableRow rest row) :
    WritableRow (.cons (.defaulted key c fallback) rest) (b, row) :=
  .cons h nofun hrest

theorem nullable {b : Option β} (h : Writable c.optional b) (hrest : WritableRow rest row) :
    WritableRow (.cons (.nullable key c) rest) (b, row) :=
  .cons h nofun hrest

theorem omittable {b : Option β} (h : Writable c.optional b) (hrest : WritableRow rest row) :
    WritableRow (.cons (.omittable key c) rest) (b, row) :=
  .cons h (fun hhidden => congrArg some (Option.isNone_iff_eq_none.1 hhidden).symm) hrest

end WritableRow

/-- An optional value can be written if the value can that it may hold. -/
theorem writable_optional {c : Codec α} (hc : c.Definite) {o : Option α}
    (h : ∀ a ∈ o, Writable c a) : Writable c.optional o := by
  cases o with
  | none => exact .missing
  | some a => exact .there hc (h a rfl)

theorem Codec.Definite.encode_ne_null {c : Codec α} (h : c.Definite) (a : α) :
    c.encode a ≠ .null := by
  induction h with
  | via _ ih => exact ih _
  | _ => nofun

theorem draft_ne_null {j : Json} (h : j ≠ .null) : j.draft ≠ .null := by
  cases j with
  | null => exact absurd rfl h
  | _ =>
    rw [Json.draft]
    exact fun heq => Draft.noConfusion heq

theorem showsItems_drafts {c : Codec α} {as : List α} (h : ∀ a ∈ as, Shows c a (c.encode a).draft) :
    ShowsItems c as (Json.drafts (as.map c.encode)) := by
  induction as with
  | nil =>
    rw [List.map_nil, Json.drafts]
    exact .nil
  | cons a as ih =>
    obtain ⟨ha, has⟩ := List.forall_mem_cons.1 h
    rw [List.map_cons, Json.drafts]
    exact .cons ha (ih has)

theorem showsEntries_memberDrafts {c : Codec α} {as : List (String × α)}
    (h : ∀ e ∈ as, Shows c e.2 (c.encode e.2).draft) :
    ShowsEntries c as (Json.memberDrafts (as.map fun e => (e.1, c.encode e.2))) := by
  induction as with
  | nil =>
    rw [List.map_nil, Json.memberDrafts]
    exact .nil
  | cons e as ih =>
    obtain ⟨he, has⟩ := List.forall_mem_cons.1 h
    rw [List.map_cons, Json.memberDrafts]
    exact .cons he (ih has)

mutual

/-- The tree that is written presents the value. -/
theorem Writable.shows : {α : Type} → {c : Codec α} → {a : α} → Writable c a →
    Shows c a (c.encode a).draft
  | _, _, _, .text s => by
    rw [Codec.text, Json.draft]
    exact .text s
  | _, _, _, .bool b => by
    rw [Codec.bool, Json.draft]
    exact .bool b
  | _, _, _, .word n => by
    change Shows .word n (Json.number (.integer n.toNat)).draft
    rw [Json.draft]
    exact .word n
  | _, _, _, .via hread h => .via hread h.shows
  | _, _, _, .choice hmem hname => by
    rw [Codec.choice, Json.draft]
    exact .choice hmem hname
  | _, _, _, .list h => by
    rw [Codec.list, Json.draft]
    exact .list (showsItems_drafts fun a ha => (h a ha).shows)
  | _, _, _, .missing => by
    rw [Codec.optional, Json.draft]
    exact .missing
  | _, _, _, .there hc h => .there h.shows (draft_ne_null (hc.encode_ne_null _))
  | _, _, _, .json _ hordered => .json hordered.value?_draft
  | _, _, _, @Writable.dict _ c m h => by
    change Shows (.dict c) m (Json.object (m.entries.map fun e => (e.1, c.encode e.2))).draft
    rw [Json.draft]
    exact .dict (showsEntries_memberDrafts fun e he => (h e he).shows) (.refl _)
  | _, _, _, .record h => by
    rw [Record.codec, Json.draft]
    refine .object h.showsMembers (fun _ he => absurd he List.not_mem_nil) ?_
    rw [List.append_nil]

theorem WritableRow.showsMembers : {γ : Type} → {fields : Fields γ} → {row : γ} →
    WritableRow fields row → ShowsMembers fields row (Json.memberDrafts (fields.encode row))
  | _, _, _, .nil => by
    rw [Fields.encode, Json.memberDrafts]
    exact .nil
  | _, _, _, .cons h hhidden hrest => by
    rw [Fields.encode]
    split
    · next hleft => exact .absent (hhidden hleft) hrest.showsMembers
    · rw [Json.memberDrafts]
      exact .present h.shows hrest.showsMembers

end

mutual

/-- The numbers that are written are integers. -/
theorem Writable.integral : {α : Type} → {c : Codec α} → {a : α} → Writable c a →
    (c.encode a).Integral
  | _, _, _, .text s => .string s
  | _, _, _, .bool b => .bool b
  | _, _, _, .word n => by
    have hlt := n.toNat_lt
    exact .number ⟨by omega, by omega⟩
  | _, _, _, .via _ h => h.integral
  | _, _, _, .choice _ _ => .string _
  | _, _, _, .list h => by
    refine .array fun j hj => ?_
    obtain ⟨a, ha, rfl⟩ := List.mem_map.1 hj
    exact (h a ha).integral
  | _, _, _, .missing => .null
  | _, _, _, .there _ h => h.integral
  | _, _, _, .json hintegral _ => hintegral
  | _, _, _, .dict h => by
    refine .object fun m hm => ?_
    obtain ⟨e, he, rfl⟩ := List.mem_map.1 hm
    exact (h e he).integral
  | _, _, _, .record h => .object h.integral

theorem WritableRow.integral : {γ : Type} → {fields : Fields γ} → {row : γ} →
    WritableRow fields row → ∀ m ∈ fields.encode row, m.2.Integral
  | _, _, _, .nil => fun _ hm => absurd hm List.not_mem_nil
  | _, _, _, .cons h _ hrest => by
    intro m hm
    rw [Fields.encode] at hm
    split at hm
    · exact hrest.integral m hm
    · rcases List.mem_cons.1 hm with rfl | hm
      · exact h.integral
      · exact hrest.integral m hm

end

end VolumeLifecycle.Wire
