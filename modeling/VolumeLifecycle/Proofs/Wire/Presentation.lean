import Mathlib.Data.List.Forall2
import Mathlib.Data.List.Perm.Basic
import VolumeLifecycle.Dict.Lookup
import VolumeLifecycle.Wire.Record

namespace VolumeLifecycle.Wire

open Json (Draft)

mutual

/-- The trees that present a value to a codec. -/
inductive Shows : {α : Type} → Codec α → α → Draft → Prop where
  | text (s : String) : Shows .text s (.text s)
  | bool (b : Bool) : Shows .bool b (.bool b)
  | word (n : UInt64) : Shows .word n (.number (.integer n.toNat))
  | via {α β : Type} {c : Codec β} {write : α → β} {read : β → α} {a : α} {d : Draft}
      (hread : read (write a) = a) (h : Shows c (write a) d) : Shows (c.via write read) a d
  | choice {α : Type} {name : α → String} {values : List α} {a : α} (hmem : a ∈ values)
      (hname : name.Injective) : Shows (.choice name values) a (.text (name a))
  | list {α : Type} {c : Codec α} {as : List α} {ds : List Draft} (h : ShowsItems c as ds) :
    Shows c.list as (.list ds)
  | missing {α : Type} {c : Codec α} : Shows c.optional none .null
  | there {α : Type} {c : Codec α} {a : α} {d : Draft} (h : Shows c a d) (hd : d ≠ .null) :
    Shows c.optional (some a) d
  | json {j : Json} {d : Draft} (h : d.value? = some j) : Shows .json j d
  | dict {α : Type} {c : Codec α} {m : Dict α} {written entries : List (String × Draft)}
      (h : ShowsEntries c m.entries written) (horder : entries.Perm written) :
    Shows (.dict c) m (.members entries)
  | object {α : Type} {r : Record α} {a : α} {known unknown entries : List (String × Draft)}
      (h : ShowsMembers r.fields (r.toRow a) known) (hunknown : ∀ e ∈ unknown, e.1 ∉ r.fields.keys)
      (horder : entries.Perm (known ++ unknown)) : Shows r.codec a (.members entries)
  | array {α : Type} {r : Record α} {a : α} {items : List Draft}
      (h : ShowsRow r.fields (r.toRow a) items) : Shows r.codec a (.list items)

/-- Trees that present the values of a list, one by one. -/
inductive ShowsItems : {α : Type} → Codec α → List α → List Draft → Prop where
  | nil {α : Type} {c : Codec α} : ShowsItems c [] []
  | cons {α : Type} {c : Codec α} {a : α} {as : List α} {d : Draft} {ds : List Draft}
      (h : Shows c a d) (hrest : ShowsItems c as ds) : ShowsItems c (a :: as) (d :: ds)

/-- Members that present the entries of a map, one by one and under their names. -/
inductive ShowsEntries : {α : Type} → Codec α → List (String × α) → List (String × Draft) →
    Prop where
  | nil {α : Type} {c : Codec α} : ShowsEntries c [] []
  | cons {α : Type} {c : Codec α} {name : String} {a : α} {as : List (String × α)} {d : Draft}
      {ds : List (String × Draft)} (h : Shows c a d) (hrest : ShowsEntries c as ds) :
    ShowsEntries c ((name, a) :: as) ((name, d) :: ds)

/-- Members that present the row of the values of fields. A field that holds its default may be missing. -/
inductive ShowsMembers : {γ : Type} → Fields γ → γ → List (String × Draft) → Prop where
  | nil : ShowsMembers .nil () []
  | present {β γ : Type} {f : Field β} {rest : Fields γ} {b : β} {row : γ} {d : Draft}
      {known : List (String × Draft)} (h : Shows f.codec b d) (hrest : ShowsMembers rest row known) :
    ShowsMembers (.cons f rest) (b, row) ((f.key, d) :: known)
  | absent {β γ : Type} {f : Field β} {rest : Fields γ} {b : β} {row : γ}
      {known : List (String × Draft)} (h : f.fallback = some b) (hrest : ShowsMembers rest row known) :
    ShowsMembers (.cons f rest) (b, row) known

/-- Items that present the row of the values of all fields. -/
inductive ShowsRow : {γ : Type} → Fields γ → γ → List Draft → Prop where
  | nil : ShowsRow .nil () []
  | cons {β γ : Type} {f : Field β} {rest : Fields γ} {b : β} {row : γ} {d : Draft}
      {ds : List Draft} (h : Shows f.codec b d) (hrest : ShowsRow rest row ds) :
    ShowsRow (.cons f rest) (b, row) (d :: ds)

end

variable {α β γ : Type}

/-- What is read one by one is read in any order. -/
theorem exists_mapM_of_perm {f : α → Option β} {xs ys : List α} {bs : List β} (h : xs.Perm ys)
    (hys : ys.mapM f = some bs) : ∃ as, xs.mapM f = some as ∧ as.Perm bs := by
  induction h generalizing bs with
  | nil => exact ⟨bs, hys, .refl _⟩
  | cons x _ ih =>
    simp only [List.mapM_cons, Option.bind_eq_bind, Option.bind_eq_some_iff] at hys
    obtain ⟨b, hb, bs, hbs, heq⟩ := hys
    cases heq
    obtain ⟨as, has, hperm⟩ := ih hbs
    exact ⟨b :: as, by simp [hb, has], hperm.cons b⟩
  | swap x y zs =>
    simp only [List.mapM_cons, Option.bind_eq_bind, Option.bind_eq_some_iff] at hys
    obtain ⟨b, hb, _, ⟨b', hb', cs, hcs, hpair⟩, heq⟩ := hys
    cases hpair
    cases heq
    exact ⟨b' :: b :: cs, by simp [hb, hb', hcs], .swap b b' cs⟩
  | trans _ _ ih ih' =>
    obtain ⟨as', has', hperm'⟩ := ih' hys
    obtain ⟨as, has, hperm⟩ := ih has'
    exact ⟨as, has, hperm.trans hperm'⟩

theorem ShowsMembers.mem_keys : {γ : Type} → {fields : Fields γ} → {row : γ} →
    {known : List (String × Draft)} → ShowsMembers fields row known →
      ∀ e ∈ known, e.1 ∈ fields.keys
  | _, _, _, _, .nil => fun _ he => absurd he List.not_mem_nil
  | _, _, _, _, .present _ hrest => by
    intro e he
    rcases List.mem_cons.1 he with rfl | he
    · exact List.mem_cons_self
    · exact List.mem_cons_of_mem _ (hrest.mem_keys e he)
  | _, _, _, _, .absent _ hrest => fun e he => List.mem_cons_of_mem _ (hrest.mem_keys e he)

theorem Field.ofMembers?_of_lacking {f : Field β} {entries : List (String × Draft)}
    (h : ∀ e ∈ entries, e.1 ≠ f.key) : f.ofMembers? entries = f.fallback := by
  have hnone : entries.filter (fun e => e.1 = f.key) = [] :=
    List.filter_eq_nil_iff.2 fun e he => by simpa using h e he
  rw [Field.ofMembers?, hnone]

theorem Field.ofMembers?_of_single {f : Field β} {d : Draft} {entries others : List (String × Draft)}
    (horder : entries.Perm ((f.key, d) :: others)) (h : ∀ e ∈ others, e.1 ≠ f.key) :
    f.ofMembers? entries = f.codec.decode? d := by
  have hnone : others.filter (fun e => e.1 = f.key) = [] :=
    List.filter_eq_nil_iff.2 fun e he => by simpa using h e he
  have hfound := horder.filter fun e => e.1 = f.key
  rw [List.filter_cons_of_pos (by simp), hnone] at hfound
  rw [Field.ofMembers?, List.perm_singleton.1 hfound]

theorem find?_choice {name : α → String} {values : List α} {a : α} (hmem : a ∈ values)
    (hname : name.Injective) : (values.find? fun b => name b = name a) = some a := by
  cases hfound : values.find? fun b => name b = name a with
  | none =>
    have hnot := List.find?_eq_none.1 hfound a hmem
    exact absurd (decide_eq_true rfl) hnot
  | some b => exact congrArg some (hname (by simpa using List.find?_some hfound))

theorem decode?_word (n : UInt64) : Codec.word.decode? (.number (.integer n.toNat)) = some n := by
  have hlt : n.toNat < UInt64.size := n.toNat_lt
  simp [Codec.word, Json.Number.natural?, hlt]

/-- An optional value that is not null is read like the value. -/
theorem decode?_optional {c : Codec α} {d : Draft} (hd : d ≠ .null) :
    c.optional.decode? d = (c.decode? d).map some := by
  cases d <;> first | rfl | exact absurd rfl hd

mutual

/-- What is read from a tree that presents a value is that value. -/
theorem Shows.decode?_eq : {α : Type} → {c : Codec α} → {a : α} → {d : Draft} → Shows c a d →
    c.decode? d = some a
  | _, _, _, _, .text s => rfl
  | _, _, _, _, .bool b => rfl
  | _, _, _, _, .word n => decode?_word n
  | _, _, _, _, @Shows.via _ _ _ _ read _ _ hread h =>
    (congrArg (Option.map read) h.decode?_eq).trans (congrArg some hread)
  | _, _, _, _, .choice hmem hname => find?_choice hmem hname
  | _, _, _, _, .list h => h.mapM_eq
  | _, _, _, _, .missing => rfl
  | _, _, _, _, .there h hd => by
    rw [decode?_optional hd, h.decode?_eq]
    rfl
  | _, _, _, _, .json h => h
  | _, _, m, _, .dict h horder => by
    obtain ⟨es, hes, hperm⟩ := exists_mapM_of_perm horder h.mapM_eq
    have hdict : Dict.ofList es = m := Dict.ofList_eq_of_perm hperm
    exact (congrArg (Option.map Dict.ofList) hes).trans (congrArg some hdict)
  | _, _, a, _, @Shows.object _ r _ _ _ _ h hunknown horder => by
    have hrow := h.ofMembers?_eq r.keys_nodup hunknown horder
    exact (congrArg (Option.map r.ofRow) hrow).trans (congrArg some (r.ofRow_toRow a))
  | _, _, a, _, @Shows.array _ r _ _ h =>
    (congrArg (Option.map r.ofRow) h.ofItems?_eq).trans (congrArg some (r.ofRow_toRow a))

theorem ShowsItems.mapM_eq : {α : Type} → {c : Codec α} → {as : List α} → {ds : List Draft} →
    ShowsItems c as ds → ds.mapM c.decode? = some as
  | _, _, _, _, .nil => rfl
  | _, _, _, _, .cons h hrest => by
    rw [List.mapM_cons, h.decode?_eq, hrest.mapM_eq]
    rfl

theorem ShowsEntries.mapM_eq : {α : Type} → {c : Codec α} → {as : List (String × α)} →
    {ds : List (String × Draft)} → ShowsEntries c as ds →
      ds.mapM (fun e => (c.decode? e.2).map (e.1, ·)) = some as
  | _, _, _, _, .nil => rfl
  | _, _, _, _, .cons h hrest => by
    rw [List.mapM_cons, h.decode?_eq, hrest.mapM_eq]
    rfl

/-- Fields are read from members that present them, in whatever order and between whatever others. -/
theorem ShowsMembers.ofMembers?_eq : {γ : Type} → {fields : Fields γ} → {row : γ} →
    {known unknown entries : List (String × Draft)} → ShowsMembers fields row known →
      fields.keys.Nodup → (∀ e ∈ unknown, e.1 ∉ fields.keys) → entries.Perm (known ++ unknown) →
        fields.ofMembers? entries = some row
  | _, _, _, _, _, _, .nil => fun _ _ _ => rfl
  | _, _, _, _, unknown, entries, @ShowsMembers.present _ _ f rest b row d known h hrest => by
    intro hnodup hunknown horder
    obtain ⟨hkey, hkeys⟩ := List.nodup_cons.1 hnodup
    have hothers : ∀ e ∈ known ++ unknown, e.1 ≠ f.key := by
      intro e he heq
      rcases List.mem_append.1 he with he | he
      · exact hkey (heq ▸ hrest.mem_keys e he)
      · exact hunknown e he (heq ▸ List.mem_cons_self)
    have hfield := Field.ofMembers?_of_single horder hothers
    -- To the fields that follow, the member of this one is one more that they do not know.
    have hbeside : ∀ e ∈ (f.key, d) :: unknown, e.1 ∉ rest.keys := by
      refine List.forall_mem_cons.2 ⟨hkey, fun e he hmem => ?_⟩
      exact hunknown e he (List.mem_cons_of_mem _ hmem)
    have hrow : rest.ofMembers? entries = some row :=
      hrest.ofMembers?_eq hkeys hbeside (horder.trans List.perm_middle.symm)
    rw [Fields.ofMembers?, hfield, h.decode?_eq, hrow]
    rfl
  | _, _, _, known, unknown, entries, @ShowsMembers.absent _ _ f rest b row _ h hrest => by
    intro hnodup hunknown horder
    obtain ⟨hkey, hkeys⟩ := List.nodup_cons.1 hnodup
    have hlacking : ∀ e ∈ entries, e.1 ≠ f.key := by
      intro e he heq
      rcases List.mem_append.1 (horder.mem_iff.1 he) with he | he
      · exact hkey (heq ▸ hrest.mem_keys e he)
      · exact hunknown e he (heq ▸ List.mem_cons_self)
    have hfield := Field.ofMembers?_of_lacking hlacking
    have hrow : rest.ofMembers? entries = some row :=
      hrest.ofMembers?_eq hkeys
        (fun e he hmem => hunknown e he (List.mem_cons_of_mem _ hmem)) horder
    rw [Fields.ofMembers?, hfield, h, hrow]
    rfl

/-- Fields are read from items that present them. -/
theorem ShowsRow.ofItems?_eq : {γ : Type} → {fields : Fields γ} → {row : γ} → {items : List Draft} →
    ShowsRow fields row items → fields.ofItems? items = some row
  | _, _, _, _, .nil => rfl
  | _, _, _, _, .cons h hrest => by
    rw [Fields.ofItems?, h.decode?_eq, hrest.ofItems?_eq]
    rfl

end

end VolumeLifecycle.Wire
