import VolumeLifecycle.Proofs.Wire.Presentation

namespace VolumeLifecycle.Wire

open Json (Draft)

variable {α β γ : Type}

/-- Codecs of values that cannot be missing: all but the optional ones and those of free-form values. -/
inductive Codec.Definite : {α : Type} → Codec α → Prop where
  | text : Definite .text
  | bool : Definite .bool
  | word : Definite .word
  | via {α β : Type} {c : Codec β} {write : α → β} {read : β → α} (h : Definite c) :
    Definite (c.via write read)
  | choice {α : Type} (name : α → String) (values : List α) : Definite (.choice name values)
  | list {α : Type} (c : Codec α) : Definite c.list
  | dict {α : Type} (c : Codec α) : Definite (.dict c)
  | record {α : Type} (r : Record α) : Definite r.codec

/-- The field at a place in the order of the fields. -/
inductive Fields.At : {γ β : Type} → Fields γ → Nat → Field β → Prop where
  | head {γ β : Type} (f : Field β) (rest : Fields γ) : At (.cons f rest) 0 f
  | tail {γ β δ : Type} {f : Field β} {rest : Fields γ} {i : Nat} (g : Field δ) (h : At rest i f) :
    At (.cons g rest) (i + 1) f

/-- Trees in which a record is faulty, somewhere where a record has to stand. -/
inductive Faulty : {α : Type} → Codec α → Draft → Prop where
  | repeated {α β : Type} {r : Record α} {i : Nat} {f : Field β} {entries : List (String × Draft)}
      {d d' : Draft} (hf : r.fields.At i f) (h : [(f.key, d), (f.key, d')].Sublist entries) :
    Faulty r.codec (.members entries)
  | lacking {α β : Type} {r : Record α} {i : Nat} {f : Field β} {entries : List (String × Draft)}
      (hf : r.fields.At i f) (hrequired : f.fallback = none) (h : ∀ e ∈ entries, e.1 ≠ f.key) :
    Faulty r.codec (.members entries)
  | null {α β : Type} {r : Record α} {i : Nat} {f : Field β} {entries : List (String × Draft)}
      (hf : r.fields.At i f) (hdefinite : f.codec.Definite) (h : (f.key, .null) ∈ entries) :
    Faulty r.codec (.members entries)
  | member {α β : Type} {r : Record α} {i : Nat} {f : Field β} {entries : List (String × Draft)}
      {d : Draft} (hf : r.fields.At i f) (h : (f.key, d) ∈ entries) (hd : Faulty f.codec d) :
    Faulty r.codec (.members entries)
  | short {α β : Type} {r : Record α} {i : Nat} {f : Field β} {items : List Draft}
      (hf : r.fields.At i f) (hrequired : f.fallback = none) (h : items.length ≤ i) :
    Faulty r.codec (.list items)
  | nullItem {α β : Type} {r : Record α} {i : Nat} {f : Field β} {items : List Draft}
      (hf : r.fields.At i f) (hdefinite : f.codec.Definite) (h : items[i]? = some .null) :
    Faulty r.codec (.list items)
  | item {α β : Type} {r : Record α} {i : Nat} {f : Field β} {items : List Draft} {d : Draft}
      (hf : r.fields.At i f) (h : items[i]? = some d) (hd : Faulty f.codec d) :
    Faulty r.codec (.list items)
  | via {α β : Type} {c : Codec β} {write : α → β} {read : β → α} {d : Draft} (h : Faulty c d) :
    Faulty (c.via write read) d
  | list {α : Type} {c : Codec α} {ds : List Draft} {d : Draft} (h : d ∈ ds) (hd : Faulty c d) :
    Faulty c.list (.list ds)
  | optional {α : Type} {c : Codec α} {d : Draft} (h : Faulty c d) : Faulty c.optional d
  | dict {α : Type} {c : Codec α} {entries : List (String × Draft)} {name : String} {d : Draft}
      (h : (name, d) ∈ entries) (hd : Faulty c d) : Faulty (.dict c) (.members entries)

/-- Null is read by optional and free-form codecs only. -/
theorem Codec.Definite.decode?_null {c : Codec α} (h : c.Definite) : c.decode? .null = none := by
  induction h with
  | via h ih => exact congrArg (Option.map _) ih
  | _ => rfl

/-- A field whose members are all refused refuses the record, unless it is missing. -/
theorem Field.ofMembers?_of_mem {f : Field β} {d : Draft} {entries : List (String × Draft)}
    (h : (f.key, d) ∈ entries) (hd : f.codec.decode? d = none) : f.ofMembers? entries = none := by
  have hmem : (f.key, d) ∈ entries.filter fun e => e.1 = f.key :=
    List.mem_filter.2 ⟨h, decide_eq_true rfl⟩
  unfold ofMembers?
  split
  · next heq =>
    rw [heq] at hmem
    cases hmem
  · next e heq =>
    rw [heq] at hmem
    rw [← List.mem_singleton.1 hmem]
    exact hd
  · rfl

theorem Field.ofMembers?_of_repeated {f : Field β} {d d' : Draft} {entries : List (String × Draft)}
    (h : [(f.key, d), (f.key, d')].Sublist entries) : f.ofMembers? entries = none := by
  have hfiltered := h.filter fun e => e.1 = f.key
  have hboth : [(f.key, d), (f.key, d')].filter (fun e => e.1 = f.key) =
      [(f.key, d), (f.key, d')] := by
    simp
  rw [hboth] at hfiltered
  have htwo := hfiltered.length_le
  unfold ofMembers?
  split
  · next heq =>
    rw [heq] at htwo
    cases htwo
  · next e heq =>
    rw [heq] at htwo
    exact absurd (Nat.le_of_succ_le_succ htwo) (Nat.not_succ_le_zero 0)
  · rfl

namespace Fields

variable {fields : Fields γ} {i : Nat} {f : Field β}

/-- A row without a value for one of its fields is none. -/
theorem At.ofMembers?_eq_none (hf : fields.At i f) {entries : List (String × Draft)}
    (h : f.ofMembers? entries = none) : fields.ofMembers? entries = none := by
  induction hf with
  | head f rest =>
    rw [ofMembers?, h]
    rfl
  | tail g _ ih =>
    rw [ofMembers?, ih h]
    cases g.ofMembers? entries <;> rfl

theorem At.ofItems?_eq_none (hf : fields.At i f) {items : List Draft} {d : Draft}
    (h : items[i]? = some d) (hd : f.codec.decode? d = none) : fields.ofItems? items = none := by
  induction hf generalizing items with
  | head f rest =>
    cases items with
    | nil => cases h
    | cons item items =>
      cases h
      rw [ofItems?, hd]
      rfl
  | tail g _ ih =>
    cases items with
    | nil => cases h
    | cons item items =>
      have hrest : ofItems? _ items = none := ih h hd
      rw [ofItems?, hrest]
      cases g.codec.decode? item <;> rfl

theorem At.ofItems?_eq_none_of_short (hf : fields.At i f) (hrequired : f.fallback = none)
    {items : List Draft} (h : items.length ≤ i) : fields.ofItems? items = none := by
  induction hf generalizing items with
  | head f rest =>
    rw [List.length_eq_zero_iff.1 (Nat.le_zero.1 h), ofItems?, hrequired]
    rfl
  | tail g _ ih =>
    cases items with
    | nil =>
      rw [ofItems?, ih hrequired (Nat.zero_le _)]
      cases g.fallback <;> rfl
    | cons item items =>
      rw [ofItems?, ih hrequired (Nat.le_of_succ_le_succ h)]
      cases g.codec.decode? item <;> rfl

end Fields

theorem mapM_eq_none_of_mem {f : α → Option β} {a : α} {as : List α} (h : a ∈ as)
    (ha : f a = none) : as.mapM f = none := by
  induction as with
  | nil => cases h
  | cons first rest ih =>
    rw [List.mapM_cons]
    rcases List.mem_cons.1 h with rfl | h
    · rw [ha]
      rfl
    · rw [ih h]
      cases f first <;> rfl

theorem Faulty.ne_null {c : Codec α} {d : Draft} (h : Faulty c d) : d ≠ .null := by
  induction h with
  | via _ ih => exact ih
  | optional _ ih => exact ih
  | _ => nofun

/-- Nothing is read from a tree with a faulty record. -/
theorem Faulty.decode?_eq_none {c : Codec α} {d : Draft} (h : Faulty c d) : c.decode? d = none := by
  induction h with
  | @repeated _ _ r _ _ _ _ _ hf h =>
    exact congrArg (Option.map r.ofRow) (hf.ofMembers?_eq_none (Field.ofMembers?_of_repeated h))
  | @lacking _ _ r _ _ _ hf hrequired h =>
    have hnone := (Field.ofMembers?_of_lacking h).trans hrequired
    exact congrArg (Option.map r.ofRow) (hf.ofMembers?_eq_none hnone)
  | @null _ _ r _ _ _ hf hdefinite h =>
    have hnone := Field.ofMembers?_of_mem h hdefinite.decode?_null
    exact congrArg (Option.map r.ofRow) (hf.ofMembers?_eq_none hnone)
  | @member _ _ r _ _ _ _ hf h _ ih =>
    exact congrArg (Option.map r.ofRow) (hf.ofMembers?_eq_none (Field.ofMembers?_of_mem h ih))
  | @short _ _ r _ _ _ hf hrequired h =>
    exact congrArg (Option.map r.ofRow) (hf.ofItems?_eq_none_of_short hrequired h)
  | @nullItem _ _ r _ _ _ hf hdefinite h =>
    exact congrArg (Option.map r.ofRow) (hf.ofItems?_eq_none h hdefinite.decode?_null)
  | @item _ _ r _ _ _ _ hf h _ ih =>
    exact congrArg (Option.map r.ofRow) (hf.ofItems?_eq_none h ih)
  | via _ ih => exact congrArg (Option.map _) ih
  | list h _ ih => exact mapM_eq_none_of_mem h ih
  | optional h ih =>
    rw [decode?_optional h.ne_null, ih]
    rfl
  | dict h _ ih =>
    refine congrArg (Option.map Dict.ofList) (mapM_eq_none_of_mem h ?_)
    exact congrArg (Option.map _) ih

end VolumeLifecycle.Wire
