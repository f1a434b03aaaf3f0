import VolumeLifecycle.Wire.Codec

namespace VolumeLifecycle.Wire

structure Field (β : Type) where
  key : String
  codec : Codec β
  /-- The value of a field that is not there; a field without one is required. -/
  fallback : Option β := none
  /-- Whether a value is left out when the record is written. -/
  isHidden : β → Bool := fun _ => false

namespace Field

def required {β : Type} (key : String) (codec : Codec β) : Field β :=
  { key, codec }

def defaulted {β : Type} (key : String) (codec : Codec β) (fallback : β) : Field β :=
  { key, codec, fallback := some fallback }

def nullable {β : Type} (key : String) (codec : Codec β) : Field (Option β) :=
  { key, codec := codec.optional, fallback := some none }

def omittable {β : Type} (key : String) (codec : Codec β) : Field (Option β) :=
  { key, codec := codec.optional, fallback := some none, isHidden := Option.isNone }

/-- The value of a field among the members of an object. A field that stands there twice has
none. -/
def ofMembers? {β : Type} (f : Field β) (entries : List (String × Json.Draft)) : Option β :=
  match entries.filter fun e => e.1 = f.key with
  | [] => f.fallback
  | [e] => f.codec.decode? e.2
  | _ => none

end Field

/-- The fields of a record in their order, with the type of the rows of their values. One list of
fields says how a record is written, how it is read from an object and how it is read from an array. -/
inductive Fields : Type → Type 1 where
  | nil : Fields Unit
  | cons {β γ : Type} (field : Field β) (rest : Fields γ) : Fields (β × γ)

namespace Fields

def keys {γ : Type} : Fields γ → List String
  | nil => []
  | cons f rest => f.key :: rest.keys

def encode {γ : Type} : Fields γ → γ → List (String × Json)
  | nil, () => []
  | cons f rest, (b, row) =>
    if f.isHidden b then rest.encode row else (f.key, f.codec.encode b) :: rest.encode row

/-- The row of values that the members of an object give. Members that no field names are
ignored. -/
def ofMembers? {γ : Type} : Fields γ → List (String × Json.Draft) → Option γ
  | nil, _ => some ()
  | cons f rest, entries => do return (← f.ofMembers? entries, ← rest.ofMembers? entries)

/-- The row of values that the items of an array give, field by field. Fields with a default may be
missing at the end; there must be no item left over. -/
def ofItems? {γ : Type} : Fields γ → List Json.Draft → Option γ
  | nil, [] => some ()
  | nil, _ :: _ => none
  | cons f rest, [] => do return (← f.fallback, ← rest.ofItems? [])
  | cons f rest, d :: ds => do return (← f.codec.decode? d, ← rest.ofItems? ds)

end Fields

/-- How a type is a record: its fields, which have different keys, and how its values correspond to
rows of field values. -/
structure Record (α : Type) where
  Row : Type
  fields : Fields Row
  toRow : α → Row
  ofRow : Row → α
  ofRow_toRow : ∀ a, ofRow (toRow a) = a
  keys_nodup : fields.keys.Nodup := by decide

/-- The codec of a record: it is written as an object and read from an object or an array. -/
def Record.codec {α : Type} (r : Record α) : Codec α where
  encode a := .object (r.fields.encode (r.toRow a))
  decode?
    | .members entries => (r.fields.ofMembers? entries).map r.ofRow
    | .list items => (r.fields.ofItems? items).map r.ofRow
    | _ => none

end VolumeLifecycle.Wire
