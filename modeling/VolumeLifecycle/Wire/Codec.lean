import VolumeLifecycle.Json.Draft

namespace VolumeLifecycle.Wire

/-- How the values of a type are written as JSON and read back. A codec reads the tree of a text,
not its value, so that it can tell repeated names from single ones. -/
structure Codec (α : Type) where
  encode : α → Json
  decode? : Json.Draft → Option α

namespace Codec

def text : Codec String where
  encode := .string
  decode?
    | .text s => some s
    | _ => none

def bool : Codec Bool where
  encode := .bool
  decode?
    | .bool b => some b
    | _ => none

/-- Unsigned integers of 64 bits. A number with a point or an exponent is not one, even when its
value is integral. -/
def word : Codec UInt64 where
  encode n := .natural n.toNat
  decode?
    | .number n => n.natural?.bind fun n => if n < UInt64.size then some (.ofNat n) else none
    | _ => none

def via {α β : Type} (c : Codec β) (write : α → β) (read : β → α) : Codec α where
  encode a := c.encode (write a)
  decode? d := (c.decode? d).map read

/-- One of several named values. It is written as its name; an object whose only member has that
name and is null is read as well. -/
def choice {α : Type} (name : α → String) (values : List α) : Codec α where
  encode a := .string (name a)
  decode?
    | .text s => values.find? fun a => name a = s
    | .members [(s, .null)] => values.find? fun a => name a = s
    | _ => none

def list {α : Type} (c : Codec α) : Codec (List α) where
  encode as := .array (as.map c.encode)
  decode?
    | .list items => items.mapM c.decode?
    | _ => none

def optional {α : Type} (c : Codec α) : Codec (Option α) where
  encode
    | none => .null
    | some a => c.encode a
  decode?
    | .null => some none
    | d => (c.decode? d).map some

def json : Codec Json where
  encode := id
  decode? := Json.Draft.value?

/-- Maps from names to values; of entries with the same name the last one counts. -/
def dict {α : Type} (c : Codec α) : Codec (Dict α) where
  encode d := .ofDict (d.map c.encode)
  decode?
    | .members entries =>
      (entries.mapM fun e => (c.decode? e.2).map (e.1, ·)).map Dict.ofList
    | _ => none

end Codec
end VolumeLifecycle.Wire
