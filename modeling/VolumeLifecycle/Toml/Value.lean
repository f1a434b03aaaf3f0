import VolumeLifecycle.Json.Draft

namespace VolumeLifecycle.Toml

/-- A value without parts. Infinities and not-a-number are kept as nothing. A number `unvalued` has
the form of a number and denotes none: it is too large, or has not the digits that it needs. It may
stand where nobody reads it. -/
inductive Scalar where
  | text (s : String)
  | boolean (b : Bool)
  | integer (n : Int)
  | float (x : Option Decimal.Binary64)
  | unvalued
  | moment (s : String)

/-- How a table came about: by its own header, as a step in the path of another header, as a step
in a dotted key, or written inline. -/
inductive Origin where
  | header
  | path
  | dotted
  | inlined
  deriving DecidableEq

/-- A value. Arrays that headers build up are told from arrays that are written out. -/
inductive Node where
  | scalar (s : Scalar)
  | array (items : List Node)
  | tables (items : List Node)
  | table (origin : Origin) (entries : List (String × Node))

/-- The name under which a date or time appears in a free-form value. -/
def momentKey : String := "$__toml_private_datetime"

/-- The JSON tree of a scalar. Integers that are too large for JSON but fit 128 bits can be skipped
and not read; larger ones can be neither. Infinities and not-a-number become null. -/
def Scalar.draft? : Scalar → Option Json.Draft
  | text s => some (.text s)
  | boolean b => some (.bool b)
  | integer n =>
    if Json.Number.InRange n then some (.number (.integer n))
    else if -(Nat.pow 2 127 : Nat) ≤ n ∧ n < (Nat.pow 2 128 : Nat) then some .unreadable
    else none
  | float none => some .null
  | float (some x) => some (.number (.float x))
  | unvalued => none
  | moment s => some (.members [(momentKey, .text s)])

mutual

def Node.draft? : Node → Option Json.Draft
  | .scalar s => s.draft?
  | .array items => (drafts? items).map .list
  | .tables items => (drafts? items).map .list
  | .table _ entries => (entryDrafts? entries).map .members

def drafts? : List Node → Option (List Json.Draft)
  | [] => some []
  | n :: rest => do return (← n.draft?) :: (← drafts? rest)

def entryDrafts? : List (String × Node) → Option (List (String × Json.Draft))
  | [] => some []
  | (key, n) :: rest => do return (key, ← n.draft?) :: (← entryDrafts? rest)

end

end VolumeLifecycle.Toml
