import VolumeLifecycle.Decimal.Layout
import VolumeLifecycle.Dict

namespace VolumeLifecycle

inductive Json.Number where
  | integer (n : Int)
  | float (x : Decimal.Binary64)
  deriving DecidableEq, Inhabited

/-- A JSON value. The members of an object that was read have strictly increasing names. -/
inductive Json where
  | null
  | bool (b : Bool)
  | number (n : Json.Number)
  | string (s : String)
  | array (items : List Json)
  | object (members : List (String × Json))
  deriving Inhabited

namespace Json

def Number.InRange (n : Int) : Prop :=
  -9223372036854775808 ≤ n ∧ n < 18446744073709551616

instance (n : Int) : Decidable (Number.InRange n) :=
  inferInstanceAs (Decidable (_ ∧ _))

/-- The natural number that a number is, if it is an integer and not negative. -/
def Number.natural? : Number → Option Nat
  | .integer n => if 0 ≤ n then some n.toNat else none
  | .float _ => none

def Number.text : Number → String
  | .integer n => toString n
  | .float x => Decimal.Layout.json.write x

def natural (n : Nat) : Json :=
  .number (.integer n)

def ofDict (d : Dict Json) : Json :=
  .object d.entries

def strings (texts : List String) : Json :=
  .array (texts.map .string)

def hexDigit (n : Nat) : Char :=
  Nat.digitChar n

/-- How a character stands inside a string: quote, backslash and control characters are escaped,
all others stand for themselves. -/
def escapeChar (c : Char) : List Char :=
  if c = '"' then ['\\', '"']
  else if c = '\\' then ['\\', '\\']
  else if c.toNat = 0x08 then ['\\', 'b']
  else if c.toNat = 0x0C then ['\\', 'f']
  else if c = '\n' then ['\\', 'n']
  else if c = '\r' then ['\\', 'r']
  else if c = '\t' then ['\\', 't']
  else if c.toNat < 0x20 then
    ['\\', 'u', '0', '0', hexDigit (c.toNat / 16), hexDigit (c.toNat % 16)]
  else [c]

def quote (s : String) : String :=
  String.ofList ('"' :: s.toList.flatMap escapeChar ++ ['"'])

mutual

/-- The compact text of a value: no spaces, and the members of objects in the order in which they
stand. -/
def text : Json → String
  | .null => "null"
  | .bool true => "true"
  | .bool false => "false"
  | .number n => n.text
  | .string s => quote s
  | .array items => "[" ++ ",".intercalate (itemTexts items) ++ "]"
  | .object members => "\x7b" ++ ",".intercalate (memberTexts members) ++ "\x7d"

def itemTexts : List Json → List String
  | [] => []
  | item :: rest => item.text :: itemTexts rest

def memberTexts : List (String × Json) → List String
  | [] => []
  | (key, value) :: rest => (quote key ++ ":" ++ value.text) :: memberTexts rest

end

/-- The value of a member of an object, null when there is none. -/
def field (j : Json) (key : String) : Json :=
  match j with
  | .object members => (members.lookup key).getD .null
  | _ => .null

end Json
end VolumeLifecycle
