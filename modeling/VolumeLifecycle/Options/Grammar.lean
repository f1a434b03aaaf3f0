import VolumeLifecycle.Failure
import VolumeLifecycle.Json.Basic
import VolumeLifecycle.Options.Key
import VolumeLifecycle.Text.Blank
import VolumeLifecycle.Text.Unsigned

namespace VolumeLifecycle.Options

def maxDelay : Nat := 86400

inductive Expectation where
  | text
  | texts
  | flag
  | natural
  | delay
  deriving DecidableEq

def Expectation.phrase : Expectation → String
  | text => "a string"
  | texts => "a list of strings"
  | flag => "true or false"
  | natural => "a non-negative integer"
  | delay => "at most " ++ toString maxDelay ++ " seconds"

def invalidValue (key : Key) (value : Json) (expected : Expectation) : Failure :=
  .invalidArgument
    ("invalid value " ++ value.text ++ " for option " ++ key.name ++ ", expected " ++
      expected.phrase)

/-- The result of reading a value by the grammar of an option: a setting, nothing if the value
leaves the option unset, or what was expected instead. -/
abbrev Reading (α : Type) := Except Expectation (Option α)

/-- A text without the blanks around it, or nothing if it is blank. -/
def trimmed? (s : String) : Option String :=
  if Text.isBlankText s then none else some (Text.trim s)

/-- A text. Null and blank texts leave the option unset; a number stands for its own text. -/
def readText : Json → Reading String
  | .null => .ok none
  | .string s => .ok (trimmed? s)
  | .number n => .ok (some n.text)
  | _ => .error .text

def nonEmpty? (texts : List String) : Option (List String) :=
  if texts.isEmpty then none else some texts

def asText? : Json → Option String
  | .string s => some s
  | _ => none

/-- A list of texts, given as an array or as one text with commas. The texts are trimmed and blank
ones are dropped; if none is left the option is unset. -/
def readTexts : Json → Reading (List String)
  | .null => .ok none
  | .string s => .ok (nonEmpty? ((Text.split ',' s).filterMap trimmed?))
  | .array items =>
    match items.mapM asText? with
    | some texts => .ok (nonEmpty? (texts.filterMap trimmed?))
    | none => .error .texts
  | _ => .error .texts

/-- A truth value, also as one of the texts `true` and `false`. -/
def readFlag : Json → Reading Bool
  | .null => .ok none
  | .bool b => .ok (some b)
  | .string s =>
    if Text.trim s = "true" then .ok (some true)
    else if Text.trim s = "false" then .ok (some false)
    else .error .flag
  | _ => .error .flag

/-- An unsigned integer, given as a number or as its text. -/
def readNatural : Json → Reading Nat
  | .null => .ok none
  | .number n =>
    match n.natural? with
    | some n => .ok (some n)
    | none => .error .natural
  | .string s =>
    match Text.unsigned? (Text.trim s) with
    | some n => .ok (some n)
    | none => .error .natural
  | _ => .error .natural

/-- A conflict delay: an unsigned integer that is not too large. -/
def readDelay (value : Json) : Reading Nat :=
  match readNatural value with
  | .ok (some n) => if maxDelay < n then .error .delay else .ok (some n)
  | reading => reading

/-- The help flag: every value but `false` asks for help, also null and the empty text. -/
def readHelp : Json → Bool
  | .bool b => b
  | _ => true

end VolumeLifecycle.Options
