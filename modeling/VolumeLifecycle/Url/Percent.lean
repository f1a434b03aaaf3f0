import VolumeLifecycle.Text.Hexadecimal

namespace VolumeLifecycle.Url

def percent (b : UInt8) : List Char :=
  let digit (n : Nat) := (Nat.digitChar n).toUpper
  ['%', digit (b.toNat / 16), digit (b.toNat % 16)]

def bytes (s : List Char) : List UInt8 :=
  (String.ofList s).toUTF8.data.toList

/-- A text with the characters of a set, control characters and those beyond ASCII encoded, each
byte as a percent sign and two hexadecimal digits. -/
def encode (set : List Char) (s : List Char) : List Char :=
  s.flatMap fun c =>
    if c.toNat < 0x20 || 0x7E < c.toNat || set.contains c then (bytes [c]).flatMap percent
    else [c]

/-- The bytes that a text stands for when its encoded bytes are decoded. A percent sign without two
digits stands for itself. -/
def decodedBytes : List Char → List UInt8
  | [] => []
  | '%' :: a :: b :: rest =>
    match Text.hexValue? a, Text.hexValue? b with
    | some high, some low => .ofNat (16 * high + low) :: decodedBytes rest
    | _, _ => bytes ['%'] ++ decodedBytes (a :: b :: rest)
  | c :: rest => bytes [c] ++ decodedBytes rest

/-- The text that a text stands for when its encoded bytes are decoded; nothing if these are not
UTF-8. -/
def decode? (s : List Char) : Option (List Char) :=
  (String.fromUTF8? ⟨(decodedBytes s).toArray⟩).map String.toList

def fragmentSet : List Char := [' ', '"', '<', '>', '\x60']

def querySet (special : Bool) : List Char :=
  [' ', '"', '#', '<', '>'] ++ if special then ['\''] else []

def pathSet : List Char :=
  fragmentSet ++ ['#', '?', '\x7b', '\x7d']

def userSet : List Char :=
  pathSet ++ ['/', ':', ';', '=', '@', '[', '\\', ']', '^', '|']

end VolumeLifecycle.Url
