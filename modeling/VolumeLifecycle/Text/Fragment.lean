
namespace VolumeLifecycle.Text

def hasFragmentChars (fragment : List Char) : List Char → Bool
  | [] => fragment.isEmpty
  | c :: rest => fragment.isPrefixOf (c :: rest) || hasFragmentChars fragment rest

/-- Whether `fragment` stands somewhere in the text `s`. The empty fragment always does. -/
def hasFragment (s fragment : String) : Bool :=
  hasFragmentChars fragment.toList s.toList

def lowerAscii (s : String) : List Char :=
  s.toList.map Char.toLower

/-- Whether two texts differ at most in the case of ASCII letters. -/
def sameIgnoringCase (s t : String) : Bool :=
  lowerAscii s == lowerAscii t

/-- The pieces of a list between the places where the separator stands. There is always at
least one piece, possibly empty. -/
def splitChars (separator : Char) : List Char → List (List Char)
  | [] => [[]]
  | c :: rest =>
    match splitChars separator rest with
    | [] => [[]]
    | piece :: pieces => if c = separator then [] :: piece :: pieces else (c :: piece) :: pieces

/-- The pieces of a text between the places where the separator stands. -/
def split (separator : Char) (s : String) : List String :=
  (splitChars separator s.toList).map String.ofList

end VolumeLifecycle.Text
