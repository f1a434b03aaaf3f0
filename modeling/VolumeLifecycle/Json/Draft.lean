import VolumeLifecycle.Json.Token

namespace VolumeLifecycle.Json

/-- A JSON tree as it was written, before anyone asks what it means. Repeated names are kept, so
that a record can refuse them and a free-form map can let the last one count. `unreadable` stands
for a piece whose brackets match but which has no value: a number too large, half a surrogate pair,
or nesting that is too deep. -/
inductive Draft where
  | null
  | bool (b : Bool)
  | number (n : Number)
  | text (s : String)
  | list (items : List Draft)
  | members (entries : List (String × Draft))
  | unreadable
  deriving Inhabited

namespace Draft

/-- The deepest nesting of arrays and objects that can be read. -/
def maxDepth : Nat := 127

/-- An array or object that is still open. What it has gathered stands in reverse order; a name
that cannot be read is kept as nothing. -/
inductive Frame where
  | list (items : List Draft)
  | members (entries : List (Option String × Draft)) (key : Option String)

/-- What may come next. Every state but the last holds the open arrays and objects, innermost
first. -/
inductive Progress where
  | value (frames : List Frame)
  | firstItem (frames : List Frame)
  | firstKey (frames : List Frame)
  | key (entries : List (Option String × Draft)) (frames : List Frame)
  | colon (entries : List (Option String × Draft)) (key : Option String) (frames : List Frame)
  | separator (frame : Frame) (frames : List Frame)
  | complete (d : Draft)

/-- A value has been read: it goes into the innermost open array or object. -/
def deliver (d : Draft) : List Frame → Progress
  | [] => .complete d
  | .list items :: rest => .separator (.list (d :: items)) rest
  | .members entries key :: rest => .separator (.members ((key, d) :: entries) key) rest

/-- An array or object has been closed inside of the given open ones. -/
def close (d : Draft) (outside : List Frame) : Progress :=
  deliver (if maxDepth ≤ outside.length then .unreadable else d) outside

/-- The object with the given entries, which stand in reverse order. -/
def ofEntries (entries : List (Option String × Draft)) : Draft :=
  match entries.reverse.mapM fun e => e.1.map (·, e.2) with
  | some entries => .members entries
  | none => .unreadable

def ofToken? : Token → Option Draft
  | .null => some .null
  | .bool b => some (.bool b)
  | .number (some n) => some (.number n)
  | .number none => some .unreadable
  | .string (some s) => some (.text s)
  | .string none => some .unreadable
  | _ => none

def begin? (outside : List Frame) : Token → Option Progress
  | .openBracket => some (.firstItem outside)
  | .openBrace => some (.firstKey outside)
  | token => (ofToken? token).map (deliver · outside)

/-- What a token does where the name of a member has to stand. -/
def key? (entries : List (Option String × Draft)) (outside : List Frame) :
    Token → Option Progress
  | .string s => some (.colon entries s outside)
  | _ => none

def Progress.step? : Progress → Token → Option Progress
  | .value outside, token => begin? outside token
  | .firstItem outside, .closeBracket => some (close (.list []) outside)
  | .firstItem outside, token => begin? (.list [] :: outside) token
  | .firstKey outside, .closeBrace => some (close (.members []) outside)
  | .firstKey outside, token => key? [] outside token
  | .key entries outside, token => key? entries outside token
  | .colon entries name outside, .colon => some (.value (.members entries name :: outside))
  | .separator (.list items) outside, .comma => some (.value (.list items :: outside))
  | .separator (.list items) outside, .closeBracket => some (close (.list items.reverse) outside)
  | .separator (.members entries _) outside, .comma => some (.key entries outside)
  | .separator (.members entries _) outside, .closeBrace =>
    some (close (ofEntries entries) outside)
  | _, _ => none

def run? : Progress → List Token → Option Draft
  | .complete d, [] => some d
  | _, [] => none
  | state, token :: rest => (state.step? token).bind (run? · rest)

def ofTokens? (tokens : List Token) : Option Draft :=
  run? (.value []) tokens

def ofText? (s : String) : Option Draft :=
  (Token.ofText? s).bind ofTokens?

mutual

/-- The value of a tree: the last of repeated members counts, and members are put in the order of
their names. A tree with an unreadable piece has none. -/
def value? : Draft → Option Json
  | .null => some .null
  | .bool b => some (.bool b)
  | .number n => some (.number n)
  | .text s => some (.string s)
  | .list items => (values? items).map .array
  | .members entries => (entryValues? entries).map fun es => ofDict (Dict.ofList es)
  | .unreadable => none

def values? : List Draft → Option (List Json)
  | [] => some []
  | d :: rest => do return (← d.value?) :: (← values? rest)

def entryValues? : List (String × Draft) → Option (List (String × Json))
  | [] => some []
  | (key, d) :: rest => do return (key, ← d.value?) :: (← entryValues? rest)

end

end Draft

mutual

def draft : Json → Draft
  | .null => .null
  | .bool b => .bool b
  | .number n => .number n
  | .string s => .text s
  | .array items => .list (drafts items)
  | .object members => .members (memberDrafts members)

def drafts : List Json → List Draft
  | [] => []
  | j :: rest => j.draft :: drafts rest

def memberDrafts : List (String × Json) → List (String × Draft)
  | [] => []
  | (key, j) :: rest => (key, j.draft) :: memberDrafts rest

end

def ofText? (s : String) : Option Json :=
  (Draft.ofText? s).bind Draft.value?

end VolumeLifecycle.Json
