import VolumeLifecycle.Text.Fragment
import VolumeLifecycle.Url.Percent

namespace VolumeLifecycle.Url

def isBreak (c : Char) : Bool :=
  c = '\t' || c = '\n' || c = '\r'

/-- What counts of a text in a URL: all but tabs and line breaks. -/
def withoutBreaks (s : List Char) : List Char :=
  s.filter fun c => !isBreak c

def isSingleDot (segment : List Char) : Bool :=
  [".", "%2e"].contains (String.ofList (segment.map Char.toLower))

def isDoubleDot (segment : List Char) : Bool :=
  ["..", ".%2e", "%2e.", "%2e%2e"].contains (String.ofList (segment.map Char.toLower))

def isDrive : List Char → Bool
  | [letter, mark] => letter.isAlpha && (mark = ':' || mark = '|')
  | _ => false

def beginsWithDrive (segment : List Char) : Bool :=
  isDrive (segment.take 2) && (segment.length = 2 || segment[2]? = some '\\')

/-- The two parts of a segment that is a drive with a colon, then tabs or line breaks, then more. -/
def cutBehindDrive? (segment : List Char) : Option (List Char × List Char) :=
  match segment.dropWhile isBreak with
  | [] => none
  | letter :: rest =>
    match rest.dropWhile isBreak with
    | ':' :: rest =>
      let more := withoutBreaks rest
      if letter.isAlpha && rest.head?.any isBreak && !more.isEmpty then some ([letter, ':'], more)
      else none
    | _ => none

/-- What was read of a path: its segments in reverse order, and whether the first of them is a drive
of this machine, which has no other host then. Tabs and line breaks do not count in a URL, but they
still stand in a path that is read here, because in the path of a file they can set a drive apart
from what follows it. -/
structure Trail where
  segments : List (List Char) := []
  isLocal : Bool := false

namespace Trail

def push (t : Trail) (segment : List Char) : Trail :=
  { t with segments := segment :: t.segments }

/-- The trail of the directory above. The root and drives have nothing above them. -/
def up (t : Trail) : Trail :=
  match t.segments with
  | [] => t
  | segment :: before => if beginsWithDrive segment then t else { t with segments := before }

/-- A trail with a segment that is a name. At the front of a file path a drive is written with a
colon; one that is set apart from what follows makes two segments, and does not replace the host. -/
def put (isFile : Bool) (t : Trail) (segment : List Char) : Trail :=
  let name := withoutBreaks segment
  if !(isFile && t.segments.isEmpty) then t.push (encode pathSet name)
  else
    match cutBehindDrive? segment with
    | some (drive, more) => (t.push drive).push (encode pathSet more)
    | none =>
      if isDrive name then ⟨[[name.headD 'C', ':']], true⟩ else t.push (encode pathSet name)

/-- The trail that further segments lead to. Where the last one means a directory, an empty segment
stands for it. -/
def follow (isFile : Bool) (t : Trail) : List (List Char) → Trail
  | [] => t
  | segment :: rest =>
    let name := withoutBreaks segment
    let close (t : Trail) := if rest.isEmpty then t.push [] else t
    if isDoubleDot name then follow isFile (close t.up) rest
    else if isSingleDot name then follow isFile (close t) rest
    else follow isFile (t.put isFile segment) rest

def text (t : Trail) : List Char :=
  t.segments.reverse.flatMap fun segment => '/' :: segment

end Trail

/-- The segments of a text as they stand there. In a special scheme a backslash is a slash. -/
def segments (special : Bool) (s : List Char) : List (List Char) :=
  Text.splitChars '/' (if special then s.map fun c => if c = '\\' then '/' else c else s)

/-- A text without the slash in front, which is the root and no segment. -/
def belowRoot (special : Bool) : List Char → List Char
  | [] => []
  | c :: rest => if c = '/' || (special && c = '\\') then rest else c :: rest

/-- The normal form of a path that is not that of a file. Only a special scheme needs a path. -/
def normalPath (special : Bool) (s : List Char) : List Char :=
  if s.isEmpty && !special then []
  else (({} : Trail).follow false (segments special (belowRoot special s))).text

/-- The normal form of the path of a file, from the text below the root, and whether it begins with
a drive of this machine. Empty segments in front do not count in the end. -/
def filePath (s : List Char) : List Char × Bool :=
  let trail := ({} : Trail).follow true (segments true s)
  ('/' :: trail.text.dropWhile (· = '/'), trail.isLocal)

end VolumeLifecycle.Url
