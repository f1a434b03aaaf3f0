import VolumeLifecycle.Path

namespace VolumeLifecycle

inductive FileError where
  | missing
  | busy
  | notDirectory
  | isDirectory
  | invalidArgument
  | nameTooLong
  | notEmpty
  | nulCharacter
  | notText
  deriving DecidableEq

def FileError.message : FileError → String
  | missing => "No such file or directory (os error 2)"
  | busy => "Device or resource busy (os error 16)"
  | notDirectory => "Not a directory (os error 20)"
  | isDirectory => "Is a directory (os error 21)"
  | invalidArgument => "Invalid argument (os error 22)"
  | nameTooLong => "File name too long (os error 36)"
  | notEmpty => "Directory not empty (os error 39)"
  | nulCharacter => "file name contained an unexpected NUL byte"
  | notText => "stream did not contain valid UTF-8"

inductive FileKind where
  | directory
  | file (content : ByteArray)

/-- Where something is in a file system: the names on the way from the root. -/
abbrev Location := List String

/-- A file system without links: what it holds besides the root, and the directory that relative
paths start from. The names of an entry's parents are entries too. -/
structure FileTree where
  entries : List (Location × FileKind)
  workingDirectory : Location

namespace FileTree

def maxName : Nat := 255

def maxPath : Nat := 4095

def kindAt (t : FileTree) (place : Location) : Option FileKind :=
  if place.isEmpty then some .directory else t.entries.lookup place

def hasChildren (t : FileTree) (place : Location) : Bool :=
  t.entries.any fun e => e.1.length = place.length + 1 && e.1.dropLast = place

/-- One step from a directory: to itself, to its parent, or to a name in it. -/
def step (t : FileTree) (place : Location) (piece : String) : Except FileError Location :=
  match t.kindAt place with
  | some .directory =>
    if piece = "." then .ok place
    else if piece = ".." then .ok place.dropLast
    else if maxName < piece.utf8ByteSize then .error .nameTooLong
    else
      let next := place ++ [piece]
      if (t.kindAt next).isSome then .ok next else .error .missing
  | some (.file _) => .error .notDirectory
  | none => .error .missing

/-- The steps of a path: its pieces between slashes that are not empty. -/
def stepsOf (p : Path) : List String :=
  (Text.split '/' p.text).filter (· ≠ "")

def start (t : FileTree) (p : Path) : Location :=
  if p.isAbsolute then [] else t.workingDirectory

def checkForm (p : Path) : Except FileError Unit :=
  if p.text.toList.contains '\x00' then .error .nulCharacter
  else if p.text.isEmpty then .error .missing
  else if maxPath < p.text.utf8ByteSize then .error .nameTooLong
  else .ok ()

def follow (t : FileTree) (place : Location) (steps : List String) : Except FileError Location :=
  steps.foldlM t.step place

def endsInSlash (p : Path) : Bool :=
  p.text.toList.getLast? = some '/'

def resolve (t : FileTree) (p : Path) : Except FileError Location := do
  checkForm p
  let place ← t.follow (t.start p) (stepsOf p)
  match t.kindAt place with
  | some (.file _) => if endsInSlash p then .error .notDirectory else .ok place
  | _ => .ok place

def read (t : FileTree) (p : Path) : Except FileError ByteArray := do
  let place ← t.resolve p
  match t.kindAt place with
  | some (.file content) => return content
  | some .directory => .error .isDirectory
  | none => .error .missing

def readText (t : FileTree) (p : Path) : Except FileError String := do
  match String.fromUTF8? (← t.read p) with
  | some text => return text
  | none => .error .notText

/-- Where the directory is that a path names for removal. It must not be named by a dot, and must
exist and be empty. -/
def removable (t : FileTree) (p : Path) : Except FileError Location := do
  checkForm p
  match (stepsOf p).getLast? with
  | none => .error .busy
  | some last =>
    let parent ← t.follow (t.start p) (stepsOf p).dropLast
    let place ← t.step parent last
    if last = "." then .error .invalidArgument
    else if last = ".." then .error .notEmpty
    else
      match t.kindAt place with
      | some .directory => if t.hasChildren place then .error .notEmpty else .ok place
      | _ => .error .notDirectory

def removeDirectory (t : FileTree) (p : Path) : Except FileError FileTree := do
  let place ← t.removable p
  return { t with entries := t.entries.filter fun e => e.1 ≠ place }

/-- Makes the directories that steps from a place lead through, as far as they are not there. A
failure other than a missing name ends it. -/
def makeSteps (t : FileTree) (place : Location) : List String → FileTree
  | [] => t
  | piece :: rest =>
    match t.step place piece with
    | .ok next => t.makeSteps next rest
    | .error .missing =>
      let next := place ++ [piece]
      makeSteps { t with entries := t.entries ++ [(next, .directory)] } next rest
    | .error _ => t

/-- The file system with the directory that a path names, and all directories on the way to it. -/
def makeDirectories (t : FileTree) (p : Path) : FileTree :=
  match checkForm p with
  | .ok () => t.makeSteps (t.start p) (stepsOf p)
  | .error _ => t

/-- Where a file can be written that a path names: in a directory that exists, at a name that no
directory has. -/
def writable (t : FileTree) (p : Path) : Except FileError Location := do
  checkForm p
  match (stepsOf p).getLast? with
  | none => .error .isDirectory
  | some last =>
    let parent ← t.follow (t.start p) (stepsOf p).dropLast
    if endsInSlash p || last = "." || last = ".." then .error .isDirectory
    else
      match t.step parent last with
      | .ok place =>
        if t.kindAt place matches some .directory then .error .isDirectory else .ok place
      | .error .missing => .ok (parent ++ [last])
      | .error e => .error e

def writeFile (t : FileTree) (p : Path) (content : ByteArray) : FileTree :=
  match t.writable p with
  | .ok place =>
    { t with entries := t.entries.filter (fun e => e.1 ≠ place) ++ [(place, .file content)] }
  | .error _ => t

def ofRoot (root workingDirectory : Path) : FileTree :=
  ((⟨[], stepsOf workingDirectory⟩ : FileTree).makeDirectories root).makeDirectories
    workingDirectory

/-- The texts of all places below a directory, directories with a slash at the end. -/
def listing (t : FileTree) (root : Location) : List String :=
  (t.entries.filter fun e => root.length < e.1.length && e.1.take root.length = root).map fun e =>
    "/".intercalate (e.1.drop root.length) ++ (if e.2 matches .directory then "/" else "")

end FileTree
end VolumeLifecycle
