import VolumeLifecycle.Text.Fragment

namespace VolumeLifecycle

structure Path where
  text : String
  deriving DecidableEq, Inhabited

namespace Path

def isAbsolute (p : Path) : Bool :=
  p.text.toList.head? = some '/'

/-- The path of `name` seen from the directory `p`. An absolute name replaces the directory; else
one slash is put between the two unless the directory is empty or ends in one. Nothing is
normalised. -/
def join (p : Path) (name : String) : Path :=
  if (Path.mk name).isAbsolute then ⟨name⟩
  else if p.text.isEmpty || p.text.toList.getLast? = some '/' then ⟨p.text ++ name⟩
  else ⟨p.text ++ "/" ++ name⟩

inductive Component where
  | root
  | current
  | parent
  | name (s : List Char)
  deriving DecidableEq

/-- The component that a piece between slashes stands for, if it stands for one: empty pieces do
not, and a single dot only counts at the start of a relative path. -/
def Component.ofPiece? (piece : List Char) : Option Component :=
  if piece = [] || piece = ['.'] then none
  else if piece = ['.', '.'] then some .parent
  else some (.name piece)

/-- The components of a path. Repeated slashes, inner single dots and a slash at the end do not
count; a double dot does. -/
def components (p : Path) : List Component :=
  let parts := Text.splitChars '/' p.text.toList
  let inner := parts.filterMap Component.ofPiece?
  if p.isAbsolute then .root :: inner
  else if parts.head? = some ['.'] then .current :: inner
  else inner

def sameAs (p q : Path) : Bool :=
  p.components = q.components

end Path
end VolumeLifecycle
