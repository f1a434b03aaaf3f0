import VolumeLifecycle.Url.Host

namespace VolumeLifecycle

namespace Url

/-- The user information of a URL, encoded. A password is not empty. -/
structure User where
  name : List Char
  password : Option (List Char)
  deriving DecidableEq

def User.empty : User := ⟨[], none⟩

/-- The text of user information, with the mark that ends it; nothing if it is empty. -/
def User.text (u : User) : List Char :=
  match u.password with
  | some password => u.name ++ ':' :: password ++ ['@']
  | none => if u.name.isEmpty then [] else u.name ++ ['@']

/-- Whether a client can make use of user information: there is some, and it is UTF-8 when
decoded. A password that is not is passed over if there is a name. -/
def User.isUsable (u : User) : Bool :=
  match decode? u.name with
  | none => false
  | some name => !name.isEmpty || (u.password.bind decode?).isSome

structure Authority where
  user : User := .empty
  host : Host
  port : Option Nat := none

def Authority.text (a : Authority) : List Char :=
  let port := match a.port with
    | some n => ':' :: (toString n).toList
    | none => []
  a.user.text ++ a.host.text ++ port

end Url

/-- An absolute URL. Without an authority the path may be opaque, that is, not start with a
slash. -/
structure Url where
  scheme : List Char
  authority : Option Url.Authority
  path : List Char
  query : Option (List Char)
  fragment : Option (List Char)

namespace Url

/-- The text of a URL. A path with two leading slashes is kept from looking like an authority. -/
def text (u : Url) : String :=
  let authority := match u.authority with
    | some a => '/' :: '/' :: a.text
    | none => if ['/', '/'].isPrefixOf u.path then ['/', '.'] else []
  let tail (mark : Char) : Option (List Char) → List Char
    | some s => mark :: s
    | none => []
  String.ofList
    (u.scheme ++ ':' :: authority ++ u.path ++ tail '?' u.query ++ tail '#' u.fragment)

/-- The URL without its user information, if a client can make use of that and so takes it out. -/
def withoutUser (u : Url) : Url :=
  match u.authority with
  | some a =>
    if a.user.isUsable then { u with authority := some { a with user := .empty } } else u
  | none => u

def isHttp (u : Url) : Bool :=
  u.scheme = "http".toList || u.scheme = "https".toList

/-- The longest text that the target of a request has, in bytes. -/
def maxTarget : Nat := 65534

/-- Whether a URL of the web can be the target of a request: not too long, and with a host of
characters that need no encoding. -/
def isTarget (u : Url) : Bool :=
  let fits (a : Authority) := !a.host.text.any ['"', '\x60', '\x7b', '\x7d'].contains
  u.text.utf8ByteSize ≤ maxTarget && u.authority.any fits

end Url
end VolumeLifecycle
