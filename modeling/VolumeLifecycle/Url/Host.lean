import VolumeLifecycle.HostName.Ascii
import VolumeLifecycle.Url.Ipv4
import VolumeLifecycle.Url.Ipv6
import VolumeLifecycle.Url.Percent

namespace VolumeLifecycle.Url

inductive Host where
  | name (s : List Char)
  | ipv4 (address : Ipv4)
  | ipv6 (address : Ipv6)

namespace Host

def empty : Host := .name []

def isEmpty : Host → Bool
  | name s => s.isEmpty
  | _ => false

def text : Host → List Char
  | name s => s
  | ipv4 a => a.text
  | ipv6 a => '[' :: a.text ++ [']']

def forbidden : List Char :=
  ['\x00', '\t', '\n', '\r', ' ', '#', '/', ':', '<', '>', '?', '@', '[', '\\', ']', '^', '|']

/-- The host of a special scheme that is not an address between brackets. -/
def ofName? (s : List Char) : Option Host := do
  let name ← HostName.ascii? (← decode? s)
  if name.isEmpty then none
  if Ipv4.isMeant name then return .ipv4 (← Ipv4.ofName? name) else return .name name

/-- The host that a text stands for. A special scheme needs one. -/
def ofText? (special : Bool) (s : List Char) : Option Host :=
  if s.head? = some '[' then
    if s.getLast? = some ']' then (Ipv6.ofText? (s.drop 1).dropLast).map .ipv6 else none
  else if special then ofName? s
  else if s.any forbidden.contains then none
  else some (.name (encode [] s))

end Host
end VolumeLifecycle.Url
