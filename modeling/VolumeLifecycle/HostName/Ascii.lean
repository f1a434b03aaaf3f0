import VolumeLifecycle.HostName.Label
import VolumeLifecycle.HostName.Punycode

namespace VolumeLifecycle.HostName

def encodedMark : List Char := "xn--".toList

def maxPlain : Nat := 1000

/-- The longest encoded label that is read, in characters behind the mark. -/
def maxEncoded : Nat := 2000

/-- The characters of a label that has the mark of an encoded one, given what follows the mark. They
must need an encoding, and must be in the form that names are brought into before they are
encoded. -/
def decoded? (encoded : List Char) : Option (List Char) := do
  if maxEncoded < encoded.length then none
  let label ← Punycode.decode? encoded
  if label.all Punycode.isBasic || !label.all isSettled || Text.composed label ≠ label then none
  return label

def plain? (label : List Char) : Option (List Char) :=
  if encodedMark.isPrefixOf label then decoded? (label.drop encodedMark.length) else some label

def labelAscii? (label : List Char) : Option (List Char) :=
  if label.all Punycode.isBasic then some label
  else if maxPlain < label.length then none
  else some (encodedMark ++ Punycode.encode label)

/-- A name in ASCII alone, with the labels that hold other characters encoded and marked as such;
nothing if it cannot be the name of a host. Empty labels are not refused. -/
def ascii? (name : List Char) : Option (List Char) := do
  let labels ← (Text.splitChars '.' (← mapped? name)).mapM plain?
  if !labels.all isSound || !directionsFit labels then none
  return ['.'].intercalate (← labels.mapM labelAscii?)

end VolumeLifecycle.HostName
