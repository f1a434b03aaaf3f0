import VolumeLifecycle.HostName.Character
import VolumeLifecycle.HostName.Mapping

namespace VolumeLifecycle.HostName

def reserved : List Char :=
  ['%', '#', '/', ':', '<', '>', '?', '@', '[', '\\', ']', '^', '|']

/-- Whether a character can be part of a host name in an address: neither a blank, nor a control
character of ASCII, nor reserved. -/
def isFree (c : Char) : Bool :=
  0x20 < c.toNat && c.toNat ≠ 0x7F && !reserved.contains c

def joiner : Char := '\u200D'

def nonJoiner : Char := '\u200C'

/-- The combining class of marks that take the vowel from a consonant. -/
def viramaClass : Nat := 9

/-- Whether the nearest character that is not transparent joins in one of the given ways. -/
def nearestJoins (ways : List Joining) : List Char → Bool
  | [] => false
  | c :: rest =>
    if ways.contains (joiningOf c) then true
    else if joiningOf c = .transparent then nearestJoins ways rest
    else false

/-- Whether the joiners in a label stand where they have an effect: behind a mark that takes a
vowel, and those that separate also between characters that would join. `before` holds what comes
before, in reverse order. -/
def joinersFit (before : List Char) : List Char → Bool
  | [] => true
  | c :: rest =>
    let afterVirama := before.head?.any fun b => Text.combiningClass b = viramaClass
    let between :=
      nearestJoins [.onLeft, .onBoth] before && nearestJoins [.onRight, .onBoth] rest
    let fits :=
      if c = joiner then afterVirama
      else if c = nonJoiner then afterVirama || between
      else true
    fits && joinersFit (c :: before) rest

/-- Whether a label has the right characters: all free, the first one no mark, joiners in their
places. -/
def isSound (label : List Char) : Bool :=
  label.all isFree && !label.head?.any isMark && joinersFit [] label

/-- Whether a direction makes a whole name one that is written in both directions. -/
def Direction.isBackward (d : Direction) : Bool :=
  d = .rightToLeft || d = .arabicNumber

/-- Whether a label can stand in a name that is written in both directions. It begins with a
letter, whose direction is the one of the label; it does not hold letters of the other direction;
apart from marks it ends with a letter or a number; and from right to left it has numbers of one
kind only. -/
def keepsDirection (label : List Char) : Bool :=
  let directions := label.map directionOf
  let last := (directions.reverse.find? (· ≠ .ofBase)).getD .leftToRight
  match directions.head? with
  | none => true
  | some .leftToRight =>
    !directions.any Direction.isBackward && (last = .leftToRight || last = .europeanNumber)
  | some .rightToLeft =>
    !directions.contains .leftToRight && last ≠ .neutral &&
      !(directions.contains .arabicNumber && directions.contains .europeanNumber)
  | some _ => false

def directionsFit (labels : List (List Char)) : Bool :=
  !labels.any (fun label => label.any fun c => (directionOf c).isBackward) ||
    labels.all keepsDirection

end VolumeLifecycle.HostName
