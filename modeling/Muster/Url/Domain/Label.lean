import Muster.Text.Composition
import Muster.Text.Direction
import Muster.Text.Joining
import Muster.Url.Domain.Mapping
import Muster.Url.Punycode

/-! # Labels of domain names

A label is read as a text in characters of all scripts and written in ASCII: as it is, or in Punycode behind a mark.
A text that needs Punycode begins with no mark of a character, and the signs that join or part letters stand only where
the letters around them give them something to do. In a name with text from right to left each label has to keep to one
direction. -/

namespace Muster.Url

/-- A label: its text, and how it is written in ASCII. -/
structure Label where
  text : List Char
  ascii : List Char
  deriving DecidableEq, Repr

/-- What no name holds: controls, blanks, and the marks of a URL's other parts. -/
def isForbiddenInDomain (c : Char) : Bool :=
  let n := c.toNat
  n ≤ 0x20 || n = 0x7F || ['%', '#', '/', ':', '<', '>', '?', '@', '[', '\\', ']', '^', '|'].contains c

/-- The text is in ASCII. -/
def isAscii (s : List Char) : Bool :=
  s.all (·.toNat < 128)

/-- The sign that parts letters. -/
def nonJoiner : Char := '\u200C'

/-- The sign that joins letters. -/
def joiner : Char := '\u200D'

/-- The sign `c` has something to do between what stands before it, backwards, and what stands behind it. Both signs
may follow the mark that takes a letter's vowel; the one that parts letters may stand between two that would join. -/
def joinsHere (c : Char) (before behind : List Char) : Bool :=
  before.head?.any (fun d => Text.combiningClass d = 9) ||
    (c = nonJoiner && (before.find? (!Text.isTransparent ·)).any Text.joinsNext &&
      (behind.find? (!Text.isTransparent ·)).any Text.joinsPrevious)

/-- Every sign that joins or parts letters has something to do; `before` is what stands before the text,
backwards. -/
def joinersFit (before : List Char) : List Char → Bool
  | [] => true
  | c :: r => ((c ≠ nonJoiner && c ≠ joiner) || joinsHere c before r) && joinersFit (c :: before) r

/-- A text that a label outside of ASCII may have. -/
def isLabelText (s : List Char) : Bool :=
  !(s.head?.any Text.isMark) && joinersFit [] s && s.length ≤ 1000

/-- The character stands for itself in a name. -/
def standsForItself (c : Char) : Bool :=
  mapNameChar c = some [c] && !isForbiddenInDomain c && c ≠ '.'

/-- The text that a label in Punycode writes: one that needs it, and that is in its only spelling. -/
def textOfCode? (code : List Char) : Option (List Char) :=
  if code.getLast?.all (· = '-') || !isAscii code || 2000 < code.length then none
  else
    match Punycode.decode? code with
    | some text => if text.all standsForItself && Text.compose text = text then some text else none
    | none => none

/-- Reads a label whose characters have been mapped. -/
def readLabel? (s : List Char) : Option Label :=
  match s with
  | 'x' :: 'n' :: '-' :: '-' :: code =>
    match textOfCode? code with
    | some text => if isLabelText text then some ⟨text, s⟩ else none
    | none => none
  | s =>
    if isAscii s then some ⟨s, s⟩
    else if isLabelText s then some ⟨s, 'x' :: 'n' :: '-' :: '-' :: Punycode.encode s⟩
    else none

/-- The text has a character that is written from right to left. -/
def hasRightward (s : List Char) : Bool :=
  s.any fun c => Text.direction c = .right || Text.direction c = .arabicDigit

/-- The text keeps to one direction: that of its first character, which is a letter. One from right to left has no
letters of the other direction and digits of one kind only; both end in a letter or digit, with marks behind it. -/
def keepsDirection (s : List Char) : Bool :=
  let ds := s.map Text.direction
  let last := (ds.reverse.find? (· ≠ .mark)).getD .mark
  match ds.head? with
  | none => true
  | some .left => ds.all (fun d => d ≠ .right && d ≠ .arabicDigit) && (last = .left || last = .digit)
  | some .right =>
    ds.all (· ≠ .left) && (last = .right || last = .digit || last = .arabicDigit) &&
      !(ds.contains .digit && ds.contains .arabicDigit)
  | some _ => false

end Muster.Url
