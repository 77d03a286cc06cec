import Muster.Text.Percent
import Muster.Text.Split

/-! # Form encoding

Pairs of names and values as a query writes them: joined by `&`, with `=` between name and value, blanks as
`+`, and all but letters, digits and `*-._` percent-encoded. -/

namespace Muster.Text

/-- What stands in a form as it is. -/
def isFormPlain (c : Char) : Bool :=
  c.isAlphanum || ['*', '-', '.', '_'].contains c

/-- A name or value as a form writes it. -/
def formEncode (s : List Char) : List Char :=
  s.flatMap fun c => if c = ' ' then ['+'] else percentChar (!isFormPlain ·) c

/-- A name or value that a form writes; octets that are no text become the replacement character. -/
def formDecode (s : List Char) : List Char :=
  fromUtf8Lossy (percentDecode (s.map fun c => if c = '+' then ' ' else c))

/-- A pair as a form writes it. -/
def formPair (p : String × String) : List Char :=
  formEncode p.1.toList ++ '=' :: formEncode p.2.toList

/-- A form of pairs. -/
def formText : List (String × String) → List Char
  | [] => []
  | [p] => formPair p
  | p :: r => formPair p ++ '&' :: formText r

/-- The pair that a piece of a form writes; one without `=` is a name with the empty value. -/
def formPairOf (s : List Char) : String × String :=
  (String.ofList (formDecode (s.takeWhile (· ≠ '='))), String.ofList (formDecode ((s.dropWhile (· ≠ '=')).drop 1)))

/-- The pairs of a form. Empty pieces do not count. -/
def formPairs (s : List Char) : List (String × String) :=
  ((split '&' s).filter (fun p => !p.isEmpty)).map formPairOf

end Muster.Text
