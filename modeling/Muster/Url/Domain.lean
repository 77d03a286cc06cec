import Muster.Json.Printer
import Muster.Text.Percent
import Muster.Url.Address
import Muster.Url.Domain.Label

/-! # Hosts

The host of a URL: an address, or a domain name in ASCII. The text that stands for a name may be written in any script;
its characters are mapped to those that they stand for and composed, and each label is read by itself. -/

namespace Muster.Url

/-- The text that a name stands for: its characters mapped and composed. -/
def nameText? (s : List Char) : Option (List Char) := do
  let mapped ← s.mapM mapNameChar
  let text := Text.compose mapped.flatten
  if text.any isForbiddenInDomain then none else return text

/-- A domain name in ASCII, from the text that stands for it in a URL. If one of its labels has text from right to
left, all of them keep to one direction. -/
def domainToAscii? (s : List Char) : Option (List Char) := do
  let text ← nameText? (← Text.fromUtf8? (Text.percentDecode s))
  let labels ← (Text.split '.' text).mapM readLabel?
  if labels.any (hasRightward ·.text) && labels.any (!keepsDirection ·.text) then none
  else return Json.sepBy ['.'] (labels.map (·.ascii))

/-- Why a text is no URL. -/
inductive UrlError
  | relative
  | emptyHost
  | invalidPort
  | invalidIpv6
  | invalidIpv4
  | invalidDomain
  | invalidDomainCharacter
  deriving DecidableEq, Repr

/-- The text of an error. -/
def UrlError.text : UrlError → String
  | .relative => "relative URL without a base"
  | .emptyHost => "empty host"
  | .invalidPort => "invalid port number"
  | .invalidIpv6 => "invalid IPv6 address"
  | .invalidIpv4 => "invalid IPv4 address"
  | .invalidDomain => "invalid international domain name"
  | .invalidDomainCharacter => "invalid domain character"

/-- The IPv6 address that a host in brackets writes, in brackets again. -/
def bracketHost (s : List Char) : Except UrlError (List Char) :=
  if s.getLast? = some ']' && s.length > 1 then
    match readIpv6 (s.drop 1).dropLast with
    | some gs => .ok ('[' :: printIpv6 gs ++ [']'])
    | none => .error .invalidIpv6
  else .error .invalidIpv6

/-- The host of a URL of a special scheme: an address or a domain name. -/
def hostOf (s : List Char) : Except UrlError (List Char) :=
  if s.head? = some '[' then bracketHost s
  else
    match domainToAscii? s with
    | none => .error .invalidDomain
    | some d =>
      if d.isEmpty then .error .emptyHost
      else if endsInNumber d then
        match readIpv4 d with
        | some n => .ok (printIpv4 n)
        | none => .error .invalidIpv4
      else .ok d

/-- The host of a URL of any other scheme: an IPv6 address or a text. -/
def plainHostOf (s : List Char) : Except UrlError (List Char) :=
  if s.head? = some '[' then bracketHost s
  else if s.any (fun c => ['\x00', '\t', '\n', '\r', ' ', '#', '/', ':', '<', '>', '?', '@', '[', '\\', ']', '^',
      '|'].contains c) then .error .invalidDomainCharacter
  else .ok (Text.percentEncode Text.isControlOrForeign s)

end Muster.Url
