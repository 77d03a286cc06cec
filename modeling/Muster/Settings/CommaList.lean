import Muster.Json.Decoder
import Muster.Text.Blank
import Muster.Text.Split

/-! # Comma lists

A list written as one text: items between commas, without the blanks around them; empty items do not count. -/

namespace Muster.Settings

/-- The items of a comma list. -/
def commaItems (s : List Char) : List (List Char) :=
  ((Text.split ',' s).map Text.trim).filter (fun item => !item.isEmpty)

/-- The items of a comma list. -/
def commaList (s : String) : List String :=
  (commaItems s.toList).map String.ofList

/-- Reads a list of texts, or one text with commas between the items. -/
def readCommaList : Json.Decoder (List String) := fun room d =>
  match Json.readValue room d with
  | .error f => .error f
  | .ok (.string s) => .ok (commaList s)
  | .ok (.array items) =>
    match items.mapM Json.Value.string? with
    | some l => .ok l
    | none => .error .mismatch
  | .ok _ => .error .mismatch

end Muster.Settings
