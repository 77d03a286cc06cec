/-! # Splitting

The pieces of a text between separators: always at least one. -/

namespace Muster.Text

/-- The pieces of a text between the characters that `sep` holds for. -/
def splitWhere (sep : Char → Bool) : List Char → List (List Char)
  | [] => [[]]
  | c :: r =>
    if sep c then [] :: splitWhere sep r
    else
      match splitWhere sep r with
      | [] => [[c]]
      | p :: ps => (c :: p) :: ps

/-- The pieces of a text between the separators `c`. -/
def split (c : Char) (s : List Char) : List (List Char) :=
  splitWhere (· = c) s

theorem splitWhere_ne_nil (sep : Char → Bool) (s : List Char) : splitWhere sep s ≠ [] := by
  cases s with
  | nil => simp [splitWhere]
  | cons c r =>
    rw [splitWhere]
    split
    · simp
    · split <;> simp

end Muster.Text
