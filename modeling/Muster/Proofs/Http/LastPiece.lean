import Muster.Http.Routing
import Muster.Network.Basic
import Muster.Proofs.Text.Pieces
import Muster.Url.Path

/-! # Last pieces of paths

What stands behind the last slash of a path decides between routes that end with a fixed segment. It is the last
segment that a client put behind its address, and stays so wherever the routes are mounted. -/

namespace Muster

/-- The last piece of a path. -/
def lastPiece (s : List Char) : List Char := ((Text.split '/' s).getLast?).getD []

/-- What stands before a slash does not count for the last piece. -/
theorem lastPiece_append (s r : List Char) : lastPiece (s ++ '/' :: r) = lastPiece r := by
  unfold lastPiece
  rw [Text.split_append, List.getLast?_append]
  cases h : (Text.split '/' r).getLast? with
  | none => exact absurd (List.getLast?_eq_none_iff.mp h) (Text.splitWhere_ne_nil _ r)
  | some p => rfl

theorem lastPiece_cons (r : List Char) : lastPiece ('/' :: r) = lastPiece r := lastPiece_append [] r

theorem lastPiece_of_not_mem {s : List Char} (h : '/' ∉ s) : lastPiece s = s := by
  rw [lastPiece, Text.split_of_not_mem h]
  rfl

/-- What is left of a path below a mount: all of it if there is no mount, and otherwise what stands behind the mount, or
a slash if nothing does. -/
theorem belowMount_eq_some_iff {mount : String} {path below : List Char} : belowMount mount path = some below ↔
    mount = "" ∧ path = below ∨
      mount ≠ "" ∧ ∃ r, path = mount.toList ++ r ∧ (r = [] ∧ below = ['/'] ∨ r = below ∧ ∃ p, below = '/' :: p) := by
  unfold belowMount
  by_cases hmount : mount = ""
  · simp [hmount]
  · rw [if_neg hmount]
    dsimp only
    constructor
    · intro h
      split at h
      · rename_i hprefix
        obtain ⟨r, rfl⟩ := List.isPrefixOf_iff_prefix.mp hprefix
        rw [List.drop_left] at h
        refine Or.inr ⟨hmount, r, rfl, ?_⟩
        split at h
        · cases h
          exact Or.inl ⟨rfl, rfl⟩
        · cases h
          exact Or.inr ⟨rfl, _, rfl⟩
        · cases h
      · cases h
    · rintro (⟨hnone, -⟩ | ⟨-, r, rfl, hr⟩)
      · exact absurd hnone hmount
      · rw [if_pos (List.isPrefixOf_iff_prefix.mpr (List.prefix_append _ _)), List.drop_left]
        rcases hr with ⟨rfl, rfl⟩ | ⟨rfl, p, rfl⟩
        · rfl
        · rfl

/-- Below a mount a path ends as it does above, unless nothing is left of it. -/
theorem lastPiece_belowMount {mount : String} {path below : List Char} (h : belowMount mount path = some below) :
    below = ['/'] ∨ lastPiece below = lastPiece path := by
  rcases belowMount_eq_some_iff.mp h with ⟨-, rfl⟩ | ⟨-, r, rfl, ⟨-, hroot⟩ | ⟨rfl, p, rfl⟩⟩
  · exact Or.inr rfl
  · exact Or.inl hroot
  · exact Or.inr (by rw [lastPiece_append, lastPiece_cons])

/-! ### Routes -/

namespace Http

/-- A path that matches pieces of which the last is fixed ends with it. -/
theorem getLast?_of_matchPieces {ps : List Piece} {ts : List (List Char)} {name : List Char} {s : String}
    (h : matchPieces ps ts = some name) (hs : ps.getLast? = some (.fixed s)) : ts.getLast? = some s.toList := by
  induction ps generalizing ts name with
  | nil => cases hs
  | cons p ps ih =>
    cases ts with
    | nil => cases p <;> cases ps <;> cases h
    | cons t ts =>
      cases ps with
      | nil =>
        obtain rfl := Option.some.inj hs
        unfold matchPieces at h
        split at h
        · rename_i ht
          cases ts with
          | nil => rw [ht]; rfl
          | cons u ts => cases h
        · cases h
      | cons q ps =>
        -- Whatever the first piece is, the others match the rest.
        have hrest : ∃ name', matchPieces (q :: ps) ts = some name' := by
          cases p with
          | fixed s' =>
            unfold matchPieces at h
            split at h
            · exact ⟨name, h⟩
            · cases h
          | name =>
            obtain ⟨name', hname', -⟩ := Option.map_eq_some_iff.mp h
            exact ⟨name', hname'⟩
        obtain ⟨name', hname'⟩ := hrest
        have hlast := ih hname' hs
        cases ts with
        | nil => cases hlast
        | cons u ts => exact hlast

theorem lastPiece_of_match {α : Type} {route : Route α} {path name : List Char} {s : String}
    (h : route.match? path = some name) (hs : route.path.getLast? = some (.fixed s)) : lastPiece path = s.toList := by
  unfold Route.match? at h
  split at h
  · rename_i p
    rw [lastPiece_cons, lastPiece, getLast?_of_matchPieces h hs]
    rfl
  · cases h

/-- A route of one fixed segment has one path. -/
theorem path_of_match {α : Type} {route : Route α} {path name : List Char} {s : String}
    (h : route.match? path = some name) (hs : route.path = [.fixed s]) : path = '/' :: s.toList := by
  unfold Route.match? at h
  split at h
  · rename_i p
    rw [hs] at h
    cases hp : Text.split '/' p with
    | nil => exact absurd hp (Text.splitWhere_ne_nil _ p)
    | cons t ts =>
      rw [hp, matchPieces] at h
      split at h
      · rename_i ht
        cases ts with
        | nil => rw [Text.eq_of_split hp, ht]
        | cons u ts => cases h
      · cases h
  · cases h

end Http

/-! ### Addresses -/

namespace Url

variable {u v : Url} {segments : List (List Char)} {s : List Char}

/-- A segment that needs no encoding stands at the end of the path that it is appended to. -/
theorem lastPiece_join? (h : u.join? (segments ++ [s]) = some v) (hs : encodeSegment (isSpecial u.scheme) s = s)
    (hplain : isAbove s = false ∧ isHere s = false ∧ '/' ∉ s) : lastPiece v.path.print = s := by
  obtain ⟨habove, hhere, hslash⟩ := hplain
  unfold join? at h
  split at h
  · cases h
  · rename_i l hpath
    cases h
    show lastPiece
      (Path.print (.segments ((segments ++ [s]).foldl (pushSegment (isSpecial u.scheme)) (popEmpty l)))) = s
    rw [List.foldl_append]
    generalize segments.foldl (pushSegment (isSpecial u.scheme)) (popEmpty l) = done
    have hdots : ¬ (s = ['.'] ∨ s = ['.', '.']) := by
      rintro (rfl | rfl)
      · exact absurd hhere (by decide)
      · exact absurd habove (by decide)
    show lastPiece (Path.print (.segments (pushSegment (isSpecial u.scheme) done s))) = s
    unfold pushSegment
    rw [if_neg hdots]
    dsimp only
    rw [hs, habove, hhere]
    show lastPiece (((if done = [[]] then [] else done) ++ [s]).flatMap ('/' :: ·)) = s
    rw [List.flatMap_append]
    show lastPiece (_ ++ ('/' :: (s ++ []))) = s
    rw [lastPiece_append, List.append_nil, lastPiece_of_not_mem hslash]

end Url

end Muster
