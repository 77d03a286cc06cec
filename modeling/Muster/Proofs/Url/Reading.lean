import Mathlib.Data.List.DropRight
import Muster.Proofs.Credential
import Muster.Proofs.Text.Percent
import Muster.Proofs.Text.Pieces
import Muster.Url.Parser

/-! # Addresses as they are read

An address with a host that is read from a text has a path of segments, at least one, in which no slash stands. Where the
text ends with the path, a slash behind it puts an empty segment behind the others, or changes nothing. -/

namespace Muster.Url

open Text

variable {text : String} {u : Url} {scheme s r : List Char} {a : Option Authority} {c : Char} {q : Char → Bool}

/-! ### Lists -/

theorem takeWhile_snoc (h : q c = false) (s : List Char) : (s ++ [c]).takeWhile q = s.takeWhile q := by
  rw [List.takeWhile_append]
  split
  · rename_i hall
    rw [List.takeWhile_cons_of_neg (by simp [h]), List.append_nil]
    exact ((List.takeWhile_prefix q).eq_of_length hall).symm
  · rfl

theorem dropWhile_snoc (h : q c = false) (s : List Char) : (s ++ [c]).dropWhile q = s.dropWhile q ++ [c] := by
  rw [List.dropWhile_append]
  split
  · rename_i hnil
    rw [List.isEmpty_iff.mp hnil, List.dropWhile_cons_of_neg (by simp [h])]
    rfl
  · rfl

/-! ### Schemes -/

/-- What counts of the text of an address. -/
def significant (text : String) : List Char := (trimControls text.toList).filter (!isIgnored ·)

/-- Reads what stands behind the scheme and the slashes of an address with a host. -/
def readHosted (scheme r : List Char) : Except UrlError Url := do
  let rest := r.dropWhile (!endsAuthority true ·)
  let (a, left) ← readAuthority scheme (r.takeWhile (!endsAuthority true ·)) rest
  return readRest scheme (some a) (left ++ rest)

theorem parse_eq_readHosted (h : readScheme (significant text) = some (scheme, r)) (hfile : scheme ≠ "file".toList)
    (hspecial : isSpecial scheme = true) : parse text = readHosted scheme (r.dropWhile (isSlash true)) := by
  unfold parse
  unfold significant at h
  dsimp only
  rw [h]
  dsimp only
  rw [if_neg hfile, if_pos hspecial]
  rfl

theorem readHosted_eq_ok (h : readHosted scheme r = .ok u) : ∃ x,
    readAuthority scheme (r.takeWhile (!endsAuthority true ·)) (r.dropWhile (!endsAuthority true ·)) = .ok x ∧
      u = readRest scheme (some x.1) (x.2 ++ r.dropWhile (!endsAuthority true ·)) := by
  obtain ⟨x, hx, hu⟩ := bind_eq_ok_iff.mp h
  exact ⟨x, hx, (Except.ok.inj hu).symm⟩

theorem scheme_of_readFile (h : readFile scheme s = .ok u) : u.scheme = scheme := by
  unfold readFile at h
  split at h
  · dsimp only at h
    split at h
    · split at h
      · obtain rfl := Except.ok.inj h
        rfl
      · obtain ⟨host, -, h⟩ := bind_eq_ok_iff.mp h
        split at h
        · obtain rfl := Except.ok.inj h
          rfl
        · obtain rfl := Except.ok.inj h
          rfl
    · obtain rfl := Except.ok.inj h
      rfl
  · obtain rfl := Except.ok.inj h
    rfl

/-- The scheme of an address is the one that its text begins with. -/
theorem scheme_of_parse (h : parse text = .ok u) : ∃ r, readScheme (significant text) = some (u.scheme, r) := by
  cases hread : readScheme (significant text) with
  | none =>
    unfold parse at h
    unfold significant at hread
    dsimp only at h
    rw [hread] at h
    cases h
  | some x =>
    obtain ⟨scheme, r⟩ := x
    suffices hscheme : u.scheme = scheme by exact ⟨r, by rw [hscheme]⟩
    by_cases hhosted : scheme ≠ "file".toList ∧ isSpecial scheme = true
    · rw [parse_eq_readHosted hread hhosted.1 hhosted.2] at h
      obtain ⟨x, -, rfl⟩ := readHosted_eq_ok h
      rfl
    · unfold parse at h
      unfold significant at hread
      dsimp only at h
      rw [hread] at h
      dsimp only at h
      split at h
      · exact scheme_of_readFile h
      · rename_i hfile
        rw [if_neg fun hspecial => hhosted ⟨hfile, hspecial⟩] at h
        split at h
        · obtain ⟨x, -, h⟩ := bind_eq_ok_iff.mp h
          obtain rfl := Except.ok.inj h
          rfl
        · obtain rfl := Except.ok.inj h
          rfl
        · obtain rfl := Except.ok.inj h
          rfl

/-- An address with a host is read behind its scheme. -/
theorem readHosted_of_parse (h : parse text = .ok u) (hfile : u.scheme ≠ "file".toList)
    (hspecial : isSpecial u.scheme = true) :
    ∃ r, readScheme (significant text) = some (u.scheme, r) ∧
      readHosted u.scheme (r.dropWhile (isSlash true)) = .ok u := by
  obtain ⟨r, hread⟩ := scheme_of_parse h
  exact ⟨r, hread, (parse_eq_readHosted hread hfile hspecial).symm.trans h⟩

/-! ### Segments -/

theorem slash_not_mem_pieces {special : Bool} (h : s ∈ pieces special r) : '/' ∉ s := by
  obtain ⟨p, hp, rfl⟩ := List.mem_map.mp h
  intro hslash
  rcases mem_percentEncode hslash with ⟨hmem, -⟩ | hpercent | ⟨n, hn, hdigit⟩
  · have hapart := sep_of_mem_splitWhere hp hmem
    cases hapart
  · exact absurd hpercent (by decide)
  · have hnone := hexDigit?_hexCapital n hn
    rw [← hdigit] at hnone
    cases hnone

theorem pieces_ne_nil (special : Bool) (s : List Char) : pieces special s ≠ [] :=
  fun h => splitWhere_ne_nil _ s (List.map_eq_nil_iff.mp h)

variable {done l : List (List Char)} {p : List Char}

/-- The place that is reached from another by a piece. -/
def go (done : List (List Char)) (p : List Char) : List (List Char) :=
  if isAbove p then above done else if isHere p then done else done ++ [p]

/-- The piece stands for a place. -/
def isPlace (p : List Char) : Bool := isAbove p || isHere p

theorem resolve_cons (hl : l ≠ []) (done : List (List Char)) (p : List Char) :
    resolve false done (p :: l) = resolve false (go done p) l := by
  rw [resolve, go, place]
  · split
    · rfl
    · split
      · rfl
      · rfl
  · exact hl

theorem resolve_singleton (done : List (List Char)) (p : List Char) :
    resolve false done [p] = if isPlace p then go done p ++ [[]] else go done p := by
  unfold isPlace
  rw [resolve, go, place]
  cases habove : isAbove p with
  | true => rfl
  | false =>
    cases hhere : isHere p with
    | true => rfl
    | false => rfl

/-- The segments that pieces stand for are what is reached by the pieces one after another. If the last one stands for a
place, an empty segment follows. -/
theorem resolve_eq (hl : l ≠ []) (done : List (List Char)) : resolve false done l =
    if isPlace (l.getLast hl) then l.foldl go done ++ [[]] else l.foldl go done := by
  induction l generalizing done with
  | nil => exact absurd rfl hl
  | cons p l ih =>
    cases l with
    | nil => exact resolve_singleton done p
    | cons q l =>
      rw [resolve_cons (List.cons_ne_nil q l), ih (List.cons_ne_nil q l), List.getLast_cons_cons]
      rfl

theorem mem_of_mem_go (h : s ∈ go done p) : s ∈ done ∨ s = p := by
  unfold go at h
  split at h
  · unfold above at h
    split at h
    · exact Or.inl h
    · exact Or.inl ((List.dropLast_sublist done).mem h)
  · split at h
    · exact Or.inl h
    · simpa using h

theorem mem_of_mem_foldl_go (h : s ∈ l.foldl go done) : s ∈ done ∨ s ∈ l := by
  induction l generalizing done with
  | nil => exact Or.inl h
  | cons p l ih =>
    rcases ih h with hgo | hmem
    · rcases mem_of_mem_go hgo with hdone | rfl
      · exact Or.inl hdone
      · exact Or.inr List.mem_cons_self
    · exact Or.inr (List.mem_cons_of_mem p hmem)

theorem resolve_ne_nil (hl : l ≠ []) (done : List (List Char)) : resolve false done l ≠ [] := by
  rw [resolve_eq hl]
  cases hplace : isPlace (l.getLast hl) with
  | true => simp
  | false =>
    -- A piece that stands for no place is a segment itself.
    unfold isPlace at hplace
    simp only [Bool.or_eq_false_iff] at hplace
    rw [← List.dropLast_append_getLast hl, List.foldl_append]
    simp [go, hplace]

/-- The segments that pieces stand for are among the pieces, or empty. -/
theorem mem_of_mem_resolve (hl : l ≠ []) (h : s ∈ resolve false [] l) : s ∈ l ∨ s = [] := by
  have hgo : s ∈ l.foldl go [] ∨ s = [] := by
    rw [resolve_eq hl] at h
    split at h
    · simpa using h
    · exact Or.inl h
  rcases hgo with hgo | rfl
  · exact Or.inl ((mem_of_mem_foldl_go hgo).resolve_left List.not_mem_nil)
  · exact Or.inr rfl

/-- An empty piece behind others changes nothing behind a place, and else puts an empty segment behind the others. -/
theorem resolve_closed (hl : l ≠ []) (done : List (List Char)) : resolve false done (l ++ [[]]) = resolve false done l ∨
    resolve false done (l ++ [[]]) = resolve false done l ++ [[]] := by
  have hclosed : resolve false done (l ++ [[]]) = l.foldl go done ++ [[]] := by
    rw [resolve_eq (by simp), List.getLast_concat, List.foldl_append]
    rfl
  rw [hclosed, resolve_eq hl]
  split
  · exact Or.inl rfl
  · exact Or.inr rfl

/-! ### Paths -/

/-- The address names a host, and its path consists of segments. -/
structure Rooted (u : Url) : Prop where
  hosted : u.authority.isSome = true
  segments : ∃ l, u.path = .segments l ∧ l ≠ [] ∧ ∀ s ∈ l, '/' ∉ s

theorem readPath_segments (s : List Char) : ∃ l, readPath true s = .segments l ∧ l ≠ [] ∧ ∀ s ∈ l, '/' ∉ s := by
  unfold readPath
  cases s with
  | nil => exact ⟨[[]], rfl, List.cons_ne_nil _ _, by simp⟩
  | cons c r =>
    have hpieces := pieces_ne_nil true (if isSlash true c = true then r else c :: r)
    refine ⟨_, rfl, resolve_ne_nil hpieces [], fun s hs => ?_⟩
    rcases mem_of_mem_resolve hpieces hs with hs | rfl
    · exact slash_not_mem_pieces hs
    · exact List.not_mem_nil

/-- An address of a special scheme that is none of a file is rooted. -/
theorem rooted_of_parse (h : parse text = .ok u) (hfile : u.scheme ≠ "file".toList)
    (hspecial : isSpecial u.scheme = true) : Rooted u := by
  obtain ⟨r, -, hr⟩ := readHosted_of_parse h hfile hspecial
  obtain ⟨x, -, hu⟩ := readHosted_eq_ok hr
  constructor
  · rw [hu]
    rfl
  · rw [hu]
    unfold readRest
    dsimp only
    rw [hspecial]
    exact readPath_segments _

/-! ### A slash behind an address -/

/-- A text that ends with the path of the address: neither query nor fragment is in it, and nothing is cut from its end. -/
def EndsInPath (text : String) : Prop :=
  (∀ c ∈ text.toList, c ≠ '?' ∧ c ≠ '#') ∧ ∀ c, text.toList.getLast? = some c → 0x20 < c.toNat

theorem trimControls_eq (hend : ∀ c, s.getLast? = some c → 0x20 < c.toNat) :
    trimControls s = s.dropWhile (·.toNat ≤ 0x20) := by
  show (s.dropWhile (·.toNat ≤ 0x20)).rdropWhile (·.toNat ≤ 0x20) = _
  refine List.rdropWhile_eq_self_iff.mpr fun hne => ?_
  have hlast : s.getLast? = some ((s.dropWhile (·.toNat ≤ 0x20)).getLast hne) := by
    obtain ⟨before, hbefore⟩ := List.dropWhile_suffix (l := s) (·.toNat ≤ 0x20)
    rw [← List.getLast?_eq_some_getLast hne, ← List.getLast?_append_of_ne_nil before hne, hbefore]
  have hkept := hend _ hlast
  rw [decide_eq_true_eq]
  omega

theorem significant_slash (hend : ∀ c, text.toList.getLast? = some c → 0x20 < c.toNat) :
    significant (text ++ "/") = significant text ++ ['/'] := by
  have htrim : trimControls (text.toList ++ ['/']) = trimControls text.toList ++ ['/'] := by
    rw [trimControls_eq hend, trimControls_eq, dropWhile_snoc (by decide)]
    intro c hc
    rw [List.getLast?_concat] at hc
    obtain rfl := Option.some.inj hc
    decide
  unfold significant
  rw [String.toList_append, show "/".toList = ['/'] from rfl, htrim, List.filter_append]
  rfl

theorem readScheme_slash (h : readScheme s = some (scheme, r)) :
    readScheme (s ++ ['/']) = some (scheme, r ++ ['/']) := by
  unfold readScheme at h ⊢
  dsimp only at h ⊢
  split at h
  · rename_i c r' hhead hdrop
    rw [takeWhile_snoc (by decide), dropWhile_snoc (by decide), hdrop]
    rw [List.head?_append, hhead]
    show (if c.isAlpha then some (_, r' ++ ['/']) else none) = _
    split at h
    · rename_i halpha
      rw [if_pos halpha]
      obtain ⟨rfl, rfl⟩ := Prod.mk.inj (Option.some.inj h)
      rfl
    · cases h
  · cases h

theorem readAuthority_behind (hspecial : isSpecial scheme = true) (s before behind : List Char) :
    readAuthority scheme s before = readAuthority scheme s behind := by
  by_cases hat : s = ['@']
  · -- Without a host there is an error in any case.
    have herror : ∀ b, readAuthority scheme ['@'] b = .error .emptyHost := by
      intro b
      unfold readAuthority
      dsimp only
      rw [hspecial]
      cases b with
      | nil => rfl
      | cons c b => rfl
    rw [hat, herror, herror]
  · unfold readAuthority
    simp [hat]

theorem mem_of_mem_left {x : Authority × List Char} {behind : List Char} (hspecial : isSpecial scheme = true)
    (h : readAuthority scheme s behind = .ok x) (hc : c ∈ x.2) : c ∈ s := by
  unfold readAuthority at h
  dsimp only at h
  split at h
  · cases h
  · rw [hspecial] at h
    obtain ⟨host, -, h⟩ := bind_eq_ok_iff.mp h
    split at h
    · cases h
    · obtain ⟨port, -, h⟩ := bind_eq_ok_iff.mp h
      obtain rfl := Except.ok.inj h
      have hserver := List.mem_of_mem_drop (List.mem_of_mem_drop ((List.dropWhile_sublist _).mem hc))
      exact List.mem_reverse.mp ((List.takeWhile_sublist _).mem (List.mem_reverse.mp hserver))

theorem readRest_of_path (hpath : ∀ c ∈ s, endsPath c = false) (scheme : List Char) (a : Option Authority) :
    readRest scheme a s = ⟨scheme, a, readPath (isSpecial scheme) s, none, none⟩ := by
  have hfront : s.takeWhile (!endsPath ·) = s := List.takeWhile_eq_self_iff.mpr fun c hc => by rw [hpath c hc]; rfl
  have hbehind : s.dropWhile (!endsPath ·) = [] := List.dropWhile_eq_nil_iff.mpr fun c hc => by rw [hpath c hc]; rfl
  unfold readRest
  dsimp only
  rw [hfront, hbehind]
  rfl

/-- A slash behind a path puts an empty segment behind the others, or changes nothing. -/
theorem readPath_slash (s : List Char) : readPath true (s ++ ['/']) = readPath true s ∨
    ∃ l, readPath true s = .segments l ∧ readPath true (s ++ ['/']) = .segments (l ++ [[]]) := by
  have hpieces : ∀ s, pieces true (s ++ ['/']) = pieces true s ++ [[]] := by
    intro s
    unfold pieces
    rw [splitWhere_append (by decide), List.map_append]
    rfl
  cases s with
  | nil => exact Or.inl rfl
  | cons c r =>
    have hbehind : (if isSlash true c = true then r ++ ['/'] else c :: (r ++ ['/'])) =
        (if isSlash true c = true then r else c :: r) ++ ['/'] := by split <;> rfl
    unfold readPath
    dsimp only [List.cons_append]
    rw [hbehind, hpieces]
    rcases resolve_closed (pieces_ne_nil true (if isSlash true c = true then r else c :: r)) [] with h | h
    · exact Or.inl (by rw [h])
    · exact Or.inr ⟨_, rfl, by rw [h]⟩

theorem mem_of_readScheme (h : readScheme s = some (scheme, r)) (hc : c ∈ r) : c ∈ s := by
  unfold readScheme at h
  dsimp only at h
  split at h
  · rename_i hdrop
    split at h
    · obtain ⟨-, rfl⟩ := Prod.mk.inj (Option.some.inj h)
      exact (List.dropWhile_sublist _).mem (hdrop ▸ List.mem_cons_of_mem ':' hc)
    · cases h
  · cases h

theorem readHosted_slash (hspecial : isSpecial scheme = true) (hpath : ∀ c ∈ r, endsPath c = false)
    (h : readHosted scheme r = .ok u) : ∃ v, readHosted scheme (r ++ ['/']) = .ok v ∧
      (v = u ∨ ∃ l, u.path = .segments l ∧ v = { u with path := .segments (l ++ [[]]) }) := by
  obtain ⟨⟨a, left⟩, hx, rfl⟩ := readHosted_eq_ok h
  have hread : readHosted scheme (r ++ ['/']) =
      .ok (readRest scheme (some a) ((left ++ r.dropWhile (!endsAuthority true ·)) ++ ['/'])) := by
    unfold readHosted
    rw [takeWhile_snoc (by decide), dropWhile_snoc (by decide)]
    dsimp only
    rw [readAuthority_behind hspecial _ _ (r.dropWhile (!endsAuthority true ·)), hx, List.append_assoc]
    rfl
  have hshown : ∀ c ∈ left ++ r.dropWhile (!endsAuthority true ·), endsPath c = false := by
    intro c hc
    rcases List.mem_append.mp hc with hc | hc
    · exact hpath c ((List.takeWhile_sublist _).mem (mem_of_mem_left hspecial hx hc))
    · exact hpath c ((List.dropWhile_sublist _).mem hc)
  refine ⟨_, hread, ?_⟩
  rw [readRest_of_path hshown, readRest_of_path, hspecial]
  · rcases readPath_slash (left ++ r.dropWhile (!endsAuthority true ·)) with hsame | ⟨l, hl, hcloses⟩
    · exact Or.inl (by rw [hsame])
    · exact Or.inr ⟨l, hl, by rw [hcloses]⟩
  · intro c hc
    rcases List.mem_append.mp hc with hc | hc
    · exact hshown c hc
    · obtain rfl := List.mem_singleton.mp hc
      decide

/-- A slash behind a text that ends with the path of its address puts an empty segment behind the others, or changes
nothing. -/
theorem parse_slash (h : parse text = .ok u) (hfile : u.scheme ≠ "file".toList) (hspecial : isSpecial u.scheme = true)
    (hend : EndsInPath text) : ∃ v, parse (text ++ "/") = .ok v ∧
      (v = u ∨ ∃ l, u.path = .segments l ∧ v = { u with path := .segments (l ++ [[]]) }) := by
  obtain ⟨r, hread, hr⟩ := readHosted_of_parse h hfile hspecial
  have hpath : ∀ c ∈ r, endsPath c = false := by
    intro c hc
    have htrimmed : c ∈ trimControls text.toList := (List.mem_filter.mp (mem_of_readScheme hread hc)).1
    rw [trimControls_eq hend.2] at htrimmed
    obtain ⟨hquery, hfragment⟩ := hend.1 c ((List.dropWhile_sublist _).mem htrimmed)
    simp [endsPath, hquery, hfragment]
  have hread' : readScheme (significant (text ++ "/")) = some (u.scheme, r ++ ['/']) := by
    rw [significant_slash hend.2]
    exact readScheme_slash hread
  rw [parse_eq_readHosted hread' hfile hspecial, List.dropWhile_append]
  split
  · -- Behind slashes alone one more does not count.
    rename_i hnil
    rw [List.isEmpty_iff.mp hnil] at hr
    exact ⟨u, hr, Or.inl rfl⟩
  · exact readHosted_slash hspecial (fun c hc => hpath c ((List.dropWhile_sublist _).mem hc)) hr

end Muster.Url
