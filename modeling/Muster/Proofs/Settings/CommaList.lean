import Muster.Proofs.Text.Pieces
import Muster.Proofs.Text.Trimming
import Muster.Settings.Tree

/-! # Comma lists in normal form

What a comma list is read as are items that can be joined by commas and read again as they are. A comma between two
texts keeps their items apart; so an item is found whatever stands around it, and blanks beside it or between two commas
do not count. -/

namespace Muster.Settings

open Text

/-- An item of a comma list as it is read: some text without commas, and without blanks at its ends. -/
structure IsItem (s : List Char) : Prop where
  ne_nil : s ≠ []
  no_comma : ',' ∉ s
  head : ∀ c, s.head? = some c → isBlank c = false
  last : ∀ c, s.getLast? = some c → isBlank c = false

section
variable {s item before behind : List Char}

/-! ### Items -/

theorem isItem_of_mem (h : item ∈ commaItems s) : IsItem item := by
  obtain ⟨hmem, hne⟩ := List.mem_filter.mp h
  obtain ⟨p, hp, rfl⟩ := List.mem_map.mp hmem
  obtain ⟨hhead, hlast⟩ := isTrimmed_trim p
  exact ⟨by simpa using hne, fun hcomma => not_mem_of_mem_split hp (mem_of_mem_trim hcomma), hhead, hlast⟩

/-- Between two commas there is one item, or none where it is blank. -/
theorem commaItems_of_not_mem (h : ',' ∉ s) : commaItems s = [trim s].filter fun item => !item.isEmpty := by
  rw [commaItems, split_of_not_mem h, List.map_singleton]

theorem IsItem.commaItems_eq (h : IsItem item) : commaItems item = [item] := by
  rw [commaItems_of_not_mem h.no_comma, IsTrimmed.trim_eq ⟨h.head, h.last⟩]
  exact List.filter_cons_of_pos (by simpa using h.ne_nil)

/-! ### Texts beside each other -/

/-- A comma keeps the items before it and those behind it apart. -/
theorem commaItems_append (s t : List Char) : commaItems (s ++ ',' :: t) = commaItems s ++ commaItems t := by
  rw [commaItems, split_append, List.map_append, List.filter_append]
  rfl

theorem comma_not_blank (h : ∀ c ∈ s, isBlank c = true) : ',' ∉ s :=
  fun hcomma => absurd (h ',' hcomma) (by decide)

/-- Blanks before a text go to its first item. -/
theorem commaItems_blank_append (hbefore : ∀ c ∈ before, isBlank c = true) (s : List Char) :
    commaItems (before ++ s) = commaItems s := by
  have single {p : List Char} (hp : ',' ∉ p) : commaItems (before ++ p) = commaItems p := by
    have hcomma : ',' ∉ before ++ p := List.not_mem_append (comma_not_blank hbefore) hp
    have htrim := trim_pad hbefore (fun _ hc => absurd hc List.not_mem_nil) p
    rw [List.append_nil] at htrim
    rw [commaItems_of_not_mem hcomma, commaItems_of_not_mem hp, htrim]
  by_cases hs : ',' ∈ s
  · obtain ⟨first, rest, rfl, hfirst⟩ := List.eq_append_cons_of_mem hs
    rw [← List.append_assoc, commaItems_append, commaItems_append, single hfirst]
  · exact single hs

/-- Blanks behind a text go to its last item. -/
theorem commaItems_append_blank (hbehind : ∀ c ∈ behind, isBlank c = true) (s : List Char) :
    commaItems (s ++ behind) = commaItems s := by
  have single {p : List Char} (hp : ',' ∉ p) : commaItems (p ++ behind) = commaItems p := by
    have hcomma : ',' ∉ p ++ behind := List.not_mem_append hp (comma_not_blank hbehind)
    have htrim := trim_pad (fun _ hc => absurd hc List.not_mem_nil) hbehind p
    rw [List.nil_append] at htrim
    rw [commaItems_of_not_mem hcomma, commaItems_of_not_mem hp, htrim]
  by_cases hs : ',' ∈ s
  · obtain ⟨last, rest, hrev, hlast⟩ := List.eq_append_cons_of_mem (List.mem_reverse.mpr hs)
    obtain rfl : s = rest.reverse ++ ',' :: last.reverse := by simpa using congrArg List.reverse hrev
    have hlast : ',' ∉ last.reverse := fun h => hlast (List.mem_reverse.mp h)
    rw [List.append_assoc, List.cons_append, commaItems_append, commaItems_append, single hlast]
  · exact single hs

end

/-! ### Lists as texts -/

/-- A text of blanks only, or the empty one. -/
def IsBlankText (s : String) : Prop := ∀ c ∈ s.toList, isBlank c = true

theorem commaList_append (s t : String) : commaList (s ++ "," ++ t) = commaList s ++ commaList t := by
  have htext : (s ++ "," ++ t).toList = s.toList ++ ',' :: t.toList := by simp
  rw [commaList, htext, commaItems_append, List.map_append]
  rfl

theorem commaList_pad {before behind : String} (hbefore : IsBlankText before) (hbehind : IsBlankText behind)
    (s : String) : commaList (before ++ s ++ behind) = commaList s := by
  rw [commaList, String.toList_append, String.toList_append, commaItems_append_blank hbehind,
    commaItems_blank_append hbefore, commaList]

theorem commaList_of_blank {s : String} (h : IsBlankText s) : commaList s = [] := by
  have hpad := commaItems_append_blank h []
  rw [List.nil_append] at hpad
  rw [commaList, hpad]
  rfl

/-- Joined texts are read one by one. -/
theorem commaList_intercalate (l : List String) : commaList (",".intercalate l) = l.flatMap commaList := by
  induction l with
  | nil => rfl
  | cons s l ih =>
    cases l with
    | nil => rw [String.intercalate_singleton, List.flatMap_singleton]
    | cons t l => rw [String.intercalate_cons_cons, commaList_append, ih, ← List.flatMap_cons]

theorem commaList_of_isItem {item : String} (h : IsItem item.toList) : commaList item = [item] := by
  rw [commaList, h.commaItems_eq, List.map_singleton, String.ofList_toList]

/-- Items in normal form are read back from the text that they are joined to. -/
theorem commaList_intercalate_items {items : List String} (h : ∀ item ∈ items, IsItem item.toList) :
    commaList (",".intercalate items) = items := by
  rw [commaList_intercalate, List.flatMap_congr fun item hitem => commaList_of_isItem (h item hitem)]
  exact List.flatMap_singleton' items

theorem isItem_of_mem_commaList {s item : String} (h : item ∈ commaList s) : IsItem item.toList := by
  obtain ⟨p, hp, rfl⟩ := List.mem_map.mp h
  rw [String.toList_ofList]
  exact isItem_of_mem hp

/-- The texts `m` are the texts `l` with blanks around them and blank texts among them. -/
inductive Padded : List String → List String → Prop
  | nil : Padded [] []
  | text {l m : List String} {before behind : String} (s : String) (hbefore : IsBlankText before)
      (hbehind : IsBlankText behind) (h : Padded l m) : Padded (s :: l) ((before ++ s ++ behind) :: m)
  | blank {l m : List String} {b : String} (hb : IsBlankText b) (h : Padded l m) : Padded l (b :: m)

theorem Padded.flatMap_eq {l m : List String} (h : Padded l m) : m.flatMap commaList = l.flatMap commaList := by
  induction h with
  | nil => rfl
  | text s hbefore hbehind _ ih => rw [List.flatMap_cons, List.flatMap_cons, commaList_pad hbefore hbehind, ih]
  | blank hb _ ih => rw [List.flatMap_cons, commaList_of_blank hb, List.nil_append, ih]

/-! ### Lists in documents -/

/-- A document that is some value is read as a comma list by way of that value. -/
theorem decode_readCommaList {text : String} {v : Json.Value} {l : List String}
    (h : Json.decode Json.readValue text = .ok v)
    (hread : ∀ room d, Json.readValue room d = .ok v → readCommaList room d = .ok l) :
    Json.decode readCommaList text = .ok l := by
  unfold Json.decode at h ⊢
  generalize Json.readDraft text.toList = draft at h ⊢
  dsimp only at h ⊢
  cases hv : Json.readValue Json.maxDepth draft.1 with
  | error f =>
    rw [hv] at h
    cases h
  | ok w =>
    rw [hv] at h
    dsimp only at h
    cases hleft : draft.2 with
    | true =>
      rw [hleft] at h
      cases h
    | false =>
      rw [hleft] at h
      cases h
      rw [hread _ _ hv]
      rfl

theorem mapM_string? (items : List String) : (items.map Json.Value.string).mapM Json.Value.string? = some items := by
  induction items with
  | nil => rfl
  | cons s items ih =>
    rw [List.map_cons, List.mapM_cons, ih]
    rfl

theorem decode_readCommaList_string {text s : String} (h : Json.decode Json.readValue text = .ok (.string s)) :
    Json.decode readCommaList text = .ok (commaList s) :=
  decode_readCommaList h fun room d hd => by rw [readCommaList, hd]

theorem decode_readCommaList_array {text : String} {items : List String}
    (h : Json.decode Json.readValue text = .ok (.ofStrings items)) : Json.decode readCommaList text = .ok items :=
  decode_readCommaList h fun room d hd => by
    rw [readCommaList, hd]
    dsimp only [Json.Value.ofStrings]
    rw [mapM_string?]

theorem commaList?_texts (items : List String) : Tree.commaList? (.list (items.map .text)) = some items := by
  rw [Tree.commaList?]
  induction items with
  | nil => rfl
  | cons s items ih =>
    rw [List.map_cons, List.mapM_cons, ih]
    rfl

/-! ### The normal form -/

/-- A comma list is read as items: texts that are not empty, have no comma and no blank at their ends. Items joined by
commas are read as they are, so joining what was read and reading it again changes nothing; nor do blanks around items
and blank texts among them, and two texts with a comma between them are read one by one. Settings and documents give
such a list as one text, or as a list of texts that is taken as it is. -/
theorem commaList_normalizes :
    (∀ s, ∀ item ∈ commaList s, IsItem item.toList) ∧
    (∀ items : List String, (∀ item ∈ items, IsItem item.toList) → commaList (",".intercalate items) = items) ∧
    (∀ s, commaList (",".intercalate (commaList s)) = commaList s) ∧
    (∀ l m, Padded l m → commaList (",".intercalate m) = commaList (",".intercalate l)) ∧
    (∀ s t, commaList (s ++ "," ++ t) = commaList s ++ commaList t) ∧
    (∀ s, Tree.commaList? (.text s) = some (commaList s)) ∧
    (∀ text s, Json.decode Json.readValue text = .ok (.string s) →
      Json.decode readCommaList text = .ok (commaList s)) ∧
    (∀ items, Tree.commaList? (.list (items.map .text)) = some items) ∧
    ∀ text items, Json.decode Json.readValue text = .ok (.ofStrings items) →
      Json.decode readCommaList text = .ok items := by
  refine ⟨fun s item => isItem_of_mem_commaList, fun items => commaList_intercalate_items, fun s => ?_,
    fun l m h => ?_, commaList_append, fun s => rfl, fun text s => decode_readCommaList_string, commaList?_texts,
    fun text items => decode_readCommaList_array⟩
  · exact commaList_intercalate_items fun item => isItem_of_mem_commaList
  · rw [commaList_intercalate, commaList_intercalate, h.flatMap_eq]

/-- Two origins between blanks of several kinds, joined again, and beside a third; and an array of texts that are no
items. -/
theorem commaList_normalizes_origins :
    commaList "\u2003https://a\t,, \u0085,https://b b\n" = ["https://a", "https://b b"] ∧
    commaList "https://a,https://b b" = ["https://a", "https://b b"] ∧
    Json.decode readCommaList "[ \" a,\",\"\"]" = .ok [" a,", ""] := by
  obtain ⟨-, hjoin, -, hpad, -, -, -, -, harray⟩ := commaList_normalizes
  have hblank {s : String} (h : s.toList.all isBlank = true) : IsBlankText s := List.all_eq_true.mp h
  have hitems : commaList "https://a,https://b b" = ["https://a", "https://b b"] := by
    refine hjoin ["https://a", "https://b b"] fun item hitem => ?_
    simp only [List.mem_cons, List.not_mem_nil, or_false] at hitem
    rcases hitem with rfl | rfl
    · exact isItem_of_mem_commaList (show _ ∈ commaList "https://a" by decide)
    · exact isItem_of_mem_commaList (show _ ∈ commaList "https://b b" by decide)
  refine ⟨(hpad ["https://a", "https://b b"] ["\u2003https://a\t", "", " \u0085", "https://b b\n"] ?_).trans hitems,
    hitems, harray _ _ ?_⟩
  · exact @Padded.text _ _ "\u2003" "\t" "https://a" (hblank rfl) (hblank rfl)
      (.blank (hblank rfl) (.blank (hblank rfl)
        (@Padded.text _ _ "" "\n" "https://b b" (hblank rfl) (hblank rfl) .nil)))
  · cbv

end Muster.Settings
