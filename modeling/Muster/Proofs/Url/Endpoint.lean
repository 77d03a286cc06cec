import Mathlib.Data.List.Forall2
import Muster.Proofs.Network.Subject
import Muster.Proofs.Url.Reading

/-! # Addresses below others

Texts that are appended to the path of an address stand there behind the segments of the address, each in a piece of its
own that a router decodes to the text. So an address tells the texts that were appended, and a slash at the end of the
address below which they stand makes no difference. -/

namespace Muster.Url

open Text

variable {special : Bool} {u base other : Url} {text s : String} {l k : List (List Char)} {segments others : List String}

/-! ### Segments of paths -/

/-- What stands between the slashes of an address's path. -/
def pathSegments (u : Url) : List (List Char) := (split '/' u.path.print).tail

/-- No segment of the path is empty but perhaps the last. -/
def Gapless (u : Url) : Prop := ∀ s ∈ u.pathSegments.dropLast, s ≠ []

/-- Segments without an empty one at their end, which a final slash leaves. -/
def unclosed (l : List (List Char)) : List (List Char) := if l.getLast? = some [] then l.dropLast else l

/-- What a path has between its slashes where segments stand: without any the path is a slash, behind which is nothing. -/
def orRoot (l : List (List Char)) : List (List Char) := if l = [] then [[]] else l

theorem split_path (h : u.path = .segments l) (hl : ∀ s ∈ l, '/' ∉ s) : split '/' u.path.print = [] :: l := by
  rw [h, split_print, flatMap_split hl]

theorem pathSegments_eq (h : u.path = .segments l) (hl : ∀ s ∈ l, '/' ∉ s) : u.pathSegments = l := by
  rw [pathSegments, split_path h hl, List.tail_cons]

theorem slash_not_mem_pathSegments (u : Url) : ∀ s ∈ u.pathSegments, '/' ∉ s := fun _ hs =>
  not_mem_of_mem_split (List.mem_of_mem_tail hs)

theorem unclosed_snoc (l : List (List Char)) : unclosed (l ++ [[]]) = l := by
  rw [unclosed, if_pos List.getLast?_concat, List.dropLast_concat]

theorem unclosed_of_ne_nil (h : ∀ s ∈ l, s ≠ []) : unclosed l = l :=
  if_neg fun hlast => h [] (List.mem_of_getLast? hlast) rfl

theorem mem_of_mem_unclosed {p : List Char} (h : p ∈ unclosed l) : p ∈ l := by
  unfold unclosed at h
  split at h
  · exact (List.dropLast_sublist l).mem h
  · exact h

theorem popEmpty_eq (hl : l ≠ []) : popEmpty l = orRoot (unclosed l) := by
  by_cases hlast : l.getLast? = some []
  · obtain ⟨k, rfl⟩ := List.getLast?_eq_some_iff.mp hlast
    rw [unclosed_snoc]
    cases k with
    | nil => rfl
    | cons s k =>
      rw [popEmpty, if_pos (by rw [hlast]; simp), List.dropLast_concat]
      rfl
  · simp [popEmpty, unclosed, orRoot, hlast, hl]

theorem Gapless.ne_nil (h : u.Gapless) : ∀ s ∈ unclosed u.pathSegments, s ≠ [] := by
  unfold Gapless at h
  unfold unclosed
  intro s hs
  split at hs
  · exact h s hs
  · rename_i hlast
    rintro rfl
    have hne : u.pathSegments ≠ [] := List.ne_nil_of_mem hs
    rw [← List.dropLast_append_getLast hne] at hs
    rcases List.mem_append.mp hs with hs | hs
    · exact h [] hs rfl
    · exact hlast (by rw [List.getLast?_eq_some_getLast hne, List.mem_singleton.mp hs])

theorem slash_not_mem_orRoot (h : ∀ s ∈ l, '/' ∉ s) : ∀ s ∈ orRoot l, '/' ∉ s := by
  unfold orRoot
  split
  · simp
  · exact h

/-- Segments that are not empty are found in their path. -/
theorem orRoot_inj (hl : ∀ s ∈ l, s ≠ []) (hk : ∀ s ∈ k, s ≠ []) (h : orRoot l = orRoot k) : l = k := by
  have hfilter : ∀ l : List (List Char), (∀ s ∈ l, s ≠ []) → (orRoot l).filter (!·.isEmpty) = l := by
    intro l hl
    unfold orRoot
    split
    · rename_i hnil
      rw [hnil]
      rfl
    · exact List.filter_eq_self.mpr fun s hs => by simp [hl s hs]
  rw [← hfilter l hl, h, hfilter k hk]

/-! ### Pieces -/

/-- A piece of a path stands for a text: a router decodes it to the text, and in it is nothing that ends a piece or a path,
no blank, no control and no character past ASCII. -/
structure StandsFor (piece : List Char) (s : String) : Prop where
  decoded : Http.nameOf piece = .ok s
  clean : ∀ c ∈ piece, c ≠ '/' ∧ c ≠ '?' ∧ c ≠ '#' ∧ 0x20 < c.toNat ∧ c.toNat < 0x7F

theorem clean_encodeSegment (special : Bool) (s : List Char) :
    ∀ c ∈ encodeSegment special s, c ≠ '/' ∧ c ≠ '?' ∧ c ≠ '#' ∧ 0x20 < c.toNat ∧ c.toNat < 0x7F := by
  have hdigit : ∀ n < 16, hexCapital n ≠ '/' ∧ hexCapital n ≠ '?' ∧ hexCapital n ≠ '#' ∧ 0x20 < (hexCapital n).toNat ∧
      (hexCapital n).toNat < 0x7F := by decide
  intro c hc
  rcases mem_percentEncode hc with ⟨-, hset⟩ | rfl | ⟨n, hn, rfl⟩
  · simp only [inSegmentSet, inPathSet, inFragmentSet, isControlOrForeign, Bool.or_eq_false_iff, decide_eq_false_iff_not,
      List.contains_eq_mem, List.mem_cons, not_or] at hset
    have hblank : c.toNat ≠ 0x20 := fun h => hset.1.1.1.2.1 (Char.toNat_inj.mp h)
    obtain ⟨⟨⟨⟨⟨hcontrol, hforeign⟩, -⟩, hhash, hquestion, -⟩, hslash, -⟩, -⟩ := hset
    exact ⟨hslash, hquestion, hhash, by omega, by omega⟩
  · decide
  · exact hdigit n hn

theorem IsSegment.standsFor (h : IsSegment s) (special : Bool) : StandsFor (encodeSegment special s.toList) s where
  decoded := nameOf_encodeSegment special h.plain
  clean := clean_encodeSegment special s.toList

theorem IsSegment.encoded_ne_nil (h : IsSegment s) (special : Bool) : encodeSegment special s.toList ≠ [] :=
  encodeSegment_ne_nil special h.plain fun hnil => h.1 (String.toList_eq_nil_iff.mp hnil)

/-- The pieces that texts are written as below an address tell the texts. -/
theorem map_encodeSegment_inj (hsegments : ∀ s ∈ segments, IsSegment s) (hothers : ∀ s ∈ others, IsSegment s)
    (h : segments.map (encodeSegment special ·.toList) = others.map (encodeSegment special ·.toList)) :
    segments = others := by
  have hdecoded : ∀ l : List String, (∀ s ∈ l, IsSegment s) →
      (l.map (encodeSegment special ·.toList)).map Http.nameOf = l.map Except.ok := by
    intro l hl
    rw [List.map_map]
    exact List.map_congr_left fun s hs => ((hl s hs).standsFor special).decoded
  have hnames := hdecoded segments hsegments
  rw [h, hdecoded others hothers] at hnames
  exact (List.map_injective_iff.mpr (fun _ _ => Except.ok.inj) hnames).symm

/-! ### Appended segments -/

theorem pushSegment_orRoot (special : Bool) (hk : ∀ t ∈ k, t ≠ []) (hs : IsSegment s) :
    pushSegment special (orRoot k) s.toList = orRoot (k ++ [encodeSegment special s.toList]) := by
  have hroot : (if orRoot k = [[]] then [] else orRoot k) = k := by
    unfold orRoot
    split
    · rename_i hnil
      rw [if_pos rfl, hnil]
    · refine if_neg fun hroot => ?_
      rw [hroot] at hk
      exact hk [] List.mem_cons_self rfl
  rw [pushSegment_eq hs.plain, hs.stays, if_neg Bool.false_ne_true, hroot, orRoot, if_neg (by simp)]

/-- Segments are appended one after another, and the root gives way to the first. -/
theorem foldl_pushSegment_orRoot (special : Bool) (hk : ∀ t ∈ k, t ≠ []) (hsegments : ∀ s ∈ segments, IsSegment s) :
    (segments.map String.toList).foldl (pushSegment special) (orRoot k) =
      orRoot (k ++ segments.map (encodeSegment special ·.toList)) := by
  induction segments generalizing k with
  | nil => rw [List.map_nil, List.map_nil, List.append_nil, List.foldl_nil]
  | cons s segments ih =>
    obtain ⟨hs, hrest⟩ := List.forall_mem_cons.mp hsegments
    have hlonger : ∀ t ∈ k ++ [encodeSegment special s.toList], t ≠ [] :=
      List.forall_mem_append.mpr ⟨hk, List.forall_mem_singleton.mpr (hs.encoded_ne_nil special)⟩
    rw [List.map_cons, List.foldl_cons, pushSegment_orRoot special hk hs, ih hlonger hrest, List.append_assoc,
      List.map_cons, List.singleton_append]

/-- What stands in the path of an address with segments appended to it. -/
def trail (base : Url) (segments : List String) : List (List Char) :=
  unclosed base.pathSegments ++ segments.map (encodeSegment (isSpecial base.scheme) ·.toList)

theorem join?_eq (h : Rooted base) (hbase : base.Gapless) (hsegments : ∀ s ∈ segments, IsSegment s) :
    base.join? (segments.map String.toList) = some { base with path := .segments (orRoot (base.trail segments)) } := by
  obtain ⟨l, hpath, hne, hslash⟩ := h.segments
  unfold join?
  rw [hpath]
  dsimp only
  rw [popEmpty_eq hne, ← pathSegments_eq hpath hslash, foldl_pushSegment_orRoot _ hbase.ne_nil hsegments]
  rfl

theorem slash_not_mem_trail (base : Url) (segments : List String) : ∀ s ∈ base.trail segments, '/' ∉ s :=
  List.forall_mem_append.mpr ⟨fun s hs => slash_not_mem_pathSegments base s (mem_of_mem_unclosed hs),
    List.forall_mem_map.mpr fun s _ => slash_not_mem_encodeSegment _ s.toList⟩

theorem Gapless.trail_ne_nil (hbase : base.Gapless) (hsegments : ∀ s ∈ segments, IsSegment s) :
    ∀ s ∈ base.trail segments, s ≠ [] :=
  List.forall_mem_append.mpr ⟨hbase.ne_nil, List.forall_mem_map.mpr fun s hs => (hsegments s hs).encoded_ne_nil _⟩

/-- Addresses that differ in nothing but their paths differ in their texts. -/
theorem print_inj {p q : Path} (h : Rooted u)
    (htext : ({ u with path := p } : Url).text = ({ u with path := q } : Url).text) : p.print = q.print := by
  obtain ⟨a, ha⟩ := Option.isSome_iff_exists.mp h.hosted
  have hprint := String.ofList_injective htext
  unfold print target at hprint
  dsimp only at hprint
  rw [ha] at hprint
  have htail := (List.cons.inj (List.append_cancel_left hprint)).2
  dsimp only at htail
  exact List.append_cancel_right (List.append_cancel_left (List.append_cancel_right htail))

/-- The texts appended to an address are told by the text of the address that comes of it. -/
theorem segments_inj (h : Rooted base) (hbase : base.Gapless) (hsegments : ∀ s ∈ segments, IsSegment s)
    (hothers : ∀ s ∈ others, IsSegment s)
    (htext : ({ base with path := .segments (orRoot (base.trail segments)) } : Url).text =
      ({ base with path := .segments (orRoot (base.trail others)) } : Url).text) : segments = others := by
  have hsplit := congrArg (split '/') (print_inj h htext)
  rw [split_print, split_print, flatMap_split (slash_not_mem_orRoot (slash_not_mem_trail base segments)),
    flatMap_split (slash_not_mem_orRoot (slash_not_mem_trail base others))] at hsplit
  have htrail : base.trail segments = base.trail others :=
    orRoot_inj (hbase.trail_ne_nil hsegments) (hbase.trail_ne_nil hothers) (List.cons.inj hsplit).2
  exact map_encodeSegment_inj hsegments hothers (List.append_cancel_left htrail)

/-! ### Final slashes -/

/-- The other address is the same with a slash behind its path. -/
structure Closes (base other : Url) : Prop where
  same : other = { base with path := other.path }
  slash : other.path.print = base.path.print ++ ['/']

theorem Closes.pathSegments_eq (h : Closes base other) : other.pathSegments = base.pathSegments ++ [[]] := by
  unfold pathSegments
  rw [h.slash, split_append]
  exact List.tail_append_of_ne_nil (splitWhere_ne_nil _ _)

/-- What stands below an address stands below the same address with a slash at its end. -/
theorem Closes.join?_eq (h : Closes base other) (hbase : Rooted base) (hother : Rooted other) (hgapless : other.Gapless)
    (hsegments : ∀ s ∈ segments, IsSegment s) :
    other.join? (segments.map String.toList) = base.join? (segments.map String.toList) := by
  have hfull : ∀ s ∈ base.pathSegments, s ≠ [] := by
    intro s hs
    refine hgapless s ?_
    rwa [h.pathSegments_eq, List.dropLast_concat]
  have hbaseGapless : base.Gapless := fun s hs => hfull s ((List.dropLast_sublist _).mem hs)
  have hscheme : other.scheme = base.scheme := by rw [h.same]
  have htrail : other.trail segments = base.trail segments := by
    rw [trail, trail, hscheme, h.pathSegments_eq, unclosed_snoc, unclosed_of_ne_nil hfull]
  rw [Url.join?_eq hother hgapless hsegments, Url.join?_eq hbase hbaseGapless hsegments, htrail, h.same]

/-- A slash behind a text that ends with the path of its address closes the address, or makes no difference. -/
theorem closes_of_parse_slash (h : parse text = .ok base) (hfile : base.scheme ≠ "file".toList)
    (hspecial : isSpecial base.scheme = true) (hend : EndsInPath text) :
    ∃ other, parse (text ++ "/") = .ok other ∧ (other = base ∨ Closes base other) := by
  obtain ⟨other, hother, hsame | ⟨l, hpath, hlonger⟩⟩ := parse_slash h hfile hspecial hend
  · exact ⟨other, hother, Or.inl hsame⟩
  · refine ⟨other, hother, Or.inr ⟨by rw [hlonger], ?_⟩⟩
    rw [hlonger, hpath]
    exact print_snoc l []

/-! ### Endpoints -/

/-- Texts can be appended to the path of any address of a web server. They stand there behind the segments of the address,
each in one piece that a router decodes to the text, and nothing else of the address changes. Where neither has any, the
path stays a slash. The address that comes of it tells the texts, and it is the same below an address with a slash at its
end and below one without. -/
theorem join?_read_back (hparse : parse text = .ok base)
    (hscheme : base.scheme = "http".toList ∨ base.scheme = "https".toList) (hbase : base.Gapless)
    (hsegments : ∀ s ∈ segments, IsSegment s) :
    ∃ u, base.join? (segments.map String.toList) = some u ∧
      (u.scheme = base.scheme ∧ u.authority = base.authority ∧ u.query = base.query ∧ u.fragment = base.fragment) ∧
      (∃ pieces, split '/' u.path.print = [] :: orRoot (unclosed base.pathSegments ++ pieces) ∧
        List.Forall₂ StandsFor pieces segments) ∧
      (∀ others u', (∀ s ∈ others, IsSegment s) → base.join? (others.map String.toList) = some u' → u'.text = u.text →
        others = segments) ∧
      (∀ text' other, parse text' = .ok other → other.Gapless → Closes base other →
        other.join? (segments.map String.toList) = some u) ∧
      (EndsInPath text → ∃ other, parse (text ++ "/") = .ok other ∧
        (other.Gapless → other.join? (segments.map String.toList) = some u)) := by
  have hspecial : isSpecial base.scheme = true := by rcases hscheme with h | h <;> rw [h] <;> decide
  have hfile : base.scheme ≠ "file".toList := by rcases hscheme with h | h <;> rw [h] <;> decide
  have hrooted := rooted_of_parse hparse hfile hspecial
  have hjoin := join?_eq hrooted hbase hsegments
  have hcloses : ∀ text' other, parse text' = .ok other → other.Gapless → Closes base other →
      other.join? (segments.map String.toList) = base.join? (segments.map String.toList) := by
    intro text' other hother hgapless hclose
    have hsame : other.scheme = base.scheme := by rw [hclose.same]
    have hotherRooted := rooted_of_parse hother (hsame ▸ hfile) (hsame ▸ hspecial)
    exact hclose.join?_eq hrooted hotherRooted hgapless hsegments
  refine ⟨_, hjoin, ⟨rfl, rfl, rfl, rfl⟩, ?_, ?_, ?_, ?_⟩
  · refine ⟨segments.map (encodeSegment (isSpecial base.scheme) ·.toList), ?_, ?_⟩
    · exact split_path rfl (slash_not_mem_orRoot (slash_not_mem_trail base segments))
    · exact List.forall₂_map_left_iff.mpr
        (List.forall₂_same.mpr fun s hs => (hsegments s hs).standsFor (isSpecial base.scheme))
  · intro others u' hothers hu' htext
    obtain rfl := Option.some.inj ((join?_eq hrooted hbase hothers).symm.trans hu')
    exact segments_inj hrooted hbase hothers hsegments htext
  · intro text' other hother hgapless hclose
    exact (hcloses text' other hother hgapless hclose).trans hjoin
  · intro hend
    obtain ⟨other, hother, hsame | hclose⟩ := closes_of_parse_slash hparse hfile hspecial hend
    · exact ⟨other, hother, fun _ => by rw [hsame, hjoin]⟩
    · exact ⟨other, hother, fun hgapless => (hcloses _ other hother hgapless hclose).trans hjoin⟩

/-- Texts that look encoded, are points but for their number, or have delimiters in them are appended and read back below
addresses with and without a final slash. -/
theorem join?_read_back_delimiters :
    ∃ base other u, parse "https://me@[::1]:8443/a%2Fb/v1?q#top" = .ok base ∧
      parse "https://me@[::1]:8443/a%2Fb/v1/?q#top" = .ok other ∧ base.Gapless ∧ other.Gapless ∧ Closes base other ∧
      (∀ s ∈ ["%2F", "...", "a/b?c#d", " größe\x00"], IsSegment s) ∧
      base.join? (["%2F", "...", "a/b?c#d", " größe\x00"].map String.toList) = some u ∧
      other.join? (["%2F", "...", "a/b?c#d", " größe\x00"].map String.toList) = some u ∧
      ∃ pieces, split '/' u.path.print = [] :: "a%2Fb".toList :: "v1".toList :: pieces ∧
        List.Forall₂ StandsFor pieces ["%2F", "...", "a/b?c#d", " größe\x00"] := by
  have hparse : parse "https://me@[::1]:8443/a%2Fb/v1?q#top" = .ok ⟨"https".toList,
      some ⟨"me".toList, "[::1]".toList, some 8443⟩, .segments ["a%2Fb".toList, "v1".toList], some ['q'],
      some "top".toList⟩ := by decide +kernel
  have hparse' : parse "https://me@[::1]:8443/a%2Fb/v1/?q#top" = .ok ⟨"https".toList,
      some ⟨"me".toList, "[::1]".toList, some 8443⟩, .segments ["a%2Fb".toList, "v1".toList, []], some ['q'],
      some "top".toList⟩ := by decide +kernel
  have hsegments : ∀ s ∈ ["%2F", "...", "a/b?c#d", " größe\x00"], IsSegment s := by decide
  have hbase : Gapless ⟨"https".toList, some ⟨"me".toList, "[::1]".toList, some 8443⟩,
      .segments ["a%2Fb".toList, "v1".toList], some ['q'], some "top".toList⟩ := by
    unfold Gapless
    decide
  have hother : Gapless ⟨"https".toList, some ⟨"me".toList, "[::1]".toList, some 8443⟩,
      .segments ["a%2Fb".toList, "v1".toList, []], some ['q'], some "top".toList⟩ := by
    unfold Gapless
    decide
  obtain ⟨u, hu, -, ⟨pieces, hpieces, hstand⟩, -, hslash, -⟩ :=
    join?_read_back hparse (Or.inr rfl) hbase hsegments
  exact ⟨_, _, u, hparse, hparse', hbase, hother, ⟨rfl, rfl⟩, hsegments, hu, hslash _ _ hparse' hother ⟨rfl, rfl⟩, pieces,
    hpieces, hstand⟩

end Muster.Url
