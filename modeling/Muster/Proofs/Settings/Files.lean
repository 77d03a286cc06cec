import Muster.Settings.Files

/-! # Where a file is found

A search begins in the working directory and goes on in the directories above it. So of two files that a path leads to,
the one further in is found, and nothing is found above a directory in which something stands in the way. -/

namespace Muster.Settings.Files

/-- The path leads to no file here, but a search goes on. -/
def PassedOver : Entry → Prop
  | .missing | .directory _ => True
  | .barred | .file _ => False

variable {files : Files} {path name : String} {content : List Nat} {directory : List String}

theorem search_nil : files.search path [] = some content ↔ files.follow [] path = .file content := by
  unfold search
  cases h : files.follow ([] : List String).reverse path <;> simp_all

theorem search_of_passedOver (h : PassedOver (files.follow (name :: directory).reverse path)) :
    files.search path (name :: directory) = files.search path directory := by
  rw [search]
  split
  · rename_i hfile
    rw [hfile] at h
    exact h.elim
  · rename_i hbarred
    rw [hbarred] at h
    exact h.elim
  · rfl

theorem search_of_not_passedOver (h : ¬ PassedOver (files.follow (name :: directory).reverse path)) :
    files.search path (name :: directory) = some content ↔
      files.follow (name :: directory).reverse path = .file content := by
  rw [search]
  cases he : files.follow (name :: directory).reverse path with
  | missing => exact absurd (he ▸ trivial) h
  | barred => simp
  | directory place => exact absurd (he ▸ trivial) h
  | file c => simp

/-- A search finds the file of the innermost directory that has one, unless it ends further in. -/
theorem search_eq_some_iff : files.search path directory = some content ↔
    ∃ above, above <:+ directory ∧ files.follow above.reverse path = .file content ∧
      ∀ inner, inner <:+ directory → above.length < inner.length → PassedOver (files.follow inner.reverse path) := by
  induction directory with
  | nil =>
    rw [search_nil]
    constructor
    · intro hfile
      refine ⟨[], List.suffix_rfl, hfile, fun inner hinner hlength => ?_⟩
      rw [List.suffix_nil.mp hinner] at hlength
      exact absurd hlength (Nat.lt_irrefl _)
    · rintro ⟨above, hsuffix, hfile, -⟩
      rwa [List.suffix_nil.mp hsuffix] at hfile
  | cons name directory ih =>
    by_cases hpassed : PassedOver (files.follow (name :: directory).reverse path)
    · rw [search_of_passedOver hpassed, ih]
      constructor
      · rintro ⟨above, hsuffix, hfile, hinner⟩
        refine ⟨above, hsuffix.trans (List.suffix_cons name directory), hfile, fun inner hsuffix' hlength => ?_⟩
        rcases List.suffix_cons_iff.mp hsuffix' with rfl | hsuffix'
        · exact hpassed
        · exact hinner inner hsuffix' hlength
      · rintro ⟨above, hsuffix, hfile, hinner⟩
        rcases List.suffix_cons_iff.mp hsuffix with rfl | hsuffix
        · rw [hfile] at hpassed
          exact hpassed.elim
        · exact ⟨above, hsuffix, hfile, fun inner hinner' =>
            hinner inner (hinner'.trans (List.suffix_cons name directory))⟩
    · rw [search_of_not_passedOver hpassed]
      constructor
      · intro hfile
        refine ⟨name :: directory, List.suffix_rfl, hfile, fun inner hinner hlength => ?_⟩
        exact absurd hinner.length_le (Nat.not_le_of_lt hlength)
      · rintro ⟨above, hsuffix, hfile, hinner⟩
        rcases List.suffix_cons_iff.mp hsuffix with rfl | hsuffix
        · exact hfile
        · exact absurd (hinner _ List.suffix_rfl (Nat.lt_succ_of_le hsuffix.length_le)) hpassed

/-- The file that is found is that of the innermost directory, from the working directory up, that has one. -/
theorem find?_eq_some_iff : files.find? path = some content ↔
    ∃ above, above <+: files.directory ∧ files.follow above path = .file content ∧
      ∀ inner, inner <+: files.directory → above.length < inner.length → PassedOver (files.follow inner path) := by
  rw [find?, search_eq_some_iff]
  constructor
  · rintro ⟨above, hsuffix, hfile, hpassed⟩
    refine ⟨above.reverse, List.reverse_suffix.mp (by rwa [List.reverse_reverse]), hfile, fun inner hinner hlength => ?_⟩
    have h := hpassed inner.reverse (List.reverse_suffix.mpr hinner) (by simpa using hlength)
    rwa [List.reverse_reverse] at h
  · rintro ⟨above, hprefix, hfile, hpassed⟩
    refine ⟨above.reverse, List.reverse_suffix.mpr hprefix, by rwa [List.reverse_reverse], fun inner hinner hlength => ?_⟩
    refine hpassed inner.reverse (List.reverse_suffix.mp (by rwa [List.reverse_reverse])) ?_
    simpa using hlength

end Muster.Settings.Files
