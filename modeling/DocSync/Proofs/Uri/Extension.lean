import DocSync.Proofs.Data.Split
import DocSync.Uri.Basic

/-!
# Extensions

The extension of a URI is what its path ends in after the last dot, if that dot stands in the last
segment, and neither at the beginning of it nor at its end.
-/
namespace DocSync.Uri

/-- What a path looks like whose last segment has an extension: directories up to a slash, if there
are any, then a stem, a dot, and the extension. -/
structure Extends (path directory stem extension : List Char) : Prop where
  path : path = directory ++ stem ++ '.' :: extension
  directory : directory = [] ∨ directory.getLast? = some '/'
  segment : '/' ∉ stem ∧ '/' ∉ extension
  last : '.' ∉ extension
  stem : stem ≠ []
  extension : extension ≠ []

/-- The extension of a URI, read off its path. -/
def HasExtension (u : Uri) (extension : String) : Prop :=
  ∃ directory stem, Extends u.path directory stem extension.toList

theorem fileName_eq_iff {u : Uri} {name : List Char} : u.fileName = name ↔
    '/' ∉ name ∧ ∃ directory, (directory = [] ∨ directory.getLast? = some '/') ∧
      u.path = directory ++ name := by
  unfold fileName
  constructor
  · intro h
    split at h
    · rename_i before after hcut
      obtain ⟨hpath, hafter⟩ := Split.cutLast_eq_some_iff.mp hcut
      cases h
      exact ⟨hafter, before ++ ['/'], .inr (by simp), by simp [hpath]⟩
    · rename_i hcut
      cases h
      exact ⟨Split.cutLast_eq_none_iff.mp hcut, [], .inl rfl, rfl⟩
  · rintro ⟨hname, directory, rfl | hlast, hpath⟩
    · rw [List.nil_append] at hpath
      rw [hpath, Split.cutLast_eq_none_iff.mpr hname]
    · obtain ⟨before, rfl⟩ := List.getLast?_eq_some_iff.mp hlast
      have hcut : u.path = before ++ '/' :: name := by simp [hpath]
      rw [hcut, Split.cutLast_append hname]

theorem extension?_eq_some_iff {u : Uri} {extension : String} :
    u.extension? = some extension ↔ u.HasExtension extension := by
  unfold extension?
  constructor
  · intro h
    split at h
    · rename_i stem ext hcut
      split at h
      · cases h
      · rename_i hparts
        cases h
        rw [Bool.or_eq_true, not_or, List.isEmpty_iff, List.isEmpty_iff] at hparts
        obtain ⟨hname, hdot⟩ := Split.cutLast_eq_some_iff.mp hcut
        obtain ⟨hslash, directory, hdirectory, hpath⟩ := fileName_eq_iff.mp hname
        rw [List.mem_append, List.mem_cons, not_or, not_or] at hslash
        rw [HasExtension, String.toList_ofList]
        exact ⟨directory, stem, by rw [hpath, List.append_assoc], hdirectory,
          ⟨hslash.1, hslash.2.2⟩, hdot, hparts.1, hparts.2⟩
    · cases h
  · rintro ⟨directory, stem, hpath, hdirectory, hsegment, hdot, hstem, hextension⟩
    have hname : u.fileName = stem ++ '.' :: extension.toList :=
      fileName_eq_iff.mpr ⟨by simp [hsegment], directory, hdirectory,
        by rw [hpath, List.append_assoc]⟩
    rw [hname, Split.cutLast_append hdot]
    simp [hstem, hextension]

end DocSync.Uri
