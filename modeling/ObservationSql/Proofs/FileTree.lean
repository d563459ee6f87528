import ObservationSql.FileTree

namespace ObservationSql.FileTree

/-- A name that an entry of a directory may have. -/
structure IsName (name : String) : Prop where
  ne_empty : name ≠ ""
  ne_self : name ≠ "."
  ne_parent : name ≠ ".."
  slash_not_mem : '/' ∉ name.toList

theorem IsName.ofPiece_eq {name : String} (h : IsName name) :
    Step.ofPiece name.toList = .into name := by
  unfold Step.ofPiece
  split
  · exact absurd (String.toList_inj.mp ‹name.toList = [] ›) h.ne_empty
  · exact absurd (String.toList_inj.mp ‹name.toList = ['.']›) h.ne_self
  · exact absurd (String.toList_inj.mp ‹name.toList = ['.', '.']›) h.ne_parent
  · rw [String.ofList_toList]

theorem splitPath_of_not_mem {name : List Char} (h : '/' ∉ name) (piece : List Char) :
    splitPath piece name = [piece ++ name] := by
  induction name generalizing piece with
  | nil => simp [splitPath]
  | cons c rest ih =>
      rw [List.mem_cons, not_or] at h
      rw [splitPath, if_neg (Ne.symm h.1), ih h.2, List.append_assoc, List.singleton_append]

theorem splitPath_append_slash (piece text rest : List Char) :
    splitPath piece (text ++ '/' :: rest) = splitPath piece text ++ splitPath [] rest := by
  induction text generalizing piece with
  | nil => simp [splitPath]
  | cons c text ih =>
      rw [List.cons_append, splitPath, splitPath]
      split
      · rw [ih, List.cons_append]
      · exact ih _

theorem steps_append_slash {directory name : String} (h : IsName name) :
    steps (directory ++ "/" ++ name) = steps directory ++ [.into name] := by
  have htext : (directory ++ "/" ++ name).toList = directory.toList ++ '/' :: name.toList := by
    simp
  rw [steps, htext, splitPath_append_slash, splitPath_of_not_mem h.slash_not_mem]
  simp [steps, h.ofPiece_eq]

theorem steps_slash (directory : String) :
    steps (directory ++ "/") = steps directory ++ [.stay] := by
  have htext : (directory ++ "/").toList = directory.toList ++ '/' :: [] := by simp
  rw [steps, htext, splitPath_append_slash, List.map_append]
  rfl

section Following

variable {above : List FileTree} {path : List Step} {tree : FileTree}

theorem follow?_concat_into {entries : List (String × FileTree)}
    (h : follow? above path tree = some (directory entries)) (name : String) :
    follow? above (path ++ [.into name]) tree = entries.lookup name := by
  induction path generalizing above tree with
  | nil =>
      rw [follow?, Option.some.injEq] at h
      subst h
      rw [List.nil_append, follow?]
      cases entries.lookup name <;> rfl
  | cons step rest ih =>
      cases tree with
      | file content => cases h
      | directory inner =>
          cases step with
          | stay => exact ih h
          | up =>
              cases above with
              | nil => exact ih h
              | cons parent outer => exact ih h
          | into child =>
              obtain ⟨found, hfound, h⟩ := Option.bind_eq_some_iff.mp h
              rw [List.cons_append, follow?, hfound, Option.bind_some]
              exact ih h

theorem follow?_of_concat_stay {found : FileTree}
    (h : follow? above (path ++ [.stay]) tree = some found) :
    follow? above path tree = some found := by
  induction path generalizing above tree with
  | nil =>
      cases tree with
      | file content => cases h
      | directory inner => exact h
  | cons step rest ih =>
      cases tree with
      | file content => cases h
      | directory inner =>
          cases step with
          | stay => exact ih h
          | up =>
              cases above with
              | nil => exact ih h
              | cons parent outer => exact ih h
          | into child =>
              obtain ⟨next, hnext, h⟩ := Option.bind_eq_some_iff.mp h
              rw [follow?, hnext, Option.bind_some]
              exact ih h

end Following

/-- The last step of the path of an entry is a step into the entry. The steps in front of it lead to
the directory, with or without the slash at its end. -/
theorem follow?_joinPath {tree : FileTree} {path name : String}
    {entries : List (String × FileTree)} (hname : IsName name) (hpath : path ≠ "")
    (h : follow? [] (steps path) tree = some (directory entries)) :
    follow? [] (steps (joinPath path name)) tree = entries.lookup name := by
  unfold joinPath
  split
  · next hslash =>
    obtain ⟨front, hfront⟩ := List.getLast?_eq_some_iff.mp (hslash.resolve_left hpath)
    have hsplit : path = String.ofList front ++ "/" := by
      rw [← String.toList_inj, hfront]
      simp
    rw [hsplit, steps_slash] at h
    rw [hsplit, steps_append_slash hname]
    exact follow?_concat_into (follow?_of_concat_stay h) name
  · rw [steps_append_slash hname]
    exact follow?_concat_into h name

theorem isFile_iff {files : FileTree} {path : String} :
    files.isFile path = true ↔ ∃ content, files.at? path = some (file content) := by
  unfold isFile
  split
  · next content hat => exact iff_of_true rfl ⟨content, hat⟩
  · next hnone => exact iff_of_false Bool.false_ne_true fun ⟨content, hat⟩ => hnone content hat

theorem joinPath_ne_empty {name : String} (hname : IsName name) (path : String) :
    joinPath path name ≠ "" := by
  unfold joinPath
  split <;> simp [hname.ne_empty]

theorem at?_joinPath {files : FileTree} {path name : String} {entries : List (String × FileTree)}
    (hname : IsName name) (h : files.at? path = some (directory entries)) :
    files.at? (joinPath path name)
      = if (joinPath path name).utf8ByteSize < pathLimit then entries.lookup name else none := by
  unfold at? at h
  split at h
  · next hpath =>
    rw [at?]
    simp only [joinPath_ne_empty hname path, ne_eq, not_false_eq_true, true_and]
    rw [follow?_joinPath hname hpath.1 h]
  · cases h

end ObservationSql.FileTree
