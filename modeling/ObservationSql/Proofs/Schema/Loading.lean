import Mathlib.Data.List.Sort
import Mathlib.Data.String.Basic
import ObservationSql.Proofs.FileTree
import ObservationSql.Schema.Loading

namespace ObservationSql.Registry

open FileTree

/-- A name under which a directory has a regular file that is to declare a table. -/
structure IsCandidate (suffix : String) (entries : List (String × FileTree)) (name : String) :
    Prop where
  isFile : ∃ content, (name, FileTree.file content) ∈ entries
  hasSuffix : suffix.toList <:+ name.toList
  not_hidden : name.toList.head? ≠ some '.'
  not_aside : name.toList.head? ≠ some '#'

/-- A directory with some entries, which have names of their own. No path of `pathLimit` octets or
more leads anywhere, so the paths of the files that are to declare tables are shorter. -/
structure Lists (files : FileTree) (directory suffix : String)
    (entries : List (String × FileTree)) : Prop where
  at_directory : files.at? directory = some (.directory entries)
  names_nodup : (entries.map Prod.fst).Nodup
  isName : ∀ entry ∈ entries, IsName entry.1
  path_short : ∀ name, IsCandidate suffix entries name →
    (joinPath directory name).utf8ByteSize < pathLimit

/-- What a file contributes: the table that it declares, or a warning. -/
def contribution (files : FileTree) (path : String) : Noted (List Table) :=
  match Table.ofFile files path with
  | .ok table => ⟨[table], []⟩
  | .error fault => ⟨[], [.skippedFile path fault]⟩

/-- What the files of some names contribute, one after the other. -/
def gather (files : FileTree) (directory : String) (names : List String) : Noted (List Table) where
  value := names.flatMap fun name => (contribution files (joinPath directory name)).value
  warnings := names.flatMap fun name => (contribution files (joinPath directory name)).warnings

theorem lookup_of_mem {entries : List (String × FileTree)} {name : String} {tree : FileTree}
    (hnodup : (entries.map Prod.fst).Nodup) (hmem : (name, tree) ∈ entries) :
    entries.lookup name = some tree := by
  induction entries with
  | nil => cases hmem
  | cons entry rest ih =>
      rw [List.map_cons, List.nodup_cons] at hnodup
      rcases List.mem_cons.mp hmem with rfl | hmem
      · exact List.lookup_cons_self
      · have hne : name ≠ entry.1 := by
          rintro rfl
          exact hnodup.1 (List.mem_map.mpr ⟨_, hmem, rfl⟩)
        rw [List.lookup_cons, beq_eq_false_iff_ne.mpr hne]
        exact ih hnodup.2 hmem

theorem ofFile_congr {files files' : FileTree} {path : String}
    (h : files.at? path = files'.at? path) : Table.ofFile files path = Table.ofFile files' path := by
  rw [Table.ofFile, Table.ofFile, h]

theorem contribution_congr {files files' : FileTree} {path : String}
    (h : files.at? path = files'.at? path) : contribution files path = contribution files' path := by
  rw [contribution, contribution, ofFile_congr h]

theorem loadFile_eq (files : FileTree) (noted : Noted Registry) (path : String) :
    loadFile files noted path
      = ⟨⟨noted.value.tables ++ (contribution files path).value⟩,
          noted.warnings ++ (contribution files path).warnings⟩ := by
  unfold loadFile contribution
  cases Table.ofFile files path <;> simp [insert]

theorem foldl_loadFile_eq (files : FileTree) (directory : String) (names : List String)
    (noted : Noted Registry) :
    (names.map (joinPath directory)).foldl (loadFile files) noted
      = ⟨⟨noted.value.tables ++ (gather files directory names).value⟩,
          noted.warnings ++ (gather files directory names).warnings⟩ := by
  induction names generalizing noted with
  | nil => simp [gather]
  | cons name rest ih =>
      rw [List.map_cons, List.foldl_cons, ih, loadFile_eq]
      simp [gather]

theorem gather_append (files : FileTree) (directory : String) (names others : List String) :
    gather files directory (names ++ others)
      = ⟨(gather files directory names).value ++ (gather files directory others).value,
          (gather files directory names).warnings ++ (gather files directory others).warnings⟩ := by
  simp [gather]

theorem gather_singleton (files : FileTree) (directory name : String) :
    gather files directory [name] = contribution files (joinPath directory name) := by
  simp [gather]

theorem gather_congr {files files' : FileTree} {directory : String} {names : List String}
    (h : ∀ name ∈ names, contribution files' (joinPath directory name)
      = contribution files (joinPath directory name)) :
    gather files' directory names = gather files directory names := by
  unfold gather
  rw [List.flatMap_congr fun name hname => congrArg Noted.value (h name hname),
    List.flatMap_congr fun name hname => congrArg Noted.warnings (h name hname)]

theorem isCandidateName_iff {suffix name : String} :
    isCandidateName suffix name = true ↔
      suffix.toList <:+ name.toList ∧ name.toList.head? ≠ some '.' ∧
        name.toList.head? ≠ some '#' := by
  simp [isCandidateName, and_comm]

theorem candidates_pairwise_lt {files : FileTree} {directory suffix : String} {names : List String}
    (hnodup : names.Nodup) : (candidates files directory suffix names).Pairwise (· < ·) := by
  have hsorted : (candidates files directory suffix names).Pairwise (· ≤ ·) := by
    have htrans : ∀ a b c : String, decide (a ≤ b) = true → decide (b ≤ c) = true →
        decide (a ≤ c) = true := by
      simpa using fun _ _ _ => le_trans
    have htotal : ∀ a b : String, (decide (a ≤ b) || decide (b ≤ a)) = true := by
      simpa using le_total
    refine (List.pairwise_mergeSort htrans htotal (names.filter fun name =>
      isCandidateName suffix name && files.isFile (joinPath directory name))).imp ?_
    exact fun hle => of_decide_eq_true hle
  have hdistinct : (candidates files directory suffix names).Nodup :=
    (List.mergeSort_perm _ _).nodup_iff.mpr (hnodup.filter _)
  exact hsorted.imp₂ (fun _ _ hle hne => lt_of_le_of_ne hle hne) hdistinct

namespace Lists

variable {files : FileTree} {directory suffix : String} {entries : List (String × FileTree)}

theorem at?_entry (h : Lists files directory suffix entries) {name : String} {tree : FileTree}
    (hmem : (name, tree) ∈ entries) :
    files.at? (joinPath directory name)
      = if (joinPath directory name).utf8ByteSize < pathLimit then some tree else none := by
  rw [at?_joinPath (h.isName _ hmem) h.at_directory, lookup_of_mem h.names_nodup hmem]

theorem at?_candidate (h : Lists files directory suffix entries) {name : String} {tree : FileTree}
    (hcandidate : IsCandidate suffix entries name) (hmem : (name, tree) ∈ entries) :
    files.at? (joinPath directory name) = some tree := by
  rw [h.at?_entry hmem, if_pos (h.path_short name hcandidate)]

theorem mem_candidates_iff (h : Lists files directory suffix entries) {name : String} :
    name ∈ candidates files directory suffix (entries.map Prod.fst) ↔
      IsCandidate suffix entries name := by
  rw [candidates, List.mem_mergeSort, List.mem_filter, Bool.and_eq_true, isCandidateName_iff,
    isFile_iff]
  constructor
  · rintro ⟨hname, ⟨hsuffix, hhidden, haside⟩, content, hat⟩
    obtain ⟨⟨_, tree⟩, hmem, rfl⟩ := List.mem_map.mp hname
    rw [h.at?_entry hmem, Option.ite_none_right_eq_some] at hat
    obtain ⟨-, hfile⟩ := hat
    cases hfile
    exact ⟨⟨content, hmem⟩, hsuffix, hhidden, haside⟩
  · intro hcandidate
    obtain ⟨content, hmem⟩ := hcandidate.isFile
    exact ⟨List.mem_map.mpr ⟨_, hmem, rfl⟩,
      ⟨hcandidate.hasSuffix, hcandidate.not_hidden, hcandidate.not_aside⟩, content,
      h.at?_candidate hcandidate hmem⟩

theorem load_eq (h : Lists files directory suffix entries) :
    load files directory suffix
      = .ok ⟨⟨(gather files directory
            (candidates files directory suffix (entries.map Prod.fst))).value⟩,
          (gather files directory
            (candidates files directory suffix (entries.map Prod.fst))).warnings⟩ := by
  rw [load, h.at_directory]
  simp only [loadFiles, foldl_loadFile_eq]
  rfl

theorem candidates_eq {names : List String} (h : Lists files directory suffix entries)
    (hsorted : names.Pairwise (· < ·))
    (hnames : ∀ name, name ∈ names ↔ IsCandidate suffix entries name) :
    candidates files directory suffix (entries.map Prod.fst) = names := by
  refine (candidates_pairwise_lt h.names_nodup).eq_of_mem_iff hsorted fun name => ?_
  rw [h.mem_candidates_iff, hnames]

end Lists

theorem IsCandidate.congr {suffix name : String} {entries entries' : List (String × FileTree)}
    (hentries : ∀ tree, (name, tree) ∈ entries' ↔ (name, tree) ∈ entries) :
    IsCandidate suffix entries' name ↔ IsCandidate suffix entries name := by
  constructor
  · rintro ⟨⟨content, hmem⟩, hsuffix, hhidden, haside⟩
    exact ⟨⟨content, (hentries _).mp hmem⟩, hsuffix, hhidden, haside⟩
  · rintro ⟨⟨content, hmem⟩, hsuffix, hhidden, haside⟩
    exact ⟨⟨content, (hentries _).mpr hmem⟩, hsuffix, hhidden, haside⟩

/-- Sorted names with one of them put in at its place, or left out of it. -/
def withName (names : List String) (name : String) (isIn : Bool) : List String :=
  names.filter (· < name) ++ (if isIn then [name] else []) ++ names.filter (name < ·)

theorem mem_withName {names : List String} {name other : String} {isIn : Bool} :
    other ∈ withName names name isIn ↔ other ≠ name ∧ other ∈ names ∨ other = name ∧ isIn = true := by
  simp only [withName, List.mem_append, List.mem_filter, decide_eq_true_eq]
  rcases lt_trichotomy other name with hlt | rfl | hlt
  · cases isIn <;> simp [hlt, hlt.ne, hlt.not_gt]
  · cases isIn <;> simp
  · cases isIn <;> simp [hlt, hlt.ne', hlt.not_gt]

theorem withName_pairwise_lt {names : List String} (h : names.Pairwise (· < ·)) (name : String)
    (isIn : Bool) : (withName names name isIn).Pairwise (· < ·) := by
  have hmiddle : ∀ other ∈ if isIn then [name] else [], other = name := by
    cases isIn <;> simp
  refine List.pairwise_append.mpr ⟨List.pairwise_append.mpr ⟨h.filter _, ?_, ?_⟩, h.filter _, ?_⟩
  · cases isIn <;> simp
  · intro left hleft right hright
    rw [hmiddle right hright]
    exact of_decide_eq_true (List.mem_filter.mp hleft).2
  · intro left hleft right hright
    have hright : name < right := of_decide_eq_true (List.mem_filter.mp hright).2
    rcases List.mem_append.mp hleft with hleft | hleft
    · exact (of_decide_eq_true (List.mem_filter.mp hleft).2 : left < name).trans hright
    · rw [hmiddle left hleft]
      exact hright

theorem find?_eq_some_iff_of_pairwise_lt {names : List String} (h : names.Pairwise (· < ·))
    {p : String → Bool} {name : String} :
    names.find? p = some name ↔
      name ∈ names ∧ p name = true ∧ ∀ other ∈ names, other < name → p other = false := by
  induction names with
  | nil => simp
  | cons first rest ih =>
      obtain ⟨hfirst, hrest⟩ := List.pairwise_cons.mp h
      cases hp : p first with
      | true =>
          rw [List.find?_cons_of_pos hp, Option.some.injEq]
          constructor
          · rintro rfl
            refine ⟨List.mem_cons_self, hp, ?_⟩
            intro other hother hlt
            rcases List.mem_cons.mp hother with rfl | hother
            · exact absurd hlt (lt_irrefl other)
            · exact absurd hlt (hfirst other hother).not_gt
          · rintro ⟨hname, -, hleast⟩
            rcases List.mem_cons.mp hname with rfl | hname
            · rfl
            · rw [hleast first List.mem_cons_self (hfirst name hname)] at hp
              cases hp
      | false =>
          rw [List.find?_cons_of_neg (by simp [hp]), ih hrest]
          constructor
          · rintro ⟨hname, hpname, hleast⟩
            refine ⟨List.mem_cons_of_mem _ hname, hpname, ?_⟩
            intro other hother hlt
            rcases List.mem_cons.mp hother with rfl | hother
            · exact hp
            · exact hleast other hother hlt
          · rintro ⟨hname, hpname, hleast⟩
            rcases List.mem_cons.mp hname with rfl | hname
            · rw [hp] at hpname
              cases hpname
            · exact ⟨hname, hpname, fun other hother hlt =>
                hleast other (List.mem_cons_of_mem _ hother) hlt⟩

theorem contribution_value (files : FileTree) (path : String) :
    (contribution files path).value = (Table.ofFile files path).toOption.toList := by
  unfold contribution
  cases Table.ofFile files path <;> rfl

theorem lookup?_eq_some_iff {files : FileTree} {directory : String} {names : List String}
    (h : names.Pairwise (· < ·)) {tableName : String} {table : Table} :
    lookup? ⟨(gather files directory names).value⟩ tableName = some table ↔
      ∃ name ∈ names, Table.ofFile files (joinPath directory name) = .ok table ∧
        table.name = tableName ∧
        ∀ other ∈ names, other < name → ∀ table',
          Table.ofFile files (joinPath directory other) = .ok table' → table'.name ≠ tableName := by
  have htoOption : ∀ name table, (Table.ofFile files (joinPath directory name)).toOption = some table
      ↔ Table.ofFile files (joinPath directory name) = .ok table := by
    intro name table
    cases Table.ofFile files (joinPath directory name) <;> simp [Except.toOption]
  simp only [lookup?, gather, contribution_value, ← List.filterMap_eq_flatMap_toList]
  rw [List.find?_filterMap, Option.bind_eq_some_iff]
  constructor
  · rintro ⟨name, hfind, htable⟩
    obtain ⟨hname, hdeclared, hleast⟩ := (find?_eq_some_iff_of_pairwise_lt h).mp hfind
    rw [htable, Option.any_some, beq_iff_eq] at hdeclared
    refine ⟨name, hname, (htoOption name table).mp htable, hdeclared, ?_⟩
    intro other hother hlt table' htable' hsame
    have hnot := hleast other hother hlt
    rw [(htoOption other table').mpr htable', Option.any_some, hsame] at hnot
    simp at hnot
  · rintro ⟨name, hname, htable, hdeclared, hleast⟩
    have htable := (htoOption name table).mpr htable
    refine ⟨name, (find?_eq_some_iff_of_pairwise_lt h).mpr ⟨hname, ?_, ?_⟩, htable⟩
    · rw [htable, Option.any_some, hdeclared]
      exact beq_self_eq_true tableName
    · intro other hother hlt
      cases hother' : (Table.ofFile files (joinPath directory other)).toOption with
      | none => rfl
      | some table' =>
          exact beq_eq_false_iff_ne.mpr
            (hleast other hother hlt table' ((htoOption other table').mp hother'))

theorem isSome_lookup?_iff {files : FileTree} {directory : String} {names : List String}
    {tableName : String} :
    (lookup? ⟨(gather files directory names).value⟩ tableName).isSome = true ↔
      ∃ name ∈ names, ∃ table, Table.ofFile files (joinPath directory name) = .ok table ∧
        table.name = tableName := by
  simp only [lookup?, gather, List.find?_isSome, List.mem_flatMap, beq_iff_eq]
  constructor
  · rintro ⟨table, ⟨name, hname, htable⟩, hsame⟩
    refine ⟨name, hname, table, ?_, hsame⟩
    unfold contribution at htable
    cases hfile : Table.ofFile files (joinPath directory name) with
    | error fault => simp [hfile] at htable
    | ok declared =>
        rw [hfile, List.mem_singleton] at htable
        rw [htable]
  · rintro ⟨name, hname, table, hfile, hsame⟩
    refine ⟨table, ⟨name, hname, ?_⟩, hsame⟩
    rw [contribution, hfile]
    exact List.mem_singleton_self table

namespace Lists

variable {files files' : FileTree} {directory suffix : String}
  {entries entries' : List (String × FileTree)}

theorem gather_eq (h : Lists files directory suffix entries) (h' : Lists files' directory suffix entries')
    {names : List String} (hnames : ∀ name ∈ names, IsCandidate suffix entries name)
    (hsame : ∀ name ∈ names, ∀ tree, (name, tree) ∈ entries' ↔ (name, tree) ∈ entries) :
    gather files' directory names = gather files directory names := by
  refine gather_congr fun name hname => ?_
  have hcandidate := hnames name hname
  have hcandidate' := (IsCandidate.congr (hsame name hname)).mpr hcandidate
  obtain ⟨content, hmem⟩ := hcandidate.isFile
  have hmem' := (hsame name hname _).mpr hmem
  exact contribution_congr
    ((h'.at?_candidate hcandidate' hmem').trans (h.at?_candidate hcandidate hmem).symm)

theorem load_perm (h : Lists files directory suffix entries) (h' : Lists files' directory suffix entries')
    (hperm : entries'.Perm entries) :
    load files' directory suffix = load files directory suffix := by
  have hsame : ∀ name tree, (name, tree) ∈ entries' ↔ (name, tree) ∈ entries :=
    fun name tree => hperm.mem_iff
  have hnames : candidates files' directory suffix (entries'.map Prod.fst)
      = candidates files directory suffix (entries.map Prod.fst) := by
    refine h'.candidates_eq (candidates_pairwise_lt h.names_nodup) fun name => ?_
    rw [h.mem_candidates_iff, IsCandidate.congr (hsame name)]
  have hgather := h.gather_eq h'
    (fun name (hname : name ∈ candidates files directory suffix (entries.map Prod.fst)) =>
      h.mem_candidates_iff.mp hname) fun name _ => hsame name
  rw [h'.load_eq, h.load_eq, hnames, hgather]

/-- What the other files contribute stands before and behind the contribution of one file, whatever
becomes of that file. -/
theorem load_around (h : Lists files directory suffix entries) (changed : String) :
    ∃ before after : Noted (List Table), ∀ files' entries', Lists files' directory suffix entries' →
      (∀ entry, entry.1 ≠ changed → (entry ∈ entries' ↔ entry ∈ entries)) →
      ∃ own : Noted (List Table),
        load files' directory suffix
            = .ok ⟨⟨before.value ++ own.value ++ after.value⟩,
              before.warnings ++ own.warnings ++ after.warnings⟩ ∧
          (IsCandidate suffix entries' changed →
            own = contribution files' (joinPath directory changed)) ∧
          (¬ IsCandidate suffix entries' changed → own = ⟨[], []⟩) := by
  classical
  let names := candidates files directory suffix (entries.map Prod.fst)
  have hsorted : names.Pairwise (· < ·) := candidates_pairwise_lt h.names_nodup
  refine ⟨gather files directory (names.filter (· < changed)),
    gather files directory (names.filter (changed < ·)), ?_⟩
  intro files' entries' h' hothers
  let isIn := decide (IsCandidate suffix entries' changed)
  have hsame : ∀ name, name ≠ changed → ∀ tree, (name, tree) ∈ entries' ↔ (name, tree) ∈ entries :=
    fun name hname tree => hothers (name, tree) hname
  have hnames : candidates files' directory suffix (entries'.map Prod.fst)
      = withName names changed isIn := by
    refine h'.candidates_eq (withName_pairwise_lt hsorted changed isIn) fun name => ?_
    rw [mem_withName, h.mem_candidates_iff]
    by_cases hname : name = changed
    · subst hname
      simp [isIn]
    · simp [hname, IsCandidate.congr (hsame name hname)]
  have hbefore : gather files' directory (names.filter (· < changed))
      = gather files directory (names.filter (· < changed)) := by
    refine h.gather_eq h' (fun name hname =>
      h.mem_candidates_iff.mp (List.mem_of_mem_filter hname)) ?_
    intro name hname
    have hlt : name < changed := of_decide_eq_true (List.mem_filter.mp hname).2
    exact hsame name hlt.ne
  have hafter : gather files' directory (names.filter (changed < ·))
      = gather files directory (names.filter (changed < ·)) := by
    refine h.gather_eq h' (fun name hname =>
      h.mem_candidates_iff.mp (List.mem_of_mem_filter hname)) ?_
    intro name hname
    have hlt : changed < name := of_decide_eq_true (List.mem_filter.mp hname).2
    exact hsame name hlt.ne'
  refine ⟨gather files' directory (if isIn then [changed] else []), ?_, ?_, ?_⟩
  · rw [h'.load_eq, hnames, withName, gather_append, gather_append, hbefore, hafter]
  · intro hcandidate
    rw [if_pos (decide_eq_true hcandidate), gather_singleton]
  · intro hcandidate
    rw [if_neg (by simpa [isIn] using hcandidate)]
    rfl

end Lists

/-- A directory is loaded whatever its files hold and in whatever order they are listed. The
registry has the tables of the candidates in the order of their names, each other candidate is
warned of once, and no file has a part in what another one contributes. -/
theorem load_directory {files : FileTree} {directory suffix : String}
    {entries : List (String × FileTree)} (h : Lists files directory suffix entries) :
    ∃ (names : List String) (registry : Registry) (warnings : List Warning),
      load files directory suffix = .ok ⟨registry, warnings⟩ ∧
      names.Pairwise (· < ·) ∧ (∀ name, name ∈ names ↔ IsCandidate suffix entries name) ∧
      registry.tables
        = names.flatMap (fun name => (contribution files (joinPath directory name)).value) ∧
      warnings
        = names.flatMap (fun name => (contribution files (joinPath directory name)).warnings) ∧
      (∀ files' entries', Lists files' directory suffix entries' → entries'.Perm entries →
        load files' directory suffix = .ok ⟨registry, warnings⟩) ∧
      (∀ changed, ∃ before after : Noted (List Table), ∀ files' entries',
        Lists files' directory suffix entries' →
        (∀ entry, entry.1 ≠ changed → (entry ∈ entries' ↔ entry ∈ entries)) →
        ∃ own : Noted (List Table),
          load files' directory suffix
              = .ok ⟨⟨before.value ++ own.value ++ after.value⟩,
                before.warnings ++ own.warnings ++ after.warnings⟩ ∧
            (IsCandidate suffix entries' changed →
              own = contribution files' (joinPath directory changed)) ∧
            (¬ IsCandidate suffix entries' changed → own = ⟨[], []⟩)) ∧
      ∀ tableName,
        ((registry.lookup? tableName).isSome = true ↔
          ∃ name ∈ names, ∃ table, Table.ofFile files (joinPath directory name) = .ok table ∧
            table.name = tableName) ∧
        ∀ table, registry.lookup? tableName = some table ↔
          ∃ name ∈ names, Table.ofFile files (joinPath directory name) = .ok table ∧
            table.name = tableName ∧
            ∀ other ∈ names, other < name → ∀ table',
              Table.ofFile files (joinPath directory other) = .ok table' →
              table'.name ≠ tableName := by
  have hsorted : (candidates files directory suffix (entries.map Prod.fst)).Pairwise (· < ·) :=
    candidates_pairwise_lt h.names_nodup
  have hload := h.load_eq
  refine ⟨_, _, _, hload, hsorted, fun name => h.mem_candidates_iff, rfl, rfl, ?_,
    h.load_around, ?_⟩
  · intro files' entries' h' hperm
    rw [← hload]
    exact h.load_perm h' hperm
  · intro tableName
    exact ⟨isSome_lookup?_iff, fun table => lookup?_eq_some_iff hsorted⟩

/-- The entries of a directory with a table, with one that is put aside, with octets that are no
text and with a directory inside. -/
def mixedEntries : List (String × FileTree) :=
  [("b.yaml", .file "name: T\nfields: [name: A]".toUTF8),
    ("#c.yaml", .file "name: U\nfields: [name: A]".toUTF8),
    ("a.yaml", .file ⟨#[0xFF]⟩),
    ("d.yaml", .directory [])]

theorem load_directory_mixed :
    let files := FileTree.directory [("tables", .directory mixedEntries)]
    Lists files "tables" ".yaml" mixedEntries ∧
      load files "tables" ".yaml"
        = .ok ⟨⟨[⟨"T", [{ name := "A" }]⟩]⟩, [.skippedFile "tables/a.yaml" .unreadableFile]⟩ := by
  intro files
  have hlists : Lists files "tables" ".yaml" mixedEntries := by
    refine ⟨rfl, by decide, ?_, ?_⟩
    · intro entry hentry
      simp only [mixedEntries, List.mem_cons, List.not_mem_nil, or_false] at hentry
      rcases hentry with rfl | rfl | rfl | rfl <;>
        exact ⟨by decide, by decide, by decide, by decide⟩
    · rintro name ⟨⟨content, hmem⟩, -⟩
      have hshort : ∀ entry ∈ mixedEntries,
          (joinPath "tables" entry.1).utf8ByteSize < pathLimit := by decide
      exact hshort _ hmem
  obtain ⟨names, registry, warnings, hload, hsorted, hnames, htables, hwarnings, -⟩ :=
    load_directory hlists
  have hexact : names = ["a.yaml", "b.yaml"] := by
    refine hsorted.eq_of_mem_iff (by decide) fun name => ?_
    rw [hnames]
    constructor
    · rintro ⟨⟨content, hmem⟩, -, -, haside⟩
      simp only [mixedEntries, List.mem_cons, List.not_mem_nil, Prod.mk.injEq, or_false,
        reduceCtorEq, and_false] at hmem
      rcases hmem with ⟨rfl, -⟩ | ⟨rfl, -⟩ | ⟨rfl, -⟩
      · simp
      · exact absurd rfl haside
      · simp
    · intro hmem
      simp only [List.mem_cons, List.not_mem_nil, or_false] at hmem
      rcases hmem with rfl | rfl
      · exact ⟨⟨_, .tail _ (.tail _ (.head _))⟩, by decide, by decide, by decide⟩
      · exact ⟨⟨_, .head _⟩, by decide, by decide, by decide⟩
  have hskipped : contribution files (joinPath "tables" "a.yaml")
      = ⟨[], [.skippedFile "tables/a.yaml" .unreadableFile]⟩ := by
    have hat := hlists.at?_entry (.tail _ (.tail _ (.head _)))
    rw [contribution, Table.ofFile, hat]
    rfl
  have hregistered : contribution files (joinPath "tables" "b.yaml")
      = ⟨[⟨"T", [{ name := "A" }]⟩], []⟩ := by
    have hat := hlists.at?_entry (.head _)
    have htext : Table.ofOctets "name: T\nfields: [name: A]".toUTF8
        = .ok ⟨"T", [{ name := "A" }]⟩ := by decide +kernel
    have hfile : Table.ofFile files (joinPath "tables" "b.yaml")
        = .ok ⟨"T", [{ name := "A" }]⟩ := by
      rw [Table.ofFile, hat]
      exact htext
    rw [contribution, hfile]
  rw [hexact] at htables hwarnings
  simp only [List.flatMap_cons, List.flatMap_nil, hskipped, hregistered] at htables hwarnings
  refine ⟨hlists, hload.trans ?_⟩
  cases registry
  cases htables
  rw [hwarnings]
  rfl

end ObservationSql.Registry
