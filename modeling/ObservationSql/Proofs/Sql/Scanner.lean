import ObservationSql.Text.Blank

/-!
A scanner that reads SQL character by character and cuts it at the separators that stand outside
string literals and parentheses, and the texts that it reads without finding a place to cut.
-/

namespace ObservationSql.Scanner

/-- What the next character belongs to. Behind a quote that may close a literal, one more quote is
an escaped one and goes on with the literal. -/
inductive Mode where
  | code
  | literal
  | quote
  deriving DecidableEq, Repr

/-- Where the scanner is: in code or in a string literal, and how many parentheses are open. -/
structure Place where
  mode : Mode
  depth : Nat
  deriving DecidableEq, Repr

namespace Place

def start : Place := ⟨.code, 0⟩

/-- Whether the place is outside literals and parentheses. -/
def isTop (place : Place) : Bool :=
  place.mode != .literal && place.depth == 0

/-- One character outside string literals. A closing parenthesis needs an open one. -/
def readCode (depth : Nat) (c : Char) : Option Place :=
  if c = '\'' then some ⟨.literal, depth⟩
  else if c = '(' then some ⟨.code, depth + 1⟩
  else if c = ')' then if depth = 0 then none else some ⟨.code, depth - 1⟩
  else some ⟨.code, depth⟩

/-- The place behind a character. There is none behind a parenthesis that closes nothing. -/
def read (place : Place) (c : Char) : Option Place :=
  match place.mode with
  | .code => readCode place.depth c
  | .literal => some (if c = '\'' then ⟨.quote, place.depth⟩ else place)
  | .quote => if c = '\'' then some ⟨.literal, place.depth⟩ else readCode place.depth c

theorem read_eq_readCode {mode : Mode} (hmode : mode ≠ .literal) (depth : Nat) (c : Char) :
    read ⟨mode, depth⟩ c = readCode depth c := by
  cases mode with
  | code => rfl
  | literal => exact absurd rfl hmode
  | quote =>
      change (if c = '\'' then some ⟨.literal, depth⟩ else readCode depth c) = readCode depth c
      by_cases hc : c = '\''
      · rw [if_pos hc, readCode, if_pos hc]
      · rw [if_neg hc]

end Place

/-- Whether every literal and every parenthesis of a text is closed, and none is closed twice. -/
def isBalanced (text : String) : Bool :=
  match text.toList.foldlM Place.read .start with
  | some place => place.isTop
  | none => false

/-- The pieces of the characters left, where `piece` of the first one has been read, and `skipped`
characters of the separator in front of it are to be read yet. -/
def piecesFrom (separator : List Char) :
    Place → Nat → List Char → List Char → Option (List (List Char))
  | place, _, piece, [] => if place.isTop then some [piece] else none
  | place, skipped + 1, piece, c :: rest => do
      let next ← place.read c
      piecesFrom separator next skipped piece rest
  | place, 0, piece, c :: rest => do
      let next ← place.read c
      if place.isTop && separator.isPrefixOf (c :: rest) then
        let pieces ← piecesFrom separator next (separator.length - 1) [] rest
        return piece :: pieces
      else piecesFrom separator next 0 (piece ++ [c]) rest

/-- The pieces of a balanced text that is cut at each separator outside literals and parentheses.
The empty text has none. -/
def split (separator text : String) : Option (List String) :=
  if text.isEmpty then some []
  else (piecesFrom separator.toList .start 0 [] text.toList).map (·.map String.ofList)

theorem piecesFrom_cons {separator : List Char} {c : Char} {rest piece : List Char}
    {place : Place} {skipped : Nat} {pieces : List (List Char)}
    (h : piecesFrom separator place skipped piece (c :: rest) = some pieces) :
    ∃ next, place.read c = some next ∧
      ∃ skipped piece pieces, piecesFrom separator next skipped piece rest = some pieces := by
  cases skipped with
  | zero =>
      rw [piecesFrom] at h
      obtain ⟨next, hread, h⟩ := Option.bind_eq_some_iff.mp h
      refine ⟨next, hread, ?_⟩
      split at h
      · obtain ⟨pieces, hpieces, -⟩ := Option.bind_eq_some_iff.mp h
        exact ⟨_, _, pieces, hpieces⟩
      · exact ⟨_, _, _, h⟩
  | succ skipped =>
      rw [piecesFrom] at h
      obtain ⟨next, hread, h⟩ := Option.bind_eq_some_iff.mp h
      exact ⟨next, hread, _, _, _, h⟩

theorem balanced_of_piecesFrom {separator : List Char} {text piece : List Char} {place : Place}
    {skipped : Nat} {pieces : List (List Char)}
    (h : piecesFrom separator place skipped piece text = some pieces) :
    ∃ stop, text.foldlM Place.read place = some stop ∧ stop.isTop = true := by
  induction text generalizing place skipped piece pieces with
  | nil =>
      rw [piecesFrom] at h
      split at h
      · exact ⟨place, rfl, ‹_›⟩
      · exact absurd h (by simp)
  | cons c rest ih =>
      obtain ⟨next, hread, skipped, piece, pieces, hrest⟩ := piecesFrom_cons h
      obtain ⟨stop, hstop, htop⟩ := ih hrest
      refine ⟨stop, ?_, htop⟩
      rw [List.foldlM_cons, hread]
      exact hstop

theorem isBalanced_of_split {separator text : String} {pieces : List String}
    (h : split separator text = some pieces) : isBalanced text = true := by
  unfold split at h
  split at h
  · have htext : text = "" := by simpa using ‹text.isEmpty = true›
    subst htext
    rfl
  · obtain ⟨cut, hcut, -⟩ := Option.map_eq_some_iff.mp h
    obtain ⟨stop, hstop, htop⟩ := balanced_of_piecesFrom hcut
    rw [isBalanced, hstop]
    exact htop

/-- Whether a character delimits neither a literal nor a parenthesis. -/
def isPlainChar (c : Char) : Bool :=
  c != '\'' && c != '(' && c != ')'

def isPlain (text : String) : Bool :=
  text.toList.all isPlainChar

theorem Place.read_plain {c : Char} (hc : isPlainChar c = true) {mode : Mode}
    (hmode : mode ≠ .literal) (depth : Nat) : read ⟨mode, depth⟩ c = some ⟨.code, depth⟩ := by
  simp only [isPlainChar, Bool.and_eq_true, bne_iff_ne] at hc
  obtain ⟨⟨hquote, hopen⟩, hclose⟩ := hc
  rw [read_eq_readCode hmode, readCode, if_neg hquote, if_neg hopen, if_neg hclose]

/-- Whether the scanner comes through a text outside all literals and parentheses without cutting it
at the separator. -/
def Uncut (separator text : String) : Prop :=
  ∀ mode, mode ≠ Mode.literal → ∃ mode', mode' ≠ Mode.literal ∧ ∀ piece tail,
    piecesFrom separator.toList ⟨mode, 0⟩ 0 piece (text.toList ++ tail)
      = piecesFrom separator.toList ⟨mode', 0⟩ 0 (piece ++ text.toList) tail

theorem piecesFrom_skip {separator skipped : List Char}
    (h : ∀ c ∈ skipped, isPlainChar c = true) (piece tail : List Char) :
    piecesFrom separator .start skipped.length piece (skipped ++ tail)
      = piecesFrom separator .start 0 piece tail := by
  induction skipped with
  | nil => rfl
  | cons c skipped ih =>
      rw [List.length_cons, List.cons_append, piecesFrom, Place.start,
        Place.read_plain (h c (by simp)) (by simp)]
      exact ih fun d hd => h d (List.mem_cons_of_mem c hd)

theorem piecesFrom_separator {separator : String} (hplain : isPlain separator = true)
    (hne : separator ≠ "") {mode : Mode} (hmode : mode ≠ .literal) (piece tail : List Char) :
    piecesFrom separator.toList ⟨mode, 0⟩ 0 piece (separator.toList ++ tail)
      = (piecesFrom separator.toList .start 0 [] tail).bind fun pieces => some (piece :: pieces) := by
  rw [isPlain, List.all_eq_true] at hplain
  cases hletters : separator.toList with
  | nil => exact absurd (String.toList_eq_nil_iff.mp hletters) hne
  | cons c skipped =>
      rw [hletters] at hplain
      have hcut : (Place.isTop ⟨mode, 0⟩
          && (c :: skipped).isPrefixOf (c :: (skipped ++ tail))) = true := by
        rw [Place.isTop, bne_iff_ne.mpr hmode, ← List.cons_append,
          List.isPrefixOf_iff_prefix.mpr (List.prefix_append _ _)]
        rfl
      have hskip : piecesFrom (c :: skipped) .start skipped.length [] (skipped ++ tail)
          = piecesFrom (c :: skipped) .start 0 [] tail :=
        piecesFrom_skip (fun d hd => hplain d (List.mem_cons_of_mem c hd)) [] tail
      rw [List.cons_append, piecesFrom, Place.read_plain (hplain c (by simp)) hmode]
      simp only [Option.bind_eq_bind, Option.bind_some, if_pos hcut]
      rw [List.length_cons, Nat.add_sub_cancel]
      change (piecesFrom _ .start _ _ _).bind _ = _
      rw [hskip]
      rfl

section Cutting

variable {separator : String} (hplain : isPlain separator = true) (hne : separator ≠ "")

include hplain hne

theorem piecesFrom_joinWith {piece : String} {pieces : List String}
    (h : ∀ text ∈ piece :: pieces, Uncut separator text) :
    piecesFrom separator.toList .start 0 [] (Text.joinWith separator (piece :: pieces)).toList
      = some ((piece :: pieces).map String.toList) := by
  obtain ⟨mode, hmode, hread⟩ := h piece (by simp) .code (by simp)
  induction pieces generalizing piece mode with
  | nil =>
      have hcut := hread [] []
      rw [List.append_nil, List.nil_append] at hcut
      have htop : Place.isTop ⟨mode, 0⟩ = true := by simp [Place.isTop, hmode]
      rw [Text.joinWith]
      refine hcut.trans ?_
      rw [piecesFrom, if_pos htop, List.map_singleton]
  | cons next pieces ih =>
      have hlater : ∀ text ∈ next :: pieces, Uncut separator text :=
        fun text htext => h text (List.mem_cons_of_mem _ htext)
      obtain ⟨mode', hmode', hread'⟩ := hlater next (by simp) .code (by simp)
      have hrest := ih hlater mode' hmode' hread'
      rw [Text.joinWith, String.toList_append, String.toList_append, List.append_assoc]
      refine (hread [] _).trans ?_
      rw [List.nil_append, piecesFrom_separator hplain hne hmode, hrest, Option.bind_some]
      rfl

theorem split_joinWith_of_uncut {pieces : List String}
    (h : ∀ piece ∈ pieces, piece ≠ "" ∧ Uncut separator piece) :
    split separator (Text.joinWith separator pieces) = some pieces := by
  cases pieces with
  | nil => rfl
  | cons piece pieces =>
      have hpiece : piece ≠ "" := (h piece (by simp)).1
      have htext : ¬ (Text.joinWith separator (piece :: pieces)).isEmpty = true := by
        cases pieces with
        | nil => simpa [Text.joinWith] using hpiece
        | cons next pieces => simp [Text.joinWith, hpiece]
      rw [split, if_neg htext, piecesFrom_joinWith hplain hne fun text htext => (h text htext).2]
      simp

end Cutting

/-- A place, and whether a blank outside literals and parentheses has just been read. -/
structure Position where
  place : Place
  afterBlank : Bool

/-- Reads a character, which behind such a blank must not be the first letter of a connective. -/
def Position.read (position : Position) (c : Char) : Option Position :=
  if (c == 'a' || c == 'o') && position.afterBlank then none
  else (position.place.read c).map fun place => ⟨place, c == ' ' && position.place.isTop⟩

/-- Whether a text leads from outside all literals to outside all literals, from one depth and
blank to another. -/
def Passes (text : String) (before after : Nat × Bool) : Prop :=
  ∀ mode, mode ≠ Mode.literal → ∃ mode', mode' ≠ Mode.literal ∧
    text.toList.foldlM Position.read ⟨⟨mode, before.1⟩, before.2⟩ = some ⟨⟨mode', after.1⟩, after.2⟩

theorem Position.read_connective {position : Position} (hblank : position.afterBlank = true)
    {c : Char} (hc : c = 'a' ∨ c = 'o') : position.read c = none := by
  rcases hc with rfl | rfl <;> simp [Position.read, hblank]

theorem Position.read_eq_some {position next : Position} {c : Char}
    (h : position.read c = some next) :
    position.place.read c = some next.place ∧
      next.afterBlank = (c == ' ' && position.place.isTop) := by
  unfold Position.read at h
  split at h
  · exact absurd h (by simp)
  · obtain ⟨place, hplace, rfl⟩ := Option.map_eq_some_iff.mp h
    exact ⟨hplace, rfl⟩

theorem foldlM_read_cons {position stop : Position} {c : Char} {rest : List Char}
    (h : (c :: rest).foldlM Position.read position = some stop) :
    ∃ next, position.read c = some next ∧ rest.foldlM Position.read next = some stop := by
  rw [List.foldlM_cons] at h
  exact Option.bind_eq_some_iff.mp h

section Connectives

variable {separator : String} (hseparator : separator = " and " ∨ separator = " or ")

include hseparator

/-- A connective would have to start with a blank and go on with its first letter, which is never
read behind a blank. -/
theorem isPrefixOf_eq_false {position next stop : Position} {c : Char} {rest tail : List Char}
    (htop : position.place.isTop = true) (hread : position.read c = some next)
    (hrest : rest.foldlM Position.read next = some stop) (hstop : stop.afterBlank = false) :
    separator.toList.isPrefixOf (c :: (rest ++ tail)) = false := by
  obtain ⟨letter, ending, hletters, hletter⟩ :
      ∃ letter ending, separator.toList = ' ' :: letter :: ending ∧
        (letter = 'a' ∨ letter = 'o') := by
    rcases hseparator with rfl | rfl
    · exact ⟨'a', ['n', 'd', ' '], rfl, .inl rfl⟩
    · exact ⟨'o', ['r', ' '], rfl, .inr rfl⟩
  rw [hletters, Bool.eq_false_iff]
  intro hmatch
  rw [List.isPrefixOf_cons_cons, Bool.and_eq_true, beq_iff_eq] at hmatch
  obtain ⟨rfl, hmatch⟩ := hmatch
  have hblank : next.afterBlank = true := by
    rw [(Position.read_eq_some hread).2, htop]
    rfl
  cases rest with
  | nil =>
      have hnext : next = stop := Option.some.inj hrest
      rw [hnext, hstop] at hblank
      exact absurd hblank (by simp)
  | cons d rest =>
      obtain ⟨after, hafter, -⟩ := foldlM_read_cons hrest
      rw [List.cons_append, List.isPrefixOf_cons_cons, Bool.and_eq_true, beq_iff_eq] at hmatch
      rw [Position.read_connective hblank (hmatch.1 ▸ hletter)] at hafter
      exact absurd hafter (by simp)

theorem piecesFrom_append {text tail piece : List Char} {position stop : Position}
    (h : text.foldlM Position.read position = some stop) (hstop : stop.afterBlank = false) :
    piecesFrom separator.toList position.place 0 piece (text ++ tail)
      = piecesFrom separator.toList stop.place 0 (piece ++ text) tail := by
  induction text generalizing position piece with
  | nil =>
      have hposition : position = stop := Option.some.inj h
      rw [hposition, List.append_nil, List.nil_append]
  | cons c rest ih =>
      obtain ⟨next, hread, hrest⟩ := foldlM_read_cons h
      have hcut : ¬ (position.place.isTop && separator.toList.isPrefixOf (c :: (rest ++ tail)))
          = true := by
        intro hcut
        obtain ⟨htop, hmatch⟩ := Bool.and_eq_true_iff.mp hcut
        rw [isPrefixOf_eq_false hseparator htop hread hrest hstop] at hmatch
        exact absurd hmatch (by simp)
      rw [List.cons_append, piecesFrom, (Position.read_eq_some hread).1]
      simp only [Option.bind_eq_bind, Option.bind_some, if_neg hcut]
      rw [ih hrest, List.append_assoc, List.singleton_append]

theorem Passes.uncut {text : String} (h : Passes text (0, false) (0, false)) :
    Uncut separator text := by
  intro mode hmode
  obtain ⟨mode, hmode, hread⟩ := h mode hmode
  exact ⟨mode, hmode, fun piece tail => piecesFrom_append hseparator hread rfl⟩

theorem split_joinWith {pieces : List String}
    (h : ∀ piece ∈ pieces, piece ≠ "" ∧ Passes piece (0, false) (0, false)) :
    split separator (Text.joinWith separator pieces) = some pieces := by
  have hpieces : ∀ piece ∈ pieces, piece ≠ "" ∧ Uncut separator piece :=
    fun piece hpiece => ⟨(h piece hpiece).1, Passes.uncut hseparator (h piece hpiece).2⟩
  rcases hseparator with rfl | rfl
  · exact split_joinWith_of_uncut (by decide) (by decide) hpieces
  · exact split_joinWith_of_uncut (by decide) (by decide) hpieces

end Connectives

example : split " or " "T.A = 'x'') or (1=1' or T.B = 1"
    = some ["T.A = 'x'') or (1=1'", "T.B = 1"] := by decide +kernel
example : split " or " "T.A = 'x') or (1=1' or T.B = 1" = none := by decide +kernel

theorem passes_empty (level : Nat × Bool) : Passes "" level level :=
  fun mode hmode => ⟨mode, hmode, rfl⟩

theorem Passes.append {text rest : String} {before between after : Nat × Bool}
    (htext : Passes text before between) (hrest : Passes rest between after) :
    Passes (text ++ rest) before after := by
  intro mode hmode
  obtain ⟨mode, hmode, htext⟩ := htext mode hmode
  obtain ⟨mode, hmode, hrest⟩ := hrest mode hmode
  refine ⟨mode, hmode, ?_⟩
  rw [String.toList_append, List.foldlM_append, htext]
  exact hrest

theorem Position.read_eq_code {mode : Mode} (hmode : mode ≠ .literal) (depth : Nat)
    (afterBlank : Bool) (c : Char) :
    Position.read ⟨⟨mode, depth⟩, afterBlank⟩ c
      = Position.read ⟨⟨.code, depth⟩, afterBlank⟩ c := by
  have hread : Place.read ⟨mode, depth⟩ c = Place.read ⟨.code, depth⟩ c := by
    rw [Place.read_eq_readCode hmode, Place.read_eq_readCode (by simp)]
  have htop : Place.isTop ⟨mode, depth⟩ = Place.isTop ⟨.code, depth⟩ := by
    rw [Place.isTop, Place.isTop, bne_iff_ne.mpr hmode]
    rfl
  simp only [Position.read, hread, htop]

theorem passes_of_code {text : String} {c : Char} {rest : List Char} {before after : Nat × Bool}
    (htext : text.toList = c :: rest)
    (h : (c :: rest).foldlM Position.read ⟨⟨.code, before.1⟩, before.2⟩
      = some ⟨⟨.code, after.1⟩, after.2⟩) : Passes text before after := by
  intro mode hmode
  refine ⟨.code, by simp, ?_⟩
  rw [htext, List.foldlM_cons, Position.read_eq_code hmode]
  exact h

/-- Whether a character neither delimits anything nor is white space. -/
def isInert (c : Char) : Bool :=
  c != '\'' && c != '(' && c != ')' && !Text.isBlank c

theorem Position.read_inert {c : Char} (hc : isInert c = true) (depth : Nat) (afterBlank : Bool)
    (hletter : afterBlank = true → c ≠ 'a' ∧ c ≠ 'o') :
    Position.read ⟨⟨.code, depth⟩, afterBlank⟩ c = some ⟨⟨.code, depth⟩, false⟩ := by
  simp only [isInert, Bool.and_eq_true, bne_iff_ne, Bool.not_eq_true'] at hc
  obtain ⟨⟨⟨hquote, hopen⟩, hclose⟩, hblank⟩ := hc
  have hspace : c ≠ ' ' := by
    rintro rfl
    exact absurd hblank (by decide)
  have hread : ¬ ((c == 'a' || c == 'o') && afterBlank) = true := by
    simp only [Bool.and_eq_true, Bool.or_eq_true, beq_iff_eq]
    rintro ⟨hc, hafter⟩
    obtain ⟨ha, ho⟩ := hletter hafter
    exact hc.elim ha ho
  rw [Position.read, if_neg hread, Place.read_eq_readCode (by simp), Place.readCode,
    if_neg hquote, if_neg hopen, if_neg hclose, beq_eq_false_iff_ne.mpr hspace]
  rfl

theorem foldlM_read_inert {text : List Char} (h : ∀ c ∈ text, isInert c = true) (depth : Nat) :
    text.foldlM Position.read ⟨⟨.code, depth⟩, false⟩ = some ⟨⟨.code, depth⟩, false⟩ := by
  induction text with
  | nil => rfl
  | cons c rest ih =>
      have hread := Position.read_inert (h c (by simp)) depth false (by simp)
      rw [List.foldlM_cons, hread]
      exact ih fun d hd => h d (List.mem_cons_of_mem _ hd)

/-- Whether a text has no character that delimits anything and no white space. -/
def isWord (text : String) : Bool :=
  text.toList.all isInert

theorem passes_word {text : String} (h : isWord text = true) (depth : Nat) :
    Passes text (depth, false) (depth, false) := by
  rw [isWord, List.all_eq_true] at h
  cases htext : text.toList with
  | nil =>
      rw [String.toList_eq_nil_iff.mp htext]
      exact passes_empty _
  | cons c rest =>
      rw [htext] at h
      exact passes_of_code htext (foldlM_read_inert h depth)

theorem passes_parens {text : String} {depth : Nat}
    (h : Passes text (depth + 1, false) (depth + 1, false)) (afterBlank : Bool) :
    Passes ("(" ++ text ++ ")") (depth, afterBlank) (depth, false) := by
  have hopen : Passes "(" (depth, afterBlank) (depth + 1, false) := passes_of_code rfl rfl
  have hclose : Passes ")" (depth + 1, false) (depth, false) := passes_of_code rfl rfl
  exact (hopen.append h).append hclose

theorem joinWith_induction {motive : String → Prop} (hempty : motive "")
    (happend : ∀ text rest, motive text → motive rest → motive (text ++ rest))
    {separator : String} {pieces : List String} (hseparator : motive separator)
    (h : ∀ piece ∈ pieces, motive piece) : motive (Text.joinWith separator pieces) := by
  induction pieces with
  | nil => exact hempty
  | cons piece pieces ih =>
      have hpiece := h piece (by simp)
      have hrest := ih fun text htext => h text (List.mem_cons_of_mem _ htext)
      cases pieces with
      | nil => exact hpiece
      | cons next pieces =>
          exact happend _ _ (happend _ _ hpiece hseparator) hrest

theorem passes_joinWith {separator : String} {pieces : List String} {level : Nat × Bool}
    (hseparator : Passes separator level level) (h : ∀ piece ∈ pieces, Passes piece level level) :
    Passes (Text.joinWith separator pieces) level level :=
  joinWith_induction (passes_empty level) (fun _ _ => Passes.append) hseparator h

theorem isPlain_append {text rest : String} (htext : isPlain text = true)
    (hrest : isPlain rest = true) : isPlain (text ++ rest) = true := by
  rw [isPlain, String.toList_append, List.all_append]
  exact Bool.and_eq_true_iff.mpr ⟨htext, hrest⟩

theorem isPlain_joinWith {separator : String} {pieces : List String}
    (hseparator : isPlain separator = true) (h : ∀ piece ∈ pieces, isPlain piece = true) :
    isPlain (Text.joinWith separator pieces) = true :=
  joinWith_induction (show isPlain "" = true from rfl) (fun _ _ => isPlain_append) hseparator h

end ObservationSql.Scanner
