import ObservationSql.Proofs.Sql.Scanner

namespace ObservationSql.Scanner

/-- Whether all literals and parentheses of a text are closed in it, and none is closed twice. -/
def Closed (text : String) : Prop :=
  ∀ mode, mode ≠ Mode.literal → ∃ mode', mode' ≠ Mode.literal ∧
    text.toList.foldlM Place.read ⟨mode, 0⟩ = some ⟨mode', 0⟩

theorem closed_of_isPlain {text : String} (h : isPlain text = true) : Closed text := by
  rw [isPlain, List.all_eq_true] at h
  intro mode hmode
  generalize text.toList = chars at h
  induction chars generalizing mode with
  | nil => exact ⟨mode, hmode, rfl⟩
  | cons c rest ih =>
      obtain ⟨mode', hmode', hrest⟩ := ih .code (by simp) fun d hd => h d (List.mem_cons_of_mem c hd)
      refine ⟨mode', hmode', ?_⟩
      rw [List.foldlM_cons, Place.read_plain (h c (by simp)) hmode]
      exact hrest

theorem Closed.append {text rest : String} (htext : Closed text) (hrest : Closed rest) :
    Closed (text ++ rest) := by
  intro mode hmode
  obtain ⟨mode, hmode, htext⟩ := htext mode hmode
  obtain ⟨mode, hmode, hrest⟩ := hrest mode hmode
  refine ⟨mode, hmode, ?_⟩
  rw [String.toList_append, List.foldlM_append, htext]
  exact hrest

theorem closed_joinWith {separator : String} {pieces : List String} (hseparator : Closed separator)
    (h : ∀ piece ∈ pieces, Closed piece) : Closed (Text.joinWith separator pieces) :=
  joinWith_induction (closed_of_isPlain rfl) (fun _ _ => Closed.append) hseparator h

theorem Passes.closed {text : String} {afterBlank afterBlank' : Bool}
    (h : Passes text (0, afterBlank) (0, afterBlank')) : Closed text := by
  have hread : ∀ {chars : List Char} {position stop : Position},
      chars.foldlM Position.read position = some stop →
        chars.foldlM Place.read position.place = some stop.place := by
    intro chars
    induction chars with
    | nil =>
        intro position stop h
        exact congrArg _ (congrArg _ (Option.some.inj h))
    | cons c rest ih =>
        intro position stop h
        obtain ⟨next, hnext, hrest⟩ := foldlM_read_cons h
        rw [List.foldlM_cons, (Position.read_eq_some hnext).1]
        exact ih hrest
  intro mode hmode
  obtain ⟨mode', hmode', hpasses⟩ := h mode hmode
  exact ⟨mode', hmode', hread hpasses⟩

/-- The same place inside one more parenthesis. -/
def Place.deeper (place : Place) : Place :=
  ⟨place.mode, place.depth + 1⟩

theorem Place.isTop_deeper (place : Place) : place.deeper.isTop = false := by
  simp [isTop, deeper]

theorem Place.readCode_deeper {depth : Nat} {c : Char} {next : Place}
    (h : readCode depth c = some next) : readCode (depth + 1) c = some next.deeper := by
  unfold readCode at h
  split at h
  · next hquote =>
    obtain rfl := Option.some.inj h
    rw [readCode, if_pos hquote]
    rfl
  · next hquote =>
    split at h
    · next hopen =>
      obtain rfl := Option.some.inj h
      rw [readCode, if_neg hquote, if_pos hopen]
      rfl
    · next hopen =>
      split at h
      · next hclose =>
        split at h
        · exact absurd h (by simp)
        · next hdepth =>
          obtain rfl := Option.some.inj h
          rw [readCode, if_neg hquote, if_neg hopen, if_pos hclose,
            if_neg (Nat.succ_ne_zero depth), deeper, Nat.sub_add_cancel (Nat.pos_of_ne_zero hdepth)]
          rfl
      · next hclose =>
        obtain rfl := Option.some.inj h
        rw [readCode, if_neg hquote, if_neg hopen, if_neg hclose]
        rfl

theorem Place.read_deeper {place next : Place} {c : Char} (h : place.read c = some next) :
    place.deeper.read c = some next.deeper := by
  obtain ⟨mode, depth⟩ := place
  by_cases hmode : mode = .literal
  · subst hmode
    obtain rfl := Option.some.inj h
    simp only [read, deeper]
    split <;> rfl
  · rw [read_eq_readCode hmode] at h
    rw [deeper, read_eq_readCode hmode]
    exact readCode_deeper h

theorem piecesFrom_deeper {separator text : List Char} {place stop : Place}
    (h : text.foldlM Place.read place = some stop) (piece tail : List Char) :
    piecesFrom separator place.deeper 0 piece (text ++ tail)
      = piecesFrom separator stop.deeper 0 (piece ++ text) tail := by
  induction text generalizing place piece with
  | nil =>
      obtain rfl := Option.some.inj h
      rw [List.nil_append, List.append_nil]
  | cons c rest ih =>
      rw [List.foldlM_cons] at h
      obtain ⟨next, hread, hrest⟩ := Option.bind_eq_some_iff.mp h
      have hcut : ¬ (place.deeper.isTop && separator.isPrefixOf (c :: (rest ++ tail))) = true := by
        rw [Place.isTop_deeper]
        simp
      rw [List.cons_append, piecesFrom, Place.read_deeper hread]
      simp only [Option.bind_eq_bind, Option.bind_some, if_neg hcut]
      rw [ih hrest, List.append_assoc, List.singleton_append]

theorem foldlM_read_deeper {text : List Char} {place stop : Place}
    (h : text.foldlM Place.read place = some stop) :
    text.foldlM Place.read place.deeper = some stop.deeper := by
  induction text generalizing place with
  | nil => exact congrArg _ (congrArg _ (Option.some.inj h))
  | cons c rest ih =>
      rw [List.foldlM_cons] at h
      obtain ⟨next, hread, hrest⟩ := Option.bind_eq_some_iff.mp h
      rw [List.foldlM_cons, Place.read_deeper hread]
      exact ih hrest

theorem Place.read_open {mode : Mode} (hmode : mode ≠ .literal) (depth : Nat) :
    read ⟨mode, depth⟩ '(' = some (deeper ⟨.code, depth⟩) := by
  rw [read_eq_readCode hmode]
  rfl

theorem Place.read_close {mode : Mode} (hmode : mode ≠ .literal) (depth : Nat) :
    (deeper ⟨mode, depth⟩).read ')' = some ⟨.code, depth⟩ := by
  rw [deeper, read_eq_readCode hmode]
  rfl

theorem parens_toList (inside : String) :
    ("(" ++ inside ++ ")").toList = '(' :: (inside.toList ++ [')']) := by
  rw [String.toList_append, String.toList_append]
  rfl

theorem Closed.parens {inside : String} (h : Closed inside) : Closed ("(" ++ inside ++ ")") := by
  intro mode hmode
  obtain ⟨mode', hmode', hinside⟩ := h .code (by simp)
  refine ⟨.code, by simp, ?_⟩
  rw [parens_toList, List.foldlM_cons, Place.read_open hmode]
  simp only [Option.bind_eq_bind, Option.bind_some]
  rw [List.foldlM_append, foldlM_read_deeper hinside]
  simp only [Option.bind_eq_bind, Option.bind_some]
  rw [List.foldlM_cons, Place.read_close hmode']
  rfl

theorem Closed.uncut_parens {separator inside : String} (h : Closed inside)
    (hplain : isPlain separator = true) (hne : separator ≠ "") :
    Uncut separator ("(" ++ inside ++ ")") := by
  intro mode hmode
  obtain ⟨mode', hmode', hinside⟩ := h .code (by simp)
  refine ⟨.code, by simp, fun piece tail => ?_⟩
  have hopen : ∀ rest, separator.toList.isPrefixOf ('(' :: rest) = false := by
    intro rest
    rw [isPlain, List.all_eq_true] at hplain
    cases hletters : separator.toList with
    | nil => exact absurd (String.toList_eq_nil_iff.mp hletters) hne
    | cons c letters =>
        have hc : c ≠ '(' := by
          rintro rfl
          exact absurd (hplain '(' (by rw [hletters]; simp)) (by decide)
        rw [List.isPrefixOf_cons_cons, beq_false_of_ne hc]
        rfl
  rw [parens_toList, List.cons_append, piecesFrom, Place.read_open hmode, hopen]
  simp only [Option.bind_eq_bind, Option.bind_some, Bool.and_false, Bool.false_eq_true, if_false]
  rw [List.append_assoc, piecesFrom_deeper hinside, List.singleton_append, piecesFrom,
    Place.read_close hmode', Place.isTop_deeper]
  simp

/-- What is left of a group whose parenthesis has been opened, up to the one that closes it. -/
def insideFrom : Place → List Char → List Char → Option (List Char)
  | _, _, [] => none
  | place, inside, c :: rest =>
      match place.read c with
      | some next => insideFrom next (inside ++ [c]) rest
      | none => some inside

/-- The text in front of the first group that is not part of a literal, and the inside of that
group. -/
def groupFrom : Place → List Char → List Char → Option (List Char × List Char)
  | _, _, [] => none
  | place, before, c :: rest =>
      if place.mode ≠ .literal ∧ c = '(' then
        (insideFrom .start [] rest).map fun inside => (before, inside)
      else (place.read c).bind fun next => groupFrom next (before ++ [c]) rest

/-- What stands before the first group of a text, and what stands inside it. -/
def firstGroup? (text : String) : Option (String × String) :=
  (groupFrom .start [] text.toList).map fun (before, inside) =>
    (String.ofList before, String.ofList inside)

theorem insideFrom_append {text : List Char} {place stop : Place}
    (h : text.foldlM Place.read place = some stop) (inside tail : List Char) :
    insideFrom place inside (text ++ tail) = insideFrom stop (inside ++ text) tail := by
  induction text generalizing place inside with
  | nil =>
      obtain rfl := Option.some.inj h
      rw [List.nil_append, List.append_nil]
  | cons c rest ih =>
      rw [List.foldlM_cons] at h
      obtain ⟨next, hread, hrest⟩ := Option.bind_eq_some_iff.mp h
      rw [List.cons_append, insideFrom, hread]
      simp only [ih hrest, List.append_assoc, List.singleton_append]

theorem Closed.insideFrom {inside : String} (h : Closed inside) (tail : List Char) :
    insideFrom .start [] (inside.toList ++ ')' :: tail) = some inside.toList := by
  obtain ⟨mode, hmode, hinside⟩ := h .code (by simp)
  have hclose : Place.read ⟨mode, 0⟩ ')' = none := by
    rw [Place.read_eq_readCode hmode]
    rfl
  rw [Place.start, insideFrom_append hinside, Scanner.insideFrom, hclose, List.nil_append]

theorem groupFrom_append {text : List Char} (h : ∀ c ∈ text, isPlainChar c = true)
    (before tail : List Char) :
    groupFrom .start before (text ++ tail) = groupFrom .start (before ++ text) tail := by
  induction text generalizing before with
  | nil => rw [List.nil_append, List.append_nil]
  | cons c rest ih =>
      have hc := h c (by simp)
      have hopen : ¬ (Place.start.mode ≠ .literal ∧ c = '(') := by
        rintro ⟨-, rfl⟩
        exact absurd hc (by decide)
      have hread : Place.start.read c = some .start := Place.read_plain hc (by simp) 0
      rw [List.cons_append, groupFrom, if_neg hopen, hread, Option.bind_some,
        ih fun d hd => h d (List.mem_cons_of_mem c hd), List.append_assoc, List.singleton_append]

theorem firstGroup?_eq {before inside : String} (hbefore : isPlain before = true)
    (hinside : Closed inside) (tail : String) :
    firstGroup? (before ++ ("(" ++ inside ++ ")") ++ tail) = some (before, inside) := by
  rw [isPlain, List.all_eq_true] at hbefore
  rw [firstGroup?, String.toList_append, String.toList_append, parens_toList, List.append_assoc,
    groupFrom_append hbefore, List.cons_append, groupFrom, if_pos ⟨by decide, rfl⟩,
    List.append_assoc, List.singleton_append, hinside.insideFrom]
  simp

end ObservationSql.Scanner
