import ObservationSql.Filter.OperatorSet
import ObservationSql.Proofs.Text.Blank

namespace ObservationSql

open Text

/-- Whether a text is the name of an operator, up to the case of ASCII letters and white space
around it. -/
def Operator.IsNamed (operator : Operator) (text : String) : Prop :=
  ∃ word, Surrounds text.toList word ∧ word.map Char.toLower = folded operator.name

namespace Operator

variable {operator other : Operator} {text : String}

theorem folded_names_nodup : (all.map fun operator => folded operator.name).Nodup := by
  decide +kernel

theorem eq_of_folded_name_eq (h : folded operator.name = folded other.name) : operator = other :=
  List.inj_on_of_nodup_map folded_names_nodup operator.mem_all other.mem_all h

theorem folded_name_ne_nil (operator : Operator) : folded operator.name ≠ [] := by
  cases operator <;> decide

theorem isBlank_of_mem_folded_name (operator : Operator) :
    ∀ c ∈ folded operator.name, isBlank c = false := by
  have hletters : ((folded operator.name).all fun c => !isBlank c) = true := by
    cases operator <;> decide +kernel
  simpa using hletters

theorem isNamed_iff : operator.IsNamed text ↔ eqFold operator.name (trim text) = true := by
  have htrimmed : folded (trim text) = (trimChars text.toList).map Char.toLower := by
    rw [folded, trim, String.toList_ofList]
  rw [eqFold_iff, htrimmed]
  constructor
  · rintro ⟨word, hword, hname⟩
    have hne := operator.folded_name_ne_nil
    have hblank := operator.isBlank_of_mem_folded_name
    rw [← hname] at hne hblank
    rw [hword.trimChars_eq (mt List.map_eq_nil_iff.mpr hne), hname]
    intro c hc
    rw [← isBlank_toLower]
    exact hblank _ (List.mem_map_of_mem hc)
  · intro hname
    exact ⟨_, surrounds_trimChars text.toList, hname.symm⟩

theorem IsNamed.unique (h : operator.IsNamed text) (hother : other.IsNamed text) :
    operator = other := by
  have hname := eqFold_iff.mp (isNamed_iff.mp h)
  have hname' := eqFold_iff.mp (isNamed_iff.mp hother)
  exact eq_of_folded_name_eq (hname.trans hname'.symm)

theorem isNamed_of_ofName? (h : ofName? text = some operator) : operator.IsNamed text := by
  unfold ofName? at h
  have hname := List.find?_some h
  exact isNamed_iff.mpr hname

theorem ofName?_eq_some_iff : ofName? text = some operator ↔ operator.IsNamed text := by
  refine ⟨isNamed_of_ofName?, fun hname => ?_⟩
  have hsome : (ofName? text).isSome = true := by
    rw [ofName?, List.find?_isSome]
    exact ⟨operator, operator.mem_all, isNamed_iff.mp hname⟩
  obtain ⟨found, hfound⟩ := Option.isSome_iff_exists.mp hsome
  rw [hfound, (isNamed_of_ofName? hfound).unique hname]

end Operator

theorem OperatorClass.operators_nodup (layer : OperatorClass) : layer.operators.Nodup := by
  have hall : Operator.all.Nodup := by decide
  exact hall.filter _

namespace OperatorSet

variable {set : OperatorSet} {operator : Operator} {text : String}

theorem find_eq_ok_iff :
    set.find text = .ok operator ↔ operator ∈ set.operators ∧ operator.IsNamed text := by
  rw [← Operator.ofName?_eq_some_iff]
  unfold find contains
  cases Operator.ofName? text with
  | none => simp
  | some named =>
      by_cases hmem : named ∈ set.operators
      · simp only [List.contains_iff_mem, hmem, if_true, Except.ok.injEq, Option.some.injEq]
        exact ⟨fun hsame => ⟨hsame ▸ hmem, hsame⟩, And.right⟩
      · simp only [List.contains_iff_mem, hmem, if_false, Option.some.injEq]
        exact iff_of_false nofun fun ⟨hmember, hsame⟩ => hmem (hsame ▸ hmember)

theorem find_eq_error {fault : Fault} (h : set.find text = .error fault) :
    fault = .operationNotFound text := by
  unfold find at h
  split at h
  · split at h
    · cases h
    · exact (Except.error.inj h).symm
  · exact (Except.error.inj h).symm

theorem find_eq_error_iff {fault : Fault} :
    set.find text = .error fault ↔
      fault = .operationNotFound text ∧ ∀ operator ∈ set.operators, ¬operator.IsNamed text := by
  constructor
  · intro hfault
    refine ⟨find_eq_error hfault, fun operator hmem hname => ?_⟩
    rw [find_eq_ok_iff.mpr ⟨hmem, hname⟩] at hfault
    cases hfault
  · rintro ⟨rfl, hnone⟩
    cases hfound : set.find text with
    | ok operator =>
        obtain ⟨hmem, hname⟩ := find_eq_ok_iff.mp hfound
        exact absurd hname (hnone operator hmem)
    | error fault => rw [find_eq_error hfound]

/-- The set that a class of operators gives, or the one without operators. -/
def initial : Option OperatorClass → OperatorSet
  | some layer => ofClass layer
  | none => empty

theorem initial_nodup (layer : Option OperatorClass) : (initial layer).operators.Nodup := by
  cases layer with
  | some layer => exact layer.operators_nodup
  | none => exact List.nodup_nil

theorem register_of_mem (h : operator ∈ set.operators) :
    set.register operator = ⟨(set, false), [.alreadyRegistered operator]⟩ :=
  if_pos (List.contains_iff_mem.mpr h)

theorem register_of_not_mem (h : operator ∉ set.operators) :
    set.register operator = ⟨(⟨set.operators ++ [operator]⟩, true), []⟩ :=
  if_neg (mt List.contains_iff_mem.mp h)

/-- The set after some registrations, one after the other, whether they are refused or not. -/
def registerAll (set : OperatorSet) (operators : List Operator) : OperatorSet :=
  operators.foldl (fun set operator => (set.register operator).value.1) set

theorem registerAll_concat (set : OperatorSet) (operators : List Operator) (operator : Operator) :
    set.registerAll (operators ++ [operator])
      = ((set.registerAll operators).register operator).value.1 := by
  rw [registerAll, List.foldl_append]
  rfl

/-- Those of some operators that are not known before, in the order in which each comes first. -/
structure Newcomers (known operators fresh : List Operator) : Prop where
  mem_iff : ∀ operator, operator ∈ fresh ↔ operator ∈ operators ∧ operator ∉ known
  ordered : fresh.Pairwise fun first second => operators.idxOf first < operators.idxOf second

namespace Newcomers

variable {known operators fresh : List Operator}

theorem nil (known : List Operator) : Newcomers known [] [] where
  mem_iff := by simp
  ordered := List.Pairwise.nil

theorem ordered_concat (h : Newcomers known operators fresh) (operator : Operator) :
    fresh.Pairwise fun first second =>
      (operators ++ [operator]).idxOf first < (operators ++ [operator]).idxOf second := by
  refine h.ordered.imp_of_mem fun hfirst hsecond hless => ?_
  rwa [List.idxOf_append_of_mem ((h.mem_iff _).mp hfirst).1,
    List.idxOf_append_of_mem ((h.mem_iff _).mp hsecond).1]

theorem concat_of_mem (h : Newcomers known operators fresh) (hmem : operator ∈ known ++ fresh) :
    Newcomers known (operators ++ [operator]) fresh where
  mem_iff := by
    intro other
    rw [h.mem_iff, List.mem_append, List.mem_singleton]
    refine ⟨fun ⟨hother, hnew⟩ => ⟨.inl hother, hnew⟩, fun ⟨hother, hnew⟩ => ⟨?_, hnew⟩⟩
    rcases hother with hother | rfl
    · exact hother
    · exact ((h.mem_iff other).mp ((List.mem_append.mp hmem).resolve_left hnew)).1
  ordered := h.ordered_concat operator

theorem concat_of_not_mem (h : Newcomers known operators fresh)
    (hnew : operator ∉ known ++ fresh) :
    Newcomers known (operators ++ [operator]) (fresh ++ [operator]) where
  mem_iff := by
    intro other
    have hknown : operator ∉ known := fun hmem => hnew (List.mem_append_left _ hmem)
    simp only [List.mem_append, List.mem_singleton, h.mem_iff]
    constructor
    · rintro (⟨hother, hother'⟩ | rfl)
      · exact ⟨.inl hother, hother'⟩
      · exact ⟨.inr rfl, hknown⟩
    · rintro ⟨hother | rfl, hother'⟩
      · exact .inl ⟨hother, hother'⟩
      · exact .inr rfl
  ordered := by
    have hoperator : operator ∉ operators := by
      intro hmem
      rw [List.mem_append, not_or, h.mem_iff] at hnew
      exact hnew.2 ⟨hmem, hnew.1⟩
    refine List.pairwise_append.mpr ⟨h.ordered_concat operator, List.pairwise_singleton _ _, ?_⟩
    rintro first hfirst _ hlast
    obtain rfl := List.mem_singleton.mp hlast
    have hbefore := ((h.mem_iff first).mp hfirst).1
    rw [List.idxOf_append_of_mem hbefore, List.idxOf_append_of_notMem hoperator]
    exact Nat.lt_add_right _ (List.idxOf_lt_length_iff.mpr hbefore)

theorem nodup (h : Newcomers known operators fresh) (hknown : known.Nodup) :
    (known ++ fresh).Nodup := by
  refine List.nodup_append.mpr ⟨hknown, h.ordered.imp ?_, ?_⟩
  · rintro first second hless rfl
    exact Nat.lt_irrefl _ hless
  · rintro operator hmem _ hfresh rfl
    exact ((h.mem_iff operator).mp hfresh).2 hmem

end Newcomers

theorem exists_newcomers (set : OperatorSet) (operators : List Operator) :
    ∃ fresh, (set.registerAll operators).operators = set.operators ++ fresh ∧
      Newcomers set.operators operators fresh := by
  induction operators using List.reverseRecOn with
  | nil => exact ⟨[], (List.append_nil _).symm, .nil _⟩
  | append_singleton operators operator ih =>
      obtain ⟨fresh, hoperators, hfresh⟩ := ih
      rw [registerAll_concat]
      by_cases hmem : operator ∈ (set.registerAll operators).operators
      · rw [register_of_mem hmem]
        exact ⟨fresh, hoperators, hfresh.concat_of_mem (hoperators ▸ hmem)⟩
      · rw [register_of_not_mem hmem]
        refine ⟨fresh ++ [operator], ?_, hfresh.concat_of_not_mem (hoperators ▸ hmem)⟩
        rw [hoperators, List.append_assoc]

theorem create_of_subset {larger : OperatorSet}
    (h : ∀ operator ∈ set.operators, operator ∈ larger.operators) {name field : String}
    {literal : Value} {predicate : Predicate}
    (hcreate : set.create name field literal = .ok predicate) :
    larger.create name field literal = .ok predicate := by
  rw [create, bind_eq_ok_iff] at hcreate ⊢
  obtain ⟨operator, hfound, hbuild⟩ := hcreate
  obtain ⟨hmem, hname⟩ := find_eq_ok_iff.mp hfound
  exact ⟨operator, find_eq_ok_iff.mpr ⟨h operator hmem, hname⟩, hbuild⟩

/-- After any registrations, refused ones included, a set has its first operators and behind them
the new ones, each once, as they were registered first. An operator that is there is refused with a
warning, and any other one is put at the end. A text is looked up as the one operator that it names,
if the set has it. Larger sets take all that smaller ones take. -/
theorem registerAll_ordered (layer : Option OperatorClass) (operators : List Operator) :
    let set := (initial layer).registerAll operators
    (∃ fresh, set.operators = (initial layer).operators ++ fresh ∧
        Newcomers (initial layer).operators operators fresh ∧ set.operators.Nodup) ∧
      (∀ operator, operator ∈ set.operators ∧
            set.register operator = ⟨(set, false), [.alreadyRegistered operator]⟩ ∨
          operator ∉ set.operators ∧
            set.register operator = ⟨(⟨set.operators ++ [operator]⟩, true), []⟩) ∧
      (∀ text,
        (∀ operator,
          set.find text = .ok operator ↔ operator ∈ set.operators ∧ operator.IsNamed text) ∧
        (∀ fault, set.find text = .error fault ↔
          fault = .operationNotFound text ∧
            ∀ operator ∈ set.operators, ¬operator.IsNamed text) ∧
        ∀ operator other : Operator,
          operator.IsNamed text → other.IsNamed text → operator = other) ∧
      ∀ larger : OperatorSet, (∀ operator ∈ set.operators, operator ∈ larger.operators) →
        ∀ name field literal predicate, set.create name field literal = .ok predicate →
          larger.create name field literal = .ok predicate := by
  intro set
  obtain ⟨fresh, hoperators, hfresh⟩ := exists_newcomers (initial layer) operators
  refine ⟨⟨fresh, hoperators, hfresh, ?_⟩, fun operator => ?_, fun text => ?_, ?_⟩
  · rw [hoperators]
    exact hfresh.nodup (initial_nodup layer)
  · by_cases hmem : operator ∈ set.operators
    · exact .inl ⟨hmem, register_of_mem hmem⟩
    · exact .inr ⟨hmem, register_of_not_mem hmem⟩
  · exact ⟨fun operator => find_eq_ok_iff, fun fault => find_eq_error_iff,
      fun operator other => Operator.IsNamed.unique⟩
  · intro larger hsubset name field literal predicate hcreate
    exact create_of_subset hsubset hcreate

theorem registerAll_ordered_prefixes :
    let set := (initial none).registerAll [.isNotNull, .lessThanOrEqualTo, .isNotNull, .isNull]
    set.operators = [.isNotNull, .lessThanOrEqualTo, .isNull] ∧
      set.find "\u00a0propertyISnull\t" = .ok .isNull ∧
      set.find " PropertyIsLessThan" = .error (.operationNotFound " PropertyIsLessThan") ∧
      full.create "propertyisnull" "ELEV" .empty = .ok ⟨.isNull, "ELEV", .empty⟩ := by
  intro set
  obtain ⟨-, -, hfind, hlarger⟩ :=
    registerAll_ordered none [.isNotNull, .lessThanOrEqualTo, .isNotNull, .isNull]
  have hoperators : set.operators = [.isNotNull, .lessThanOrEqualTo, .isNull] := by decide
  refine ⟨hoperators, ?_, ?_, ?_⟩
  · refine ((hfind _).1 _).mpr ⟨by decide, Operator.isNamed_iff.mpr ?_⟩
    decide +kernel
  · refine ((hfind _).2.1 _).mpr ⟨rfl, ?_⟩
    change ∀ operator ∈ set.operators, _
    rw [hoperators]
    simp only [Operator.isNamed_iff]
    decide +kernel
  · exact hlarger full (by decide) _ _ _ _ (by decide +kernel)

end OperatorSet

end ObservationSql
