import ObservationSql.Proofs.Yaml.Decode
import ObservationSql.Proofs.Yaml.Writer
import ObservationSql.Settings

namespace ObservationSql

open Yaml

namespace Settings

theorem isAlphanum_flagText (flag : Bool) : ∀ c ∈ (flagText flag).toList, c.isAlphanum = true := by
  rw [← List.all_eq_true]
  cases flag <;> decide

theorem toList_flagText_ne_nil (flag : Bool) : (flagText flag).toList ≠ [] := by
  cases flag <;> decide

theorem isAlphanum_digits (n : Nat) : ∀ c ∈ Decimal.digits n, c.isAlphanum = true := by
  intro c hc
  rw [Char.isAlphanum, Decimal.isDigit_of_mem_digits c hc, Bool.or_true]

def entries (settings : Settings) : List Entry :=
  [.ofText "schemaDir" (by decide) settings.schemaDir,
    .ofText "schemaSuffix" (by decide) settings.schemaSuffix,
    .ofWord "caseSensitiveNames" (by decide)
      (flagText settings.caseSensitiveNames).toList (toList_flagText_ne_nil _)
      (isAlphanum_flagText _),
    .ofText "dialect" (by decide) settings.dialectName,
    .ofWord "floatPrecision" (by decide)
      (Decimal.digits settings.floatPrecision) (Decimal.digits_ne_nil _) (isAlphanum_digits _)]

theorem toYaml_eq (settings : Settings) :
    settings.toYaml = String.ofList (settings.entries.flatMap Entry.line) := by
  simp [toYaml, entries, Entry.line, Entry.ofText, Entry.ofWord]

theorem decode_entries (settings : Settings) (hprecision : settings.floatPrecision < 2 ^ 64) :
    decode (.mapping {} (settings.entries.map Entry.nodes)) = pure settings := by
  have hflag : Decode.flag (.scalar {} .plain
      (String.ofList (flagText settings.caseSensitiveNames).toList)) =
        pure settings.caseSensitiveNames := by
    rw [String.ofList_toList]
    exact Decode.flag_scalar settings.caseSensitiveNames
  rw [decode, Decode.record_nodes, pure_bind,
    Decode.field_eq_pure rfl (Decode.text_scalar _ _ _), pure_bind]
  dsimp only
  rw [Decode.fieldOr_eq_pure rfl (Decode.text_scalar _ _ _), pure_bind,
    Decode.fieldOr_eq_pure rfl hflag, pure_bind,
    Decode.fieldOr_eq_pure rfl (Decode.text_scalar _ _ _), pure_bind,
    Decode.fieldOr_eq_pure rfl (Decode.natural_scalar hprecision), pure_bind]
  rfl

/-- Settings written as a document are read back as they were, for every text as the directory, the
suffix and the dialect; so the dialect they stand for is the same. -/
theorem ofYaml_toYaml (settings : Settings) (hprecision : settings.floatPrecision < 2 ^ 64) :
    ofYaml settings.toYaml = .ok settings ∧
      dialect <$> ofYaml settings.toYaml = .ok settings.dialect := by
  have hread : ofYaml settings.toYaml = .ok settings := by
    have hne : settings.entries ≠ [] := List.cons_ne_nil _ _
    rw [ofYaml, toYaml_eq, decode?_entries hne (decode_entries settings hprecision)]
  rw [hread]
  exact ⟨rfl, rfl⟩

theorem ofYaml_toYaml_styles :
    let settings : Settings :=
      { schemaDir := "it's # a\n  b \\\n\n"
        schemaSuffix := ""
        caseSensitiveNames := true
        dialectName := "~\t"
        floatPrecision := 18446744073709551615 }
    settings.toYaml =
        "schemaDir: |+\n  it's # a\n    b \\\n\nschemaSuffix: ''\ncaseSensitiveNames: true\n"
          ++ "dialect: \"~\\t\"\nfloatPrecision: 18446744073709551615\n" ∧
      settings.floatPrecision < 2 ^ 64 ∧ ofYaml settings.toYaml = .ok settings ∧
        dialect <$> ofYaml settings.toYaml = .ok settings.dialect := by
  intro settings
  have hprecision : settings.floatPrecision < 2 ^ 64 := by decide
  exact ⟨by decide +kernel, hprecision, ofYaml_toYaml settings hprecision⟩

end Settings

end ObservationSql
