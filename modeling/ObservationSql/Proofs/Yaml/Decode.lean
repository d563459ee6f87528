import ObservationSql.Proofs.Decimal.Reading
import ObservationSql.Proofs.Yaml.Node.Entry
import ObservationSql.Yaml.Decode

namespace ObservationSql.Yaml

/-! ### Numerals -/

theorem hexDigit?_of_isDigit {c : Char} (h : c.isDigit = true) :
    hexDigit? c = some (c.toNat - 0x30) :=
  if_pos h

theorem digitsFrom?_of_isDigit {text : List Char} (h : ∀ c ∈ text, c.isDigit = true)
    (value : Nat) : digitsFrom? 10 value text = some (Nat.ofDigitChars 10 text value) := by
  induction text generalizing value with
  | nil => rfl
  | cons c text ih =>
      rw [List.forall_mem_cons] at h
      have hdigit : c.toNat - 0x30 < 10 := by
        have hc : 0x30 ≤ c.toNat ∧ c.toNat ≤ 0x39 := Char.isDigit_iff_toNat.mp h.1
        omega
      rw [digitsFrom?, hexDigit?_of_isDigit h.1, Option.bind_eq_bind, Option.bind_some,
        if_pos hdigit, ih h.2, Nat.ofDigitChars_cons]
      rfl

theorem head?_digits_ne {n : Nat} (hn : 0 < n) : (Decimal.digits n).head? ≠ some '0' := by
  induction n using Nat.strongRecOn with
  | ind n ih =>
      unfold Decimal.digits at ih ⊢
      by_cases hsmall : n < 10
      · rw [Nat.toDigits_of_lt_base hsmall, List.head?_cons, ne_eq, Option.some.injEq,
          Nat.digitChar_eq_zero]
        exact Nat.ne_of_gt hn
      · rw [Nat.toDigits_of_base_le (by decide) (by omega),
          List.head?_append_of_ne_nil _ Nat.toDigits_ne_nil]
        exact ih (n / 10) (by omega) (by omega)

theorem natural?_cons {c : Char} (hdigit : c.isDigit = true) (hzero : c ≠ '0')
    (rest : List Char) : natural? (c :: rest) = digitsFrom? 10 0 (c :: rest) := by
  have hplus : c ≠ '+' := by
    rintro rfl
    exact nomatch hdigit
  have hminus : c ≠ '-' := by
    rintro rfl
    exact nomatch hdigit
  simp [natural?, isZeroPadded, withoutSign, withoutPlus, magnitude?, digits?, hplus, hminus, hzero]

theorem natural?_digits (n : Nat) : natural? (Decimal.digits n) = some n := by
  rcases Nat.eq_zero_or_pos n with rfl | hn
  · rfl
  · have hdigits : ∀ c ∈ Decimal.digits n, c.isDigit = true := Decimal.isDigit_of_mem_digits
    have hhead := head?_digits_ne hn
    obtain ⟨c, rest, hcons⟩ := List.exists_cons_of_ne_nil (Decimal.digits_ne_nil n)
    rw [hcons, List.head?_cons] at hhead
    have hc : c.isDigit = true := hdigits c (hcons ▸ List.mem_cons_self)
    rw [hcons, natural?_cons hc (fun hzero => hhead (congrArg some hzero)), ← hcons,
      digitsFrom?_of_isDigit hdigits]
    exact congrArg some Nat.ofDigitChars_ten_toDigits

/-! ### Records -/

namespace Decode

def fields (entries : List Entry) : List (String × Node) :=
  entries.map fun entry => (entry.key, .scalar {} entry.style entry.text)

theorem follow_scalar (properties : Properties) (style : ScalarStyle) (content : String) :
    follow (.scalar properties style content) = pure (.scalar properties style content) :=
  rfl

theorem text_scalar (properties : Properties) (style : ScalarStyle) (content : String) :
    text (.scalar properties style content) = pure content :=
  rfl

theorem keyed_nodes (entries : List Entry) :
    keyed (entries.map Entry.nodes) = pure (fields entries) := by
  induction entries with
  | nil => rfl
  | cons entry entries ih =>
      rw [List.map_cons, Entry.nodes, keyed, text_scalar, pure_bind, ih, pure_bind]
      rfl

theorem record_nodes (entries : List Entry) :
    record (.mapping {} (entries.map Entry.nodes)) = pure (fields entries) :=
  keyed_nodes entries

section Field

variable {α : Type} {given : List (String × Node)} {key : String} {node : Node}
  {decode : Node → Decode α} {value : α}

theorem field?_eq_pure (hfound : given.filter (fun entry => entry.1 == key) = [(key, node)])
    (hdecode : decode node = pure value) : field? given key decode = pure (some value) := by
  rw [field?, hfound]
  simp [hdecode]

theorem field_eq_pure (hfound : given.filter (fun entry => entry.1 == key) = [(key, node)])
    (hdecode : decode node = pure value) : field given key decode = pure value := by
  rw [field, field?_eq_pure hfound hdecode, pure_bind]

theorem fieldOr_eq_pure (hfound : given.filter (fun entry => entry.1 == key) = [(key, node)])
    (hdecode : decode node = pure value) (default : α) :
    fieldOr given key decode default = pure value := by
  rw [fieldOr, field?_eq_pure hfound hdecode, pure_bind]
  rfl

end Field

theorem flag_scalar (content : Bool) :
    flag (.scalar {} .plain (if content then "true" else "false")) = pure content := by
  cases content <;> rfl

theorem natural_scalar {n : Nat} (hn : n < twoTo 64) :
    natural (.scalar {} .plain (Decimal.ofNat n)) = pure n := by
  have hn' : natural? (Decimal.ofNat n).toList = some n := by
    rw [Decimal.ofNat, String.toList_ofList, natural?_digits]
  rw [natural, follow_scalar, pure_bind]
  simp only [hn']
  exact if_pos ⟨hn, rfl⟩

end Decode

theorem decode?_entries {α : Type} {decode : Node → Decode α} {answer : α} {entries : List Entry}
    (hne : entries ≠ [])
    (h : decode (.mapping {} (entries.map Entry.nodes)) = pure answer) :
    decode? decode (String.ofList (entries.flatMap Entry.line)) = some answer := by
  rw [decode?, String.toList_ofList, tokens?_entries hne, Option.bind_eq_bind, Option.bind_some,
    ofTokens?_entries, Option.bind_eq_bind, Option.bind_some, Decode.run, h]
  rfl

end ObservationSql.Yaml
