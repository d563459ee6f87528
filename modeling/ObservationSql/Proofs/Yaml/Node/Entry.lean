import ObservationSql.Proofs.Yaml.Token.Entry
import ObservationSql.Yaml.Node.OfTokens

namespace ObservationSql.Yaml

open ReadTokens

def Entry.nodes (entry : Entry) : Node × Node :=
  (.scalar {} .plain entry.key, .scalar {} entry.style entry.text)

variable {anchors : List (String × Nat)} {handles : List (String × List UInt8)}

theorem readBlockEntries_cons (entry : Entry) (rest : List Token) (fuel : Nat) :
    readBlockEntries (fuel + 5) ⟨entry.tokens ++ rest, anchors, handles⟩ =
      (readBlockEntries (fuel + 4) ⟨rest, anchors, handles⟩).map
        fun (entries, reader) => (entry.nodes :: entries, reader) := by
  -- The reader computes on the four tokens of the entry, and goes on behind them.
  change (readBlockEntries (fuel + 4) ⟨rest, anchors, handles⟩).bind _ = _
  cases readBlockEntries (fuel + 4) ⟨rest, anchors, handles⟩ <;> rfl

theorem readBlockEntries_entries (entries : List Entry) {fuel : Nat}
    (hfuel : entries.length + 5 ≤ fuel) :
    readBlockEntries fuel ⟨entries.flatMap Entry.tokens ++ [.blockEnd], anchors, handles⟩ =
      some (entries.map Entry.nodes, ⟨[], anchors, handles⟩) := by
  induction entries generalizing fuel with
  | nil =>
      obtain ⟨left, rfl⟩ : ∃ left, fuel = left + 1 := ⟨fuel - 1, by omega⟩
      rfl
  | cons entry entries ih =>
      rw [List.length_cons] at hfuel
      obtain ⟨left, rfl⟩ : ∃ left, fuel = left + 5 := ⟨fuel - 5, by omega⟩
      rw [List.flatMap_cons, List.append_assoc, readBlockEntries_cons, ih (by omega)]
      rfl

theorem readNode_blockMapping (rest : List Token) (fuel : Nat) :
    readNode (fuel + 2) .block ⟨.blockMappingStart :: rest, anchors, handles⟩ =
      (readBlockEntries fuel ⟨rest, anchors, handles⟩).map
        fun (entries, reader) => (.mapping {} entries, reader) := by
  change (readBlockEntries fuel ⟨rest, anchors, handles⟩).bind _ = _
  cases readBlockEntries fuel ⟨rest, anchors, handles⟩ <;> rfl

theorem length_le_flatMap_tokens (entries : List Entry) :
    entries.length ≤ (entries.flatMap Entry.tokens).length := by
  induction entries with
  | nil => exact Nat.zero_le _
  | cons entry entries ih =>
      simp only [List.flatMap_cons, List.length_append, List.length_cons, Entry.tokens]
      omega

theorem ofTokens?_entries (entries : List Entry) :
    Node.ofTokens? (.blockMappingStart :: entries.flatMap Entry.tokens ++ [.blockEnd]) =
      some (.mapping {} (entries.map Entry.nodes)) := by
  let tokens := entries.flatMap Entry.tokens ++ [.blockEnd]
  have hfuel : entries.length + 5 ≤ 4 * (tokens.length + 1) + 2 := by
    have hlength := length_le_flatMap_tokens entries
    simp only [tokens, List.length_append]
    omega
  change ReadTokens.runAll (readNode (4 * (tokens.length + 1) + 2 + 2) .block)
    ⟨.blockMappingStart :: tokens, [], standardHandles⟩ = _
  rw [runAll, readNode_blockMapping, readBlockEntries_entries entries hfuel]
  rfl

end ObservationSql.Yaml
