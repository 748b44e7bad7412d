import DesignMarkup.Proofs.Json.Compact
import DesignMarkup.Proofs.Text.Script
import Mathlib.Tactic.IntervalCases
/-!
String literals of the script between any quotes. A quoted JSON text is such a literal, and stands
for the text that it was written from.
-/
namespace DesignMarkup.Script

theorem escape_escaped : ∀ c ∈ Json.escaped, ∃ body, Json.escapedChar c = '\\' :: body ∧
    ∀ rest, escape (body ++ rest) = some (codeUnits c.toNat, rest) := by
  refine List.forall_mem_append.2 ⟨?quotes, List.forall_mem_map.2 fun n below => ?controls⟩
  case quotes =>
    exact List.forall_mem_cons.2 ⟨⟨['"'], rfl, fun _ => rfl⟩,
      List.forall_mem_singleton.2 ⟨['\\'], rfl, fun _ => rfl⟩⟩
  case controls =>
    have low := List.mem_range.1 below
    interval_cases n <;> exact ⟨_, rfl, fun _ => rfl⟩

theorem readTo_escapedChar (c : Char) (rest : List Char) :
    readTo '"' (Json.escapedChar c ++ rest) =
      (readTo '"' rest).map fun (more, after) => (codeUnits c.toNat ++ more, after) := by
  by_cases member : c ∈ Json.escaped
  · obtain ⟨body, text, stands⟩ := escape_escaped c member
    rw [text, List.cons_append, readTo_backslash, stands, Option.bind_some]
  · have apart : c ∉ ['\\', '"', '\n', '\r'] := fun special =>
      member ((by decide : ['\\', '"', '\n', '\r'] ⊆ Json.escaped) special)
    rw [Json.escapedChar_plain member, List.singleton_append, readTo_other apart]

theorem readTo_quoted (text rest : List Char) :
    readTo '"' (text.flatMap Json.escapedChar ++ '"' :: rest) = some (units text, rest) := by
  induction text with
  | nil =>
    rw [List.flatMap_nil, List.nil_append, readTo_mark (by decide)]
    rfl
  | cons c text ih =>
    rw [List.flatMap_cons, List.append_assoc, readTo_escapedChar, ih, units_cons]
    rfl

end DesignMarkup.Script
