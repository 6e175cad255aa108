import Mathlib.Tactic.Common
import RuleMetrics.Rule.Message

/-!
# Messages

A template is a row of places with texts between them that have no opening brace.  Each text stands
for itself (`fill_text_append`) and each place for its parameter (`fill_slot`), so a message is
found piece by piece.  Parameters are not looked into.
-/

namespace RuleMetrics.Template

variable {n : Nat} {text rest : List Char} {parameters : List String}

lemma tokens_append_of_not_mem (htext : '\x7b' ∉ text) :
    tokens n (text ++ rest) = text.map Token.literal ++ tokens n rest := by
  induction text with
  | nil => rfl
  | cons c text ih =>
    rw [List.mem_cons, not_or] at htext
    rw [List.cons_append, tokens, if_neg (Ne.symm htext.1), ih htext.2]
    rfl

lemma tokens_of_slot? {written after : List Char} {index : Nat}
    (h : slot? n rest = some (written, index, after)) :
    tokens n ('\x7b' :: rest) = Token.slot written index :: tokens n after := by
  rw [tokens, if_pos rfl]
  split
  · next written' index' after' h' =>
    rw [h] at h'
    cases h'
    rfl
  · next h' =>
    rw [h] at h'
    cases h'

/-- A text before the rest of a template. -/
lemma fill_text_append (htext : '\x7b' ∉ text) :
    (tokens n (text ++ rest)).flatMap (Token.fill parameters) =
      text ++ (tokens n rest).flatMap (Token.fill parameters) := by
  rw [tokens_append_of_not_mem htext, List.flatMap_append, List.flatMap_map]
  exact congrArg (· ++ _) (List.flatMap_singleton' text)

/-- A place before the rest of a template. -/
lemma fill_slot {written after : List Char} {index : Nat}
    (h : slot? n rest = some (written, index, after)) :
    (tokens n ('\x7b' :: rest)).flatMap (Token.fill parameters) =
      (parameters[index]?.getD "").toList ++
        (tokens n after).flatMap (Token.fill parameters) := by
  rw [tokens_of_slot? h, List.flatMap_cons]
  rfl

end RuleMetrics.Template
