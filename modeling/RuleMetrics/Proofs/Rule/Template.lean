import Mathlib.Data.List.Basic
import Mathlib.Logic.Function.Iterate
import RuleMetrics.Proofs.Decimal.Digits
import RuleMetrics.Proofs.Rule.Message
import RuleMetrics.Proofs.Text.Pieces

/-!
# Templates taken apart

For a number of parameters there is one way to take a template apart into tokens (`TakenApart`): an
opening brace begins a place if what stands up to the next closing brace is the number of a
parameter, and every other character stands for itself.  A number holds no brace, so an opening
brace is never inside a place, and each is judged by what follows it alone (`tokens_append_brace`).

A message is the tokens with the parameters put into the places, whatever the parameters contain
(`messages_settled`).  It is found by a scan that goes from one opening brace to the next and takes
one more turn than there are braces at the most (`exists_turns`).
-/

namespace RuleMetrics.Template

/-! ## Tokens and places -/

/-- A token as it is written in a template. -/
def Token.written : Token → List Char
  | .literal c => [c]
  | .slot written _ => '\x7b' :: (written ++ ['\x7d'])

lemma Token.written_ne_nil (token : Token) : token.written ≠ [] := by
  cases token with
  | literal c => exact List.cons_ne_nil c []
  | slot written index => exact List.cons_ne_nil _ _

/-- A decimal number, perhaps with a plus sign in front. -/
def IsNumeral (written : List Char) (index : ℕ) : Prop :=
  ∃ digits, (written = digits ∨ written = '+' :: digits) ∧ digits ≠ [] ∧
    (∀ c ∈ digits, c.isDigit = true) ∧ Nat.ofDigitChars 10 digits 0 = index

/-- What follows an opening brace makes it a place for one of `n` parameters: up to the next closing
brace it is the number of one. -/
def OpensSlot (n : ℕ) (rest written : List Char) (index : ℕ) (after : List Char) : Prop :=
  rest = written ++ '\x7d' :: after ∧ '\x7d' ∉ written ∧ IsNumeral written index ∧ index < n

/-- What token an opening brace begins, with `rest` after it: a place if one opens there, and else
the brace itself. -/
inductive BeginsAtBrace (n : ℕ) (rest : List Char) : Token → Prop
  | slot {written : List Char} {index : ℕ} {after : List Char}
      (h : OpensSlot n rest written index after) : BeginsAtBrace n rest (.slot written index)
  | literal (h : ∀ written index after, ¬ OpensSlot n rest written index after) :
      BeginsAtBrace n rest (.literal '\x7b')

/-- The tokens of a template for `n` parameters. -/
structure TakenApart (n : ℕ) (template : List Char) (tokens : List Token) : Prop where
  /-- Only parameters that there are have places. -/
  index_lt : ∀ written index, .slot written index ∈ tokens → index < n
  /-- Nothing of the template is lost. -/
  written_eq : tokens.flatMap Token.written = template
  /-- Every opening brace begins a token, and what follows it decides which. -/
  token_of_brace : ∀ before rest, template = before ++ '\x7b' :: rest →
    ∃ done token todo, tokens = done ++ token :: todo ∧ done.flatMap Token.written = before ∧
      BeginsAtBrace n rest token

/-! ## How places are found -/

section Slot

variable {n index : ℕ} {before rest written after : List Char}

lemma readIndex?_eq_some_iff : readIndex? written = some index ↔ IsNumeral written index := by
  unfold IsNumeral
  constructor
  · intro h
    unfold readIndex? at h
    split at h
    · next digits => exact ⟨digits, Or.inr rfl, Decimal.readNat?_eq_some_iff.mp h⟩
    · exact ⟨written, Or.inl rfl, Decimal.readNat?_eq_some_iff.mp h⟩
  · rintro ⟨digits, rfl | rfl, hdigits⟩
    · unfold readIndex?
      split
      · exact absurd (hdigits.2.1 '+' List.mem_cons_self) (by decide)
      · exact Decimal.readNat?_eq_some_iff.mpr hdigits
    · exact Decimal.readNat?_eq_some_iff.mpr hdigits

/-- A number holds no brace. -/
lemma IsNumeral.brace_not_mem (h : IsNumeral written index) : '\x7b' ∉ written := by
  obtain ⟨digits, hwritten, -, hdigits, -⟩ := h
  have hbrace : '\x7b' ∉ digits := by
    intro hmem
    exact absurd (hdigits _ hmem) (by decide)
  rcases hwritten with rfl | rfl
  · exact hbrace
  · rw [List.mem_cons, not_or]
    exact ⟨by decide, hbrace⟩

lemma slot?_eq_some_iff :
    slot? n rest = some (written, index, after) ↔ OpensSlot n rest written index after := by
  unfold slot? OpensSlot
  constructor
  · intro h
    split at h
    · cases h
    · next w a hcut =>
      split at h
      · next i hindex =>
        split at h
        · next hlt =>
          cases h
          obtain ⟨hrest, hwritten⟩ := Text.eq_append_of_cut hcut
          exact ⟨hrest, hwritten, readIndex?_eq_some_iff.mp hindex, hlt⟩
        · cases h
      · cases h
  · rintro ⟨rfl, hwritten, hnumeral, hlt⟩
    simp only [Text.cut_append_cons hwritten, readIndex?_eq_some_iff.mpr hnumeral, if_pos hlt]

lemma slot?_eq_none_iff :
    slot? n rest = none ↔ ∀ written index after, ¬ OpensSlot n rest written index after := by
  rw [Option.eq_none_iff_forall_ne_some]
  simp only [← slot?_eq_some_iff, Prod.forall, ne_eq]

/-- What stands from the next opening brace on does not open a place. -/
lemma opensSlot_append_brace : OpensSlot n (before ++ '\x7b' :: rest) written index after ↔
    ∃ between, after = between ++ '\x7b' :: rest ∧ OpensSlot n before written index between := by
  constructor
  · rintro ⟨heq, hwritten, hnumeral, hlt⟩
    rcases List.append_eq_append_iff.mp heq with ⟨middle, hplace, hrest⟩ | ⟨middle, hbefore, hafter⟩
    · -- The closing brace would come after the opening one, which is then part of the number.
      cases middle with
      | nil => cases hrest
      | cons c middle =>
        obtain ⟨rfl, -⟩ := List.cons.inj hrest
        exact absurd (hplace ▸ List.mem_append_right before List.mem_cons_self)
          hnumeral.brace_not_mem
    · cases middle with
      | nil => cases hafter
      | cons c between =>
        obtain ⟨rfl, hbetween⟩ := List.cons.inj hafter
        exact ⟨between, hbetween, hbefore, hwritten, hnumeral, hlt⟩
  · rintro ⟨between, rfl, rfl, hwritten, hnumeral, hlt⟩
    exact ⟨by simp, hwritten, hnumeral, hlt⟩

end Slot

/-! ## The tokens of a template -/

section Tokens

variable {n : ℕ} {before rest : List Char} {tokens todo : List Token} {token : Token}

lemma tokens_brace_of_slot?_eq_none (h : slot? n rest = none) :
    Template.tokens n ('\x7b' :: rest) = .literal '\x7b' :: Template.tokens n rest := by
  rw [Template.tokens, if_pos rfl]
  split
  · next hsome =>
    rw [h] at hsome
    cases hsome
  · rfl

lemma tokens_of_ne_brace {c : Char} (hc : c ≠ '\x7b') :
    Template.tokens n (c :: rest) = .literal c :: Template.tokens n rest := by
  rw [Template.tokens, if_neg hc]

/-- An opening brace ends the tokens before it. -/
lemma tokens_append_brace (n : ℕ) (before rest : List Char) :
    Template.tokens n (before ++ '\x7b' :: rest) =
      Template.tokens n before ++ Template.tokens n ('\x7b' :: rest) := by
  induction before using Template.tokens.induct n with
  | case1 => rw [Template.tokens.eq_1, List.nil_append, List.nil_append]
  | case2 before written index after hslot _ ih =>
    have hopens := slot?_eq_some_iff.mp hslot
    have hwhole : slot? n (before ++ '\x7b' :: rest) =
        some (written, index, after ++ '\x7b' :: rest) :=
      slot?_eq_some_iff.mpr (opensSlot_append_brace.mpr ⟨after, rfl, hopens⟩)
    rw [List.cons_append, tokens_of_slot? hwhole, tokens_of_slot? hslot, ih, List.cons_append]
  | case3 before hslot ih =>
    have hwhole : slot? n (before ++ '\x7b' :: rest) = none := by
      rw [slot?_eq_none_iff] at hslot ⊢
      intro written index after hopens
      obtain ⟨between, -, hbefore⟩ := opensSlot_append_brace.mp hopens
      exact hslot written index between hbefore
    rw [List.cons_append, tokens_brace_of_slot?_eq_none hwhole,
      tokens_brace_of_slot?_eq_none hslot, ih, List.cons_append]
  | case4 c before hc ih =>
    rw [List.cons_append, tokens_of_ne_brace hc, tokens_of_ne_brace hc, ih, List.cons_append]

lemma exists_tokens_brace (n : ℕ) (rest : List Char) :
    ∃ token todo, Template.tokens n ('\x7b' :: rest) = token :: todo ∧
      BeginsAtBrace n rest token := by
  cases hslot : slot? n rest with
  | none =>
    exact ⟨_, _, tokens_brace_of_slot?_eq_none hslot, .literal (slot?_eq_none_iff.mp hslot)⟩
  | some place =>
    obtain ⟨written, index, after⟩ := place
    exact ⟨_, _, tokens_of_slot? hslot, .slot (slot?_eq_some_iff.mp hslot)⟩

lemma flatMap_written_tokens (n : ℕ) (template : List Char) :
    (Template.tokens n template).flatMap Token.written = template := by
  induction template using Template.tokens.induct n with
  | case1 => rw [Template.tokens.eq_1, List.flatMap_nil]
  | case2 rest written index after hslot _ ih =>
    obtain ⟨rfl, -⟩ := slot?_eq_some_iff.mp hslot
    rw [tokens_of_slot? hslot, List.flatMap_cons, ih]
    simp [Token.written]
  | case3 rest hslot ih =>
    rw [tokens_brace_of_slot?_eq_none hslot, List.flatMap_cons, ih]
    rfl
  | case4 c rest hc ih =>
    rw [tokens_of_ne_brace hc, List.flatMap_cons, ih]
    rfl

lemma index_lt_of_mem_tokens {template written : List Char} {index : ℕ}
    (h : .slot written index ∈ Template.tokens n template) : index < n := by
  induction template using Template.tokens.induct n with
  | case1 =>
    rw [Template.tokens.eq_1] at h
    cases h
  | case2 rest written' index' after hslot _ ih =>
    rw [tokens_of_slot? hslot] at h
    rcases List.mem_cons.mp h with heq | h
    · cases heq
      exact (slot?_eq_some_iff.mp hslot).2.2.2
    · exact ih h
  | case3 rest hslot ih =>
    rw [tokens_brace_of_slot?_eq_none hslot] at h
    rcases List.mem_cons.mp h with heq | h
    · cases heq
    · exact ih h
  | case4 c rest hc ih =>
    rw [tokens_of_ne_brace hc] at h
    rcases List.mem_cons.mp h with heq | h
    · cases heq
    · exact ih h

lemma takenApart_tokens (n : ℕ) (template : List Char) :
    TakenApart n template (Template.tokens n template) where
  index_lt _ _ h := index_lt_of_mem_tokens h
  written_eq := flatMap_written_tokens n template
  token_of_brace := by
    rintro before rest rfl
    obtain ⟨token, todo, hbrace, hbegins⟩ := exists_tokens_brace n rest
    refine ⟨Template.tokens n before, token, todo, ?_, flatMap_written_tokens n before, hbegins⟩
    rw [tokens_append_brace, hbrace]

/-! ## There is one way -/

/-- What follows the first token is taken apart too. -/
lemma TakenApart.tail (h : TakenApart n (token.written ++ rest) (token :: tokens)) :
    TakenApart n rest tokens where
  index_lt written index hmem := h.index_lt written index (List.mem_cons_of_mem token hmem)
  written_eq := by
    have hwritten := h.written_eq
    rw [List.flatMap_cons] at hwritten
    exact List.append_cancel_left hwritten
  token_of_brace := by
    rintro before rest rfl
    obtain ⟨done, token', todo, htokens, hdone, hbegins⟩ :=
      h.token_of_brace (token.written ++ before) rest (List.append_assoc ..).symm
    cases done with
    | nil =>
      rw [List.flatMap_nil] at hdone
      exact absurd (List.append_eq_nil_iff.mp hdone.symm).1 token.written_ne_nil
    | cons first done =>
      obtain ⟨rfl, hrest⟩ := List.cons.inj htokens
      rw [List.flatMap_cons] at hdone
      exact ⟨done, token', todo, hrest, List.append_cancel_left hdone, hbegins⟩

lemma TakenApart.beginsAtBrace (h : TakenApart n ('\x7b' :: rest) (token :: tokens)) :
    BeginsAtBrace n rest token := by
  obtain ⟨done, token', todo, htokens, hdone, hbegins⟩ := h.token_of_brace [] rest rfl
  cases done with
  | nil =>
    obtain ⟨rfl, -⟩ := List.cons.inj htokens
    exact hbegins
  | cons first done =>
    rw [List.flatMap_cons] at hdone
    exact absurd (List.append_eq_nil_iff.mp hdone).1 first.written_ne_nil

lemma TakenApart.eq_tokens {template : List Char} (h : TakenApart n template tokens) :
    tokens = Template.tokens n template := by
  induction tokens generalizing template with
  | nil =>
    obtain rfl : [] = template := h.written_eq
    rw [Template.tokens]
  | cons token tokens ih =>
    obtain rfl : token.written ++ tokens.flatMap Token.written = template := h.written_eq
    have htail := ih h.tail
    cases token with
    | literal c =>
      conv_lhs => rw [htail]
      by_cases hc : c = '\x7b'
      · subst hc
        cases h.beginsAtBrace with
        | literal hnone =>
          exact (tokens_brace_of_slot?_eq_none (slot?_eq_none_iff.mpr hnone)).symm
      · exact (tokens_of_ne_brace hc).symm
    | slot written index =>
      cases h.beginsAtBrace with
      | @slot _ _ after hopens =>
        obtain rfl : tokens.flatMap Token.written = after := by
          have hafter : written ++ ['\x7d'] ++ tokens.flatMap Token.written =
              written ++ '\x7d' :: after := hopens.1
          rw [List.append_assoc] at hafter
          exact (List.cons.inj (List.append_cancel_left hafter)).2
        conv_lhs => rw [htail]
        exact (tokens_of_slot? (slot?_eq_some_iff.mpr hopens)).symm

end Tokens

/-! ## The scan -/

section Scan

variable {parameters : List String} {message rest : List Char}

/-- One turn of the scan, on the message so far and the rest of the template.  The text up to the
next opening brace is copied, and then the parameter whose place opens there, or else the brace.
Without an opening brace all of the rest is copied. -/
def turn (parameters : List String) : List Char × List Char → List Char × List Char
  | (message, rest) =>
    match Text.cut '\x7b' rest with
    | none => (message ++ rest, [])
    | some (text, afterBrace) =>
      match slot? parameters.length afterBrace with
      | some (_, index, after) => (message ++ text ++ (parameters[index]?.getD "").toList, after)
      | none => (message ++ text ++ ['\x7b'], afterBrace)

/-- The rest of a template with the parameters put in. -/
def filled (parameters : List String) (rest : List Char) : List Char :=
  (Template.tokens parameters.length rest).flatMap (Token.fill parameters)

lemma filled_nil (parameters : List String) : filled parameters [] = [] := by
  unfold filled
  rw [Template.tokens, List.flatMap_nil]

lemma filled_brace_of_slot?_eq_none (h : slot? parameters.length rest = none) :
    filled parameters ('\x7b' :: rest) = '\x7b' :: filled parameters rest := by
  unfold filled
  rw [tokens_brace_of_slot?_eq_none h, List.flatMap_cons]
  rfl

/-- A turn does not change what the message will be in the end, and it leaves nothing or fewer
opening braces. -/
lemma turn_spec (parameters : List String) (message rest : List Char) :
    (turn parameters (message, rest)).1 ++
        filled parameters (turn parameters (message, rest)).2 =
      message ++ filled parameters rest ∧
    ((turn parameters (message, rest)).2 = [] ∨
      (turn parameters (message, rest)).2.count '\x7b' < rest.count '\x7b') := by
  cases hcut : Text.cut '\x7b' rest with
  | none =>
    have hturn : turn parameters (message, rest) = (message ++ rest, []) := by
      rw [turn, hcut]
    have hfilled : filled parameters (rest ++ []) = rest ++ filled parameters [] :=
      fill_text_append (Text.cut_eq_none_iff.mp hcut)
    rw [List.append_nil] at hfilled
    rw [hturn, hfilled, filled_nil, List.append_nil, List.append_nil]
    exact ⟨rfl, Or.inl rfl⟩
  | some parts =>
    obtain ⟨text, afterBrace⟩ := parts
    obtain ⟨rfl, htext⟩ := Text.eq_append_of_cut hcut
    have hfilled : filled parameters (text ++ '\x7b' :: afterBrace) =
        text ++ filled parameters ('\x7b' :: afterBrace) :=
      fill_text_append htext
    have hcount : (text ++ '\x7b' :: afterBrace).count '\x7b' = afterBrace.count '\x7b' + 1 := by
      rw [List.count_append, List.count_eq_zero.mpr htext, List.count_cons_self, Nat.zero_add]
    rw [hfilled, hcount]
    cases hslot : slot? parameters.length afterBrace with
    | none =>
      have hturn : turn parameters (message, text ++ '\x7b' :: afterBrace) =
          (message ++ text ++ ['\x7b'], afterBrace) := by
        simp only [turn, hcut, hslot]
      rw [hturn, filled_brace_of_slot?_eq_none hslot]
      exact ⟨by simp, Or.inr (Nat.lt_succ_self _)⟩
    | some place =>
      obtain ⟨written, index, after⟩ := place
      have hturn : turn parameters (message, text ++ '\x7b' :: afterBrace) =
          (message ++ text ++ (parameters[index]?.getD "").toList, after) := by
        simp only [turn, hcut, hslot]
      have hplace : filled parameters ('\x7b' :: afterBrace) =
          (parameters[index]?.getD "").toList ++ filled parameters after :=
        fill_slot hslot
      obtain ⟨rfl, -⟩ := slot?_eq_some_iff.mp hslot
      rw [hturn, hplace]
      refine ⟨by simp, Or.inr ?_⟩
      dsimp only
      rw [List.count_append, List.count_cons_of_ne (by decide)]
      omega

/-- The scan comes to an end, after no more turns than there are opening braces and one more, and
then the message is complete. -/
lemma exists_turns (parameters : List String) (message rest : List Char) :
    ∃ k ≤ rest.count '\x7b' + 1,
      (turn parameters)^[k] (message, rest) = (message ++ filled parameters rest, []) := by
  induction hcount : rest.count '\x7b' using Nat.strongRecOn generalizing message rest with
  | _ count ih =>
    subst hcount
    obtain ⟨hkept, hleft⟩ := turn_spec parameters message rest
    rw [← hkept]
    rcases hleft with hdone | hfewer
    · refine ⟨1, Nat.le_add_left 1 _, ?_⟩
      rw [Function.iterate_one, hdone, filled_nil, List.append_nil, ← hdone]
    · obtain ⟨k, hle, hend⟩ := ih _ hfewer (turn parameters (message, rest)).1
        (turn parameters (message, rest)).2 rfl
      refine ⟨k + 1, by omega, ?_⟩
      rw [Function.iterate_succ_apply]
      exact hend

end Scan

/-! ## Messages -/

/-- Without parameters there are no places, so a template is its own message. -/
lemma format_nil (template : String) : format template [] = template := by
  have hwritten : (Template.tokens 0 template.toList).flatMap (Token.fill []) =
      (Template.tokens 0 template.toList).flatMap Token.written := by
    apply List.flatMap_congr
    intro token htoken
    cases token with
    | literal c => rfl
    | slot written index => exact absurd (index_lt_of_mem_tokens htoken) (Nat.not_lt_zero index)
  unfold format
  rw [List.length_nil, hwritten, flatMap_written_tokens, String.ofList_toList]

/-- **Messages are templates filled in.**  For a number of parameters there is one way to take a
template apart.  A message is the tokens with the parameters put into the places, and the scan that
finds it comes to an end.  Without parameters nothing changes. -/
theorem messages_settled (template : String) (n : ℕ) :
    (∃ tokens, TakenApart n template.toList tokens ∧
      (∀ other, TakenApart n template.toList other → other = tokens) ∧
      ∀ parameters : List String, parameters.length = n →
        (format template parameters).toList = tokens.flatMap (Token.fill parameters) ∧
        ∃ k ≤ template.toList.count '\x7b' + 1,
          (turn parameters)^[k] ([], template.toList) =
            ((format template parameters).toList, [])) ∧
    format template [] = template := by
  refine ⟨⟨Template.tokens n template.toList, takenApart_tokens n template.toList,
    fun other hother => hother.eq_tokens, ?_⟩, format_nil template⟩
  rintro parameters rfl
  have hformat : (format template parameters).toList = filled parameters template.toList :=
    String.toList_ofList
  refine ⟨hformat, ?_⟩
  rw [hformat]
  exact exists_turns parameters [] template.toList

/-- A parameter that looks like a place is not one, and of the braces that open no place each is
kept. -/
theorem messages_settled_of_braces :
    ∃ tokens, TakenApart 2 "\x7b0\x7d \x7b0\x7b1\x7d \x7b+1\x7d\x7b2\x7d \x7b".toList tokens ∧
      tokens.flatMap (Token.fill ["Odd\x7b1\x7d", "7"]) =
        "Odd\x7b1\x7d \x7b07 7\x7b2\x7d \x7b".toList := by
  obtain ⟨⟨tokens, htokens, -, hmessage⟩, -⟩ :=
    messages_settled "\x7b0\x7d \x7b0\x7b1\x7d \x7b+1\x7d\x7b2\x7d \x7b" 2
  refine ⟨tokens, htokens, ?_⟩
  rw [← (hmessage ["Odd\x7b1\x7d", "7"] rfl).1]
  decide +kernel

end RuleMetrics.Template
