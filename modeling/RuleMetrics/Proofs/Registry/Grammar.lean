import RuleMetrics.Proofs.Registry.Reference

/-!
# The grammar of references

A reference is a type, `#` and a method, and perhaps arguments in parentheses with nothing but
blanks behind.  `Parts` are these parts as they stand in a text, and `Parts.WellFormed` is the
grammar.  `parse_settled` says that `Reference.parse` accepts the texts of well-formed parts and no
others, that a text has such parts in one way at most, and what is wrong with every other text.

A text can have several defects at once, and the one that is reported depends on what comes first.
A method name is missed only in front of the first `(`, or where there are no parentheses at all
(`LacksMethodName`); a `)` without any `(` is a matter of balance even if there is no name
(`Unbalanced`).  Text behind the parentheses and blank arguments matter only if the parentheses
match.
-/

namespace RuleMetrics.Reference

open Text

variable {input : String} {before group interior rest tail : List Char}

/-! ## Well-formed parts -/

/-- Whether a text between parentheses is a list of arguments: blank as a whole, or cut by its
commas into pieces that are not blank. -/
def Separated (interior : List Char) : Prop :=
  allBlank interior = true ∨ ∀ piece ∈ pieces ',' interior, allBlank piece = false

/-- What stands behind `#`, nothing of it trimmed: a method, or a method with a text in parentheses
and a text behind them. -/
inductive Call where
  | bare (method : List Char)
  | applied (method interior tail : List Char)

namespace Call

/-- The method of a call. -/
def method : Call → List Char
  | bare method => method
  | applied method _ _ => method

/-- The arguments of a call, trimmed. -/
def arguments : Call → List String
  | bare _ => []
  | applied _ interior _ => argumentTexts interior

/-- A call as it stands in a text. -/
def text : Call → List Char
  | bare method => method
  | applied method interior tail => method ++ '(' :: (interior ++ ')' :: tail)

/-- The calls of references. -/
inductive WellFormed : Call → Prop
  | bare {method : List Char} (hblank : allBlank method = false) (hopening : '(' ∉ method)
      (hclosing : ')' ∉ method) : WellFormed (bare method)
  | applied {method interior tail : List Char} (hblank : allBlank method = false)
      (hopening : '(' ∉ method) (hinner : '(' ∉ interior) (hclosing : ')' ∉ interior)
      (hseparated : Separated interior) (htail : allBlank tail = true) :
      WellFormed (applied method interior tail)

end Call

/-- The parts of a text that is a reference, nothing of it trimmed. -/
structure Parts where
  owner : List Char
  call : Call

namespace Parts

/-- The text that has these parts. -/
def text (p : Parts) : List Char :=
  p.owner ++ '#' :: p.call.text

/-- The reference that has these parts: type, method and arguments are trimmed. -/
def reference (p : Parts) : Reference :=
  ⟨String.ofList (trimChars p.owner), String.ofList (trimChars p.call.method), p.call.arguments⟩

/-- The parts of references. -/
structure WellFormed (p : Parts) : Prop where
  owner_mark : '#' ∉ p.owner
  owner_not_blank : allBlank p.owner = false
  call : p.call.WellFormed

end Parts

/-! ## Defects -/

/-- The first `#` of a text has a type in front of it and `rest` behind it. -/
def MarkedBefore (rest cs : List Char) : Prop :=
  ∃ owner, cs = owner ++ '#' :: rest ∧ '#' ∉ owner ∧ allBlank owner = false

/-- There is no method name where one should be. -/
def LacksMethodName (rest : List Char) : Prop :=
  ('(' ∉ rest ∧ ')' ∉ rest ∧ allBlank rest = true) ∨
    ∃ before group, rest = before ++ '(' :: group ∧ '(' ∉ before ∧ allBlank before = true

/-- The text behind the first `(` has no `)`, or another `(` in front of the first `)`. -/
def UnbalancedGroup (group : List Char) : Prop :=
  ')' ∉ group ∨
    ∃ interior tail, group = interior ++ ')' :: tail ∧ ')' ∉ interior ∧ '(' ∈ interior

/-- The parentheses behind `#` do not match, and if there is a `(` it has a method name. -/
def Unbalanced (rest : List Char) : Prop :=
  (')' ∈ rest ∧ '(' ∉ rest) ∨
    ∃ before group, rest = before ++ '(' :: group ∧ '(' ∉ before ∧ allBlank before = false ∧
      UnbalancedGroup group

/-! ## Parentheses -/

lemma empty_mem_argumentTexts_iff : "" ∈ argumentTexts interior ↔ ¬ Separated interior := by
  unfold argumentTexts Separated
  by_cases hblank : allBlank interior = true
  · simp [hblank]
  · simp [hblank, ← trimChars_eq_nil_iff]

lemma parseArguments_eq_ok (h : Separated interior) :
    parseArguments input interior = .ok (argumentTexts interior) := by
  unfold parseArguments argumentTexts
  by_cases hblank : allBlank interior = true
  · rw [if_pos hblank, if_pos hblank]
  · have hnone : [] ∉ (pieces ',' interior).map trimChars := by
      simpa [trimChars_eq_nil_iff] using h.resolve_left hblank
    rw [if_neg hblank, if_neg hblank]
    simp only [if_neg hnone, List.map_map]
    rfl

lemma parseArguments_eq_error (h : ¬ Separated interior) :
    parseArguments input interior = .error (.invalidFormat input .emptyArgument) := by
  unfold Separated at h
  rw [not_or] at h
  obtain ⟨hblank, hpieces⟩ := h
  have hempty : [] ∈ (pieces ',' interior).map trimChars := by
    simpa [trimChars_eq_nil_iff] using hpieces
  unfold parseArguments
  rw [if_neg hblank]
  exact if_pos hempty

lemma parseGroup_of_separated (hinner : '(' ∉ interior) (hclosing : ')' ∉ interior)
    (hseparated : Separated interior) (htail : allBlank tail = true) :
    parseGroup input (interior ++ ')' :: tail) = .ok (argumentTexts interior) := by
  unfold parseGroup
  rw [cut_append_cons hclosing]
  simp only [if_neg hinner, htail, Bool.not_true, Bool.false_eq_true, if_false]
  exact parseArguments_eq_ok hseparated

lemma parseGroup_of_unbalanced (h : UnbalancedGroup group) :
    parseGroup input group = .error (.unbalancedGroup input) := by
  unfold parseGroup
  rcases h with hclosing | ⟨interior, tail, rfl, hclosing, hinner⟩
  · rw [cut_eq_none_iff.mpr hclosing]
  · rw [cut_append_cons hclosing]
    exact if_pos hinner

lemma parseGroup_cases (input : String) (group : List Char) :
    (∃ interior tail, group = interior ++ ')' :: tail ∧ '(' ∉ interior ∧ ')' ∉ interior ∧
        Separated interior ∧ allBlank tail = true) ∨
      UnbalancedGroup group ∨
      ∃ fault, parseGroup input group = .error (.invalidFormat input fault) := by
  cases hcut : cut ')' group with
  | none => exact Or.inr (Or.inl (Or.inl (cut_eq_none_iff.mp hcut)))
  | some found =>
    obtain ⟨interior, tail⟩ := found
    obtain ⟨hgroup, hclosing⟩ := eq_append_of_cut hcut
    by_cases hinner : '(' ∈ interior
    · exact Or.inr (Or.inl (Or.inr ⟨interior, tail, hgroup, hclosing, hinner⟩))
    by_cases htail : allBlank tail = true
    · by_cases hseparated : Separated interior
      · exact Or.inl ⟨interior, tail, hgroup, hinner, hclosing, hseparated, htail⟩
      · refine Or.inr (Or.inr ⟨.emptyArgument, ?_⟩)
        simp [parseGroup, hcut, hinner, htail, parseArguments_eq_error hseparated]
    · refine Or.inr (Or.inr ⟨.textAfterArguments, ?_⟩)
      simp [parseGroup, hcut, hinner, htail]

/-! ## Calls -/

lemma trimChars_ne_nil_iff {cs : List Char} : trimChars cs ≠ [] ↔ allBlank cs = false := by
  rw [Ne, trimChars_eq_nil_iff, Bool.not_eq_true]

/-- Once there is a method name, the text behind `(` decides. -/
lemma parseMethod_applied (hopening : '(' ∉ before) (hblank : allBlank before = false) :
    parseMethod input (before ++ '(' :: group) =
      (parseGroup input group).map fun arguments => (trimChars before, arguments) := by
  unfold parseMethod
  rw [cut_append_cons hopening]
  exact if_neg (trimChars_ne_nil_iff.mpr hblank)

lemma parseMethod_bare (hblank : allBlank rest = false) (hopening : '(' ∉ rest)
    (hclosing : ')' ∉ rest) : parseMethod input rest = .ok (trimChars rest, []) := by
  unfold parseMethod
  rw [cut_eq_none_iff.mpr hopening]
  simp only [if_neg hclosing, if_neg (trimChars_ne_nil_iff.mpr hblank)]

lemma parseMethod_text {call : Call} (h : call.WellFormed) :
    parseMethod input call.text = .ok (trimChars call.method, call.arguments) := by
  cases h with
  | bare hblank hopening hclosing => exact parseMethod_bare hblank hopening hclosing
  | applied hblank hopening hinner hclosing hseparated htail =>
    rw [Call.text, parseMethod_applied hopening hblank,
      parseGroup_of_separated hinner hclosing hseparated htail]
    rfl

lemma parseMethod_of_lacksMethodName (h : LacksMethodName rest) :
    parseMethod input rest = .error (.missingMethodName input) := by
  unfold parseMethod
  rcases h with ⟨hopening, hclosing, hblank⟩ | ⟨before, group, rfl, hopening, hblank⟩
  · rw [cut_eq_none_iff.mpr hopening]
    simp only [if_neg hclosing, if_pos (trimChars_eq_nil_iff.mpr hblank)]
  · rw [cut_append_cons hopening]
    exact if_pos (trimChars_eq_nil_iff.mpr hblank)

lemma parseMethod_of_unbalanced (h : Unbalanced rest) :
    parseMethod input rest = .error (.unbalancedGroup input) := by
  rcases h with ⟨hclosing, hopening⟩ | ⟨before, group, rfl, hopening, hblank, hgroup⟩
  · unfold parseMethod
    rw [cut_eq_none_iff.mpr hopening]
    exact if_pos hclosing
  · rw [parseMethod_applied hopening hblank, parseGroup_of_unbalanced hgroup]
    rfl

lemma parseMethod_cases (input : String) (rest : List Char) :
    (∃ call : Call, call.WellFormed ∧ call.text = rest) ∨ LacksMethodName rest ∨
      Unbalanced rest ∨ ∃ fault, parseMethod input rest = .error (.invalidFormat input fault) := by
  cases hcut : cut '(' rest with
  | none =>
    have hopening : '(' ∉ rest := cut_eq_none_iff.mp hcut
    by_cases hclosing : ')' ∈ rest
    · exact Or.inr (Or.inr (Or.inl (Or.inl ⟨hclosing, hopening⟩)))
    cases hblank : allBlank rest with
    | true => exact Or.inr (Or.inl (Or.inl ⟨hopening, hclosing, hblank⟩))
    | false => exact Or.inl ⟨.bare rest, .bare hblank hopening hclosing, rfl⟩
  | some found =>
    obtain ⟨before, group⟩ := found
    obtain ⟨rfl, hopening⟩ := eq_append_of_cut hcut
    cases hblank : allBlank before with
    | true => exact Or.inr (Or.inl (Or.inr ⟨before, group, rfl, hopening, hblank⟩))
    | false =>
      rcases parseGroup_cases input group with
        ⟨interior, tail, rfl, hinner, hclosing, hseparated, htail⟩ | hgroup | ⟨fault, hgroup⟩
      · exact Or.inl ⟨.applied before interior tail,
          .applied hblank hopening hinner hclosing hseparated htail, rfl⟩
      · exact Or.inr (Or.inr (Or.inl (Or.inr ⟨before, group, rfl, hopening, hblank, hgroup⟩)))
      · refine Or.inr (Or.inr (Or.inr ⟨fault, ?_⟩))
        rw [parseMethod_applied hopening hblank, hgroup]
        rfl

/-- A text is a well-formed call in one way at most. -/
lemma Call.WellFormed.eq_of_text_eq {c c' : Call} (h : c.WellFormed) (h' : c'.WellFormed)
    (htext : c.text = c'.text) : c = c' := by
  cases h with
  | bare hblank hopening hclosing =>
    cases h' with
    | bare hblank' hopening' hclosing' => exact congrArg Call.bare htext
    | applied hblank' hopening' hinner' hclosing' hseparated' htail' =>
      simp only [Call.text] at htext
      exact absurd (htext ▸ List.mem_append_right _ List.mem_cons_self) hopening
  | applied hblank hopening hinner hclosing hseparated htail =>
    cases h' with
    | bare hblank' hopening' hclosing' =>
      simp only [Call.text] at htext
      exact absurd (htext ▸ List.mem_append_right _ List.mem_cons_self) hopening'
    | applied hblank' hopening' hinner' hclosing' hseparated' htail' =>
      simp only [Call.text] at htext
      obtain ⟨rfl, hgroup⟩ := append_cons_inj hopening hopening' htext
      obtain ⟨rfl, rfl⟩ := append_cons_inj hclosing hclosing' hgroup
      rfl

/-! ## References -/

/-- Once there is a type, the text behind `#` decides. -/
lemma parse_of_marked {owner : List Char} (hinput : input.toList = owner ++ '#' :: rest)
    (hmark : '#' ∉ owner) (hblank : allBlank owner = false) :
    parse input = (parseMethod input rest).map fun parts =>
      ⟨String.ofList (trimChars owner), String.ofList parts.1, parts.2⟩ := by
  unfold parse
  rw [hinput, cut_append_cons hmark]
  exact if_neg (trimChars_ne_nil_iff.mpr hblank)

lemma parse_text {p : Parts} (h : p.WellFormed) (hinput : p.text = input.toList) :
    parse input = .ok p.reference := by
  rw [parse_of_marked hinput.symm h.owner_mark h.owner_not_blank, parseMethod_text h.call]
  rfl

/-- A type, `#`, a method and arguments in parentheses make a reference. -/
lemma parse_eq_ok {owner method : List Char}
    (hinput : input.toList = owner ++ '#' :: (method ++ '(' :: (interior ++ [')'])))
    (hmark : '#' ∉ owner) (howner : trimChars owner ≠ [])
    (hopening : '(' ∉ method) (hmethod : trimChars method ≠ [])
    (hinterior : ∀ c ∈ interior, c ≠ '(' ∧ c ≠ ')')
    (harguments : "" ∉ argumentTexts interior) :
    parse input = .ok ⟨String.ofList (trimChars owner), String.ofList (trimChars method),
      argumentTexts interior⟩ := by
  have hcall : (Call.applied method interior []).WellFormed := by
    refine .applied (trimChars_ne_nil_iff.mp hmethod) hopening ?_ ?_ ?_ rfl
    · exact fun hmem => (hinterior _ hmem).1 rfl
    · exact fun hmem => (hinterior _ hmem).2 rfl
    · rwa [empty_mem_argumentTexts_iff, not_not] at harguments
  exact parse_text (p := ⟨owner, .applied method interior []⟩)
    ⟨hmark, trimChars_ne_nil_iff.mp howner, hcall⟩ hinput.symm

/-- A defect of the text behind `#` is reported, once there is a type. -/
lemma parse_of_parseMethod_eq_error {e : ReadError} (hmarked : MarkedBefore rest input.toList)
    (herror : parseMethod input rest = .error e) : parse input = .error e := by
  obtain ⟨owner, hinput, hmark, hblank⟩ := hmarked
  rw [parse_of_marked hinput hmark hblank, herror]
  rfl

lemma parse_cases (input : String) :
    (∃ p : Parts, p.WellFormed ∧ p.text = input.toList) ∨
      (∃ rest, MarkedBefore rest input.toList ∧ LacksMethodName rest) ∨
      (∃ rest, MarkedBefore rest input.toList ∧ Unbalanced rest) ∨
      ∃ fault, parse input = .error (.invalidFormat input fault) := by
  cases hcut : cut '#' input.toList with
  | none =>
    refine Or.inr (Or.inr (Or.inr ⟨.missingMethodMark, ?_⟩))
    simp only [parse, hcut]
  | some found =>
    obtain ⟨owner, rest⟩ := found
    obtain ⟨hinput, hmark⟩ := eq_append_of_cut hcut
    cases hblank : allBlank owner with
    | true =>
      refine Or.inr (Or.inr (Or.inr ⟨.missingTypeName, ?_⟩))
      simp only [parse, hcut, if_pos (trimChars_eq_nil_iff.mpr hblank)]
    | false =>
      have hmarked : MarkedBefore rest input.toList := ⟨owner, hinput, hmark, hblank⟩
      rcases parseMethod_cases input rest with ⟨call, hcall, rfl⟩ | hlacks | hunbalanced |
        ⟨fault, herror⟩
      · exact Or.inl ⟨⟨owner, call⟩, ⟨hmark, hblank, hcall⟩, hinput.symm⟩
      · exact Or.inr (Or.inl ⟨rest, hmarked, hlacks⟩)
      · exact Or.inr (Or.inr (Or.inl ⟨rest, hmarked, hunbalanced⟩))
      · exact Or.inr (Or.inr (Or.inr ⟨fault, parse_of_parseMethod_eq_error hmarked herror⟩))

/-- A text has well-formed parts in one way at most. -/
lemma Parts.WellFormed.eq_of_text_eq {p q : Parts} (hp : p.WellFormed) (hq : q.WellFormed)
    (htext : p.text = q.text) : p = q := by
  obtain ⟨howner, hcall⟩ := append_cons_inj hp.owner_mark hq.owner_mark htext
  cases p
  cases q
  exact congrArg₂ Parts.mk howner (hp.call.eq_of_text_eq hq.call hcall)

lemma parse_of_lacksMethodName (hmarked : MarkedBefore rest input.toList)
    (h : LacksMethodName rest) : parse input = .error (.missingMethodName input) :=
  parse_of_parseMethod_eq_error hmarked (parseMethod_of_lacksMethodName h)

lemma parse_of_unbalanced (hmarked : MarkedBefore rest input.toList) (h : Unbalanced rest) :
    parse input = .error (.unbalancedGroup input) :=
  parse_of_parseMethod_eq_error hmarked (parseMethod_of_unbalanced h)

/-- What an answer says of the text. -/
def Explains (input : String) : Except ReadError Reference → Prop
  | .ok r => ∃ p : Parts, p.WellFormed ∧ p.text = input.toList ∧ p.reference = r
  | .error (.missingMethodName _) => ∃ rest, MarkedBefore rest input.toList ∧ LacksMethodName rest
  | .error (.unbalancedGroup _) => ∃ rest, MarkedBefore rest input.toList ∧ Unbalanced rest
  | .error (.invalidFormat _ _) => True
  | .error _ => False

lemma explains_parse (input : String) : Explains input (parse input) := by
  rcases parse_cases input with ⟨p, hp, htext⟩ | ⟨rest, hmarked, hlacks⟩ |
    ⟨rest, hmarked, hunbalanced⟩ | ⟨fault, hformat⟩
  · rw [parse_text hp htext]
    exact ⟨p, hp, htext, rfl⟩
  · rw [parse_of_lacksMethodName hmarked hlacks]
    exact ⟨rest, hmarked, hlacks⟩
  · rw [parse_of_unbalanced hmarked hunbalanced]
    exact ⟨rest, hmarked, hunbalanced⟩
  · rw [hformat]
    trivial

/-- An answer is given for what it says of the text. -/
lemma explains_of_parse_eq {answer : Except ReadError Reference} (h : parse input = answer) :
    Explains input answer :=
  h ▸ explains_parse input

lemma parse_eq_ok_iff {r : Reference} : parse input = .ok r ↔
    ∃ p : Parts, p.WellFormed ∧ p.text = input.toList ∧ p.reference = r := by
  refine ⟨explains_of_parse_eq, ?_⟩
  rintro ⟨p, hp, htext, rfl⟩
  exact parse_text hp htext

lemma parse_eq_missingMethodName_iff : parse input = .error (.missingMethodName input) ↔
    ∃ rest, MarkedBefore rest input.toList ∧ LacksMethodName rest := by
  refine ⟨explains_of_parse_eq, ?_⟩
  rintro ⟨rest, hmarked, hlacks⟩
  exact parse_of_lacksMethodName hmarked hlacks

lemma parse_eq_unbalancedGroup_iff : parse input = .error (.unbalancedGroup input) ↔
    ∃ rest, MarkedBefore rest input.toList ∧ Unbalanced rest := by
  refine ⟨explains_of_parse_eq, ?_⟩
  rintro ⟨rest, hmarked, hunbalanced⟩
  exact parse_of_unbalanced hmarked hunbalanced

/-- **The grammar of references.**  A text is read as a reference exactly if it has well-formed
parts, which it then has in one way only, and it is read as their reference.  Every other text is
rejected: for its method name or its parentheses under the conditions above, and for its format
otherwise. -/
theorem parse_settled (input : String) :
    (∀ r, parse input = .ok r ↔
      ∃ p : Parts, p.WellFormed ∧ p.text = input.toList ∧ p.reference = r) ∧
    ((∃ r, parse input = .ok r) ↔ ∃! p : Parts, p.WellFormed ∧ p.text = input.toList) ∧
    (parse input = .error (.missingMethodName input) ↔
      ∃ rest, MarkedBefore rest input.toList ∧ LacksMethodName rest) ∧
    (parse input = .error (.unbalancedGroup input) ↔
      ∃ rest, MarkedBefore rest input.toList ∧ Unbalanced rest) ∧
    ((∃ fault, parse input = .error (.invalidFormat input fault)) ↔
      (¬ ∃ p : Parts, p.WellFormed ∧ p.text = input.toList) ∧
      (¬ ∃ rest, MarkedBefore rest input.toList ∧ LacksMethodName rest) ∧
      ¬ ∃ rest, MarkedBefore rest input.toList ∧ Unbalanced rest) := by
  refine ⟨fun r => parse_eq_ok_iff, ?_, parse_eq_missingMethodName_iff,
    parse_eq_unbalancedGroup_iff, ?_⟩
  · constructor
    · rintro ⟨r, hok⟩
      obtain ⟨p, hp, htext, -⟩ := parse_eq_ok_iff.mp hok
      exact ⟨p, ⟨hp, htext⟩, fun q hq => hq.1.eq_of_text_eq hp (hq.2.trans htext.symm)⟩
    · rintro ⟨p, ⟨hp, htext⟩, -⟩
      exact ⟨p.reference, parse_text hp htext⟩
  · rw [← parse_eq_missingMethodName_iff, ← parse_eq_unbalancedGroup_iff]
    constructor
    · rintro ⟨fault, hformat⟩
      rw [hformat]
      refine ⟨?_, by simp, by simp⟩
      rintro ⟨p, hp, htext⟩
      cases hformat.symm.trans (parse_text hp htext)
    · rintro ⟨hparts, hlacks, hunbalanced⟩
      rcases parse_cases input with h | ⟨rest, hmarked, h⟩ | ⟨rest, hmarked, h⟩ | h
      · exact absurd h hparts
      · exact absurd (parse_of_lacksMethodName hmarked h) hlacks
      · exact absurd (parse_of_unbalanced hmarked h) hunbalanced
      · exact h

/-- A `)` without a `(` is reported even where the method name is missing too. -/
example : parse "String#)" = .error (.unbalancedGroup "String#)") := by decide

end RuleMetrics.Reference
