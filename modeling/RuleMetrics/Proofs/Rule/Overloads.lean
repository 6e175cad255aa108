import RuleMetrics.Proofs.Rule.Statements
import RuleMetrics.Proofs.Text.Scan

/-!
# Labels of overloads

The label of a constructor shows its name and, for each formal parameter, the text of one node
(`shownTypes`).  So overloads are told apart by the texts that are shown and by nothing else
(`label_eq_iff`): commas inside the types do no harm as long as they can be told apart from those
between types, for instance by the brackets around them.

Two things that distinguish parameters are not shown.  `int... x` is shown like `int x`, and the
brackets of `int x[]` stand behind the name and are left out (`overloads_confused`).  And the node
that is shown of a parameter of variable arity is the first one that is no modifier, which is a
comment if one stands in front of the type.
-/

namespace RuleMetrics.ConstructorSize

open Text

/-! ## Parameters -/

/-- The kinds of node that are formal parameters, of fixed and of variable arity.  A receiver is of
another kind. -/
def parameterKinds : List String :=
  ["formal_parameter", "spread_parameter"]

/-- The kinds of node that are comments. -/
def commentKinds : List String :=
  ["line_comment", "block_comment"]

/-- What stands in the parameter list of a constructor. -/
def listedParameters (constructor : SyntaxTree) : List SyntaxTree :=
  (constructor.childInField "parameters").elim [] SyntaxTree.namedChildren

/-- The formal parameters of a constructor. -/
def formalParameters (constructor : SyntaxTree) : List SyntaxTree :=
  (listedParameters constructor).filter fun p => parameterKinds.contains p.kind

/-- The type of a formal parameter; modifiers and comments may stand in front of it. -/
def typeNode? (parameter : SyntaxTree) : Option SyntaxTree :=
  if parameter.kind = "spread_parameter" then
    parameter.namedChildren.find? fun part =>
      part.kind != "modifiers" && !commentKinds.contains part.kind
  else parameter.childInField "type"

/-- The node that holds the name of a formal parameter and what is written behind it. -/
def declarator? (parameter : SyntaxTree) : Option SyntaxTree :=
  if parameter.kind = "spread_parameter" then
    parameter.namedChildren.find? fun part => part.kind == "variable_declarator"
  else some parameter

/-- What tells the parameters of overloads apart. -/
structure ParameterShape where
  type : String
  /-- The array dimensions behind the name, as they are written. -/
  dimensions : String
  variableArity : Bool
deriving Repr, DecidableEq

/-- The shape of a formal parameter. -/
def parameterShape (parameter : SyntaxTree) : ParameterShape where
  type := (typeNode? parameter).elim "" fun t => t.textOr ""
  dimensions :=
    ((declarator? parameter).bind fun d => d.childInField "dimensions").elim "" fun t => t.textOr ""
  variableArity := parameter.kind == "spread_parameter"

/-- The shapes of the formal parameters of a constructor. -/
def overload (constructor : SyntaxTree) : List ParameterShape :=
  (formalParameters constructor).map parameterShape

/-! ## Shown types -/

/-- The name of a constructor as its label shows it. -/
def shownName (constructor : SyntaxTree) : String :=
  ((constructor.childInField "name").bind fun n => n.label.text).getD "<init>"

/-- The texts that the label of a constructor shows for its parameters. -/
def shownTypes (constructor : SyntaxTree) : List String :=
  ((listedParameters constructor).filterMap parameterType?).map fun t => t.textOr ""

/-- Whether a formal parameter has a type and no comment is taken for it. -/
def showsType (parameter : SyntaxTree) : Bool :=
  (parameterType? parameter).any fun t => !commentKinds.contains t.kind

variable {constructor constructor' parameter : SyntaxTree}

lemma constructorLabel_eq (constructor : SyntaxTree) :
    constructorLabel constructor =
      shownName constructor ++ "(" ++ join "," (shownTypes constructor) ++ ")" := by
  unfold constructorLabel shownTypes listedParameters
  cases constructor.childInField "parameters" <;> rfl

lemma parameterType?_eq_none (h : parameterKinds.contains parameter.kind = false) :
    parameterType? parameter = none := by
  have hkind : parameter.kind ≠ "formal_parameter" ∧ parameter.kind ≠ "spread_parameter" := by
    simpa [parameterKinds] using h
  unfold parameterType?
  rw [if_neg hkind.1, if_neg hkind.2]

/-- A first part that is neither a modifier nor a comment is the first such part. -/
lemma typeNode?_eq_parameterType? (hkind : parameterKinds.contains parameter.kind = true)
    (h : showsType parameter = true) : typeNode? parameter = parameterType? parameter := by
  obtain ⟨t, ht, hcomment⟩ := (Option.any_eq_true ..).mp h
  rw [ht]
  unfold parameterType? at ht
  unfold typeNode?
  by_cases hspread : parameter.kind = "spread_parameter"
  · rw [if_neg (by simp [hspread]), if_pos hspread] at ht
    rw [if_pos hspread]
    obtain ⟨hmodifiers, before, after, hparts, hbefore⟩ := List.find?_eq_some_iff_append.mp ht
    refine List.find?_eq_some_iff_append.mpr ⟨?_, before, after, hparts, ?_⟩
    · rw [Bool.and_eq_true]
      exact ⟨hmodifiers, hcomment⟩
    · intro part hpart
      have hmodifier : part.kind = "modifiers" := by simpa using hbefore part hpart
      simp [hmodifier]
  · have hformal : parameter.kind = "formal_parameter" := by
      simpa [parameterKinds, hspread] using hkind
    rw [if_pos hformal] at ht
    rw [if_neg hspread, ht]

/-- Where types are shown, they are the texts of the label. -/
lemma shownTypes_eq (h : ∀ p ∈ formalParameters constructor, showsType p = true) :
    shownTypes constructor = (overload constructor).map ParameterShape.type := by
  unfold shownTypes overload
  unfold formalParameters at h ⊢
  generalize listedParameters constructor = parts at h ⊢
  induction parts with
  | nil => rfl
  | cons p parts ih =>
    cases hkind : parameterKinds.contains p.kind with
    | false =>
      rw [List.filter_cons, hkind, if_neg Bool.false_ne_true] at h ⊢
      rw [List.filterMap_cons_none (parameterType?_eq_none hkind)]
      exact ih h
    | true =>
      rw [List.filter_cons, if_pos hkind] at h ⊢
      have hshows : showsType p = true := h p List.mem_cons_self
      have htype : typeNode? p = parameterType? p := typeNode?_eq_parameterType? hkind hshows
      obtain ⟨t, ht, -⟩ := (Option.any_eq_true ..).mp hshows
      rw [List.filterMap_cons_some ht, List.map_cons, List.map_cons, List.map_cons,
        ih fun q hq => h q (List.mem_cons_of_mem _ hq)]
      rw [parameterShape, htype, ht, Option.elim_some]

/-- **Labels of overloads.**  Take two constructors of one name whose labels show texts that are not
empty, and in which some scanner tells the commas apart from those between them.  The labels are
equal exactly if the lists of shown texts are.  If these are the types of the parameters, the labels
are equal exactly if there are as many parameters with the same types, whatever stands behind their
names and whether they are of variable arity or not. -/
theorem label_eq_iff {σ : Type} (s : Scanner σ)
    (hname : shownName constructor = shownName constructor')
    (htexts : ∀ text ∈ shownTypes constructor, text ≠ "" ∧ s.Closes ',' s.start text.toList)
    (htexts' : ∀ text ∈ shownTypes constructor', text ≠ "" ∧ s.Closes ',' s.start text.toList) :
    (constructorLabel constructor = constructorLabel constructor' ↔
      shownTypes constructor = shownTypes constructor') ∧
    ((∀ p ∈ formalParameters constructor, showsType p = true) →
      (∀ p ∈ formalParameters constructor', showsType p = true) →
      (constructorLabel constructor = constructorLabel constructor' ↔
        (overload constructor).map ParameterShape.type =
          (overload constructor').map ParameterShape.type)) := by
  have hiff : constructorLabel constructor = constructorLabel constructor' ↔
      shownTypes constructor = shownTypes constructor' := by
    rw [constructorLabel_eq, constructorLabel_eq, hname]
    constructor
    · intro hlabel
      have hjoin := (String.append_left_inj _).mp hlabel
      exact join_inj htexts htexts' ((String.append_right_inj _).mp hjoin)
    · intro htypes
      rw [htypes]
  refine ⟨hiff, ?_⟩
  intro htypes htypes'
  rw [hiff, shownTypes_eq htypes, shownTypes_eq htypes']

/-! ## Samples -/

/-- A constructor `A` with some parameters. -/
def sampleConstructor (parameters : List SyntaxTree) : SyntaxTree :=
  sampleNode "constructor_declaration" none "" 0 [
    sampleNode "identifier" (some "name") "A" 0 [],
    sampleNode "formal_parameters" (some "parameters") "" 0 parameters,
    sampleNode "constructor_body" (some "body") "" 0 []]

/-- A parameter `x` of fixed arity, with some nodes behind the name. -/
def sampleParameter (type : String) (behind : List SyntaxTree) : SyntaxTree :=
  sampleNode "formal_parameter" none "" 0
    (sampleNode "type_identifier" (some "type") type 0 [] ::
      sampleNode "identifier" (some "name") "x" 0 [] :: behind)

/-- A parameter `x` of variable arity. -/
def sampleSpread (type : String) : SyntaxTree :=
  sampleNode "spread_parameter" none "" 0 [
    sampleNode "modifiers" none "final" 0 [],
    sampleNode "type_identifier" none type 0 [],
    sampleNode "variable_declarator" none "x" 0 [sampleNode "identifier" (some "name") "x" 0 []]]

/-- `A(Map<K,V> x)` and `A(Map<K,V> x, final V... x)`. -/
theorem label_eq_iff_of_generic :
    let one := sampleConstructor [sampleParameter "Map<K,V>" []]
    let two := sampleConstructor [sampleParameter "Map<K,V>" [], sampleSpread "V"]
    shownName one = shownName two ∧
      (∀ text ∈ shownTypes one,
        text ≠ "" ∧ bracketScanner.Closes ',' bracketScanner.start text.toList) ∧
      (∀ text ∈ shownTypes two,
        text ≠ "" ∧ bracketScanner.Closes ',' bracketScanner.start text.toList) ∧
      (overload one).map ParameterShape.type ≠ (overload two).map ParameterShape.type ∧
      constructorLabel one ≠ constructorLabel two := by
  intro one two
  have hname : shownName one = shownName two := rfl
  have htexts : ∀ text ∈ shownTypes one,
      text ≠ "" ∧ bracketScanner.Closes ',' bracketScanner.start text.toList := by
    decide
  have htexts' : ∀ text ∈ shownTypes two,
      text ≠ "" ∧ bracketScanner.Closes ',' bracketScanner.start text.toList := by
    decide
  have htypes : (overload one).map ParameterShape.type ≠
      (overload two).map ParameterShape.type := by
    decide
  have hiff := (label_eq_iff bracketScanner hname htexts htexts').2 (by decide) (by decide)
  exact ⟨hname, htexts, htexts', htypes, fun hlabel => htypes (hiff.mp hlabel)⟩

/-- Parameters that differ in their arity only, or in the brackets behind their names only. -/
theorem overloads_confused :
    let single := sampleConstructor [sampleParameter "int" []]
    let many := sampleConstructor [sampleSpread "int"]
    let array := sampleConstructor
      [sampleParameter "int" [sampleNode "dimensions" (some "dimensions") "[]" 0 []]]
    overload single = [⟨"int", "", false⟩] ∧ overload many = [⟨"int", "", true⟩] ∧
      overload array = [⟨"int", "[]", false⟩] ∧
      constructorLabel single = "A(int)" ∧ constructorLabel many = "A(int)" ∧
      constructorLabel array = "A(int)" := by
  decide

end RuleMetrics.ConstructorSize
