/-!
# Syntax trees

A node has a kind, perhaps the name of the field that it fills in its parent, the text that it
spans, its line and its children.  A node without a name of its own in the grammar is kept only
where it fills a field, such as the semicolon that is the whole branch of an `else`.

Trees arrive as a list of entries in preorder, each with its depth.
-/

namespace RuleMetrics

/-- What is known of a node beside its children. -/
structure NodeLabel where
  kind : String
  field : Option String
  /-- The spanned text; none if it is not well-formed UTF-8. -/
  text : Option String
  /-- The line on which the node starts, counted from zero. -/
  row : Nat
  named : Bool
deriving Repr, DecidableEq

/-- A node with its children in order. -/
inductive SyntaxTree where
  | node (label : NodeLabel) (children : List SyntaxTree)
deriving Repr

namespace SyntaxTree

/-- What is known of the root. -/
def label : SyntaxTree → NodeLabel
  | node label _ => label

/-- All children, named or not. -/
def children : SyntaxTree → List SyntaxTree
  | node _ children => children

/-- The kind of the root. -/
def kind (t : SyntaxTree) : String :=
  t.label.kind

/-- The children that have a name in the grammar. -/
def namedChildren (t : SyntaxTree) : List SyntaxTree :=
  t.children.filter fun c => c.label.named

/-- The first child that fills a field. -/
def childInField (t : SyntaxTree) (field : String) : Option SyntaxTree :=
  t.children.find? fun c => c.label.field == some field

/-- The text of the root, or what stands for it. -/
def textOr (t : SyntaxTree) (alternative : String) : String :=
  t.label.text.getD alternative

/-! ## Size -/

mutual

/-- The number of nodes of a tree. -/
def size : SyntaxTree → Nat
  | node _ children => 1 + sizeAll children

/-- The number of nodes of some trees. -/
def sizeAll : List SyntaxTree → Nat
  | [] => 0
  | t :: rest => t.size + sizeAll rest

end

@[simp]
theorem sizeAll_append (a b : List SyntaxTree) : sizeAll (a ++ b) = sizeAll a + sizeAll b := by
  induction a with
  | nil => simp [sizeAll]
  | cons t a ih => simp [sizeAll, ih, Nat.add_assoc]

@[simp]
theorem sizeAll_reverse (a : List SyntaxTree) : sizeAll a.reverse = sizeAll a := by
  induction a with
  | nil => rfl
  | cons t a ih => simp [sizeAll, ih, Nat.add_comm]

theorem sizeAll_filter_le (p : SyntaxTree → Bool) (a : List SyntaxTree) :
    sizeAll (a.filter p) ≤ sizeAll a := by
  induction a with
  | nil => simp
  | cons t a ih =>
    by_cases hp : p t
    · simp [List.filter_cons_of_pos hp, sizeAll, ih]
    · simp [List.filter_cons_of_neg hp, sizeAll]
      omega

/-- The named children of a node together are smaller than the node. -/
theorem sizeAll_namedChildren_lt (t : SyntaxTree) : sizeAll t.namedChildren < t.size := by
  cases t with
  | node label children =>
    have := sizeAll_filter_le (fun c => c.label.named) children
    simp only [namedChildren, SyntaxTree.children, size]
    omega

/-! ## Preorder -/

mutual

/-- The nodes of some kind, in preorder. -/
def ofKind (kind : String) : SyntaxTree → List SyntaxTree
  | node label children =>
    let below := ofKindAll kind children
    if label.kind = kind then node label children :: below else below

/-- The nodes of some kind in several trees, in preorder. -/
def ofKindAll (kind : String) : List SyntaxTree → List SyntaxTree
  | [] => []
  | t :: rest => t.ofKind kind ++ ofKindAll kind rest

end

/-- A node of a preorder list. -/
structure Entry where
  depth : Nat
  label : NodeLabel
deriving Repr

/-- The trees of a preorder list.  The entries that follow a node and are deeper belong to it. -/
def ofPreorder : List Entry → List SyntaxTree
  | [] => []
  | e :: rest =>
    node e.label (ofPreorder (rest.takeWhile fun f => decide (e.depth < f.depth))) ::
      ofPreorder (rest.dropWhile fun f => decide (e.depth < f.depth))
termination_by entries => entries.length
decreasing_by
  · have := (List.takeWhile_prefix (fun f : Entry => decide (e.depth < f.depth))
      (l := rest)).length_le
    simp only [List.length_cons]
    omega
  · have := (List.dropWhile_suffix (fun f : Entry => decide (e.depth < f.depth))
      (l := rest)).length_le
    simp only [List.length_cons]
    omega

end SyntaxTree

/-- A source file: its bytes and its syntax tree. -/
structure Source where
  content : ByteArray
  tree : List SyntaxTree

/-- The part of a file between two byte positions, if it is well-formed UTF-8. -/
def textBetween (content : ByteArray) (start stop : Nat) : Option String :=
  String.fromUTF8? (content.extract start stop)

end RuleMetrics
