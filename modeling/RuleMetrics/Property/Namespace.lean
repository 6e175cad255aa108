/-!
# Legal namespaces

A property that speaks of types can be limited to namespaces.  A namespace is a prefix of
qualified names; no prefix at all means that every type is legal.
-/

namespace RuleMetrics

/-- Prefixes of qualified names, in order, none of them empty and none listed twice. -/
structure LegalNamespaces where
  prefixes : List String
deriving Repr, DecidableEq

namespace LegalNamespaces

/-- Every type is legal. -/
def unconstrained : LegalNamespaces := ⟨[]⟩

/-- The namespaces with these prefixes.  Empty ones are left out, and of equal ones all but the
first. -/
def ofList (texts : List String) : LegalNamespaces where
  prefixes := texts.foldl
    (fun kept text => if text = "" ∨ text ∈ kept then kept else kept ++ [text]) []

/-- Whether every type is legal. -/
def isUnconstrained (n : LegalNamespaces) : Bool :=
  n.prefixes.isEmpty

/-- Whether the type with this qualified name is legal. -/
def allows (n : LegalNamespaces) (qualifiedName : String) : Bool :=
  n.isUnconstrained || n.prefixes.any fun p => p.toList.isPrefixOf qualifiedName.toList

end LegalNamespaces

end RuleMetrics
