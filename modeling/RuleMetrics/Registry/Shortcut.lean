/-!
# Well-known short names

The types of `java.lang` need no import in Java, so a catalog need not list aliases for them.
-/

namespace RuleMetrics

/-- Qualified names and the short names that go with them. -/
def shortcuts : List (String × String) :=
  [ ("java.lang.Object", "Object"),
    ("java.lang.String", "String"),
    ("java.lang.CharSequence", "CharSequence"),
    ("java.lang.StringBuilder", "StringBuilder"),
    ("java.lang.Number", "Number"),
    ("java.lang.Integer", "Integer"),
    ("java.lang.Long", "Long"),
    ("java.lang.Double", "Double"),
    ("java.lang.Boolean", "Boolean"),
    ("java.lang.Character", "Character"),
    ("java.lang.Math", "Math"),
    ("java.lang.System", "System"),
    ("java.lang.Thread", "Thread"),
    ("java.lang.Class", "Class"),
    ("java.lang.Throwable", "Throwable"),
    ("java.lang.Exception", "Exception"),
    ("java.lang.RuntimeException", "RuntimeException") ]

/-- The well-known short name of a type. -/
def shortcutFor (qualifiedName : String) : Option String :=
  shortcuts.lookup qualifiedName

end RuleMetrics
