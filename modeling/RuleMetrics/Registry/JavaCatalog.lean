import RuleMetrics.Registry.Catalog

/-!
# The built-in catalog of Java types

The primitive types and the library classes that rules speak of most.  Only chains of superclasses
are modelled; an interface stands alone.
-/

namespace RuleMetrics

/-- Java's primitive types and common library types, parents before their children. -/
def javaCatalog : Catalog where
  entries := [
    ⟨"boolean", none, [], []⟩,
    ⟨"byte", none, [], []⟩,
    ⟨"char", none, [], []⟩,
    ⟨"short", none, [], []⟩,
    ⟨"int", none, [], []⟩,
    ⟨"long", none, [], []⟩,
    ⟨"float", none, [], []⟩,
    ⟨"double", none, [], []⟩,
    ⟨"java.lang.Object", none, [],
      ["equals(Object)", "hashCode()", "toString()", "getClass()", "notify()", "notifyAll()",
       "wait()", "wait(long)", "wait(long,int)"]⟩,
    ⟨"java.lang.CharSequence", none, [],
      ["length()", "charAt(int)", "subSequence(int,int)", "toString()"]⟩,
    ⟨"java.lang.String", (some "java.lang.Object"), [],
      ["length()", "isEmpty()", "isBlank()", "charAt(int)", "indexOf(int)", "indexOf(int,int)",
       "indexOf(String)", "indexOf(String,int)", "lastIndexOf(int)", "lastIndexOf(String)",
       "substring(int)", "substring(int,int)", "trim()", "strip()", "toUpperCase()",
       "toLowerCase()", "equals(Object)", "equalsIgnoreCase(String)", "compareTo(String)",
       "startsWith(String)", "endsWith(String)", "contains(CharSequence)", "concat(String)",
       "replace(char,char)", "replace(CharSequence,CharSequence)", "matches(String)",
       "split(String)", "split(String,int)", "toCharArray()", "getBytes()", "intern()",
       "hashCode()", "toString()", "valueOf(int)", "valueOf(long)", "valueOf(char)",
       "valueOf(boolean)", "valueOf(char[])", "valueOf(Object)", "format(String,Object[])",
       "join(CharSequence,CharSequence[])"]⟩,
    ⟨"java.lang.StringBuilder", (some "java.lang.Object"), [],
      ["append(String)", "append(int)", "append(long)", "append(char)", "append(boolean)",
       "append(char[])", "append(Object)", "insert(int,String)", "charAt(int)",
       "deleteCharAt(int)", "length()", "setLength(int)", "reverse()", "toString()"]⟩,
    ⟨"java.lang.Number", (some "java.lang.Object"), [],
      ["intValue()", "longValue()", "floatValue()", "doubleValue()"]⟩,
    ⟨"java.lang.Integer", (some "java.lang.Number"), [],
      ["parseInt(String)", "parseInt(String,int)", "valueOf(int)", "valueOf(String)",
       "compareTo(Integer)", "toString(int)", "toString()", "hashCode()", "equals(Object)"]⟩,
    ⟨"java.lang.Long", (some "java.lang.Number"), [],
      ["parseLong(String)", "valueOf(long)", "valueOf(String)", "compareTo(Long)", "toString()"]⟩,
    ⟨"java.lang.Double", (some "java.lang.Number"), [],
      ["parseDouble(String)", "valueOf(double)", "isNaN()", "isNaN(double)", "compareTo(Double)"]⟩,
    ⟨"java.lang.Boolean", (some "java.lang.Object"), [],
      ["parseBoolean(String)", "valueOf(boolean)", "valueOf(String)", "booleanValue()"]⟩,
    ⟨"java.lang.Character", (some "java.lang.Object"), [],
      ["isDigit(char)", "isLetter(char)", "isWhitespace(char)", "toUpperCase(char)",
       "charValue()"]⟩,
    ⟨"java.lang.Math", (some "java.lang.Object"), [],
      ["abs(int)", "abs(long)", "abs(double)", "max(int,int)", "min(int,int)",
       "max(double,double)", "min(double,double)", "sqrt(double)", "pow(double,double)",
       "round(double)", "random()"]⟩,
    ⟨"java.lang.System", (some "java.lang.Object"), [],
      ["currentTimeMillis()", "nanoTime()", "exit(int)", "gc()",
       "arraycopy(Object,int,Object,int,int)", "getProperty(String)", "getenv(String)",
       "identityHashCode(Object)"]⟩,
    ⟨"java.lang.Thread", (some "java.lang.Object"), [],
      ["sleep(long)", "currentThread()", "start()", "run()", "join()", "interrupt()",
       "setDaemon(boolean)"]⟩,
    ⟨"java.lang.Class", (some "java.lang.Object"), [],
      ["forName(String)", "getName()", "getSimpleName()", "newInstance()"]⟩,
    ⟨"java.lang.Throwable", (some "java.lang.Object"), [],
      ["getMessage()", "getCause()", "printStackTrace()", "fillInStackTrace()"]⟩,
    ⟨"java.lang.Exception", (some "java.lang.Throwable"), [], []⟩,
    ⟨"java.lang.RuntimeException", (some "java.lang.Exception"), [], []⟩,
    ⟨"java.util.Collection", none, [],
      ["size()", "isEmpty()", "contains(Object)", "add(Object)", "remove(Object)", "clear()",
       "iterator()", "toArray()"]⟩,
    ⟨"java.util.List", none, [],
      ["size()", "isEmpty()", "get(int)", "set(int,Object)", "add(Object)", "add(int,Object)",
       "remove(int)", "remove(Object)", "contains(Object)", "indexOf(Object)", "subList(int,int)",
       "clear()", "toArray()", "toArray(Object[])"]⟩,
    ⟨"java.util.Map", none, [],
      ["size()", "isEmpty()", "get(Object)", "put(Object,Object)", "remove(Object)",
       "containsKey(Object)", "containsValue(Object)", "keySet()", "values()", "entrySet()"]⟩,
    ⟨"java.util.AbstractCollection", (some "java.lang.Object"), [],
      ["size()", "isEmpty()", "contains(Object)", "add(Object)", "remove(Object)", "toArray()",
       "toString()"]⟩,
    ⟨"java.util.AbstractList", (some "java.util.AbstractCollection"), [],
      ["get(int)", "add(Object)", "add(int,Object)", "indexOf(Object)", "clear()",
       "equals(Object)", "hashCode()"]⟩,
    ⟨"java.util.ArrayList", (some "java.util.AbstractList"), [],
      ["size()", "get(int)", "add(Object)", "clear()", "ensureCapacity(int)", "trimToSize()"]⟩,
    ⟨"java.util.AbstractMap", (some "java.lang.Object"), [],
      ["size()", "isEmpty()", "get(Object)", "containsKey(Object)", "toString()"]⟩,
    ⟨"java.util.HashMap", (some "java.util.AbstractMap"), [],
      ["get(Object)", "put(Object,Object)", "remove(Object)", "clear()"]⟩,
    ⟨"java.util.Date", (some "java.lang.Object"), [],
      ["getTime()", "setTime(long)", "before(java.util.Date)", "after(java.util.Date)"]⟩,
    ⟨"java.util.Arrays", (some "java.lang.Object"), [],
      ["asList(Object[])", "sort(int[])", "sort(Object[])", "fill(int[],int)",
       "equals(int[],int[])", "toString(int[])", "toString(Object[])", "copyOf(int[],int)"]⟩,
    ⟨"java.util.Objects", (some "java.lang.Object"), [],
      ["requireNonNull(Object)", "requireNonNull(Object,String)", "equals(Object,Object)",
       "hashCode(Object)", "isNull(Object)", "toString(Object)"]⟩,
    ⟨"java.util.Collections", (some "java.lang.Object"), [],
      ["sort(java.util.List)", "emptyList()", "unmodifiableList(java.util.List)",
       "reverse(java.util.List)"]⟩,
    ⟨"java.io.OutputStream", (some "java.lang.Object"), [],
      ["write(int)", "write(byte[])", "write(byte[],int,int)", "flush()", "close()"]⟩,
    ⟨"java.io.FilterOutputStream", (some "java.io.OutputStream"), [], ["write(int)"]⟩,
    ⟨"java.io.PrintStream", (some "java.io.FilterOutputStream"), [],
      ["print(String)", "print(int)", "println()", "println(String)", "println(int)",
       "println(Object)", "printf(String,Object[])", "flush()", "close()"]⟩]

/-- The registry of the built-in catalog. -/
def builtinRegistry : Except RegistryError Registry :=
  javaCatalog.build

end RuleMetrics
