import RuleMetrics.Text.Cut

/-!
# Command lines

A command line names a command and gives it arguments: options, which may have a short form, and
operands.  The value of an option follows it, or is attached to it.  After two hyphens every
argument is an operand.

An argument takes effect when the next one is known to be something else, so of two faults it is
not always the first that is reported.
-/

namespace RuleMetrics

/-- Why a command line cannot be understood. -/
inductive UsageError where
  /-- Nothing was asked for. -/
  | nothingGiven
  | helpWanted
  | versionWanted
  | unknownCommand
  | unknownArgument
  | missingArgument
  | invalidValue
  | repeatedOption
  /-- A value is attached to an argument that takes none. -/
  | unneededValue
deriving Repr, DecidableEq

namespace UsageError

/-- The wording of an error. -/
def message : UsageError → String
  | nothingGiven => "a command is needed: check, method, aliases, rules or init"
  | helpWanted => "commands: check, method, aliases, rules, init"
  | versionWanted => "rulecore"
  | unknownCommand => "unknown command"
  | unknownArgument => "unexpected argument"
  | missingArgument => "a required argument is missing"
  | invalidValue => "the value of an argument is missing or empty"
  | repeatedOption => "an option is given twice"
  | unneededValue => "an argument takes no value"

/-- The exit code: asking for help is no fault. -/
def exitCode : UsageError → Nat
  | helpWanted | versionWanted => 0
  | nothingGiven | unknownCommand | unknownArgument | missingArgument | invalidValue
  | repeatedOption | unneededValue => 2

end UsageError

/-- What an argument of a command stands for. -/
inductive Slot where
  | path
  | ruleset
  | format
  | catalog
  | references
  | namespaces
  | output
deriving Repr, DecidableEq

namespace Slot

/-- Whether the value is a path, which cannot be empty. -/
def isPath : Slot → Bool
  | path | ruleset | catalog | output => true
  | format | references | namespaces => false

/-- Whether an argument can be given several times. -/
def isRepeatable : Slot → Bool
  | references | namespaces => true
  | path | ruleset | format | catalog | output => false

end Slot

/-- An option with its names. -/
structure CommandOption where
  slot : Slot
  long : String
  short : Option Char
deriving Repr, DecidableEq

/-- The arguments that a command takes. -/
structure Grammar where
  options : List CommandOption
  operand : Option Slot
deriving Repr, DecidableEq

/-- The arguments that are read so far. -/
structure Arguments where
  given : List (Slot × String)
  /-- The last argument, which has no effect yet, and its value if it is known. -/
  pending : Option (Slot × Option String)
deriving Repr, DecidableEq

namespace Arguments

/-- No arguments. -/
def none : Arguments := ⟨[], .none⟩

/-- Whether something is given for a slot, perhaps without effect yet. -/
def mentions (a : Arguments) (slot : Slot) : Bool :=
  a.given.any (fun e => e.1 == slot) || (a.pending.map Prod.fst == some slot)

/-- Let the last argument take effect. -/
def settle (a : Arguments) : Except UsageError Arguments :=
  match a.pending with
  | .none => .ok a
  | some (_, .none) => .error .invalidValue
  | some (slot, some value) =>
    if !slot.isRepeatable && a.given.any (fun e => e.1 == slot) then .error .repeatedOption
    else if slot.isPath && value == "" then .error .invalidValue
    else .ok ⟨a.given ++ [(slot, value)], .none⟩

/-- Read an option, with its value if that is attached. -/
def option (a : Arguments) (slot : Slot) (value : Option String) : Except UsageError Arguments := do
  let a ← a.settle
  match value with
  | .none => return { a with pending := some (slot, .none) }
  | some v => settle { a with pending := some (slot, some v) }

/-- Read an operand. -/
def operand (a : Arguments) (g : Grammar) (value : String) : Except UsageError Arguments :=
  match g.operand with
  | .none => .error .unknownArgument
  | some slot =>
    if !slot.isRepeatable && a.mentions slot then .error .unknownArgument
    else a.settle.map fun a => { a with pending := some (slot, some value) }

/-- Read an argument that names an option by its long name, perhaps with `=` and a value. -/
def longOption (a : Arguments) (g : Grammar) (text : List Char) : Except UsageError Arguments :=
  let (name, value) :=
    match Text.cut '=' text with
    | some (name, value) => (String.ofList name, some (String.ofList value))
    | .none => (String.ofList text, .none)
  match g.options.find? fun o => o.long == name with
  | some o => a.option o.slot value
  | .none =>
    if name ≠ "help" then .error .unknownArgument
    else if value.isSome then .error .unneededValue
    else a.settle.bind fun _ => .error .helpWanted

/-- Read an argument that names an option by its short name, perhaps with its value after it. -/
def shortOption (a : Arguments) (g : Grammar) (name : Char) (rest : List Char) :
    Except UsageError Arguments :=
  match g.options.find? fun o => o.short == some name with
  | some o =>
    let value :=
      match rest with
      | [] => Option.none
      | '=' :: value => some (String.ofList value)
      | value => some (String.ofList value)
    a.option o.slot value
  | .none =>
    if name = 'h' then a.settle.bind fun _ => .error .helpWanted else .error .unknownArgument

/-- Read the arguments of a command.  With `literal`, all of them are operands. -/
def read (g : Grammar) (literal : Bool) (a : Arguments) :
    List String → Except UsageError Arguments
  | [] => a.settle
  | arg :: rest => do
    if literal then
      let a ← a.operand g arg
      read g true a rest
    else if arg = "--" then read g true a rest
    else
      let a ←
        match arg.toList with
        | '-' :: '-' :: text => a.longOption g text
        | '-' :: name :: more => a.shortOption g name more
        | _ =>
          match a.pending with
          | some (slot, .none) => .ok { a with pending := some (slot, some arg) }
          | _ => a.operand g arg
      read g false a rest

/-- The value of a slot that is given once at most. -/
def value? (a : Arguments) (slot : Slot) : Option String :=
  a.given.lookup slot

/-- The values of a slot in the order in which they are given. -/
def values (a : Arguments) (slot : Slot) : List String :=
  a.given.filterMap fun e => if e.1 = slot then some e.2 else .none

end Arguments

end RuleMetrics
