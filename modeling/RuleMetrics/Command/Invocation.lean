import RuleMetrics.Command.Arguments

/-!
# Commands

The commands of the program with their arguments, and how a command line is read as one of them.
-/

namespace RuleMetrics

/-- A command with its arguments. -/
inductive Invocation where
  /-- Run a rule set over a file or a directory. -/
  | check (path : String) (ruleset : Option String) (format : String) (catalog : Option String)
  /-- Read references to methods. -/
  | method (references : List String) (namespaces : List String) (catalog : Option String)
  /-- List the aliases of types. -/
  | aliases (catalog : Option String)
  /-- List the built-in rules. -/
  | rules (catalog : Option String)
  /-- Write a rule set to start from. -/
  | init (output : String)
deriving Repr, DecidableEq

namespace Invocation

/-- The option that names a catalog. -/
def catalogOption : CommandOption := ⟨.catalog, "catalog", none⟩

/-- The arguments of a command. -/
def grammar? (command : String) : Option Grammar :=
  match command with
  | "check" =>
    some ⟨[⟨.ruleset, "ruleset", some 'r'⟩, ⟨.format, "format", some 'f'⟩, catalogOption],
      some .path⟩
  | "method" => some ⟨[⟨.namespaces, "namespace", some 'n'⟩, catalogOption], some .references⟩
  | "aliases" => some ⟨[catalogOption], none⟩
  | "rules" => some ⟨[catalogOption], none⟩
  | "init" => some ⟨[⟨.output, "output", some 'o'⟩], none⟩
  | _ => none

/-- The command that its name and arguments describe. -/
def ofArguments (command : String) (a : Arguments) : Except UsageError Invocation :=
  let catalog := a.value? .catalog
  match command with
  | "check" =>
    match a.value? .path with
    | none => .error .missingArgument
    | some path => .ok (.check path (a.value? .ruleset) ((a.value? .format).getD "pretty") catalog)
  | "method" =>
    match a.values .references with
    | [] => .error .missingArgument
    | references => .ok (.method references (a.values .namespaces) catalog)
  | "aliases" => .ok (.aliases catalog)
  | "rules" => .ok (.rules catalog)
  | "init" => .ok (.init ((a.value? .output).getD "rulecore.yaml"))
  | _ => .error .unknownCommand

/-- Whether a name is that of a command, the command that shows help included. -/
def isCommand (name : String) : Bool :=
  name == "help" || (grammar? name).isSome

/-- What a command line asks for after an argument of two hyphens and nothing else. -/
def parseLiteral : List String → UsageError
  | [] => .nothingGiven
  | arg :: _ => if isCommand arg then .unknownArgument else .unknownCommand

/-- What a command line asks for that starts with the command that shows help: help on the program
or on one command. -/
def parseHelp : List String → UsageError
  | [] => .helpWanted
  | [command] => if isCommand command then .helpWanted else .unknownCommand
  | _ :: _ :: _ => .unknownCommand

/-- What a command line asks for whose first argument starts with two hyphens. -/
def parseFlag (text : List Char) : UsageError :=
  let (name, attached) :=
    match Text.cut '=' text with
    | some (name, _) => (String.ofList name, true)
    | none => (String.ofList text, false)
  if name ≠ "help" ∧ name ≠ "version" then .unknownArgument
  else if attached then .unneededValue
  else if name = "help" then .helpWanted
  else .versionWanted

/-- Read the command line after the program's name. -/
def parse : List String → Except UsageError Invocation
  | [] => .error .nothingGiven
  | "--" :: rest => .error (parseLiteral rest)
  | "help" :: rest => .error (parseHelp rest)
  | command :: rest =>
    match grammar? command with
    | some g =>
      match Arguments.none.read g false rest with
      | .ok a => ofArguments command a
      | .error e => .error e
    | none =>
      match command.toList with
      | '-' :: '-' :: flag => .error (parseFlag flag)
      | '-' :: 'h' :: _ => .error .helpWanted
      | '-' :: 'V' :: _ => .error .versionWanted
      | '-' :: _ :: _ => .error .unknownArgument
      | _ => .error .unknownCommand

end Invocation

end RuleMetrics
