import FirmwareRedirect.Cli.Command
/-!
# Command-line errors

A command line that cannot be read is refused with a message on standard error and exit code
2. The message starts with `error: `, may carry tips (a similar name, or how to pass a text
that looks like a flag as a value), may show a usage line, and ends by pointing at `--help`.
-/

namespace FirmwareRedirect.Cli

/-- Why a command line was refused. Each carries the usage line to show, if any. -/
inductive ArgError where
  /-- An argument that is not known here. -/
  | unknownArgument (arg : String) (similarFlag : Option String) (tips : List String)
      (usage : String)
  /-- A word where a subcommand was expected, with the similar subcommands. -/
  | invalidSubcommand (word : String) (similar : List String) (usage : String)
  /-- A word where a subcommand was expected, with nothing similar. -/
  | unrecognizedSubcommand (word : String) (usage : String)
  /-- A subcommand name after `--`. -/
  | doubleDashBeforeSubcommand (word : String) (usage : String)
  /-- An option given without its value. -/
  | emptyValue (arg : String)
  /-- A value that the option does not accept, and why. -/
  | invalidValue (value arg reason : String)
  /-- An option given twice. -/
  | repeated (arg : String) (usage : String)
  /-- Required arguments that are missing. -/
  | missingRequired (args : List String) (usage : String)
  /-- A value attached to a flag that takes none. -/
  | unexpectedValue (value arg : String) (usage : String)
  deriving DecidableEq, Repr

/-- The first part of an error message, after `error: `. -/
def ArgError.headline : ArgError → String
  | .unknownArgument arg .. => "unexpected argument '" ++ arg ++ "' found"
  | .invalidSubcommand word .. => "unrecognized subcommand '" ++ word ++ "'"
  | .unrecognizedSubcommand word _ => "unrecognized subcommand '" ++ word ++ "'"
  | .doubleDashBeforeSubcommand .. => "unexpected argument '--' found"
  | .emptyValue arg => "a value is required for '" ++ arg ++ "' but none was supplied"
  | .invalidValue value arg reason =>
    "invalid value '" ++ value ++ "' for '" ++ arg ++ "': " ++ reason
  | .repeated arg _ => "the argument '" ++ arg ++ "' cannot be used multiple times"
  | .missingRequired args _ =>
    "the following required arguments were not provided:" ++
      String.join (args.map ("\n  " ++ ·))
  | .unexpectedValue value arg _ =>
    "unexpected value '" ++ value ++ "' for '" ++ arg ++ "' found; no more were expected"

/-- The tips of an error, each on its own line after a blank line. -/
def ArgError.tips : ArgError → List String
  | .unknownArgument _ similar tips _ =>
    (similar.map fun s => "a similar argument exists: '" ++ s ++ "'").toList ++ tips
  | .invalidSubcommand _ similar _ =>
    match similar with
    | [] => []
    | [s] => ["a similar subcommand exists: '" ++ s ++ "'"]
    | ss => ["some similar subcommands exist: " ++ ", ".intercalate (ss.map fun s => "'" ++ s ++ "'")]
  | .doubleDashBeforeSubcommand word _ =>
    ["subcommand '" ++ word ++ "' exists; to use it, remove the '--' before it"]
  | _ => []

/-- The usage line an error shows, if any. -/
def ArgError.usage? : ArgError → Option String
  | .unknownArgument _ _ _ u | .invalidSubcommand _ _ u | .unrecognizedSubcommand _ u
  | .doubleDashBeforeSubcommand _ u | .repeated _ u | .missingRequired _ u
  | .unexpectedValue _ _ u => some u
  | .emptyValue _ | .invalidValue .. => none

/-- The full text of an error, as written to standard error. -/
def ArgError.render (e : ArgError) : String :=
  let tips := e.tips
  let tipText := if tips.isEmpty then "" else "\n" ++ String.join (tips.map ("\n  tip: " ++ ·))
  let usage := match e.usage? with
    | some u => "\n\nUsage: " ++ u
    | none => ""
  "error: " ++ e.headline ++ tipText ++ usage ++ "\n\nFor more information, try '--help'.\n"

end FirmwareRedirect.Cli
