/-!
# The command line

The program is `shelly-update-server`, with a global `--config <CONFIG>` option and three
subcommands: `serve` (also what runs without a subcommand), `parse-log <FILE>` and `help`. Every
command takes `-h`/`--help`; the top level also takes `-V`/`--version`.

This module holds the commands as data, and how their help and usage lines are laid out:
a summary, a usage line, then sections for subcommands, positional arguments and options.
Within a section the help texts share a column two places after the longest name; when a help
text would not fit in a line of 100 places and the names take more than 40 of them, every help
text of the section goes on its own line instead, indented by ten places.
-/

namespace FirmwareRedirect.Cli

/-- An option that takes a value: `--long <VALUE>`. -/
structure OptionSpec where
  long : String
  valueName : String
  help : String
  /-- The value must be a whole number below 2^64. -/
  numeric : Bool := false
  deriving DecidableEq, Repr

/-- The text of an option in usage lines and errors: `--long <VALUE>`. -/
def OptionSpec.text (o : OptionSpec) : String := "--" ++ o.long ++ " <" ++ o.valueName ++ ">"

/-- A positional argument. -/
structure PositionalSpec where
  valueName : String
  help : String
  required : Bool
  repeated : Bool := false
  deriving DecidableEq, Repr

/-- The text of a positional argument: `<FILE>` when required, `[COMMAND]...` when optional and
repeated. -/
def PositionalSpec.text (p : PositionalSpec) : String :=
  (if p.required then "<" ++ p.valueName ++ ">" else "[" ++ p.valueName ++ "]") ++
    (if p.repeated then "..." else "")

/-- A command: its name as typed, its summary, its options, positional arguments and
whether it has the help and version flags. -/
structure CommandSpec where
  name : String
  /-- The name shown in usage lines: the program name and the subcommand. -/
  usageName : String
  about : String
  options : List OptionSpec
  positionals : List PositionalSpec
  helpFlag : Bool := true
  versionFlag : Bool := false
  deriving DecidableEq, Repr

/-- The program name. -/
def programName : String := "shelly-update-server"

/-- The program version. -/
def programVersion : String := "1.0.0"

/-- `--config <CONFIG>`, accepted before and after a subcommand. -/
def configOption : OptionSpec := ⟨"config", "CONFIG", "Path to TOML config file", false⟩

/-- `--stock-model-map <STOCK_MODEL_MAP>`. -/
def stockModelMapOption : OptionSpec :=
  ⟨"stock-model-map", "STOCK_MODEL_MAP",
    "Stock device ID prefix -> HomeKit model map (YAML or JSON)", false⟩

/-- The top-level command. -/
def rootCommand : CommandSpec where
  name := programName
  usageName := programName
  about := "Firmware update redirector for stock Shelly devices"
  options := [configOption]
  positionals := []
  versionFlag := true

/-- `serve`. -/
def serveCommand : CommandSpec where
  name := "serve"
  usageName := programName ++ " serve"
  about := "Run the HTTP server (default when no subcommand given)"
  options := [configOption, stockModelMapOption,
    ⟨"listen-addr", "LISTEN_ADDR", "Serve HTTP requests on this addr:port", false⟩,
    ⟨"real-ip-header", "REAL_IP_HEADER", "Get the remote client's address from this HTTP header",
      false⟩,
    ⟨"dest-url-template", "DEST_URL_TEMPLATE",
      "URL template for firmware redirects; %s is replaced with the model name", false⟩,
    ⟨"log-retention-secs", "LOG_RETENTION_SECS",
      "How long to retain per-client request history, in seconds", true⟩]
  positionals := []

/-- `parse-log <FILE>`. -/
def parseLogCommand : CommandSpec where
  name := "parse-log"
  usageName := programName ++ " parse-log"
  about := "Replay an access log through the resolver instead of serving"
  options := [configOption, stockModelMapOption]
  positionals := [⟨"FILE", "Access log to replay", true, false⟩]

/-- `help [COMMAND]...`. -/
def helpCommand : CommandSpec where
  name := "help"
  usageName := programName ++ " help"
  about := "Print this message or the help of the given subcommand(s)"
  options := []
  positionals := [⟨"COMMAND", "Print help for the subcommand(s)", false, true⟩]
  helpFlag := false

/-- The subcommands, in the order they are listed. -/
def subcommands : List CommandSpec := [serveCommand, parseLogCommand, helpCommand]

/-- Whether a command has subcommands: only the top level does. -/
def CommandSpec.hasSubcommands (c : CommandSpec) : Bool := c.name = programName

/-- The subcommands of a command. -/
def CommandSpec.subcommands (c : CommandSpec) : List CommandSpec :=
  if c.hasSubcommands then Cli.subcommands else []

/-! ## Help and usage -/

/-- The width of a terminal line. -/
def lineWidth : Nat := 100

/-- `s` followed by spaces up to `width` places. -/
def padRight (width : Nat) (s : String) : String :=
  s ++ String.ofList (List.replicate (width - s.length) ' ')

/-- The usage line of a command, as help shows it. -/
def CommandSpec.usage (c : CommandSpec) : String :=
  let opts := if c.options.isEmpty && !c.helpFlag && !c.versionFlag then "" else " [OPTIONS]"
  let pos := String.join (c.positionals.map (" " ++ ·.text))
  let sub := if c.hasSubcommands then " [COMMAND]" else ""
  c.usageName ++ opts ++ pos ++ sub

/-- One row of a help section: the name, the help text, and the indent before the name. -/
structure Row where
  indent : String
  name : String
  help : String

/-- The rows of a section laid out: help texts in a column after the longest name, or each on
its own line when one would not fit. `extra` is the room the indent and the flag column take
besides the names. -/
def layoutRows (rows : List Row) (extra : Nat) : List String :=
  let longest := rows.foldl (fun m r => max m r.name.length) 0
  let taken := longest + extra
  let wraps := rows.any fun r =>
    lineWidth ≥ taken && taken * 10 > lineWidth * 4 && r.help.length > lineWidth - taken
  if wraps then rows.flatMap fun r => [r.indent ++ r.name, "          " ++ r.help]
  else rows.map fun r => r.indent ++ padRight (longest + 2) r.name ++ r.help

/-- The option rows of a command, the flags last. -/
def CommandSpec.optionRows (c : CommandSpec) : List Row :=
  c.options.map (fun o => ⟨"      ", o.text, o.help⟩) ++
    (if c.helpFlag then [⟨"  -h, ", "--help", "Print help"⟩] else []) ++
    (if c.versionFlag then [⟨"  -V, ", "--version", "Print version"⟩] else [])

/-- The help text of a command. -/
def CommandSpec.help (c : CommandSpec) : String :=
  let commands :=
    if c.hasSubcommands then
      ["", "Commands:"] ++ layoutRows (c.subcommands.map fun s => ⟨"  ", s.name, s.about⟩) 4
    else []
  let arguments :=
    if c.positionals.isEmpty then []
    else ["", "Arguments:"] ++ layoutRows (c.positionals.map fun p => ⟨"  ", p.text, p.help⟩) 4
  let options :=
    if c.optionRows.isEmpty then []
    else ["", "Options:"] ++ layoutRows c.optionRows 8
  let lines := [c.about, "", "Usage: " ++ c.usage] ++ commands ++ arguments ++ options
  String.join (lines.map (· ++ "\n"))

/-- The version text. -/
def versionText : String := programName ++ " " ++ programVersion ++ "\n"

end FirmwareRedirect.Cli
