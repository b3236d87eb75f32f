import FirmwareRedirect.Cli.Error
import FirmwareRedirect.Cli.Suggest
import FirmwareRedirect.Config.Settings
/-!
# Reading the command line

The words of a command line are read from left to right, one command level at a time.

* A subcommand name at the top level starts that subcommand, which reads the rest; `help` reads
  the rest as a path of subcommands and shows the help of the last.
* `--` makes every later word positional.
* `--long` or `--long=value` is an option or flag of the current command; an option without an
  attached value takes the next word as its value, unless that word looks like a flag.
* `-x...` is a short flag: `-h` for help and, at the top level, `-V` for the version.
* Any other word is the value of the pending option, or a positional argument.

Help and version are shown as soon as their flag is read, after the values already given have
been checked. An option's value is checked when the option is complete, that is at the next
flag, positional argument or the end: a missing value, a second use of the option, or a number
that does not read. Missing required arguments are reported last. An unknown flag is
reported with the most similar known one, when there is one.
-/

namespace FirmwareRedirect.Cli

/-- What the command line asks for. -/
inductive Command where
  /-- Serve, with the settings given as flags. -/
  | serve (flags : Overrides)
  /-- Replay an access log. -/
  | parseLog (file : String) (stockModelMap : Option String)

/-- A command line that asks the program to run. -/
structure Invocation where
  config : Option String
  command : Option Command

/-- What reading a command line gives. -/
inductive Outcome where
  /-- Show a help text and stop. -/
  | help (text : String)
  /-- Show the version and stop. -/
  | version (text : String)
  /-- Refuse the command line. -/
  | error (e : ArgError)
  /-- Run. -/
  | run (inv : Invocation)

/-- What reading one command level has gathered. -/
structure LevelState where
  /-- The options read, with their values. -/
  values : List (String × String) := []
  /-- The names of the options and flags read, in order. -/
  present : List String := []
  positionals : List String := []
  /-- The option whose value is still being gathered. -/
  pending : Option (OptionSpec × List String) := none
  /-- Whether the next word is taken as the value of the pending option. -/
  expecting : Bool := false
  /-- Whether `--` has been read. -/
  trailing : Bool := false

/-- The names of a command's flags and options as typed after `--`, in the order they are
looked up. -/
def CommandSpec.longs (c : CommandSpec) : List String :=
  let own := c.options.map (·.long)
  -- the global option comes after the command's own ones, and help after it
  let own := if c.hasSubcommands then own else own.filter (· ≠ configOption.long) ++ [configOption.long]
  own ++ (if c.helpFlag then ["help"] else []) ++ (if c.versionFlag then ["version"] else [])

/-- The text of a flag or option name in usage lines. -/
def CommandSpec.argText (c : CommandSpec) (name : String) : String :=
  match c.options.find? (·.long = name) with
  | some o => o.text
  | none => "--" ++ name

/-- The usage line for errors, showing the options used, then the positional arguments that
are required or among the first `given`. Without any option or positional argument used, it is
the usage line of the help. -/
def CommandSpec.usageWith (c : CommandSpec) (used : List String) (given : Nat) (required : Bool) :
    String :=
  if used.isEmpty && given = 0 && !required then c.usage
  else
    let opts := used.eraseDups.map fun n => " " ++ c.argText n
    let shown := (c.positionals.zipIdx.filter fun (p, i) => p.required || i < given).map (·.1)
    let pos := shown.map fun p => " " ++ p.text
    c.usageName ++ String.join opts ++ String.join pos

/-- Where reading stops before the end. -/
inductive Stop where
  | help (c : CommandSpec)
  | version
  | error (e : ArgError)

/-- Take an option's values: one value, not given before, and a number when it must be. -/
def react (c : CommandSpec) (st : LevelState) (o : OptionSpec) (vals : List String) :
    Except Stop LevelState :=
  match vals with
  | [] => .error (.error (.emptyValue o.text))
  | v :: _ =>
    if st.present.contains o.long then .error (.error (.repeated o.text c.usage))
    else
      let checked : Except Stop Unit :=
        if o.numeric then
          match parseU64 v with
          | .ok _ => .ok ()
          | .error e => .error (.error (.invalidValue v o.text e.message))
        else .ok ()
      checked.map fun _ =>
        { st with values := st.values ++ [(o.long, v)], present := st.present ++ [o.long] }

/-- Complete the pending option, if any. -/
def resolvePending (c : CommandSpec) (st : LevelState) : Except Stop LevelState :=
  match st.pending with
  | none => .ok st
  | some (o, vals) => react c { st with pending := none } o vals

/-- Complete the pending option, ignoring what is wrong with it: used when another error is
about to be reported. -/
def dropPending (c : CommandSpec) (st : LevelState) : LevelState :=
  match resolvePending c st with
  | .ok st => st
  | .error _ => { st with pending := none }

/-- The error for an unknown `--name`, with the most similar flag of this command or, failing
that, of a subcommand named later on the line. -/
def unknownLong (c : CommandSpec) (st : LevelState) (name : String) (rest : List String) :
    ArgError :=
  let arg := "--" ++ name
  let own := (similarNames name c.longs).getLast?
  let inSub : Option (String × String) :=
    if own.isSome then none
    else
      let found := c.subcommands.filterMap fun s =>
        match (similarNames name s.longs).getLast?, rest.idxOf? s.name with
        | some flag, some pos => some (pos, ("--" ++ flag, s.name))
        | _, _ => none
      (found.foldl (fun (best : Option (Nat × (String × String))) x =>
        match best with
        | some b => if x.1 < b.1 then some x else some b
        | none => some x) none).map (·.2)
  let trailingTip :=
    if own.isNone && !st.trailing && !c.positionals.isEmpty then
      ["to pass '" ++ arg ++ "' as a value, use '-- " ++ arg ++ "'"]
    else []
  let subTip := (inSub.map fun (flag, sub) => "'" ++ sub ++ " " ++ flag ++ "' exists").toList
  let used := st.present ++ own.toList
  .unknownArgument arg (own.map ("--" ++ ·)) (trailingTip ++ subTip) (c.usageWith used st.positionals.length false)

/-- The error for a word that is neither a subcommand nor a positional argument here. -/
def unexpectedWord (c : CommandSpec) (st : LevelState) (word : String) : ArgError :=
  if st.trailing && c.subcommands.any (·.name = word) then
    .doubleDashBeforeSubcommand word c.usage
  else if c.hasSubcommands then
    match similarNames word (c.subcommands.map (·.name)) with
    | [] => .unrecognizedSubcommand word c.usage
    | similar => .invalidSubcommand word similar c.usage
  else .unknownArgument word none [] c.usage

/-- Follow `help a b ...` down the subcommands and give the help of the last one. -/
def helpPath (c : CommandSpec) : List String → Stop
  | [] => .help c
  | w :: ws =>
    match c.subcommands.find? (·.name = w) with
    | some s => helpPath s ws
    | none => .error (.unrecognizedSubcommand w c.usage)

/-- Split `--name=value`. -/
def splitLong (body : String) : String × Option String :=
  match body.splitOn "=" with
  | [] => ("", none)
  | [name] => (name, none)
  | name :: rest => (name, some ("=".intercalate rest))

/-- Read one command level. Gives what was gathered and, when a subcommand was named, the
subcommand and the words after it. -/
def readLevel (c : CommandSpec) : List String → LevelState →
    Except Stop (LevelState × Option (CommandSpec × List String))
  | [], st => do
    let st ← resolvePending c st
    pure (st, none)
  | arg :: rest, st =>
    let positional : Except Stop (LevelState × Option (CommandSpec × List String)) :=
      if st.positionals.length < c.positionals.length then do
        let st ← resolvePending c st
        readLevel c rest { st with positionals := st.positionals ++ [arg], expecting := false }
      else .error (.error (unexpectedWord c (dropPending c st) arg))
    if st.trailing then positional
    else
      match c.subcommands.find? (·.name = arg) with
      | some s =>
        if s.name = helpCommand.name then .error (helpPath c rest)
        else .ok (st, some (s, rest))
      | none =>
        if arg = "--" then readLevel c rest { st with trailing := true, expecting := false }
        else if arg.startsWith "--" then
          let (name, value?) := splitLong (arg.drop 2).toString
          if (name = "help" && c.helpFlag) || (name = "version" && c.versionFlag) then
            match value? with
            | some v =>
              let st := dropPending c st
              .error (.error (.unexpectedValue v ("--" ++ name)
                (c.usageWith (st.present ++ [name]) st.positionals.length false)))
            | none => do
              let _ ← resolvePending c st
              .error (if name = "help" then .help c else .version)
          else
            match c.options.find? (·.long = name) with
            | some o => do
              let st ← resolvePending c st
              match value? with
              | some v =>
                let st ← react c st o [v]
                readLevel c rest { st with expecting := false }
              | none => readLevel c rest { st with pending := some (o, []), expecting := true }
            | none => .error (.error (unknownLong c (dropPending c st) name rest))
        else if arg.startsWith "-" && arg ≠ "-" then
          let flag := (arg.drop 1).toString.front
          if flag = 'h' && c.helpFlag then do
            let _ ← resolvePending c st
            .error (.help c)
          else if flag = 'V' && c.versionFlag then do
            let _ ← resolvePending c st
            .error .version
          else
            let tip :=
              if !c.positionals.isEmpty then
                ["to pass '-" ++ String.singleton flag ++ "' as a value, use '-- -" ++
                  String.singleton flag ++ "'"]
              else []
            .error (.error (.unknownArgument ("-" ++ String.singleton flag) none tip c.usage))
        else if st.expecting then
          readLevel c rest { st with
            pending := st.pending.map (fun (o, vs) => (o, vs ++ [arg])), expecting := false }
        else positional
termination_by ws => ws.length

/-- Check what a level gathered: its required positional arguments are all given. -/
def checkRequired (c : CommandSpec) (st : LevelState) : Except Stop Unit :=
  let missing := (c.positionals.drop st.positionals.length).filter (·.required)
  if missing.isEmpty then .ok ()
  else .error (.error (.missingRequired (missing.map (·.text)) (c.usageWith st.present st.positionals.length true)))

/-- The value of an option read at a level. -/
def LevelState.get? (st : LevelState) (name : String) : Option String := st.values.lookup name

/-- The invocation a subcommand level describes. -/
def commandOf (s : CommandSpec) (st : LevelState) : Command :=
  if s.name = parseLogCommand.name then
    .parseLog ((st.positionals.head?).getD "") (st.get? "stock-model-map")
  else
    .serve { listen := st.get? "listen-addr", realIpHeader := st.get? "real-ip-header",
             destUrlTemplate := st.get? "dest-url-template",
             stockModelMap := st.get? "stock-model-map",
             logRetentionSecs := (st.get? "log-retention-secs").bind fun v => (parseU64 v).toOption }

/-- Read a whole command line, without the program name. -/
def parseArgs (args : List String) : Outcome :=
  let result : Except Stop Invocation := do
    let (top, sub?) ← readLevel rootCommand args {}
    let sub ← match sub? with
      | none => pure none
      | some (s, rest) => do
        let (st, _) ← readLevel s rest {}
        checkRequired s st
        pure (some (s, st))
    -- the top level completes its pending option only after the subcommand is read
    let top ← resolvePending rootCommand top
    checkRequired rootCommand top
    let config := (sub.bind fun (_, st) => st.get? configOption.long).orElse
      fun _ => top.get? configOption.long
    pure ⟨config, sub.map fun (s, st) => commandOf s st⟩
  match result with
  | .ok inv => .run inv
  | .error (.help c) => .help c.help
  | .error .version => .version versionText
  | .error (.error e) => .error e

end FirmwareRedirect.Cli
