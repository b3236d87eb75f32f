import FirmwareRedirect.Config.Load
/-!
# Where each setting comes from

Loading settings reads at most one file: the one named on the command line, or else the default
file when something is at its path. The environment then replaces each setting it gives, and the
command line each setting given there. A value that is given wins even when it is empty. The
retention read from the environment must be a number; a file that cannot be read or parsed stops
loading first. The shutdown grace period and the log level are read from the file alone.

`Settings.applyEnv` sets its fields one after the other; `Settings.applyEnv_eq` gives all of them
at once, with the retention as the only step that can fail.

Main statement: `load_applyOverrides`, the settings for every file system, environment, named
file and command line.
-/

namespace FirmwareRedirect

/-- The retention the environment leaves: the variable read as a number when it is set, the
retention before it otherwise, and an error naming the variable and its text when it is not a
number. -/
def envRetention (env : String → Option String) (secs : Nat) : Except String Nat :=
  match env envLogRetentionSecs with
  | none => .ok secs
  | some v =>
    match parseU64 v with
    | .ok n => .ok n
    | .error e =>
      .error ("Invalid " ++ envLogRetentionSecs ++ " " ++ Text.quote v ++ ": " ++ e.message)

/-- The environment replaces each setting it gives, all at once; only the retention can fail. -/
theorem Settings.applyEnv_eq (env : String → Option String) (s : Settings) :
    s.applyEnv env = (envRetention env s.server.logRetentionSecs).map fun secs =>
      { s with
        server.listen := (env envListen).getD s.server.listen
        server.realIpHeader := (env envRealIpHeader).getD s.server.realIpHeader
        server.destUrlTemplate := (env envDestUrlTemplate).getD s.server.destUrlTemplate
        models.stockModelMap := (env envStockModelMap).getD s.models.stockModelMap
        server.logRetentionSecs := secs } := by
  unfold Settings.applyEnv envRetention
  -- the retention is read last, so its failure is split first; the other variables each set
  -- their field or leave it
  cases env envLogRetentionSecs with
  | none =>
    cases env envListen <;> cases env envRealIpHeader <;> cases env envDestUrlTemplate <;>
      cases env envStockModelMap <;> rfl
  | some v =>
    dsimp only
    cases parseU64 v <;> cases env envListen <;> cases env envRealIpHeader <;>
      cases env envDestUrlTemplate <;> cases env envStockModelMap <;> rfl

/-- The settings file that loading reads: the one named, or else the default file when something
is at its path. -/
def settingsFile? (files : FileView) : Option String → Option String
  | some path => some path
  | none => if files.exists defaultSettingsFile then some defaultSettingsFile else none

/-- The settings a file gives, or the defaults when no file is read. -/
def fileSettings (files : FileView) : Option String → Except String Settings
  | some path => Settings.ofFile files path
  | none => .ok {}

/-- Loading reads the settings file, if any, and then applies the environment. -/
theorem Settings.load_eq (files : FileView) (env : String → Option String)
    (path : Option String) :
    Settings.load files env path =
      (fileSettings files (settingsFile? files path)).bind (·.applyEnv env) := by
  cases path with
  | some p => rfl
  | none =>
    -- the default file is read only when something is at its path
    by_cases h : files.exists defaultSettingsFile
    · simp only [Settings.load, settingsFile?, fileSettings, h, if_true]
      rfl
    · simp only [Settings.load, settingsFile?, fileSettings, h]
      rfl

/-- Each of the five settings that the command line can give is the command line's value when
given, else the environment's when set, else the file's (or its default); the shutdown grace
period and the log level are the file's. Loading fails exactly when the file read cannot be read
or parsed, or when the retention in the environment is not a number, and a file error comes
first. -/
theorem load_applyOverrides (files : FileView) (env : String → Option String)
    (path : Option String) (o : Overrides) :
    (Settings.load files env path).map (Settings.applyOverrides o) =
      (fileSettings files (settingsFile? files path)).bind fun f =>
        (envRetention env f.server.logRetentionSecs).map fun secs =>
          { server :=
              { listen := o.listen.getD ((env envListen).getD f.server.listen)
                realIpHeader :=
                  o.realIpHeader.getD ((env envRealIpHeader).getD f.server.realIpHeader)
                destUrlTemplate :=
                  o.destUrlTemplate.getD ((env envDestUrlTemplate).getD f.server.destUrlTemplate)
                logRetentionSecs := o.logRetentionSecs.getD secs
                shutdownGraceSecs := f.server.shutdownGraceSecs }
            models :=
              { stockModelMap :=
                  o.stockModelMap.getD ((env envStockModelMap).getD f.models.stockModelMap) }
            logging := f.logging } := by
  rw [Settings.load_eq]
  cases fileSettings files (settingsFile? files path) with
  | error e => rfl
  | ok f =>
    -- the command line is applied on top of whatever the environment left
    show (f.applyEnv env).map (Settings.applyOverrides o) =
      (envRetention env f.server.logRetentionSecs).map _
    rw [Settings.applyEnv_eq]
    cases envRetention env f.server.logRetentionSecs <;> rfl

end FirmwareRedirect
