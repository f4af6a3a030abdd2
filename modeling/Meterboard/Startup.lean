import Meterboard.Command

/-!
# Starting the program

A start reads the command line, then the settings, then opens the log, and then knows what to do.

* `Surroundings` — what the program finds around it.
* `Startup.Fault` — why it stops, in the order in which it looks.
* `Startup.plan` — what a command line asks for.
-/

namespace Meterboard

/-- What the program finds around it when it starts. -/
structure Surroundings where
  /-- The text of a file, if there is one of that name. -/
  file? : String → Option String
  /-- The variables of the environment. -/
  environment : List (String × String)
  /-- A log file of that name can be opened. -/
  canOpen : String → Bool

namespace Startup

/-- Why the program stops before it has done anything. -/
inductive Fault where
  | arguments (fault : CommandLine.Fault)
  | settings (fault : Settings.Fault)
  | logFile (path : String)
deriving DecidableEq, Repr

/-- What is said of a log file that cannot be opened. -/
def logMessage (path : String) : String := "cannot open log file " ++ path

/-- The log file that cannot be opened, if the settings name one. -/
def closedLog? (canOpen : String → Bool) (file? : Option String) : Option String :=
  file?.filter (!canOpen ·)

/-- What the program is to do. -/
inductive Plan where
  /-- Show the board. -/
  | board (settings : Settings)
  | command (settings : Settings) (command : Command)

/-- The text of a settings file, which may be named without its ending. -/
def settingsFile? (s : Surroundings) (path : String) : Option String :=
  match s.file? path with
  | some text => some text
  | none => s.file? (path ++ ".toml")

/-- What a command line asks for. -/
def plan (s : Surroundings) (words : List String) : Except Fault Plan := do
  let line ←
    match CommandLine.parse words with
    | .ok line => pure line
    | .error fault => throw (.arguments fault)
  let settings ←
    match Settings.load (line.configFile?.map (settingsFile? s)) s.environment line.overrides with
    | .ok settings => pure settings
    | .error fault => throw (.settings fault)
  match closedLog? s.canOpen settings.logFile? with
  | some path => throw (.logFile path)
  | none =>
      match line.command? with
      | none => return .board settings
      | some command => return .command settings command

/-- The exchange that settings name. -/
def exchange (settings : Settings) : Exchange :=
  .of (some settings.storeUrl) (some settings.timeoutMillis)

end Startup

end Meterboard
