import Meterboard.Double.Decimal
import Meterboard.Settings.Tree
import Meterboard.View

/-!
# Settings

The board's settings have defaults; a settings file, the environment and the command line each may
change them, the later one winning.

* `Settings` — the settings of the store, the view and the log.
* `Settings.load` — the settings of all layers.
* `Settings.view` — how the view starts, with the window and the transform checked.
-/

namespace Meterboard

/-- The settings of the program. -/
structure Settings where
  storeUrl : String
  /-- How long to wait for the store, in seconds. -/
  timeout : Nat
  root : String
  window : String
  transform : String
  metric? : Option String
  host? : Option String
  interface? : Option String
  logFile? : Option String
  logLevel : String
deriving DecidableEq, Repr

namespace Settings

/-! ## Layers -/

/-- The settings that nobody has changed. -/
def defaults : Tree :=
  .table
    [("store", .table [("url", .text "http://localhost:8020"), ("timeout_secs", .integer 10)]),
     ("view", .table [("namespace", .text ViewSettings.defaultRoot),
       ("window", .text (Window.label ViewSettings.defaultWindow)),
       ("transform", .text (default : Transform).name)]),
     ("log", .table [("level", .text "info")])]

/-- How the names of variables start that hold settings. -/
def variableStart : List Char := "instrument_dash_".toList

/-- Two underscores part the keys in the name of a variable. -/
def dotted : List Char → List Char
  | '_' :: '_' :: rest => '.' :: dotted rest
  | c :: rest => c :: dotted rest
  | [] => []

/-- The setting of a variable of the environment, if it holds one. -/
def ofVariable? (name value : String) : Option (String × Tree) :=
  let lower := name.toList.map Char.toLower
  if variableStart.isPrefixOf lower then
    some (String.ofList (dotted (lower.drop variableStart.length)), .text value)
  else none

/-- What the command line says. -/
structure Overrides where
  storeUrl? : Option String
  timeout? : Option Nat
  logFile? : Option String
deriving DecidableEq, Repr

/-- The settings of the command line. -/
def Overrides.nodes (o : Overrides) : List (String × Tree) :=
  (o.storeUrl?.map fun s => ("store.url", Tree.text s)).toList
    ++ (o.timeout?.map fun n => ("store.timeout_secs", Tree.integer n)).toList
    ++ (o.logFile?.map fun s => ("log.file", Tree.text s)).toList

/-- All layers together.  The file and the environment are merged into one tree first. -/
def layers (file : List (String × Toml.Value)) (environment : List (String × String))
    (overrides : Overrides) : Tree :=
  let given := (Tree.table []).setAll
    (Tree.ofTomlEntries file ++ environment.filterMap fun e => ofVariable? e.1 e.2)
  (defaults.setAll given.entries).setAll overrides.nodes

/-! ## Reading the tree -/

/-- A node as text; what is a single value has one. -/
def text? : Tree → Option String
  | .text s => some s
  | .flag b => some (if b then "true" else "false")
  | .integer n => some (toString n)
  | .float x => some (x.text Double.plain)
  | _ => none

/-- A node as text, if there is one. -/
def optionalText? : Tree → Option (Option String)
  | .absent => some none
  | t => (text? t).map some

/-- Words for one and for none. -/
def words : List (String × Nat) :=
  [("true", 1), ("on", 1), ("yes", 1), ("false", 0), ("off", 0), ("no", 0)]

/-- A node as a count: a number that is not negative, rounded if need be, or a word for one or
none. -/
def count? : Tree → Option Nat
  | .integer n => if 0 ≤ n then some n.toNat else none
  | .float x => some x.round.truncateUnsigned
  | .flag b => some (if b then 1 else 0)
  | .text s =>
      match words.find? (·.1.toList == s.toList.map Char.toLower) with
      | some w => some w.2
      | none => do
          let n ← Text.unsigned? s.toList
          if n < UInt64.size then some n else none
  | _ => none

/-- A section: a table under a key. -/
def section? (t : Tree) (k : String) : Option Tree :=
  match t.get k with
  | .table es => some (.table es)
  | _ => none

/-- The settings of a tree. -/
def ofTree? (t : Tree) : Option Settings := do
  let store ← section? t "store"
  let view ← section? t "view"
  let log ← section? t "log"
  return {
    storeUrl := ← text? (store.get "url")
    timeout := ← count? (store.get "timeout_secs")
    root := ← text? (view.get "namespace")
    window := ← text? (view.get "window")
    transform := ← text? (view.get "transform")
    metric? := ← optionalText? (view.get "metric")
    host? := ← optionalText? (view.get "host")
    interface? := ← optionalText? (view.get "interface")
    logFile? := ← optionalText? (log.get "file")
    logLevel := ← text? (log.get "level") }

/-! ## Loading -/

/-- Why settings could not be loaded. -/
inductive Fault where
  /-- The file is not there or is no TOML. -/
  | unreadable
  /-- A setting has the wrong type. -/
  | invalid
deriving DecidableEq, Repr

/-- The wording of a fault. -/
def Fault.message : Fault → String
  | .unreadable => "failed to read configuration"
  | .invalid => "invalid configuration"

/-- Load the settings from the text of a file, if one was named, the environment and the command
line.  A file that was named but is not there has no text. -/
def load (file? : Option (Option String)) (environment : List (String × String))
    (overrides : Overrides) : Except Fault Settings :=
  let file :=
    match file? with
    | none => some []
    | some text? => text?.bind Toml.parse?
  match file with
  | none => .error .unreadable
  | some entries =>
      match ofTree? (layers entries environment overrides) with
      | some s => .ok s
      | none => .error .invalid

/-! ## The view -/

/-- Why the view cannot start with some settings. -/
inductive ViewFault where
  | window (refusal : Window.Refusal)
  | transform (name : String)
deriving DecidableEq, Repr

/-- The wording of a fault of the view. -/
def ViewFault.message : ViewFault → String
  | .window refusal => "view.window: " ++ refusal.message
  | .transform name => "view.transform: unknown transform " ++ Text.quoted name

/-- How the view starts, with what there is to say about the window. -/
def view (s : Settings) : Except ViewFault ViewSettings × List Log.Entry :=
  match Window.ofText s.window with
  | .error refusal => (.error (.window refusal), [])
  | .ok accepted =>
      match Transform.named? s.transform with
      | none => (.error (.transform s.transform), accepted.log)
      | some transform =>
          (.ok ⟨s.root, s.metric?, s.host?, s.interface?, accepted.seconds, transform⟩,
            accepted.log)

/-- How long to wait for the store, in milliseconds. -/
def timeoutMillis (s : Settings) : Nat := s.timeout * 1000

end Settings

end Meterboard
