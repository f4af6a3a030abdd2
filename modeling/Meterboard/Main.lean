import Std.Async.DNS
import Std.Async.TCP
import Std.Async.Timer
import Std.Internal.UV.System
import Std.Time.DateTime.Timestamp
import Std.Time.Zoned.Database
import Meterboard.Screen
import Meterboard.Startup
import Meterboard.Store.Courier
import Meterboard.Store.Http

/-!
# The program

Reads the command line, the settings file and the environment, then runs a command against the store
or shows the board as it stands after the first fetch.

* `Program.network` — one request over a connection of its own.
* `main` — the program.
-/

namespace Meterboard.Program

open Std.Async

/-! ## Clocks -/

/-- What the clocks show. -/
def clock : IO Clock := do
  let wall ← Std.Time.Timestamp.now
  let steady ← IO.monoMsNow
  return ⟨wall.toMillisecondsSinceUnixEpoch.val.toNat.toUInt64, steady⟩

/-- The time zone that the environment names, or else the one of this computer; universal time where
its rules cannot be read. -/
def localZone : IO Calendar.Zone := do
  try
    let rules ← match ← IO.getEnv "TZ" with
      | some name => Std.Time.Database.defaultGetZoneRules name
      | none => Std.Time.Database.defaultGetLocalZoneRules
    return ⟨fun ms =>
      let second := Std.Time.Timestamp.ofSecondsSinceUnixEpoch ⟨Int.fdiv ms 1000⟩
      (rules.timezoneAt second).offset.second.val⟩
  catch _ => return .universal

/-! ## The network -/

/-- All that comes over a connection until it is closed. -/
partial def receive (client : TCP.Socket.Client) (got : ByteArray) : Async ByteArray := do
  match ← client.recv? 65536 with
  | some more => receive client (got ++ more)
  | none => return got

/-- The address of a host, with the number behind it. -/
def addressOf (url : Url) : Async Std.Net.SocketAddress := do
  let number := url.tcpPort.toUInt16
  match (← DNS.getAddrInfo url.host "").toList with
  | .v4 a :: _ => return .v4 ⟨a, number⟩
  | .v6 a :: _ => return .v6 ⟨a, number⟩
  | [] => throw (IO.userError "unknown host")

/-- Send a request and take what comes back. -/
def roundTrip (r : HttpRequest) : Async HttpAnswer := do
  let client ← TCP.Socket.Client.mk
  client.connect (← addressOf r.url)
  client.send r.text.toUTF8
  return .ofBytes (← receive client .empty).toList

/-- The answer that stands for none in time. -/
def giveUp (millis : Nat) : Async HttpAnswer := do
  Std.Async.sleep (.ofNat millis)
  return .noAnswer

instance : Inhabited HttpAnswer := ⟨.noAnswer⟩

/-- One request over a connection of its own.  Addresses that need encryption cannot be reached. -/
def network (timeout : Nat) (r : HttpRequest) : IO HttpAnswer := do
  if r.url.scheme = "https" then return .noConnection
  try (Async.race (roundTrip r) (giveUp timeout)).block
  catch _ => return .noConnection

/-- Carry posts to the store of the settings. -/
def exchange (s : Settings) (p : Post) : IO (Except ExchangeError String) :=
  let x := Startup.exchange s
  x.carry (network x.timeout) p

/-! ## Files and the log -/

/-- The text of a file, if it can be read. -/
def fileText? (path : String) : IO (Option String) := do
  try return some (← IO.FS.readFile path)
  catch _ => return none

/-- A file can be opened to add to it. -/
def canAppend (path : String) : IO Bool := do
  try
    let _ ← IO.FS.Handle.mk path .append
    return true
  catch _ => return false

/-- Write the entries that the settings ask for to the log file, or else, unless the board is shown,
to standard error.  Their times are universal. -/
def writeLog (s : Settings) (onBoard : Bool) (entries : List Log.Entry) : IO Unit := do
  let time := Command.timeText .universal (← clock).wall
  let lines := (Log.shown s.logLevel entries).map fun e => time ++ " " ++ e.text
  match s.logFile? with
  | some path =>
      let handle ← IO.FS.Handle.mk path .append
      lines.forM handle.putStrLn
  | none => if !onBoard then lines.forM IO.eprintln

/-! ## What to do -/

/-- Say why the program stops. -/
def fail (message : String) : IO UInt32 := do
  IO.eprintln ("Error: " ++ message)
  return 1

/-- Run a command and print its report. -/
def runCommand (s : Settings) (c : Command) : IO UInt32 := do
  let report ← Command.run (← localZone) (exchange s) (← clock).wall c
  report.printed.forM IO.println
  writeLog s false report.log
  match report.failure? with
  | some message => fail message
  | none => return 0

/-- Let the courier run its calls and the board take the replies, so many times. -/
def fetchCycle (s : Settings) : Nat → Board Courier → IO (Board Courier)
  | 0, b => return b
  | n + 1, b => do
      let (courier, log) ← b.source.runAll Codec.standard (exchange s)
      let now ← clock
      fetchCycle s n (({ b with source := courier }.say log).tick (fun _ => now) now)

/-- A picture as lines of text; of a chart its labels. -/
def pictureLines : Picture → List String
  | .tooSmall rows => rows.map (·.text)
  | .waiting rows => rows.map (·.text)
  | .charted top chart status _ =>
      top.map (·.text) ++ [chart.title.text] ++ chart.valueLabels
        ++ [" ".intercalate chart.timeLabels, status.text]

/-- Show the board once it has filled its selectors and fetched. -/
def showBoard (s : Settings) : IO UInt32 := do
  let (settings, log) := s.view
  writeLog s true log
  match settings with
  | .error fault => fail fault.message
  | .ok settings =>
      let source := Courier.toStore (Startup.exchange s).base
      let b := (Board.of source settings .dark).start (← clock)
      let b ← fetchCycle s Level.top.weight b
      writeLog s true b.journal
      (pictureLines (b.picture (← localZone) (← clock) 100 30)).forM IO.println
      return 0

/-- Say what is wrong with the command line. -/
def refuse (fault : CommandLine.Fault) : IO UInt32 := do
  if fault = .help then
    (fault.message :: "" :: CommandLine.usage).forM IO.println
    return 0
  (("error: " ++ fault.message) :: "" :: CommandLine.usage).forM IO.eprintln
  return 2

/-- The files that a command line names, with their texts. -/
def settingsTexts (words : List String) : IO (List (String × Option String)) :=
  match CommandLine.parse words with
  | .ok line =>
      (line.configFile?.toList.flatMap fun path => [path, path ++ ".toml"]).mapM fun path => do
        return (path, ← fileText? path)
  | .error _ => return []

/-- Start with the words behind the program's name. -/
def run (words : List String) : IO UInt32 := do
  let texts ← settingsTexts words
  let environment ← Std.Internal.UV.System.osEnviron
  let around : Surroundings :=
    { file? := fun path => (texts.lookup path).join
      environment := environment.toList
      canOpen := fun _ => true }
  let openLog (s : Settings) (go : IO UInt32) : IO UInt32 := do
    match s.logFile? with
    | some path => if ← canAppend path then go else fail (Startup.logMessage path)
    | none => go
  match Startup.plan around words with
  | .error (.arguments fault) => refuse fault
  | .error (.settings fault) => fail fault.message
  | .error (.logFile path) => fail (Startup.logMessage path)
  | .ok (.board s) => openLog s (showBoard s)
  | .ok (.command s c) => openLog s (runCommand s c)

end Meterboard.Program

/-- The program. -/
def main (words : List String) : IO UInt32 := Meterboard.Program.run words
