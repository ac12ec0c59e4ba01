import DeskView.CommandLine.Arguments
import DeskView.CommandLine.Directory
import DeskView.CommandLine.LogFilter
import DeskView.Engine.Native
import DeskView.Engine.Slot
import DeskView.Session.Controller
import DeskView.Settings.Reading
import DeskView.Settings.Writing
import DeskView.Surface.Canvas

/-!
# The viewer as a command

`run` says what one run of the viewer comes to in a given `Environment`: it prints help, writes the
default settings, or views a session until it is interrupted.  The `Report` holds all that can be
seen of the run from outside.

A session that is viewed is a fixed history of the session controller (`history`): a canvas appears,
the session is started, its pump wakes up some times, and the session is stopped.  The pump wakes up
in vain if the start failed, so the history is the same in both cases.
-/

namespace DeskView.CommandLine

/-- What a run of the viewer finds around it. -/
structure Environment where
  args : List String
  directory : Directory
  engine : Engine.Native
  /-- Which records are logged, if the environment says. -/
  logFilter : Option String := none
  /-- How often the pump wakes up until the run is interrupted. -/
  wakeUps : Nat

/-- What a run of the viewer comes to. -/
structure Report where
  /-- The exit code. -/
  code : UInt32
  /-- What was printed. -/
  output : String := ""
  /-- What was printed about errors. -/
  errors : String := ""
  /-- The directory afterwards. -/
  directory : Directory
  /-- The foreign calls that were made. -/
  foreign : List Engine.ForeignCall := []

/-- The viewer's version. -/
def version : String := "0.1.0"

/-- The name under which the viewer logs. -/
def logTarget : String := "rdv_viewer"

/-- The exit code of a run that failed. -/
def failureCode : UInt32 := 1

/-- The exit code of a run with wrong arguments. -/
def usageCode : UInt32 := 2

/-- The exit code of a run that was broken off. -/
def panicCode : UInt32 := 101

/-- Some lines, each with its end. -/
def ended (lines : List String) : String := String.join (lines.map (· ++ "\n"))

namespace Arguments

/-- The settings as the arguments change them. -/
def adjust (a : Arguments) (s : Settings) : Settings where
  session := {
    remoteId := a.id.getD s.session.remoteId
    mode := if a.fileTransfer then .fileTransfer else s.session.mode }
  render := s.render
  display := { s.display with headless := a.headless || s.display.headless }
  input := s.input
  logging := s.logging

end Arguments

namespace Environment

/-- The filter of the log: that of the environment if it can be read, else that of the settings. -/
def filter (e : Environment) (s : Settings) : Except Log.Directive.Fault Log.Filter.Lossy :=
  match e.logFilter.map Log.Filter.parse with
  | some (.ok filter) => .ok ⟨filter, []⟩
  | some (.error .brokenCharacter) => .error .brokenCharacter
  | _ => Log.Filter.parseLossy s.logging.level

/-- What is printed about the parts of a filter that were passed over. -/
def warnings (ignored : List (String × Log.Directive.Fault)) : String :=
  ended (ignored.map fun (part, fault) => "ignoring `" ++ part ++ "`: " ++ fault.message)

/-- What is printed for some records of the viewer's own. -/
def logged (filter : Log.Filter) (records : List Log.Record) : String :=
  ended ((records.filter (filter.allows logTarget)).map fun r =>
    { r with message := logTarget ++ ": " ++ r.message }.line)

/-- A run that ends with an error, given by its text. -/
def failed (e : Environment) (error : String) : Report :=
  { code := failureCode, errors := ended ["Error: " ++ error], directory := e.directory }

/-- A run that is broken off. -/
def brokenOff (e : Environment) : Report := { code := panicCode, directory := e.directory }

/-- Writes the default settings to a file. -/
def writeDefaults (e : Environment) (path : String) : Report :=
  match e.directory.write path (Settings.write {}).toUTF8.toList with
  | .ok directory => { code := 0, output := ended ["wrote default config to " ++ path], directory }
  | .error error => e.failed error.debug

/-- The first line of the log. -/
def greeting : Log.Record := Log.info ("rdv-viewer v" ++ version)

/-- The line of the log about an engine that cannot be used. -/
def engineMissing (error : EngineError) : Log.Record :=
  Log.error ("failed to load engine: " ++ error.message)

/-- What happens while a session is viewed; `T` is what is drawn on. -/
def history {T : Type} (e : Environment) (s : Settings) (credentials : Credentials) (canvas : T) :
    List (Controller.Operation T) :=
  let id := s.session.remoteId
  let start := Engine.Native.done (e.engine.perform (.start id credentials.secret) #[])
  let stop := Engine.Native.done (e.engine.perform (.stop id) #[])
  let wake := .event (.wake 0 (e.engine.answers id s.render.display))
  [.event (.surface (.created canvas)),
    .event (.surface (.changed s.display.width s.display.height .rgba8)),
    .start id credentials s.session.mode { start, stopping := { reply := stop } }] ++
  List.replicate e.wakeUps wake ++ [.stop { reply := stop }]

/-- The error of the first start among some answers, if it failed. -/
def startError? : List Controller.Reply → Option SessionError
  | .started (.error error) :: _ => some error
  | _ :: rest => startError? rest
  | [] => none

/-- The foreign calls behind some engine calls. -/
def foreignCalls (calls : List Engine.Call) : List Engine.ForeignCall :=
  calls.filterMap fun call => (Engine.Native.foreign call).toOption

/-- Views the session of the settings on a canvas. -/
def view {T : Type} [Drawable T] (e : Environment) (s : Settings) (password : Option String)
    (canvas : T) : Report :=
  let played := (Controller.new s.pumpSettings : Controller T).performAll
    (e.history s (.ofOption password) canvas)
  let foreign := foreignCalls (played.noted.filterMap fun n => n.effect.engineCall?)
  match startError? played.reply with
  | some error => { e.failed error.debug with foreign }
  | none => { code := 0, directory := e.directory, foreign }

/-- Views the session of the settings on a canvas of the size that they ask for; the run is broken
off if there can be none. -/
def viewOnCanvas {T : Type} [Drawable T] (e : Environment) (s : Settings)
    (password : Option String) (canvas : UInt32 → UInt32 → Option T) : Report :=
  match canvas s.display.width s.display.height with
  | some canvas => e.view s password canvas
  | none => e.brokenOff

/-- Loads the engine and views the session of the settings. -/
def launch {T : Type} [Drawable T] (e : Environment) (s : Settings) (filter : Log.Filter)
    (password : Option String) (canvas : UInt32 → UInt32 → Option T) : Report :=
  let init := e.engine.perform .init #[]
  match (({} : Engine.Slot Engine.Native).install e.engine (Engine.Native.done init)).result with
  | .error error =>
    { e.failed error.debug with
      output := logged filter [greeting, engineMissing error], foreign := init.foreign }
  | .ok _ =>
    let viewed := e.viewOnCanvas s password canvas
    { viewed with
      output := logged filter [greeting] ++ viewed.output
      foreign := init.foreign ++ viewed.foreign }

/-- Chooses what is logged, and goes on with the settings. -/
def runWith {T : Type} [Drawable T] (e : Environment) (s : Settings) (password : Option String)
    (canvas : UInt32 → UInt32 → Option T) : Report :=
  match e.filter s with
  | .error _ => e.brokenOff
  | .ok found =>
    let report := e.launch s found.filter password canvas
    { report with errors := warnings found.ignored ++ report.errors }

/-- One run of the viewer; `canvas` makes what is drawn on from its width and height, if it can. -/
def run {T : Type} [Drawable T] (e : Environment) (canvas : UInt32 → UInt32 → Option T) : Report :=
  match Arguments.parse e.args with
  | .error .help => { code := 0, output := helpText, directory := e.directory }
  | .error (.error usage) =>
    { code := usageCode, errors := ended ["error: " ++ usage.message], directory := e.directory }
  | .ok a =>
    if a.genConfig then e.writeDefaults a.configPath
    else e.runWith (a.adjust (Settings.load (e.directory.read a.configPath))) a.password canvas

end Environment

end DeskView.CommandLine
