import DeskView.Settings.Basic
import DeskView.Toml.Reading

/-!
# Reading settings

Settings are read from a document strictly: a value of the wrong kind makes the whole file
invalid, and then the defaults hold (`Settings.load`).  Keys that are not known are passed over,
and what is missing keeps its default.

A group of settings is a table, or an array of its values in order.  A moment counts as a table
with nothing known in it.  A choice is its name, or a table with the name as its one key and
nothing as its value.
-/

namespace DeskView.Settings

open Toml (Value)

/-- A group of settings as the document gives it: by key or by place. -/
inductive Group where
  | byKey (entries : List (String × Value))
  | byPlace (items : List Value)

namespace Group

/-- The group that a value is. -/
def ofValue? : Value → Option Group
  | .table entries => some (.byKey entries)
  | .array items => some (.byPlace items)
  | .moment _ => some (.byKey [])
  | _ => none

/-- The value of a setting, given by its key and its place in the group. -/
def get? (g : Group) (place : Nat) (key : String) : Option Value :=
  match g with
  | .byKey entries => Toml.lookup key entries
  | .byPlace items => items[place]?

/-- A setting: read if it is given, else the default. -/
def setting {α : Type} (g : Group) (place : Nat) (key : String) (read : Value → Option α)
    (default : α) : Option α :=
  match g.get? place key with
  | some v => read v
  | none => some default

end Group

/-! ### Single values -/

/-- A text. -/
def text? : Value → Option String
  | .text s => some s
  | _ => none

/-- Yes or no. -/
def flag? : Value → Option Bool
  | .flag b => some b
  | _ => none

/-- A number in 64 bits without sign. -/
def word64? : Value → Option UInt64
  | .integer n => if 0 ≤ n ∧ n < UInt64.size then some (.ofNat n.toNat) else none
  | _ => none

/-- A number in 32 bits without sign. -/
def word32? : Value → Option UInt32
  | .integer n => if 0 ≤ n ∧ n < UInt32.size then some (.ofNat n.toNat) else none
  | _ => none

/-- Whether a value holds nothing. -/
def isEmpty : Value → Bool
  | .table [] => true
  | .array [] => true
  | _ => false

/-- A choice. -/
def choice? {α : Type} [Choice α] : Value → Option α
  | .text name => Choice.find? name
  | .table [(name, content)] => if isEmpty content then Choice.find? name else none
  | _ => none

/-! ### Groups -/

/-- The settings of a session. -/
def session? (v : Value) : Option SessionSettings := do
  let g ← Group.ofValue? v
  let d : SessionSettings := {}
  return {
    remoteId := ← g.setting 0 "remote_id" text? d.remoteId
    mode := ← g.setting 1 "mode" choice? d.mode }

/-- The settings of rendering. -/
def render? (v : Value) : Option RenderSettings := do
  let g ← Group.ofValue? v
  let d : RenderSettings := {}
  return {
    tick := ← g.setting 0 "tick_ms" word64? d.tick
    stopTimeout := ← g.setting 1 "join_timeout_ms" word64? d.stopTimeout
    display := ← g.setting 2 "display_index" word32? d.display
    scale := ← g.setting 3 "scale_mode" choice? d.scale
    format := ← g.setting 4 "pixel_format" choice? d.format }

/-- The settings of the window. -/
def display? (v : Value) : Option DisplaySettings := do
  let g ← Group.ofValue? v
  let d : DisplaySettings := {}
  return {
    width := ← g.setting 0 "width" word32? d.width
    height := ← g.setting 1 "height" word32? d.height
    title := ← g.setting 2 "title" text? d.title
    headless := ← g.setting 3 "headless" flag? d.headless }

/-- The settings of input. -/
def input? (v : Value) : Option InputSettings := do
  let g ← Group.ofValue? v
  let d : InputSettings := {}
  return {
    capturePointer := ← g.setting 0 "capture_pointer" flag? d.capturePointer
    queueCapacity := ← g.setting 1 "queue_capacity" word64? d.queueCapacity }

/-- The settings of logging. -/
def logging? (v : Value) : Option LoggingSettings := do
  let g ← Group.ofValue? v
  let d : LoggingSettings := {}
  return { level := ← g.setting 0 "level" text? d.level }

/-- All settings, from the entries of a document. -/
def ofEntries? (entries : List (String × Value)) : Option Settings := do
  let g := Group.byKey entries
  let d : Settings := {}
  return {
    session := ← g.setting 0 "session" session? d.session
    render := ← g.setting 1 "render" render? d.render
    display := ← g.setting 2 "display" display? d.display
    input := ← g.setting 3 "input" input? d.input
    logging := ← g.setting 4 "logging" logging? d.logging }

/-- The settings that a text describes, if it describes any. -/
def parse? (text : String) : Option Settings := (Toml.read text).bind ofEntries?

/-- The settings that the bytes of a file describe, if they are text and describe any. -/
def ofBytes? (bytes : List UInt8) : Option Settings :=
  (String.fromUTF8? (ByteArray.mk bytes.toArray)).bind parse?

/-- The settings of a file, or the defaults if it is missing or invalid. -/
def load (file : Option (List UInt8)) : Settings := (file.bind ofBytes?).getD {}

end DeskView.Settings
