import DeskView.Settings.Basic

/-!
# Writing settings

`Settings.write` writes settings as a document that says everything, the defaults included.
-/

namespace DeskView.Settings

/-- How a character stands between double quotes. -/
def escaped (c : Char) : List Char :=
  if c = '"' then ['\\', '"']
  else if c = '\\' then ['\\', '\\']
  else if c = '\x08' then ['\\', 'b']
  else if c = '\t' then ['\\', 't']
  else if c = '\n' then ['\\', 'n']
  else if c = '\x0c' then ['\\', 'f']
  else if c = '\r' then ['\\', 'r']
  else if c.toNat < 0x20 || c.toNat = 0x7f then
    ['\\', 'u', '0', '0', Nat.digitChar (c.toNat / 16), Nat.digitChar (c.toNat % 16)]
  else [c]

/-- A text between double quotes. -/
def quoted (s : String) : String :=
  String.ofList ('"' :: s.toList.flatMap escaped ++ ['"'])

/-- A group of settings under its header; every line ends with a line end. -/
def headed (name : String) (settings : List (String × String)) : String :=
  settings.foldl (fun text (key, value) => text ++ key ++ " = " ++ value ++ "\n")
    ("[" ++ name ++ "]\n")

/-- The document of some settings. -/
def write (s : Settings) : String :=
  "\n".intercalate [
    headed "session" [
      ("remote_id", quoted s.session.remoteId),
      ("mode", quoted (Choice.name s.session.mode))],
    headed "render" [
      ("tick_ms", toString s.render.tick),
      ("join_timeout_ms", toString s.render.stopTimeout),
      ("display_index", toString s.render.display),
      ("scale_mode", quoted (Choice.name s.render.scale)),
      ("pixel_format", quoted (Choice.name s.render.format))],
    headed "display" [
      ("width", toString s.display.width),
      ("height", toString s.display.height),
      ("title", quoted s.display.title),
      ("headless", toString s.display.headless)],
    headed "input" [
      ("capture_pointer", toString s.input.capturePointer),
      ("queue_capacity", toString s.input.queueCapacity)],
    headed "logging" [
      ("level", quoted s.logging.level)]]

end DeskView.Settings
