import DeskView.Text.Plain

/-!
# Command-line arguments

The viewer has three options that take a value and four flags.  An option's value follows it as the
next argument, after an equals sign, or, for the short form, directly; each option and flag may be
given once.  After `--` every argument is positional, and there are no positional arguments.

The first error that is found is the answer.  An option whose value is the next argument is taken in
late: when the next option or flag is, or at the end.  So an argument that is wrong by itself, being
unknown, stray, or a flag with a value, is found before a fault of the option in front of it.
-/

namespace DeskView.CommandLine

/-- An option that takes a value. -/
inductive Setting where
  | config
  | id
  | password
deriving Repr, DecidableEq

/-- An option that takes none. -/
inductive Flag where
  | fileTransfer
  | headless
  | genConfig
  | help
deriving Repr, DecidableEq

/-- An option as it is written. -/
inductive Key where
  | setting (s : Setting)
  | flag (f : Flag)
deriving Repr, DecidableEq

namespace Setting

/-- How the option is shown in an error message. -/
def shown : Setting → String
  | .config => "--config <CONFIG>"
  | .id => "--id <ID>"
  | .password => "--password <PASSWORD>"

end Setting

namespace Flag

/-- How the flag is shown in an error message. -/
def shown : Flag → String
  | .fileTransfer => "--file-transfer"
  | .headless => "--headless"
  | .genConfig => "--gen-config"
  | .help => "--help"

end Flag

namespace Key

/-- The option with a long name. -/
def ofLong? : String → Option Key
  | "config" => some (.setting .config)
  | "id" => some (.setting .id)
  | "password" => some (.setting .password)
  | "file-transfer" => some (.flag .fileTransfer)
  | "headless" => some (.flag .headless)
  | "gen-config" => some (.flag .genConfig)
  | "help" => some (.flag .help)
  | _ => none

/-- The option with a short name. -/
def ofShort? : Char → Option Key
  | 'c' => some (.setting .config)
  | 'i' => some (.setting .id)
  | 'p' => some (.setting .password)
  | 'h' => some (.flag .help)
  | _ => none

/-- How the option is shown in an error message. -/
def shown : Key → String
  | .setting s => s.shown
  | .flag f => f.shown

end Key

/-- What is wrong with the arguments. -/
inductive UsageError where
  /-- There is no such argument. -/
  | unexpected (argument : String)
  /-- An option has no value. -/
  | missingValue (setting : Setting)
  /-- An option was given before. -/
  | repeated (key : Key)
  /-- A flag was given a value. -/
  | tooManyValues (value : String) (flag : Flag)
deriving Repr, DecidableEq

namespace UsageError

/-- The text shown to people.  Control sequences in an argument are left out. -/
def message : UsageError → String
  | .unexpected argument => "unexpected argument '" ++ Text.plain argument ++ "' found"
  | .missingValue setting =>
    "a value is required for '" ++ setting.shown ++ "' but none was supplied"
  | .repeated key => "the argument '" ++ key.shown ++ "' cannot be used multiple times"
  | .tooManyValues value flag =>
    "unexpected value '" ++ Text.plain value ++ "' for '" ++ flag.shown ++
      "' found; no more were expected"

end UsageError

/-- What the arguments say. -/
structure Arguments where
  config : Option String := none
  id : Option String := none
  password : Option String := none
  fileTransfer : Bool := false
  headless : Bool := false
  genConfig : Bool := false
deriving Repr, DecidableEq

/-- The option that was read last, as long as it is not taken in. -/
inductive Pending where
  | nothing
  /-- An option that waits for its value. -/
  | waiting (s : Setting)
  /-- An option and the argument after it. -/
  | given (s : Setting) (value : String)
deriving Repr, DecidableEq

/-- Why reading the arguments ended before their end. -/
inductive Interrupt where
  /-- Help was asked for. -/
  | help
  | error (e : UsageError)
deriving Repr, DecidableEq

namespace Arguments

/-- The file with the settings, if none is given. -/
def defaultConfig : String := "rdv-viewer.toml"

/-- The file with the settings. -/
def configPath (a : Arguments) : String := a.config.getD defaultConfig

/-- The value of an option so far. -/
def get? (a : Arguments) : Setting → Option String
  | .config => a.config
  | .id => a.id
  | .password => a.password

/-- Takes in the value of an option.  The file with the settings must have a name. -/
def set (a : Arguments) (s : Setting) (value : String) : Except Interrupt Arguments :=
  if (a.get? s).isSome then .error (.error (.repeated (.setting s)))
  else
    match s with
    | .config =>
      if value.isEmpty then .error (.error (.missingValue .config))
      else .ok { a with config := some value }
    | .id => .ok { a with id := some value }
    | .password => .ok { a with password := some value }

/-- Takes in a flag. -/
def raise (a : Arguments) : Flag → Except Interrupt Arguments
  | .fileTransfer =>
    if a.fileTransfer then .error (.error (.repeated (.flag .fileTransfer)))
    else .ok { a with fileTransfer := true }
  | .headless =>
    if a.headless then .error (.error (.repeated (.flag .headless)))
    else .ok { a with headless := true }
  | .genConfig =>
    if a.genConfig then .error (.error (.repeated (.flag .genConfig)))
    else .ok { a with genConfig := true }
  | .help => .error .help

/-- Takes in what is pending. -/
def settle (a : Arguments) : Pending → Except Interrupt Arguments
  | .nothing => .ok a
  | .waiting s => .error (.error (.missingValue s))
  | .given s value => a.set s value

/-- Takes in an option without a value: one that takes a value waits for it. -/
def begin (a : Arguments) (pending : Pending) :
    Key → Except Interrupt (Arguments × Pending)
  | .setting s => do
    return (← a.settle pending, .waiting s)
  | .flag f => do
    return (← (← a.settle pending).raise f, .nothing)

/-- Takes in an option with its value. -/
def assign (a : Arguments) (pending : Pending) (key : Key) (value : String) :
    Except Interrupt (Arguments × Pending) :=
  match key with
  | .setting s => do
    return (← (← a.settle pending).set s value, .nothing)
  | .flag f => .error (.error (.tooManyValues value f))

/-- Takes in an argument that begins with two dashes, after these. -/
def takeLong (a : Arguments) (pending : Pending) (body : List Char) :
    Except Interrupt (Arguments × Pending) :=
  let name := String.ofList (body.takeWhile (· != '='))
  match Key.ofLong? name with
  | none => .error (.error (.unexpected ("--" ++ name)))
  | some key =>
    match body.dropWhile (· != '=') with
    | [] => a.begin pending key
    | _ :: value => a.assign pending key (String.ofList value)

/-- The value in the same argument as a short option: an equals sign in front of it is dropped. -/
def attached : List Char → String
  | '=' :: value => String.ofList value
  | value => String.ofList value

/-- Takes in an argument that begins with one dash, after it: flags, and at last an option whose
value is the rest. -/
def takeShort (a : Arguments) (pending : Pending) :
    List Char → Except Interrupt (Arguments × Pending)
  | [] => .ok (a, pending)
  | c :: rest =>
    match Key.ofShort? c with
    | none => .error (.error (.unexpected (String.ofList ['-', c])))
    | some (.setting s) =>
      if rest.isEmpty then a.begin pending (.setting s)
      else a.assign pending (.setting s) (attached rest)
    | some (.flag f) => do
      let (a, pending) ← a.begin pending (.flag f)
      a.takeShort pending rest

/-- Takes in the arguments one after the other. -/
def take (a : Arguments) (pending : Pending) : List String → Except Interrupt Arguments
  | [] => a.settle pending
  | arg :: rest =>
    match arg.toList with
    | ['-', '-'] =>
      match rest with
      | [] => a.settle pending
      | first :: _ => .error (.error (.unexpected first))
    | '-' :: '-' :: body => do
      let (a, pending) ← a.takeLong pending body
      a.take pending rest
    | '-' :: c :: body => do
      let (a, pending) ← a.takeShort pending (c :: body)
      a.take pending rest
    | _ =>
      match pending with
      | .waiting s => a.take (.given s arg) rest
      | _ => .error (.error (.unexpected arg))

/-- Reads the arguments. -/
def parse (args : List String) : Except Interrupt Arguments := take {} .nothing args

end Arguments

/-- The help text. -/
def helpText : String := "\n".intercalate [
  "Remote desktop viewer",
  "",
  "Usage: rdv-viewer [OPTIONS]",
  "",
  "Options:",
  "  -c, --config <CONFIG>      Path to configuration TOML file [default: rdv-viewer.toml]",
  "  -i, --id <ID>              Remote peer id (overrides config)",
  "  -p, --password <PASSWORD>  Session password",
  "      --file-transfer        Open a file-transfer session instead of an interactive one",
  "      --headless             Render into an in-memory canvas instead of a window",
  "      --gen-config           Write the default configuration to `--config` and exit",
  "  -h, --help                 Print help",
  ""]

end DeskView.CommandLine
