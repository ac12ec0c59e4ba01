import DeskView.Document.Choice

/-!
# What a session is opened for, and with

`Credentials` hold the password.  It is exposed to the engine only; a diagnostic shows its length
in bytes.
-/

namespace DeskView

/-- What a session is opened for. -/
inductive SessionMode where
  | interactive
  | fileTransfer
deriving Repr, DecidableEq

namespace SessionMode

instance : Inhabited SessionMode := ⟨.interactive⟩

instance : Choice SessionMode :=
  ⟨[("interactive", .interactive), ("file_transfer", .fileTransfer)]⟩

/-- The mode's name in a diagnostic. -/
def label : SessionMode → String
  | .interactive => "Interactive"
  | .fileTransfer => "FileTransfer"

end SessionMode

/-- A password that is never printed. -/
structure Credentials where
  /-- The secret itself, for the engine call alone. -/
  secret : String := ""
deriving DecidableEq

namespace Credentials

/-- The credentials of someone who may have given no password. -/
def ofOption (password : Option String) : Credentials := ⟨password.getD ""⟩

/-- The length of the secret in bytes. -/
def length (c : Credentials) : Nat := c.secret.utf8ByteSize

/-- Whether there is no secret. -/
def isEmpty (c : Credentials) : Bool := c.length = 0

/-- The text that stands for the credentials in a diagnostic. -/
def debug (c : Credentials) : String := "Credentials([" ++ toString c.length ++ " chars])"

end Credentials

end DeskView
