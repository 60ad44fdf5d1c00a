import RemoteModel.Check
import RemoteModel.Error
import RemoteModel.Json.Display
import RemoteModel.Json.Reader

/-!
# Failures

What can go wrong besides a reported error: a value that breaks a rule, a text that cannot be
read, and whatever the surroundings raise. `Failure` lists these causes; `Failure.text` is the
text that a listener is shown.
-/

namespace RemoteModel

/-- A cause for which a call does not return. -/
inductive Failure where
  /-- An error that is reported as such. -/
  | reported (error : Error)
  /-- Fields do not fit their types. -/
  | rejected (issues : List Issue)
  /-- A value is asked for in a format of text and is none. -/
  | notText
  /-- There is no such format. -/
  | unknownFormat (format : String)
  /-- An integer has too many digits. -/
  | tooManyDigits (count : Nat)
  /-- A number that is not finite cannot be sent. -/
  | notFinite
  /-- There is no such error code. -/
  | unknownCode (code : String)
  /-- An object lacks a member that is needed. -/
  | noMember (name : String)
  /-- A text is not JSON. -/
  | notJson
  /-- Bytes are no text. -/
  | notEncoded
  /-- A value has a type that the call cannot work with. -/
  | wrongType
  /-- A value does not have the method that is called. -/
  | noMethod
  /-- A text is no address. -/
  | notAUrl
  /-- The home directory of a user is not known. -/
  | noHome
  /-- A file stands where a folder is needed. -/
  | isFile
  /-- A folder is needed behind the name of a file. -/
  | behindFile
  /-- A folder stands where a file is needed. -/
  | isFolder
  /-- A file name holds the character zero. -/
  | zeroInName
  /-- An argument of the command line is refused. -/
  | badArgument (message : String)
  /-- A tag in a text for people does not fit. -/
  | badMarkup
  /-- A number without digits. -/
  | noDigits
  /-- A connection fails; the kind and the text are those that the network reports. -/
  | disconnected (kind text : String)
  /-- Whoever waits for the call gives up. -/
  | interrupted
  /-- Something else that the surroundings raise, by its kind and text. -/
  | raised (kind text : String)
deriving DecidableEq

namespace Failure

def ofFault : Json.ReadFault → Failure
  | .malformed => notJson
  | .tooManyDigits count => tooManyDigits count
  | .undecodable => notEncoded

/-- The text of a failure, where it has one. -/
def message : Failure → String
  | reported e => e.message
  | notText => "Attempt to encode non-string as XML"
  | unknownFormat format => "Unsupported message format: " ++ format
  | tooManyDigits count =>
    "Exceeds the limit (" ++ toString Text.maxDigits ++
      " digits) for integer string conversion: value has " ++ toString count ++
      " digits; use sys.set_int_max_str_digits() to increase the limit"
  | notFinite => "Out of range float values are not JSON compliant"
  | unknownCode code => Json.Display.quoted code ++ " is not a valid ErrorCode"
  | noMember name => Json.Display.quoted name
  | isFile => "File exists"
  | behindFile => "Not a directory"
  | isFolder => "Is a directory"
  | zeroInName => "embedded null byte"
  | badArgument message => message
  | noDigits => "invalid literal for int() with base 10: ''"
  | disconnected _ text => text
  | raised _ text => text
  | _ => ""

/-- What a listener is shown of a failure: its payload, its text or the name of its kind. -/
def shown : Failure → Json
  | reported e => e.payload
  | disconnected kind "" => .str kind
  | raised kind "" => .str kind
  | f => .str f.message

end Failure

namespace Checked

/-- The typed value, or the failure that lists all issues. -/
def orFail {α : Type} : Checked α → Except Failure α
  | ok a => .ok a
  | bad is => .error (.rejected is)

/-- The typed value, or the error that a payload does not have the expected shape. -/
def orUndecodable {α : Type} (expected : String) (payload : Json) : Checked α → Except Error α
  | ok a => .ok a
  | bad _ => .error (.undecodable expected payload)

end Checked

end RemoteModel
