import RemoteModel.Guards
import RemoteModel.Patch.Apply

/-!
# Envelopes

Everything that the server sends is an envelope: an object with a type and, mostly, data. Each
request has a mapper that turns the envelope of its answer into a result.

**Frames** are texts or bytes. A frame that is no JSON, or is no object with a textual type, is
reported together with what it holds.
-/

namespace RemoteModel

/-- What a channel or a response carries. -/
inductive Frame where
  | text (text : String)
  | bytes (bytes : List UInt8)
deriving DecidableEq

/-- The types of messages that the protocol knows. -/
inductive MessageKind where
  | success
  | warning
  | error
  | opened
  | closed
  | fullUpdate
  | incrementalUpdate
  | dirtyState
  | validationResult
  | keepAlive
  | unknown
deriving DecidableEq, Repr

namespace MessageKind

def all : List MessageKind :=
  [success, warning, error, opened, closed, fullUpdate, incrementalUpdate, dirtyState,
    validationResult, keepAlive, unknown]

def name : MessageKind → String
  | success => "success"
  | warning => "warning"
  | error => "error"
  | opened => "open"
  | closed => "close"
  | fullUpdate => "fullUpdate"
  | incrementalUpdate => "incrementalUpdate"
  | dirtyState => "dirtyState"
  | validationResult => "validationResult"
  | keepAlive => "keepAlive"
  | unknown => "unknown"

/-- The kind of a type; a type of another server is unknown. -/
def ofType (type : String) : MessageKind := (all.find? fun k => k.name = type).getD unknown

theorem ofType_name (k : MessageKind) : ofType k.name = k := by cases k <;> decide

end MessageKind

/-- A message with its data. -/
structure Envelope where
  type : String
  data : Json := .null
deriving DecidableEq

namespace Envelope

def kind (m : Envelope) : MessageKind := .ofType m.type

/-- The wire form, without data that is `null`. -/
def toWire (m : Envelope) : Json :=
  .obj (("type", .str m.type) :: if m.data = .null then [] else [("data", m.data)])

/-- The text that is sent. -/
def toText (m : Envelope) : String := Json.text m.toWire

/-- The message that keeps a channel open. -/
def keepAlive : Envelope := { type := MessageKind.keepAlive.name }

def check : Check Envelope :=
  Check.fields fun ms =>
    Envelope.mk <$> Check.required ms ["type"] Check.text
      <*> Check.defaulted ms ["data"] .null Check.anything

/-- The name under which envelopes are reported. -/
def title : String := "ModelServerMessage"

/-- An envelope from a decoded payload. -/
def ofJson (v : Json) : Except Error Envelope :=
  match v.text? "type" with
  | some type => .ok { type := type, data := Json.ofOption (v.get? "data") }
  | none => .error (.undecodable title v)

/-- An envelope from a frame. -/
def ofFrame : Frame → Except Error Envelope
  | .text s =>
    match Json.read s with
    | .ok v => ofJson v
    | .error _ => .error (.undecodable title (.str s))
  | .bytes bs =>
    match Json.readBytes bs with
    | .ok v => ofJson v
    | .error _ => .error (.undecodable title (.str (Text.Utf8.shown bs)))

/-- The error that an envelope reports, with further details. -/
def serverError (m : Envelope) (details : Entries Json) : Error :=
  let text :=
    match m.data.text? "message" with
    | some text => text
    | none => if m.data = .null then "model server reported an error" else Narrow.text m.data
  let code :=
    match m.data.get? "code" with
    | some code => if code = .null then [] else [("server_code", code)]
    | none => []
  .fromServer text (Entries.merge details code)

end Envelope

/-! ## Results -/

/-- A model of the workspace: its address and its content. -/
structure ModelRecord where
  modeluri : String
  content : Json
deriving DecidableEq

namespace ModelRecord

def check : Check ModelRecord :=
  Check.fields fun ms =>
    ModelRecord.mk <$> Check.required ms ["modelUri", "model_uri"] Check.text
      <*> Check.defaulted ms ["content"] .null Check.anything

def dump (r : ModelRecord) : Json := .obj [("modelUri", .str r.modeluri), ("content", r.content)]

end ModelRecord

/-- The outcome of an edit and, if the server tells them, the operations it has applied. -/
structure UpdateResult where
  success : Bool
  operations : Option (List Patch.Operation) := none
deriving DecidableEq

namespace UpdateResult

/-- The change of a local copy that repeats the edit, if it is known. -/
def patch? (r : UpdateResult) : Option (Json → Except Error Json) :=
  if r.success then r.operations.map fun os v => Patch.apply v os else none

end UpdateResult

/-! ## Mappers -/

namespace Envelope

def isSuccess (m : Envelope) : Bool := m.type == MessageKind.success.name

/-- The models that a listing holds. -/
def models (m : Envelope) : Except Error (List ModelRecord) :=
  (Narrow.records m.data).map fun rs => rs.map fun r => ⟨r.1, r.2⟩

/-- The outcome of an edit. Data with a patch that is not empty tells the operations. -/
def updateResult (m : Envelope) : Except Error UpdateResult :=
  if !m.isSuccess then .ok { success := false }
  else
    match m.data.get? "patch" with
    | some (.arr (v :: rest)) =>
      if Patch.Operation.isPatch (.arr (v :: rest)) then
        ((v :: rest).mapM Patch.Operation.ofWire).map fun os =>
          { success := true, operations := some os }
      else .ok { success := true }
    | _ => .ok { success := true }

end Envelope

end RemoteModel
