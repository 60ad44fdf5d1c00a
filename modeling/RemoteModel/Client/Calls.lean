import RemoteModel.Client.Basic

/-!
# The calls of the client

One function for each thing that can be asked of the server. Each gives an exchange, or fails
before there is a request, because a model cannot be encoded or an edit cannot be read.

**Selectors.** A model is returned as an object, as a text in a format of choice, or as a value
that has a property of choice.

**Edits.** The second version of the protocol takes commands and patches, each wrapped in a
message; a patch without operations needs no request. The first version takes commands only,
and its answers tell no operations.
-/

namespace RemoteModel

/-- How a model is to be returned. -/
inductive Selector where
  | object
  | format (name : String)
  | guarded (guard : Guard) (expected : Option String)

namespace Selector

/-- The format that is asked for. -/
def formatName (defaultFormat : String) : Selector → String
  | format name => name
  | _ => defaultFormat

/-- Gives a content the selected shape. -/
def narrow : Selector → Json → Except Error Json
  | object, v => (Narrow.object v).map .obj
  | format _, v => .ok (.str (Narrow.text v))
  | guarded g expected, v => Narrow.guarded g expected v

end Selector

/-- Where the server keeps its models, and its schemas if they are kept elsewhere. -/
structure Workspace where
  root : String
  schemas : Option String := none
deriving DecidableEq, Repr

namespace Workspace

def check : Check Workspace :=
  Check.fields fun ms =>
    Workspace.mk <$> Check.required ms ["workspaceRoot", "workspace_root"] Check.text
      <*> Check.optional ms ["uiSchemaFolder", "ui_schema_folder"] Check.text

/-- The wire form. -/
def dump (w : Workspace) : Json :=
  .obj [("workspaceRoot", .str w.root), ("uiSchemaFolder", Json.ofText? w.schemas)]

end Workspace

/-- An edit: a command, or a value that should be a patch. -/
inductive Edit where
  | command (command : Command)
  | patch (patch : Json)

namespace Client

/-- The parameter that names a model. -/
def modelParam (modeluri : String) : Entries String := [("modeluri", modeluri)]

/-- Narrows the data of an envelope. -/
def ofData {α : Type} (f : Json → Except Error α) (m : Envelope) : Except Error α := f m.data

/-- The data of an envelope as a text. -/
def dataText (m : Envelope) : Except Error String := .ok (Narrow.text m.data)

/-- Whether an envelope reports success. -/
def success (m : Envelope) : Except Error Bool := .ok m.isSuccess

/-! ## Models -/

def get (c : Client) (modeluri : String) (s : Selector) : Exchange Json :=
  .ask
    { method := .get, path := Endpoint.models.path,
      params := modelParam modeluri ++ [("format", s.formatName c.defaultFormat)] }
    (ofData s.narrow)

/-- All models of the workspace, each content in the selected shape. -/
def getAll (c : Client) (s : Selector) : Exchange (List ModelRecord) :=
  .ask
    { method := .get, path := Endpoint.models.path,
      params := [("format", s.formatName c.defaultFormat)] }
    fun m => do
      let records ← m.models
      records.mapM fun r => (s.narrow r.content).map fun v => { r with content := v }

def modelUris : Exchange (List String) :=
  .ask { method := .get, path := Endpoint.modelUris.path } (ofData Narrow.texts)

/-- One element of a model, by the parameter that names it. -/
def element (c : Client) (modeluri parameter name : String) (s : Selector) : Exchange Json :=
  .ask
    { method := .get, path := Endpoint.modelElement.path,
      params := modelParam modeluri ++
        [(parameter, name), ("format", s.formatName c.defaultFormat)] }
    (ofData s.narrow)

def elementById (c : Client) (modeluri id : String) (s : Selector) : Exchange Json :=
  c.element modeluri "elementid" id s

def elementByName (c : Client) (modeluri name : String) (s : Selector) : Exchange Json :=
  c.element modeluri "elementname" name s

/-- Sends a model. -/
def put (c : Client) (method : Method) (modeluri : String) (model : Json) (s : Selector) :
    Except Failure (Exchange Json) := do
  let format := s.formatName c.defaultFormat
  let body ← Format.body format model
  .ok (.ask
    { method := method, path := Endpoint.models.path,
      params := modelParam modeluri ++ [("format", format)], body := some body }
    (ofData s.narrow))

def create (c : Client) (modeluri : String) (model : Json) (s : Selector) :
    Except Failure (Exchange Json) :=
  c.put .post modeluri model s

def update (c : Client) (modeluri : String) (model : Json) (s : Selector) :
    Except Failure (Exchange Json) :=
  c.put .put modeluri model s

/-! ## Plain requests -/

/-- Asks for something to be done to a model. -/
def order (method : Method) (e : Endpoint) (modeluri : String) : Exchange Bool :=
  .ask { method := method, path := e.path, params := modelParam modeluri } success

def delete (modeluri : String) : Exchange Bool := order .delete .models modeluri

def close (modeluri : String) : Exchange Bool := order .post .close modeluri

def save (modeluri : String) : Exchange Bool := order .get .save modeluri

def saveAll : Exchange Bool := .ask { method := .get, path := Endpoint.saveAll.path } success

def ping : Exchange Bool := .ask { method := .get, path := Endpoint.serverPing.path } success

def configure (w : Workspace) : Exchange Bool :=
  .ask { method := .put, path := Endpoint.serverConfigure.path, body := some w.dump } success

def validate (modeluri : String) : Exchange Diagnostic :=
  .ask { method := .get, path := Endpoint.validation.path, params := modelParam modeluri }
    (ofData Diagnostic.ofWire)

/-- Asks for a text about a model. -/
def describe (e : Endpoint) (modeluri : String) : Exchange String :=
  .ask { method := .get, path := e.path, params := modelParam modeluri } dataText

def validationConstraints (modeluri : String) : Exchange String :=
  describe .validationConstraints modeluri

def typeSchema (modeluri : String) : Exchange String := describe .typeSchema modeluri

def uiSchema (name : String) : Exchange String :=
  .ask { method := .get, path := Endpoint.uiSchema.path, params := [("schemaname", name)] } dataText

/-! ## Edits -/

/-- The type of a message that carries a command. -/
def commandMessage : String := "modelserver.emfcommand"

/-- The type of a message that carries a patch. -/
def patchMessage : String := "modelserver.patch"

/-- A message that carries an edit. -/
def message (type : String) (data : Json) : Json := .obj [("type", .str type), ("data", data)]

/-- The outcome of an edit of which only the success is known. -/
def plainOutcome (m : Envelope) : Except Error UpdateResult := .ok { success := m.isSuccess }

/-- The request for an edit in the second version of the protocol. -/
def editRequest (modeluri format : String) (message : Json) :
    Except Failure (Exchange UpdateResult) := do
  let body ← Format.body format message
  .ok (.ask
    { method := .patch, path := Endpoint.models.path,
      params := modelParam modeluri ++ [("format", format)], body := some body }
    Envelope.updateResult)

/-- Edits a model; the format is the usual one if none is given. -/
def edit (c : Client) (modeluri : String) (e : Edit) (format : Option String) :
    Except Failure (Exchange UpdateResult) :=
  let format := (firstText format none).getD c.defaultFormat
  match c.protocol, e with
  | .v1, .command command =>
    .ok (.ask
      { method := .patch, path := Endpoint.edit.path,
        params := modelParam modeluri ++ [("format", format)],
        body := some (.obj [("data", command.toWire)]) }
      plainOutcome)
  | .v1, .patch _ => .error (.reported .commandsOnly)
  | .v2, .command command => editRequest modeluri format (message commandMessage command.toWire)
  | .v2, .patch patch => do
    let operations ← Patch.operations patch
    if operations.isEmpty then .ok (.done { success := true, operations := some [] })
    else
      editRequest modeluri format
        (message patchMessage (.arr (operations.map Patch.Operation.toWire)))

/-- Takes an edit back or does it again. -/
def replay (c : Client) (e : Endpoint) (modeluri : String) : Exchange UpdateResult :=
  .ask { method := .get, path := e.path, params := modelParam modeluri }
    (match c.protocol with
      | .v1 => plainOutcome
      | .v2 => Envelope.updateResult)

def undo (c : Client) (modeluri : String) : Exchange UpdateResult := c.replay .undo modeluri

def redo (c : Client) (modeluri : String) : Exchange UpdateResult := c.replay .redo modeluri

end Client

end RemoteModel
