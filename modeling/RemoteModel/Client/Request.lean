import RemoteModel.Client.Answer
import RemoteModel.Url.Basic

/-!
# Requests

A request asks for a path below the API, with named parameters and sometimes a body. An
`Exchange` is what a call of the client comes to: a value that needs no request, or a request
and the way to read its answer.
-/

namespace RemoteModel

/-- The method of a request. -/
inductive Method where
  | get
  | post
  | put
  | patch
  | delete
deriving DecidableEq, Repr

def Method.name : Method → String
  | get => "GET"
  | post => "POST"
  | put => "PUT"
  | patch => "PATCH"
  | delete => "DELETE"

/-- A request for a path below the API. -/
structure Request where
  method : Method
  path : String
  params : Entries String := []
  body : Option Json := none
deriving DecidableEq

/-- A request as it is sent. -/
structure SentRequest where
  method : Method
  url : Url
  body : Option Json
deriving DecidableEq

/-- The address of an API, below which requests are made: its path ends with a slash. -/
def Url.asBase? (u : Url) : Option Url :=
  if u.target.endsWith "/" then some u else u.withTarget? (u.target ++ "/")

namespace Request

/-- The request below the address of an API. The parameters are the whole query. -/
def sent (base : Url) (r : Request) : Except Failure SentRequest :=
  match (base.withTarget? (base.target ++ r.path)).bind fun u => u.withForm? r.params with
  | none => .error .notAUrl
  | some url =>
    if r.body.all Json.isFinite then .ok { method := r.method, url := url, body := r.body }
    else .error .notFinite

end Request

/-- What a call comes to. -/
inductive Exchange (α : Type) where
  | done (value : α)
  | ask (request : Request) (read : Envelope → Except Error α)

/-- The endpoints of the API. -/
inductive Endpoint where
  | modelUris
  | models
  | modelElement
  | typeSchema
  | uiSchema
  | serverConfigure
  | serverPing
  | subscribe
  | edit
  | close
  | save
  | saveAll
  | undo
  | redo
  | validation
  | validationConstraints
deriving DecidableEq, Repr

namespace Endpoint

/-- The path of an endpoint below the API. -/
def path : Endpoint → String
  | modelUris => "modeluris"
  | models => "models"
  | modelElement => "modelelement"
  | typeSchema => "typeschema"
  | uiSchema => "uischema"
  | serverConfigure => "server/configure"
  | serverPing => "server/ping"
  | subscribe => "subscribe"
  | edit => "edit"
  | close => "close"
  | save => "save"
  | saveAll => "saveall"
  | undo => "undo"
  | redo => "redo"
  | validation => "validation"
  | validationConstraints => "validation/constraints"

def all : List Endpoint :=
  [modelUris, models, modelElement, typeSchema, uiSchema, serverConfigure, serverPing, subscribe,
    edit, close, save, saveAll, undo, redo, validation, validationConstraints]

end Endpoint

end RemoteModel
