import RemoteModel.Envelope

/-!
# Answers of the server

An answer has a status and bytes; or there is none, because time ran out or the server was not
reached. `Answer.envelope` sorts all of them: an envelope with a status of success is passed on,
everything else is an error.

**Text.** The bytes of an answer are read as text only to be shown. Which text that is depends on
the charset that the answer names, and is left open here: it comes with the answer. Where there is
none, the failure to read it (`Refusal`) takes the place of the error that would show it.
-/

namespace RemoteModel

/-- Why bytes have no text, by the kind and the message of the failure to read them. -/
structure Refusal where
  kind : String
  message : String := ""
deriving DecidableEq, Repr

def Refusal.failure (r : Refusal) : Failure := .raised r.kind r.message

/-- An answer with a status. -/
structure Response where
  status : Nat
  body : List UInt8
  /-- The bytes as text. -/
  text : Except Refusal String

namespace Response

/-- The value that the bytes are, if they are JSON. -/
def json? (r : Response) : Option Json :=
  match Json.readBytes r.body with
  | .ok v => some v
  | .error _ => none

/-- The status is one of success. -/
def isSuccess (r : Response) : Bool := 200 ≤ r.status && r.status ≤ 299

/-- How much of the text of an answer is shown. -/
def shownLength : Nat := 500

/-- The error that a successful answer holds no envelope. -/
def misshaped (r : Response) : Json → Failure
  | .null =>
    match r.text with
    | .ok text => .reported (.undecodable Envelope.title (.str text))
    | .error refusal => refusal.failure
  | payload => .reported (.undecodable Envelope.title payload)

/-- The error for a status that is none of success. -/
def badStatus (path : String) (r : Response) : Failure :=
  match r.text with
  | .ok text =>
    .reported (.badStatus r.status path (String.ofList (text.toList.take shownLength)))
  | .error refusal => refusal.failure

/-- The envelope of a successful answer; the path is the one that was asked for. -/
def envelope (path : String) (r : Response) : Except Failure Envelope :=
  let payload := Json.ofOption r.json?
  match r.isSuccess, Envelope.ofJson payload with
  | true, .ok m => .ok m
  | true, .error _ => .error (r.misshaped payload)
  | false, .ok m =>
    .error (.reported (m.serverError [("status_code", .int r.status), ("path", .str path)]))
  | false, .error _ => .error (r.badStatus path)

end Response

/-- What comes back for a request. -/
inductive Answer where
  | response (response : Response)
  | timedOut
  | unreachable (reason : String)

instance : Inhabited Answer := ⟨.timedOut⟩

namespace Answer

/-- The envelope of an answer, to a request for a path, or the failure that there is none. -/
def envelope (baseUrl : String) (timeout : Json) (path : String) : Answer → Except Failure Envelope
  | response r => r.envelope path
  | timedOut => .error (.reported (.timedOut path timeout))
  | unreachable reason => .error (.reported (.unreachable reason path baseUrl))

end Answer

end RemoteModel
