import RemoteModel.Json.Equality
import RemoteModel.Patch.Operation
import RemoteModel.Reference

/-!
# Building operations

Operations on an element of a model, addressed by the identifier that the element bears or, for
a reference, by the one it refers to. The model's address is cut at its first number sign.
-/

namespace RemoteModel.Patch

/-- A member that must be there. -/
def member (v : Json) (name : String) : Except Failure Json :=
  match v with
  | .obj members =>
    match Entries.get? members name with
    | some w => .ok w
    | none => .error (.noMember name)
  | _ => .error .wrongType

/-- The path of an element. -/
def elementPath (modeluri : String) (element : Json) : Except Failure String := do
  let id ← member element (if isReferenceV2 element then "$ref" else "$id")
  let address := ((Text.cut? '#' modeluri.toList).map (·.1)).getD modeluri.toList
  .ok (String.ofList address ++ "#" ++ Json.Display.shown id)

/-- The path of a feature of an element. -/
def featurePath (modeluri : String) (element : Json) (feature : String) : Except Failure String :=
  (elementPath modeluri element).map fun path => path ++ "/" ++ feature

/-- Replaces the value of a feature. -/
def replaceFeature (modeluri : String) (element : Json) (feature : String) (v : Json) :
    Except Failure Operation :=
  (featurePath modeluri element feature).map fun path =>
    { action := .replace, path := path, value := some v }

/-- Adds a new object of a type, with further attributes, to a feature. -/
def create (modeluri : String) (parent : Json) (feature type : String)
    (attributes : Entries Json) : Except Failure Operation :=
  (featurePath modeluri parent feature).map fun path =>
    { action := .add, path := path,
      value := some (.obj (Entries.merge [(typeTagV2, .str type)] attributes)) }

/-- Adds a reference to an element to a feature. -/
def addReference (modeluri : String) (parent : Json) (feature : String) (element : Json) :
    Except Failure Operation := do
  let type ← member element typeTagV2
  let target ← elementPath modeluri element
  let path ← featurePath modeluri parent feature
  .ok { action := .add, path := path,
        value := some (.obj [(typeTagV2, type), ("$id", .str target)]) }

/-- What follows the path of a feature: an index as plain text, and nothing for no index. -/
def indexSuffix (index : Json) : String :=
  if index.isNull then "" else "/" ++ Json.Display.shown index

/-- Removes the value at an index of a feature. -/
def removeAt (modeluri : String) (element : Json) (feature : String) (index : Json) :
    Except Failure Operation :=
  (featurePath modeluri element feature).map fun path =>
    { action := .remove, path := path ++ indexSuffix index }

/-- Removes the first equal value of a feature that holds a list; none if there is no such one. -/
def removeValue (modeluri : String) (element : Json) (feature : String) (v : Json) :
    Except Failure (Option Operation) :=
  match element with
  | .obj members =>
    match Entries.get? members feature with
    | some (.arr items) =>
      match Json.indexOf? v items with
      | some i => (removeAt modeluri element feature (.int i)).map some
      | none => .ok none
    | _ => .ok none
  | _ => .error .noMethod

/-- Removes an element. -/
def removeElement (modeluri : String) (element : Json) : Except Failure Operation :=
  (elementPath modeluri element).map fun path => { action := .remove, path := path }

/-! ## Telling operations apart -/

/-- A kind of values, by which operations are told apart. -/
inductive ValueKind where
  | text
  /-- Integers and truth values. -/
  | integer
  | real
  | truth
  | list
  | object
  | nothing
  | guarded (guard : Guard)

namespace ValueKind

def holds : ValueKind → Json → Bool
  | text, .str _ => true
  | integer, .int _ => true
  | integer, .bool _ => true
  | real, .float _ => true
  | truth, .bool _ => true
  | list, .arr _ => true
  | object, .obj _ => true
  | nothing, .null => true
  | guarded g, v => g.holds v
  | _, _ => false

end ValueKind

/-- An operation with an action and, if a kind is asked for, a value of that kind. -/
def isAction (action : Action) (kind : Option ValueKind) (o : Operation) : Bool :=
  o.action = action && kind.all fun k => k.holds o.operand

end RemoteModel.Patch
