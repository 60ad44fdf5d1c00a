import RemoteModel.Check
import RemoteModel.Format
import RemoteModel.Narrow

/-!
# Objects and references of a model

Objects of the first dialect carry a type tag; those of the second one carry a tag and an
identifier. A reference names an element of a model by its type and its place.
-/

namespace RemoteModel

/-! ## Kinds of objects -/

/-- An object of the first dialect. -/
def isTagged (v : Json) : Bool := v.hasString typeTag

/-- A reference of the first dialect. -/
def isReference (v : Json) : Bool := v.hasString typeTag && v.hasString "$ref"

/-- An object of the second dialect. -/
def isTaggedV2 (v : Json) : Bool := v.hasString typeTagV2 && v.hasString "$id"

/-- A reference of the second dialect. -/
def isReferenceV2 (v : Json) : Bool := v.hasString typeTagV2 && v.hasString "$ref"

/-- A reference to an element, resolved inside its model. -/
structure Reference where
  type : String
  place : String
deriving DecidableEq, Repr

namespace Reference

def check : Check Reference :=
  Check.fields fun ms =>
    Reference.mk <$> Check.required ms [typeTag, "e_class"] Check.text
      <*> Check.required ms ["$ref", "ref"] Check.text

def toWire (r : Reference) : Json := .obj [(typeTag, .str r.type), ("$ref", .str r.place)]

theorem check_toWire (r : Reference) : check r.toWire = .ok r := rfl

end Reference

/-- A value of an edit: plain, or a reference. -/
inductive Value where
  | plain (value : Json)
  | reference (reference : Reference)
deriving DecidableEq

namespace Value

def toWire : Value → Json
  | plain v => v
  | reference r => r.toWire

/-- The value as a reference. -/
def check : Value → Checked Reference
  | plain v => Reference.check v
  | reference r => .ok r

/-- An integer, and no truth value. -/
def isInteger : Value → Bool
  | plain (.int _) => true
  | _ => false

def isTagged : Value → Bool
  | plain v => RemoteModel.isTagged v
  | reference _ => true

def isReference : Value → Bool
  | plain v => RemoteModel.isReference v
  | reference _ => true

end Value

/-- All values are integers. -/
def areIntegers (vs : List Value) : Bool := vs.all Value.isInteger

/-- All values are objects of the first dialect. -/
def areTagged (vs : List Value) : Bool := vs.all Value.isTagged

/-- All values are references of the first dialect. -/
def areReferences (vs : List Value) : Bool := vs.all Value.isReference

end RemoteModel
