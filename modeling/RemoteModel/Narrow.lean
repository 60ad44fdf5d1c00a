import RemoteModel.Error

/-!
# Narrowing payloads

A payload from the server may be any value. Each function below gives it the shape that is asked
for, or reports that it does not have that shape.

**Texts** are the exception: a value that is no text is rendered as indented JSON.
-/

namespace RemoteModel

/-! ## Members of a kind -/

namespace Json

def hasString (v : Json) (name : String) : Bool := (v.get? name).any isString

def hasBool (v : Json) (name : String) : Bool := (v.get? name).any isBool

def hasNumber (v : Json) (name : String) : Bool := (v.get? name).any isNumber

def hasObject (v : Json) (name : String) : Bool := (v.get? name).any isObject

def hasArray (v : Json) (name : String) : Bool := (v.get? name).any isArray

/-- The text of a member, if it is one. -/
def text? (v : Json) (name : String) : Option String := (v.get? name).bind string?

theorem text?_eq_some {v : Json} {name s : String} :
    v.text? name = some s ↔ v.get? name = some (.str s) := by
  have hstring : ∀ w : Json, w.string? = some s ↔ w = .str s := fun w => by
    cases w <;> simp [string?]
  simp [text?, Option.bind_eq_some_iff, hstring]

theorem hasString_iff {v : Json} {name : String} :
    v.hasString name = true ↔ ∃ s, v.get? name = some (.str s) := by
  have hstring : ∀ w : Json, w.isString = true ↔ ∃ s, w = .str s := fun w => by
    cases w <;> simp [isString]
  cases h : v.get? name <;> simp [hasString, h, hstring]

end Json

/-- A property of payloads, by which they can be narrowed. -/
structure Guard where
  name : String
  holds : Json → Bool

namespace Narrow

/-- A text as it is, any other value as indented JSON. -/
def text : Json → String
  | .str s => s
  | v => Json.render Json.indented v

def texts : Json → Except Error (List String)
  | .arr items => .ok (items.map text)
  | v => .error (.undecodable "string[]" v)

/-- A truth value as it is; any other value counts as false. -/
def truth : Json → Bool
  | .bool b => b
  | _ => false

def object : Json → Except Error (Entries Json)
  | .obj members => .ok members
  | v => .error (.undecodable "object" v)

/-- An object from addresses to contents, as a list of records. -/
def records : Json → Except Error (List (String × Json))
  | .obj members => .ok members
  | v => .error (.undecodable "Model[]" v)

/-- A value with a property; an empty name for what is expected means the property's own. -/
def guarded (g : Guard) (expected : Option String) (v : Json) : Except Error Json :=
  if g.holds v then .ok v else .error (.undecodable ((expected.filter (· ≠ "")).getD g.name) v)

/-- A value that has a property, if one is asked for, and passes a check. -/
def checked {α : Type} (name : String) (c : Json → Except Error α) (g : Option Guard) (v : Json) :
    Except Error α :=
  match g with
  | some g => if g.holds v then c v else .error (.undecodable name v)
  | none => c v

end Narrow

end RemoteModel
