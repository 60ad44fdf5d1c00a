import RemoteModel.Patch.Operation
import RemoteModel.Json.Basic

/-!
# Addresses in a document

**Pointers.** A path without a number sign is empty or a sequence of steps, each behind a slash.
In a step `~1` stands for a slash and `~0` for a tilde.

**Model paths.** Behind a number sign stands a place in a model: the identifier of an element and
steps from there, or a containment path `//@feature.index/…` from the root. Nothing is escaped in
them. The element of an identifier is the first object in document order that bears it.

**Steps.** A step into an object is the name of a member; a step into a list is an index.
-/

namespace RemoteModel.Patch

/-- A place in a document, as a path names it. -/
inductive Address where
  /-- Steps from the root. -/
  | pointer (steps : List String)
  /-- Steps from the root of a model. -/
  | fromRoot (steps : List String)
  /-- Steps from the element of an identifier. -/
  | fromElement (id : String) (steps : List String)
deriving DecidableEq, Repr

namespace Address

/-- Resolves the escapes of a step. -/
def unescape : List Char → List Char
  | '~' :: '1' :: rest => '/' :: unescape rest
  | '~' :: '0' :: rest => '~' :: unescape rest
  | c :: rest => c :: unescape rest
  | [] => []

/-- Escapes the characters of a step. -/
def escape : List Char → List Char
  | '~' :: rest => '~' :: '0' :: escape rest
  | '/' :: rest => '~' :: '1' :: escape rest
  | c :: rest => c :: escape rest
  | [] => []

/-- The pointer of some steps. -/
def pointerText (steps : List String) : String :=
  String.ofList (steps.flatMap fun s => '/' :: escape s.toList)

/-- The steps of a segment `@feature.index` of a containment path. -/
def containmentSteps (feature : List Char) : List String :=
  match Text.cut? '.' feature with
  | none => [String.ofList feature]
  | some (name, []) => [String.ofList name]
  | some (name, index) => [String.ofList name, String.ofList index]

/-- The steps of the segments of a containment path. -/
def containment : List (List Char) → List String
  | [] => []
  | ('@' :: feature) :: rest => containmentSteps feature ++ containment rest
  | segments => segments.map String.ofList

/-- The place behind a number sign. -/
def ofFragment : List Char → Address
  | '/' :: '/' :: [] => .fromRoot []
  | '/' :: '/' :: rest => .fromRoot (containment (Text.pieces '/' rest))
  | fragment =>
    match Text.pieces '/' fragment with
    | [] :: steps => .fromRoot (steps.map String.ofList)
    | id :: steps => .fromElement (String.ofList id) (steps.map String.ofList)
    | [] => .fromRoot []

/-- The place that a path names. -/
def ofPath (path : String) : Except Fault Address :=
  match Text.cut? '#' path.toList with
  | some (_, fragment) => .ok (ofFragment fragment)
  | none =>
    match path.toList with
    | [] => .ok (.pointer [])
    | '/' :: rest =>
      .ok (.pointer ((Text.pieces '/' rest).map fun s => String.ofList (unescape s)))
    | _ => .error (.notAPointer path)

/-- A model path: adding to a feature that holds a list appends to the list. -/
def isModelPath : Address → Bool
  | .pointer _ => false
  | _ => true

end Address

/-! ## Finding an element -/

/-- An object that bears an identifier. -/
def bears (id : String) (members : Entries Json) : Bool :=
  (members.get? "$id").bind Json.string? == some id

mutual

/-- The steps to the first object, in document order, that bears an identifier. -/
def locate (id : String) : Json → Option (List String)
  | .obj members => if bears id members then some [] else locateMember id members
  | .arr items => locateItem id 0 items
  | _ => none

def locateMember (id : String) : List (String × Json) → Option (List String)
  | [] => none
  | (k, v) :: rest =>
    match locate id v with
    | some steps => some (k :: steps)
    | none => locateMember id rest

def locateItem (id : String) (n : Nat) : List Json → Option (List String)
  | [] => none
  | v :: rest =>
    match locate id v with
    | some steps => some (toString n :: steps)
    | none => locateItem id (n + 1) rest

end

/-- The steps from the root of a document to the place of an address. -/
def Address.resolve (document : Json) : Address → Except Fault (List String)
  | .pointer steps => .ok steps
  | .fromRoot steps => .ok steps
  | .fromElement id steps =>
    match locate id document with
    | some found => .ok (found ++ steps)
    | none => .error (.noElement id)

/-- The steps that a path names in a document, and whether it is a model path. -/
def resolvePath (document : Json) (path : String) : Except Fault (List String × Bool) := do
  let address ← Address.ofPath path
  let steps ← address.resolve document
  .ok (steps, address.isModelPath)

end RemoteModel.Patch
