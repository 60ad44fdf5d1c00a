import RemoteModel.Patch.Operation
import RemoteModel.Proofs.Json.Containers

/-!
# The standard of patches

What RFC 6902 says that a patch does to a document. The definitions below follow its words and
nothing else; no function that applies patches here is used in them.

**Pointers.** A pointer is empty, or a sequence of tokens, each behind a slash. In a token a tilde
begins an escape, `~0` or `~1`. A token names the member of an object; in a list it is the
position of an item, `0` or digits that do not begin with a zero, or `-` for the end, where
nothing stands.

**Operations.** The place that is removed, replaced or tested must be there, and so must the
source of a move or a copy. A move does not lead from a place into that place. Values are tested
by what they are: numbers by their size, lists by their items in order, objects by their members
in any order, and a truth value is no number.

**The root.** The standard does not say what is left of a document when its root is removed; here
it is `null`.
-/

namespace RemoteModel.Patch.Standard

open Json (Step Location)

/-! ## Pointers -/

/-- A token without its escapes. -/
def unescape? : List Char → Option (List Char)
  | [] => some []
  | '~' :: '1' :: rest => (unescape? rest).map ('/' :: ·)
  | '~' :: '0' :: rest => (unescape? rest).map ('~' :: ·)
  | '~' :: _ => none
  | c :: rest => (unescape? rest).map (c :: ·)

/-- The tokens of a pointer, if a text is one. -/
def tokens? (path : String) : Option (List String) :=
  match path.toList with
  | [] => some []
  | '/' :: rest => (Text.pieces '/' rest).mapM fun piece => (unescape? piece).map String.ofList
  | _ => none

/-- The position that a token writes. -/
def position? (token : String) : Option Nat :=
  let n := Nat.ofDigitChars 10 token.toList 0
  if toString n = token then some n else none

/-- The step that a token names in a container. -/
def step? : Json → String → Option Step
  | .obj _, token => some (.member token)
  | .arr _, token => (position? token).map .item
  | _, _ => none

/-- The location that tokens lead to. -/
def place? : List String → Json → Option Location
  | [], _ => some []
  | token :: rest, v => do
    let s ← step? v token
    let u ← v.child? s
    let l ← place? rest u
    some (s :: l)

/-- The value that tokens lead to. -/
def value? (tokens : List String) (v : Json) : Option Json :=
  (place? tokens v).bind fun l => v.at? l

/-! ## Changes -/

/-- Changes the container that tokens but for the last one lead to. The root is in no container;
it is replaced as a whole. -/
def change? (root : Json) (entry : String → Json → Option Json) (tokens : List String)
    (document : Json) : Option Json :=
  match tokens.getLast? with
  | none => some root
  | some key => do
    let l ← place? tokens.dropLast document
    let u ← document.at? l
    let w ← entry key u
    some (Json.put w l document)

/-- A list with an item more at a position, or an object with a member. -/
def entryAdded? (v : Json) (key : String) : Json → Option Json
  | .obj members => some (.obj (Entries.insert members key v))
  | .arr items =>
    if key = "-" then some (.arr (items ++ [v]))
    else do
      let n ← position? key
      if n ≤ items.length then some (.arr (items.insertIdx n v)) else none
  | _ => none

/-- A container without the entry that a token names. -/
def entryRemoved? (key : String) (u : Json) : Option Json := do
  let s ← step? u key
  let _ ← u.child? s
  some (u.eraseChild s)

def add? (tokens : List String) (v document : Json) : Option Json :=
  change? v (entryAdded? v) tokens document

def remove? (tokens : List String) (document : Json) : Option Json :=
  change? .null entryRemoved? tokens document

def replace? (tokens : List String) (v document : Json) : Option Json :=
  (place? tokens document).map fun l => Json.put v l document

/-! ## Equality -/

mutual

/-- Two values are the same. -/
def same : Json → Json → Bool
  | .null, .null => true
  | .bool a, .bool b => a == b
  | .str a, .str b => a == b
  | .int a, .int b => a == b
  | .int a, .float y => y.toInt? == some a
  | .float x, .int b => x.toInt? == some b
  | .float x, .float y => x.same y
  | .arr as, .arr bs => sameItems as bs
  | .obj as, .obj bs => as.length == bs.length && sameMembers as bs
  | _, _ => false

def sameItems : List Json → List Json → Bool
  | [], [] => true
  | a :: as, b :: bs => same a b && sameItems as bs
  | _, _ => false

/-- Each member has the same value as the member of its name on the other side. -/
def sameMembers : List (String × Json) → List (String × Json) → Bool
  | [], _ => true
  | (k, a) :: rest, bs =>
    (match Entries.get? bs k with
      | some b => same a b
      | none => false) && sameMembers rest bs

end

/-! ## Patches -/

/-- The tokens of the source of an operation. -/
def source? (o : Operation) : Option (List String) := o.source.bind tokens?

/-- Applies an operation to a document. -/
def applyOperation? (document : Json) (o : Operation) : Option Json := do
  let path ← tokens? o.path
  match o.action with
  | .add => do
    let v ← o.value
    add? path v document
  | .remove => remove? path document
  | .replace => do
    let v ← o.value
    replace? path v document
  | .test => do
    let v ← o.value
    let u ← value? path document
    if same u v then some document else none
  | .move => do
    let source ← source? o
    if source <+: path ∧ source ≠ path then none
    else
      let v ← value? source document
      let rest ← remove? source document
      add? path v rest
  | .copy => do
    let source ← source? o
    let v ← value? source document
    add? path v document

/-- Applies operations in order. -/
def applied? (document : Json) : List Operation → Option Json
  | [] => some document
  | o :: rest => (applyOperation? document o).bind fun next => applied? next rest

/-! ## Operations of the standard -/

/-- A pointer that is not taken for the path of a model. -/
structure IsPointer (path : String) : Prop where
  tokens : (tokens? path).isSome
  plain : '#' ∉ path.toList

instance (path : String) : Decidable (IsPointer path) :=
  decidable_of_iff ((tokens? path).isSome ∧ '#' ∉ path.toList)
    ⟨fun h => ⟨h.1, h.2⟩, fun h => ⟨h.tokens, h.plain⟩⟩

/-- An operation with pointers and with the members that its action needs. -/
structure IsStandard (o : Operation) : Prop where
  path : IsPointer o.path
  source : ∀ s, o.source = some s → IsPointer s
  hasValue : o.action ∈ [Action.add, .replace, .test] → o.value.isSome
  hasSource : o.action ∈ [Action.move, .copy] → o.source.isSome

instance (o : Operation) : Decidable (IsStandard o) :=
  decidable_of_iff (IsPointer o.path ∧ (∀ s ∈ o.source, IsPointer s) ∧
      (o.action ∈ [Action.add, .replace, .test] → o.value.isSome) ∧
      (o.action ∈ [Action.move, .copy] → o.source.isSome))
    ⟨fun ⟨hpath, hsource, hvalue, hsome⟩ => ⟨hpath, hsource, hvalue, hsome⟩,
      fun h => ⟨h.path, h.source, h.hasValue, h.hasSource⟩⟩

end RemoteModel.Patch.Standard
