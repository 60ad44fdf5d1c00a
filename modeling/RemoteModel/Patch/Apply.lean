import RemoteModel.Json.Equality
import RemoteModel.Patch.Address

/-!
# Applying patches

Operations are applied in order, each to the document that the ones before it have left. An
operation that does not apply is reported with its wire form, and no document is answered.

**Lists.** Values that are added push later items up; removed ones let them move down. The step
`-` names the end of a list. **Objects.** A member that is replaced keeps its place, a new one
goes last. **The root** is replaced as a whole, and removing it leaves `null`.
-/

namespace RemoteModel.Patch

/-- The index that a step names in a list of the given length. -/
def index (upper : Nat) (token : String) : Except Fault Nat :=
  match Text.integer? token with
  | none => .error (.notAnIndex token)
  | some i => if 0 ≤ i ∧ i < upper then .ok i.toNat else .error (.outOfRange i)

/-- The value at the end of some steps; `path` is the path that is reported. -/
def get (path : String) : List String → Json → Except Fault Json
  | [], v => .ok v
  | step :: rest, .obj members =>
    match Entries.get? members step with
    | some v => get path rest v
    | none => .error (.noValue path)
  | step :: rest, .arr items =>
    match index items.length step with
    | .ok i =>
      match items[i]? with
      | some v => get path rest v
      | none => .error (.noValue path)
    | .error fault => .error fault
  | _ :: _, _ => .error (.noValue path)

/-- Changes the value at the end of some steps. -/
def update (path : String) (f : Json → Except Fault Json) : List String → Json → Except Fault Json
  | [], v => f v
  | step :: rest, .obj members =>
    match Entries.get? members step with
    | some v => (update path f rest v).map fun w => .obj (Entries.insert members step w)
    | none => .error (.noValue path)
  | step :: rest, .arr items =>
    match index items.length step with
    | .ok i =>
      match items[i]? with
      | some v => (update path f rest v).map fun w => .arr (items.set i w)
      | none => .error (.noValue path)
    | .error fault => .error fault
  | _ :: _, _ => .error (.noValue path)

/-! ## Changing one entry of a container -/

/-- Adds a value under the last step, or to the list that a feature holds. -/
def addEntry (path : String) (append : Bool) (key : String) (v : Json) : Json → Except Fault Json
  | .arr items =>
    if key = "-" then .ok (.arr (items ++ [v]))
    else (index (items.length + 1) key).map fun i => .arr (items.insertIdx i v)
  | .obj members =>
    match append, Entries.get? members key with
    | true, some (.arr items) => .ok (.obj (Entries.insert members key (.arr (items ++ [v]))))
    | _, _ => .ok (.obj (Entries.insert members key v))
  | _ => .error (.addBelowScalar path)

/-- Removes the entry under the last step. -/
def removeEntry (path key : String) : Json → Except Fault Json
  | .arr items => (index items.length key).map fun i => .arr (items.eraseIdx i)
  | .obj members =>
    if Entries.contains members key then .ok (.obj (Entries.erase members key))
    else .error (.noValue path)
  | _ => .error (.noValue path)

/-- Puts a value under the last step; a member need not be there before. -/
def replaceEntry (path key : String) (v : Json) : Json → Except Fault Json
  | .arr items => (index items.length key).map fun i => .arr (items.set i v)
  | .obj members => .ok (.obj (Entries.insert members key v))
  | _ => .error (.replaceBelowScalar path)

/-! ## Changing a document -/

/-- Changes the container that holds the end of some steps; the root is held by nothing. -/
def edit (path : String) (root : Json) (entry : String → Json → Except Fault Json)
    (steps : List String) (document : Json) : Except Fault Json :=
  match steps.getLast? with
  | none => .ok root
  | some key => update path (entry key) steps.dropLast document

def add (path : String) (append : Bool) (steps : List String) (v document : Json) :
    Except Fault Json :=
  edit path v (fun key => addEntry path append key v) steps document

def remove (path : String) (steps : List String) (document : Json) : Except Fault Json :=
  edit path .null (removeEntry path) steps document

def replace (path : String) (steps : List String) (v document : Json) : Except Fault Json :=
  edit path v (fun key => replaceEntry path key v) steps document

/-- The steps to the source of an operation. -/
def sourceSteps (document : Json) (o : Operation) : Except Fault (List String) :=
  match o.source with
  | none => .error (.noSource o.action.name)
  | some source => (resolvePath document source).map (·.1)

/-- Applies an operation to a document. -/
def applyOperation (document : Json) (o : Operation) : Except Fault Json := do
  let (steps, isModelPath) ← resolvePath document o.path
  match o.action with
  | .add => add o.path isModelPath steps o.operand document
  | .remove => remove o.path steps document
  | .replace => replace o.path steps o.operand document
  | .test =>
    let v ← get o.path steps document
    if v.equal o.operand then .ok document else .error (.testFailed o.path)
  | .move =>
    let source ← sourceSteps document o
    let v ← get o.path source document
    let rest ← remove o.path source document
    add o.path false steps v rest
  | .copy =>
    let source ← sourceSteps document o
    let v ← get o.path source document
    add o.path false steps v document

/-- Applies operations in order. -/
def apply (document : Json) : List Operation → Except Error Json
  | [] => .ok document
  | o :: rest =>
    match applyOperation document o with
    | .ok next => apply next rest
    | .error fault => .error (.unpatchable fault o.toWire)

/-- Applies wire operations in order, each being read when its turn comes. -/
def applyWire (document : Json) : List Json → Except Error Json
  | [] => .ok document
  | v :: rest =>
    match Operation.ofWire v with
    | .error e => .error e
    | .ok o =>
      match applyOperation document o with
      | .ok next => applyWire next rest
      | .error fault => .error (.unpatchable fault o.toWire)

end RemoteModel.Patch
