import RemoteModel.Failure
import RemoteModel.Narrow

/-!
# Diagnostics

The outcome of a validation is a tree. Each node has a severity, which is a set of flags; nodes
without children are the problems that were found, and an inner node sums up its children.

**Labels.** A severity is called by its highest flag: `CANCEL`, `ERROR`, `WARNING`, `INFO`, or
`OK` for none of them.

**Identity.** Every node has a key. Two nodes with one key are the same node, which may stand in
several trees; `Diagnostic.Pool` changes them all at once.
-/

namespace RemoteModel

namespace Diagnostic

/-- What a node says. -/
structure Finding where
  key : Nat := 0
  severity : Int := 0
  message : String := ""
  source : String := ""
  code : Int := 0
  exception : Json := .null
  data : List Json := []
  id : String := ""
deriving DecidableEq

end Diagnostic

/-- A tree of findings. -/
inductive Diagnostic where
  | node (finding : Diagnostic.Finding) (children : List Diagnostic)

namespace Diagnostic

/-- What holds of a node when it holds of its children holds of all trees. -/
theorem induct {P : Diagnostic → Prop} (node : ∀ f cs, (∀ c ∈ cs, P c) → P (.node f cs))
    (d : Diagnostic) : P d :=
  @Diagnostic.rec P (fun cs => ∀ c ∈ cs, P c) node (fun _ h => nomatch h)
    (fun _ _ hd hrest => List.forall_mem_cons.2 ⟨hd, hrest⟩) d

def finding : Diagnostic → Finding
  | node f _ => f

def children : Diagnostic → List Diagnostic
  | node _ cs => cs

def severity (d : Diagnostic) : Int := d.finding.severity

def key (d : Diagnostic) : Nat := d.finding.key

/-- The diagnostic of a model without problems. -/
def fine (key : Nat) : Diagnostic := node { key := key, message := "OK" } []

/-! ## Severities -/

/-- Whether the flag at a place is set; places count from zero. -/
def hasFlag : Nat → Int → Bool
  | 0, severity => severity % 2 == 1
  | place + 1, severity => hasFlag place (severity / 2)

/-- The name of a severity. -/
inductive Label where
  | ok
  | info
  | warning
  | error
  | cancel
deriving DecidableEq, Repr

namespace Label

def name : Label → String
  | ok => "OK"
  | info => "INFO"
  | warning => "WARNING"
  | error => "ERROR"
  | cancel => "CANCEL"

/-- The label of the highest flag. -/
def ofSeverity (severity : Int) : Label :=
  if hasFlag 3 severity then cancel
  else if hasFlag 2 severity then error
  else if hasFlag 1 severity then warning
  else if hasFlag 0 severity then info
  else ok

end Label

def label (d : Diagnostic) : Label := Label.ofSeverity d.severity

/-- All flags of both severities; a negative number has all but finitely many flags. -/
def union : Int → Int → Int
  | .ofNat a, .ofNat b => .ofNat (a ||| b)
  | .ofNat a, .negSucc b => .negSucc (b - (b &&& a))
  | .negSucc a, .ofNat b => .negSucc (a - (a &&& b))
  | .negSucc a, .negSucc b => .negSucc (a &&& b)

mutual

/-- The tree in which every inner node has the flags of its children. -/
def summed : Diagnostic → Diagnostic
  | node f [] => node f []
  | node f (c :: cs) =>
    node { f with severity := summedSeverity (c :: cs) } (summed c :: summedAll cs)

def summedAll : List Diagnostic → List Diagnostic
  | [] => []
  | d :: rest => summed d :: summedAll rest

/-- The flags of the summed trees. -/
def summedSeverity : List Diagnostic → Int
  | [] => 0
  | node f [] :: rest => union f.severity (summedSeverity rest)
  | node _ (c :: cs) :: rest => union (summedSeverity (c :: cs)) (summedSeverity rest)

end

/-! ## Leaves -/

mutual

/-- The problems of a tree: its nodes without children that are not fine, from left to right. -/
def leaves : Diagnostic → List Diagnostic
  | node f [] => if f.severity > 0 then [node f []] else []
  | node _ (c :: cs) => leaves c ++ leavesOf cs

def leavesOf : List Diagnostic → List Diagnostic
  | [] => []
  | d :: rest => leaves d ++ leavesOf rest

end

/-! ## Wire form -/

namespace Finding

def check (ms : Entries Json) : Checked Finding :=
  Finding.mk 0 <$> Check.defaulted ms ["severity"] 0 Check.integer
    <*> Check.defaulted ms ["message"] "" Check.text
    <*> Check.defaulted ms ["source"] "" Check.text
    <*> Check.defaulted ms ["code"] 0 Check.integer
    <*> Check.defaulted ms ["exception"] .null Check.anything
    <*> Check.defaulted ms ["data"] [] (Check.list Check.anything)
    <*> Check.defaulted ms ["id"] "" Check.text

end Finding

mutual

def check : Json → Checked Diagnostic
  | .obj members => (node <$> Finding.check members).both (checkChildren members)
  | _ => Check.misfit

def checkChildren : List (String × Json) → Checked (List Diagnostic)
  | [] => .ok []
  | (k, v) :: rest => if k = "children" then (checkList v).under "children" else checkChildren rest

def checkList : Json → Checked (List Diagnostic)
  | .arr items => checkItems 0 items
  | _ => Check.misfit

def checkItems (n : Nat) : List Json → Checked (List Diagnostic)
  | [] => .ok []
  | v :: rest => ((·  :: ·) <$> (check v).under (toString n)).both (checkItems (n + 1) rest)

end

mutual

def dump : Diagnostic → Json
  | node f cs =>
    .obj [("severity", .int f.severity), ("message", .str f.message), ("source", .str f.source),
      ("code", .int f.code), ("exception", f.exception), ("data", .arr f.data),
      ("children", .arr (dumps cs)), ("id", .str f.id)]

def dumps : List Diagnostic → List Json
  | [] => []
  | d :: rest => dump d :: dumps rest

end

/-- An object with all fields of a diagnostic. -/
def isDiagnostic (v : Json) : Bool :=
  v.hasNumber "severity" && v.hasString "message" && v.hasString "source" && v.hasNumber "code" &&
    v.hasArray "data" && v.hasArray "children" && v.hasString "id"

/-- The guard of diagnostics. -/
def guard : Guard := ⟨"is_diagnostic", isDiagnostic⟩

/-- A diagnostic from its wire form, all of whose fields must be there. -/
def ofWire (v : Json) : Except Error Diagnostic :=
  Narrow.checked "Diagnostic" (fun v => (check v).orUndecodable "Diagnostic" v) (some guard) v

end Diagnostic

end RemoteModel
