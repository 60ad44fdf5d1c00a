import RemoteModel.Diagnostic.Basic

/-!
# Merging diagnostics

**Merging.** Diagnostics that are fine are dropped. One problem stays as it is; several become
the children of a new root, which takes severity, source and code from the worst of them. The
nodes below a new root get new identifiers, which tell their places in its tree.

**The worst** is the first one of the greatest severity; the search ends at a severity that is
`CANCEL` and nothing else.

**Pools.** Nodes are shared between diagnostics. A new identifier or a summed severity shows
wherever its node stands; if a node stands in a tree twice, the last identifier counts.
-/

namespace RemoteModel.Diagnostic

/-- The severity that ends the search for the worst diagnostic. -/
def cancel : Int := 8

/-- The worse of the best candidate so far and those that follow. -/
def worstFrom (best : Diagnostic) : List Diagnostic → Diagnostic
  | [] => best
  | d :: rest =>
    let best := if d.severity > best.severity then d else best
    if d.severity = cancel then best else worstFrom best rest

/-- The worst of some diagnostics. -/
def worst? : List Diagnostic → Option Diagnostic
  | [] => none
  | d :: rest => some (worstFrom d (d :: rest))

/-- The diagnostics that the search looks at; it cannot go on past an empty place. -/
def candidates? : List (Option Diagnostic) → Option (List Diagnostic)
  | [] => some []
  | none :: _ => none
  | some d :: rest => if d.severity = cancel then some [d] else (candidates? rest).map (d :: ·)

/-! ## Identifiers -/

/-- The identifier of a child by the identifier of its parent. -/
def childId (parent : String) (n : Nat) : String :=
  (if parent = "/" then "" else parent) ++ "/@children." ++ toString n

mutual

/-- The new identifiers of a tree, by the keys of its nodes, in the order in which they are set. -/
def ids (base : String) : Diagnostic → List (Nat × String)
  | node f cs => (f.key, base) :: idsOf base 0 cs

def idsOf (parent : String) (n : Nat) : List Diagnostic → List (Nat × String)
  | [] => []
  | d :: rest => ids (childId parent n) d ++ idsOf parent (n + 1) rest

end

/-- The last value that is set for a key. -/
def lastOf {α : Type} (key : Nat) (writes : List (Nat × α)) : Option α :=
  (writes.reverse.find? fun w => w.1 = key).map (·.2)

mutual

/-- Changes every finding of a tree. -/
def mapFindings (f : Finding → Finding) : Diagnostic → Diagnostic
  | node x cs => node (f x) (mapFindingsOf f cs)

def mapFindingsOf (f : Finding → Finding) : List Diagnostic → List Diagnostic
  | [] => []
  | d :: rest => mapFindings f d :: mapFindingsOf f rest

end

/-- Sets identifiers by the keys of the nodes. -/
def setIds (writes : List (Nat × String)) : Diagnostic → Diagnostic :=
  mapFindings fun x => { x with id := (lastOf x.key writes).getD x.id }

/-- Sets severities by the keys of the nodes. -/
def setSeverities (writes : List (Nat × Int)) : Diagnostic → Diagnostic :=
  mapFindings fun x => { x with severity := (lastOf x.key writes).getD x.severity }

mutual

/-- The severities of a tree by the keys of its nodes. -/
def severities : Diagnostic → List (Nat × Int)
  | node f cs => (f.key, f.severity) :: severitiesOf cs

def severitiesOf : List Diagnostic → List (Nat × Int)
  | [] => []
  | d :: rest => severities d ++ severitiesOf rest

end

/-! ## Merging -/

/-- The diagnostics that are not fine. -/
def problems (ds : List (Option Diagnostic)) : List Diagnostic :=
  ds.filterMap fun d => d.filter fun d => d.severity > 0

/-- The root above several problems, before their identifiers are set. -/
def root (key : Nat) (worst : Diagnostic) (ps : List Diagnostic) : Diagnostic :=
  node
    { key := key, severity := worst.severity, source := worst.finding.source,
      code := worst.finding.code, id := "/",
      message := "Diagnosis of " ++ toString ps.length ++ " problems." }
    ps

/-- The merged diagnostic, and the identifiers that are set; a new node gets the given key. -/
def merge (key : Nat) (ds : List (Option Diagnostic)) : Diagnostic × List (Nat × String) :=
  match problems ds with
  | [] => (fine key, [])
  | [p] => (p, [])
  | p :: q :: rest =>
    let r := root key (worstFrom p (p :: q :: rest)) (p :: q :: rest)
    let writes := ids "/" r
    (setIds writes r, writes)

/-! ## Keys -/

mutual

/-- Gives the nodes of a tree new keys, from a number on. -/
def numbered (next : Nat) : Diagnostic → Diagnostic × Nat
  | node f cs =>
    let (cs, after) := numberedAll (next + 1) cs
    (node { f with key := next } cs, after)

def numberedAll (next : Nat) : List Diagnostic → List Diagnostic × Nat
  | [] => ([], next)
  | d :: rest =>
    let (d, next) := numbered next d
    let (ds, next) := numberedAll next rest
    (d :: ds, next)

end

/-- Diagnostics that share nodes; an entry may be empty. -/
structure Pool where
  entries : List (Option Diagnostic) := []
  next : Nat := 0

namespace Pool

/-- Puts a diagnostic with new nodes behind the others. -/
def push (p : Pool) (d : Option Diagnostic) : Pool :=
  match d with
  | none => { p with entries := p.entries ++ [none] }
  | some d =>
    let (d, next) := numbered p.next d
    { entries := p.entries ++ [some d], next := next }

/-- Changes every tree. -/
def map (f : Diagnostic → Diagnostic) (p : Pool) : Pool :=
  { p with entries := p.entries.map fun d => d.map f }

/-- The position of the diagnostic whose root has a key. -/
def indexOf? (p : Pool) (key : Nat) : Option Nat :=
  p.entries.findIdx? fun d => (d.map fun d => d.key) == some key

/-- The position of a diagnostic, which is put behind the others if it is not there. -/
def place (p : Pool) (d : Diagnostic) : Pool × Nat :=
  match p.indexOf? d.key with
  | some i => (p, i)
  | none => ({ entries := p.entries ++ [some d], next := max p.next (d.key + 1) }, p.entries.length)

/-- Merges diagnostics: the pool afterwards, and the position of the result. -/
def merge (p : Pool) (ds : List (Option Diagnostic)) : Pool × Nat :=
  let (d, writes) := Diagnostic.merge p.next ds
  (p.map (setIds writes)).place d

/-- Sums up the severities of a diagnostic. -/
def sum (p : Pool) (d : Diagnostic) : Pool × Diagnostic :=
  let d := d.summed
  (p.map (setSeverities d.severities), d)

/-- The position of the worst of some diagnostics, in a pool that may have a new one. -/
def worst (p : Pool) (ds : List (Option Diagnostic)) : Except Failure (Pool × Nat) :=
  match candidates? ds with
  | some ds => .ok (p.place ((worst? ds).getD (fine p.next)))
  | none => .error .noMethod

end Pool

end RemoteModel.Diagnostic
