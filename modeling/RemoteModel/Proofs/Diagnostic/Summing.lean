import RemoteModel.Proofs.Diagnostic.Merging

/-!
# Summing up severities

Summing up goes through a tree from the leaves to the root and writes to the nodes where they stand,
which may be several places of several trees.

**Main statement.** `sum_summed`: the tree stays as it is but for the severities of its inner nodes.
Every node then has the flags of its problems, and the second summing up changes nothing.

* *One tree.* The leaves stay (`leaves_summed`), and what is below a node is summed up as if the
  node were the root (`at?_summed`), so a node and what has become of it are compared as two roots.
* *In a pool*, severities are written by key. All places with the key of a node hold this node, so
  all of them get one severity (`setSeverities_summed`).
-/

namespace RemoteModel.Diagnostic

variable {d m n : Diagnostic} {p : Pool}

/-! ## One tree -/

/-- Only severities change, and the children stay in their places. -/
theorem summed_eq (d : Diagnostic) :
    d.summed = node { d.finding with severity := d.summed.severity } (d.children.map summed) := by
  obtain ⟨f, cs⟩ := d
  by_cases hcs : cs = []
  · subst hcs
    rfl
  · rw [summed_node f hcs]
    rfl

theorem finding_summed (d : Diagnostic) :
    d.summed.finding = { d.finding with severity := d.summed.severity } :=
  congrArg finding (summed_eq d)

theorem key_summed (d : Diagnostic) : d.summed.key = d.key := by
  rw [key, finding_summed]
  rfl

theorem children_summed (d : Diagnostic) : d.summed.children = d.children.map summed :=
  congrArg children (summed_eq d)

theorem at?_summed (d : Diagnostic) (is : List Nat) : d.summed.at? is = (d.at? is).map summed :=
  at?_map children_summed d is

theorem summed_of_children_eq_nil (h : d.children = []) : d.summed = d := by
  obtain ⟨f, cs⟩ := d
  cases h
  rfl

theorem leaves_summed (d : Diagnostic) : d.summed.leaves = d.leaves := by
  induction d using induct with
  | node f cs ih =>
    by_cases hcs : cs = []
    · subst hcs
      rfl
    · rw [summed_node f hcs, leaves_node f hcs, leaves_node _ (by simpa using hcs),
        List.flatMap_map]
      exact List.flatMap_congr ih

theorem nodes_summed (d : Diagnostic) : d.summed.nodes = d.nodes.map summed := by
  induction d using induct with
  | node f cs ih =>
    by_cases hcs : cs = []
    · subst hcs
      rfl
    · rw [nodes_node, List.map_cons, List.map_flatMap, summed_node f hcs, nodes_node,
        List.flatMap_map, List.flatMap_congr ih]

theorem flags_eq_foldr {xs : List Int} (h : ∀ x ∈ xs, 0 ≤ x) :
    flags xs = ((xs.map Int.toNat).foldr (· ||| ·) 0 : Nat) := by
  induction xs with
  | nil => rfl
  | cons x rest ih =>
    obtain ⟨hx, hrest⟩ := List.forall_mem_cons.1 h
    obtain ⟨a, rfl⟩ := Int.eq_ofNat_of_zero_le hx
    rw [flags, List.foldr_cons, ← flags, ih hrest]
    rfl

/-- What becomes of a node: a leaf stays, an inner node gets the flags of its problems. -/
structure SumsUp (n n' : Diagnostic) : Prop where
  finding : n'.finding = { n.finding with severity := n'.severity }
  leaf : n.children = [] → n' = n
  problems : n'.leaves = n.leaves
  severity : n'.severity = ((n'.leaves.map fun l => l.severity.toNat).foldr (· ||| ·) 0 : Nat)
  fine : n'.severity = 0 ↔ n'.leaves = []

theorem sumsUp_summed (h : ∀ m ∈ n.nodes, 0 ≤ m.severity) : SumsUp n n.summed where
  finding := finding_summed n
  leaf := summed_of_children_eq_nil
  problems := leaves_summed n
  severity := by
    rw [severity_summed h, leaves_summed,
      flags_eq_foldr fun s hs => Int.le_of_lt (n.severities_pos s hs), List.map_map]
    rfl
  fine := by
    rw [severity_summed h, leaves_summed]
    constructor
    · exact fun hflags => List.map_eq_nil_iff.1 (eq_nil_of_flags n.severities_pos hflags)
    · intro hnil
      rw [hnil]
      rfl

/-! ## In a pool -/

theorem severitiesOf_eq (ds : List Diagnostic) : severitiesOf ds = ds.flatMap severities := by
  induction ds with
  | nil => rfl
  | cons d rest ih => rw [severitiesOf, ih, List.flatMap_cons]

theorem severities_eq (d : Diagnostic) :
    d.severities = d.nodes.map fun n => (n.key, n.severity) := by
  induction d using induct with
  | node f cs ih =>
    rw [severities, severitiesOf_eq, nodes_node, List.map_cons, List.map_flatMap,
      List.flatMap_congr ih]
    rfl

/-- Where all writes for a key agree, the last one does not matter. -/
theorem lastOf_eq_some {α : Type} {k : Nat} {a : α} {writes : List (Nat × α)}
    (h : (k, a) ∈ writes) (hall : ∀ b, (k, b) ∈ writes → b = a) : lastOf k writes = some a := by
  unfold lastOf
  cases hfind : writes.reverse.find? fun w => w.1 = k with
  | none => simpa using List.find?_eq_none.1 hfind _ (List.mem_reverse.2 h)
  | some w =>
    obtain ⟨k', b⟩ := w
    have hk : k' = k := by simpa using List.find?_some hfind
    subst hk
    rw [hall b (List.mem_reverse.1 (List.mem_of_find?_eq_some hfind))]
    rfl

theorem lastOf_severities (hp : p.Sound) (hd : p.Has d) (hn : n ∈ d.nodes) :
    lastOf n.key d.summed.severities = some n.summed.severity := by
  have hmem : ∀ {k : Nat} {s : Int}, (k, s) ∈ d.summed.severities ↔
      ∃ m ∈ d.nodes, m.key = k ∧ m.summed.severity = s := by
    intro k s
    simp [severities_eq, nodes_summed, key_summed]
  refine lastOf_eq_some (hmem.2 ⟨n, hn, rfl, rfl⟩) fun s hs => ?_
  obtain ⟨m, hm, hkey, rfl⟩ := hmem.1 hs
  rw [hp.same m n (hd.of_mem_nodes hm) (hd.of_mem_nodes hn) hkey]

/-- **Writing by keys** sums up what is below every node of the tree. -/
theorem setSeverities_summed (hp : p.Sound) (hd : p.Has d) (hn : n ∈ d.nodes) :
    setSeverities d.summed.severities n = n.summed := by
  induction n using induct with
  | node f cs ih =>
    have hlast : lastOf f.key d.summed.severities = some (node f cs).summed.severity :=
      lastOf_severities hp hd hn
    have hcs : cs.map (setSeverities d.summed.severities) = cs.map summed :=
      List.map_congr_left fun c hc =>
        ih c hc (nodes_subset hn (mem_nodes_child hc c.self_mem_nodes))
    rw [setSeverities, mapFindings_node, hlast, Option.getD_some, ← setSeverities, hcs]
    exact (summed_eq (node f cs)).symm

theorem at?_setSeverities (writes : List (Nat × Int)) (d : Diagnostic) (is : List Nat) :
    (setSeverities writes d).at? is = (d.at? is).map (setSeverities writes) :=
  at?_map (children_mapFindings _) d is

theorem setSeverities_setSeverities (writes : List (Nat × Int)) (d : Diagnostic) :
    setSeverities writes (setSeverities writes d) = setSeverities writes d := by
  refine mapFindings_mapFindings (fun f => ?_) d
  cases lastOf f.key writes <;> rfl

theorem sum_sum (p : Pool) (d : Diagnostic) : (p.sum d).1.sum (p.sum d).2 = p.sum d := by
  simp only [Pool.sum, Pool.map, summed_summed, List.map_map, Function.comp_def, Option.map_map,
    setSeverities_setSeverities]

/-- **Summing up.** In a pool, the tree is summed up wherever it stands. It keeps its shape; its
leaves stay and its inner nodes get the flags of their problems, so a node is fine exactly if it has
no problems. A second summing up changes nothing. -/
theorem sum_summed (hp : p.Sound) (hd : p.Has d) (hnonneg : ∀ n ∈ d.nodes, 0 ≤ n.severity) :
    (∀ (i : Nat) (e : Diagnostic) is, p.entries[i]? = some (some e) → e.at? is = some d →
      ∃ e' : Diagnostic, (p.sum d).1.entries[i]? = some (some e') ∧ e'.at? is = some (p.sum d).2) ∧
    (∀ is, Option.Rel SumsUp (d.at? is) ((p.sum d).2.at? is)) ∧
    (p.sum d).1.sum (p.sum d).2 = p.sum d := by
  refine ⟨?_, ?_, sum_sum p d⟩
  · intro i e is he hat
    refine ⟨setSeverities d.summed.severities e, ?_, ?_⟩
    · simp [Pool.sum, Pool.map, he]
    · rw [at?_setSeverities, hat, Option.map_some]
      exact congrArg some (setSeverities_summed hp hd d.self_mem_nodes)
  · intro is
    show Option.Rel SumsUp (d.at? is) (d.summed.at? is)
    rw [at?_summed]
    cases hat : d.at? is with
    | none => exact .none
    | some n =>
      exact .some (sumsUp_summed fun m hm => hnonneg m (nodes_subset (mem_nodes_of_at? hat) hm))

/-- A tree with stale severities: a warning and a fine node below a node that tells of nothing, and
an error that is a leaf. -/
def staleTree : Diagnostic :=
  node { severity := 8 }
    [node {} [node { severity := 2 } [], node {} []], node { severity := 4 } []]

/-- The sum of a tree with stale severities shows in the pool that holds the tree. -/
theorem sum_summed_staleTree :
    let p : Pool := ({} : Pool).push (some staleTree)
    let d := (numbered 0 staleTree).1
    p.Sound ∧ p.Has d ∧ (∀ n ∈ d.nodes, 0 ≤ n.severity) ∧
      (∃ e' : Diagnostic, (p.sum d).1.entries[0]? = some (some e') ∧ e'.at? [] = some (p.sum d).2) ∧
      (∀ is, Option.Rel SumsUp (d.at? is) ((p.sum d).2.at? is)) ∧
      (p.sum d).1.sum (p.sum d).2 = p.sum d := by
  intro p d
  have hp : p.Sound := Pool.Built.sound (.push .empty _)
  have hd : p.Has d := ⟨d, List.mem_singleton_self _, d.self_mem_nodes⟩
  have hnonneg : ∀ n ∈ d.nodes, 0 ≤ n.severity := by decide
  obtain ⟨hplaces, hnodes, hagain⟩ := sum_summed hp hd hnonneg
  exact ⟨hp, hd, hnonneg, hplaces 0 d [] rfl rfl, hnodes, hagain⟩

end RemoteModel.Diagnostic
