import RemoteModel.Diagnostic.Merge
import Mathlib.Data.List.Nodup
import Mathlib.Tactic.SplitIfs

/-!
# Trees of findings

The nodes of a tree, its leaves and the severities that sum it up, each by what they are at the
children of a node.

**Main statement.** `severity_summed`: the severity that sums up a tree has the flags of its
problems. So a tree that is summed up has no problem exactly when its root is fine
(`leaves_eq_nil`).

A change of the findings goes through: to the nodes (`nodes_mapFindings`) and, if it leaves the
severities alone, to the leaves (`leaves_mapFindings`).
-/

namespace RemoteModel.Diagnostic

variable {d l m n : Diagnostic} {f : Finding} {cs ds : List Diagnostic} {g : Finding → Finding}

/-! ## Nodes -/

mutual

/-- The nodes of a tree, the root first. -/
def nodes : Diagnostic → List Diagnostic
  | node f cs => node f cs :: nodesOf cs

def nodesOf : List Diagnostic → List Diagnostic
  | [] => []
  | d :: rest => nodes d ++ nodesOf rest

end

theorem nodesOf_eq (ds : List Diagnostic) : nodesOf ds = ds.flatMap nodes := by
  induction ds with
  | nil => rfl
  | cons d rest ih => rw [nodesOf, ih, List.flatMap_cons]

theorem nodes_node (f : Finding) (cs : List Diagnostic) :
    (node f cs).nodes = node f cs :: cs.flatMap nodes := by
  rw [nodes, nodesOf_eq]

theorem self_mem_nodes (d : Diagnostic) : d ∈ d.nodes := by
  cases d
  exact List.mem_cons_self

theorem mem_nodes_child {c : Diagnostic} (hc : c ∈ cs) (hn : n ∈ c.nodes) :
    n ∈ (node f cs).nodes := by
  rw [nodes_node]
  exact List.mem_cons_of_mem _ (List.mem_flatMap.2 ⟨c, hc, hn⟩)

theorem nodes_subset (h : n ∈ d.nodes) : n.nodes ⊆ d.nodes := by
  induction d using induct with
  | node f cs ih =>
    rw [nodes_node, List.mem_cons, List.mem_flatMap] at h
    rcases h with rfl | ⟨c, hc, hn⟩
    · exact fun _ => id
    · exact fun m hm => mem_nodes_child hc (ih c hc hn hm)

/-! ## Places -/

/-- The node that is reached from the root by the positions of children. -/
def at? : Diagnostic → List Nat → Option Diagnostic
  | d, [] => some d
  | d, i :: is => d.children[i]?.bind fun c => at? c is

theorem at?_cons (d : Diagnostic) (i : Nat) (is : List Nat) :
    d.at? (i :: is) = d.children[i]?.bind fun c => c.at? is := rfl

theorem mem_nodes_of_at? {is : List Nat} (h : d.at? is = some n) : n ∈ d.nodes := by
  induction is generalizing d with
  | nil => exact Option.some.inj h ▸ d.self_mem_nodes
  | cons i is ih =>
    rw [at?_cons, Option.bind_eq_some_iff] at h
    obtain ⟨c, hc, hn⟩ := h
    obtain ⟨f, cs⟩ := d
    exact mem_nodes_child (List.mem_of_getElem? hc) (ih hn)

theorem exists_at?_of_mem_nodes (h : n ∈ d.nodes) : ∃ is, d.at? is = some n := by
  induction d using induct with
  | node f cs ih =>
    rw [nodes_node, List.mem_cons, List.mem_flatMap] at h
    rcases h with rfl | ⟨c, hc, hn⟩
    · exact ⟨[], rfl⟩
    · obtain ⟨is, his⟩ := ih c hc hn
      obtain ⟨i, hi⟩ := List.mem_iff_getElem?.1 hc
      refine ⟨i :: is, ?_⟩
      rw [at?_cons, children, hi]
      exact his

theorem nodup_keys_node : ((node f cs).nodes.map key).Nodup ↔
    f.key ∉ (cs.flatMap nodes).map key ∧ (∀ c ∈ cs, (c.nodes.map key).Nodup) ∧
      cs.Pairwise fun c c' => (c.nodes.map key).Disjoint (c'.nodes.map key) := by
  rw [nodes_node, List.map_cons, List.nodup_cons, List.map_flatMap, List.nodup_flatMap]
  rfl

theorem key_ne_of_at?_cons {i : Nat} {is : List Nat} (hd : (d.nodes.map key).Nodup)
    (hn : d.at? (i :: is) = some n) : d.key ≠ n.key := by
  obtain ⟨f, cs⟩ := d
  obtain ⟨c, hc, hn⟩ := Option.bind_eq_some_iff.1 hn
  have hmem : n ∈ cs.flatMap nodes :=
    List.mem_flatMap.2 ⟨c, List.mem_of_getElem? hc, mem_nodes_of_at? hn⟩
  intro hkey
  have hroot : f.key = n.key := hkey
  exact (nodup_keys_node.1 hd).1 (hroot ▸ List.mem_map_of_mem hmem)

/-- Where all keys differ, a key has one place. -/
theorem at?_inj {is js : List Nat} (hd : (d.nodes.map key).Nodup) (hn : d.at? is = some n)
    (hm : d.at? js = some m) (hkey : n.key = m.key) : is = js := by
  induction is generalizing d js with
  | nil =>
    cases js with
    | nil => rfl
    | cons j js =>
      cases Option.some.inj hn
      exact absurd hkey (key_ne_of_at?_cons hd hm)
  | cons i is ih =>
    cases js with
    | nil =>
      cases Option.some.inj hm
      exact absurd hkey.symm (key_ne_of_at?_cons hd hn)
    | cons j js =>
      obtain ⟨f, cs⟩ := d
      obtain ⟨-, hnodup, hdisjoint⟩ := nodup_keys_node.1 hd
      obtain ⟨c, hc, hn⟩ := Option.bind_eq_some_iff.1 hn
      obtain ⟨c', hc', hm⟩ := Option.bind_eq_some_iff.1 hm
      have hmem : n.key ∈ c.nodes.map key := List.mem_map_of_mem (mem_nodes_of_at? hn)
      have hmem' : n.key ∈ c'.nodes.map key := hkey ▸ List.mem_map_of_mem (mem_nodes_of_at? hm)
      have hij : i = j := by
        rw [List.pairwise_iff_getElem] at hdisjoint
        obtain ⟨hi, rfl⟩ := List.getElem?_eq_some_iff.1 hc
        obtain ⟨hj, rfl⟩ := List.getElem?_eq_some_iff.1 hc'
        rcases Nat.lt_trichotomy i j with hlt | heq | hlt
        · exact absurd hmem' (hdisjoint i j hi hj hlt hmem)
        · exact heq
        · exact absurd hmem (hdisjoint j i hj hi hlt hmem')
      subst hij
      cases Option.some.inj (hc.symm.trans hc')
      rw [ih (hnodup c (List.mem_of_getElem? hc)) hn hm]

/-- A change that goes down to the children keeps the shape of a tree. -/
theorem at?_map {g : Diagnostic → Diagnostic} (hg : ∀ d, (g d).children = d.children.map g)
    (d : Diagnostic) (is : List Nat) : (g d).at? is = (d.at? is).map g := by
  induction is generalizing d with
  | nil => rfl
  | cons i is ih =>
    rw [at?_cons, at?_cons, hg, List.getElem?_map]
    cases d.children[i]? with
    | none => rfl
    | some c => exact ih c

/-! ## Changes of findings -/

theorem mapFindingsOf_eq (g : Finding → Finding) (ds : List Diagnostic) :
    mapFindingsOf g ds = ds.map (mapFindings g) := by
  induction ds with
  | nil => rfl
  | cons d rest ih => rw [mapFindingsOf, ih, List.map_cons]

theorem mapFindings_node (g : Finding → Finding) (f : Finding) (cs : List Diagnostic) :
    mapFindings g (node f cs) = node (g f) (cs.map (mapFindings g)) := by
  rw [mapFindings, mapFindingsOf_eq]

theorem children_mapFindings (g : Finding → Finding) (d : Diagnostic) :
    (mapFindings g d).children = d.children.map (mapFindings g) := by
  cases d
  rw [mapFindings_node]
  rfl

theorem finding_mapFindings (g : Finding → Finding) (d : Diagnostic) :
    (mapFindings g d).finding = g d.finding := by
  cases d
  rfl

theorem mapFindings_eq_self (h : ∀ n ∈ d.nodes, g n.finding = n.finding) :
    mapFindings g d = d := by
  induction d using induct with
  | node f cs ih =>
    have hroot : g f = f := h _ (self_mem_nodes _)
    have hcs : ∀ c ∈ cs, mapFindings g c = c := fun c hc =>
      ih c hc fun n hn => h n (mem_nodes_child hc hn)
    rw [mapFindings_node, hroot, List.map_congr_left hcs, List.map_id']

theorem mapFindings_mapFindings (hg : ∀ f, g (g f) = g f) (d : Diagnostic) :
    mapFindings g (mapFindings g d) = mapFindings g d := by
  induction d using induct with
  | node f cs ih =>
    rw [mapFindings_node, mapFindings_node, hg, List.map_map]
    exact congrArg _ (List.map_congr_left ih)

theorem nodes_mapFindings (g : Finding → Finding) (d : Diagnostic) :
    (mapFindings g d).nodes = d.nodes.map (mapFindings g) := by
  induction d using induct with
  | node f cs ih =>
    rw [mapFindings_node, nodes_node, nodes_node, List.map_cons, mapFindings_node,
      List.flatMap_map, List.map_flatMap]
    exact congrArg _ (List.flatMap_congr ih)

/-! ## Leaves -/

theorem leavesOf_eq (ds : List Diagnostic) : leavesOf ds = ds.flatMap leaves := by
  induction ds with
  | nil => rfl
  | cons d rest ih => rw [leavesOf, ih, List.flatMap_cons]

theorem leaves_node (f : Finding) (h : cs ≠ []) : (node f cs).leaves = cs.flatMap leaves := by
  obtain ⟨c, cs, rfl⟩ := List.exists_cons_of_ne_nil h
  rw [leaves, leavesOf_eq, List.flatMap_cons]

/-- A leaf has no children, and it is not fine. -/
theorem exists_of_mem_leaves (h : l ∈ d.leaves) : ∃ f, l = node f [] ∧ 0 < f.severity := by
  induction d using induct with
  | node f cs ih =>
    by_cases hcs : cs = []
    · subst hcs
      rw [leaves] at h
      split_ifs at h with hf
      · exact ⟨f, List.mem_singleton.1 h, hf⟩
      · cases h
    · rw [leaves_node f hcs] at h
      obtain ⟨c, hc, hl⟩ := List.mem_flatMap.1 h
      exact ih c hc hl

theorem severities_pos (d : Diagnostic) : ∀ s ∈ d.leaves.map severity, 0 < s := by
  refine List.forall_mem_map.2 fun l hl => ?_
  obtain ⟨f, rfl, hf⟩ := exists_of_mem_leaves hl
  exact hf

theorem leaves_mapFindings (hg : ∀ f, (g f).severity = f.severity) (d : Diagnostic) :
    (mapFindings g d).leaves = d.leaves.map (mapFindings g) := by
  induction d using induct with
  | node f cs ih =>
    rw [mapFindings_node]
    by_cases hcs : cs = []
    · subst hcs
      rw [List.map_nil, leaves, leaves, hg]
      split_ifs <;> rfl
    · rw [leaves_node f hcs, leaves_node (g f) (by simpa using hcs), List.flatMap_map,
        List.map_flatMap]
      exact List.flatMap_congr ih

/-! ## Severities -/

theorem union_zero (a : Int) : union a 0 = a := by
  cases a with
  | ofNat a => exact congrArg Int.ofNat (Nat.or_zero a)
  | negSucc a =>
    show Int.negSucc (a - (a &&& 0)) = _
    rw [Nat.and_zero, Nat.sub_zero]

/-- All flags of some severities. -/
def flags (severities : List Int) : Int := severities.foldr union 0

theorem flags_nonneg {xs : List Int} (h : ∀ x ∈ xs, 0 ≤ x) : 0 ≤ flags xs := by
  induction xs with
  | nil => exact Int.le_refl 0
  | cons x rest ih =>
    obtain ⟨hx, hrest⟩ := List.forall_mem_cons.1 h
    obtain ⟨a, rfl⟩ := Int.eq_ofNat_of_zero_le hx
    obtain ⟨b, hb⟩ := Int.eq_ofNat_of_zero_le (ih hrest)
    show 0 ≤ union a (flags rest)
    rw [hb]
    exact Int.natCast_nonneg (a ||| b)

theorem flags_append {xs ys : List Int} (hxs : ∀ x ∈ xs, 0 ≤ x) (hys : ∀ y ∈ ys, 0 ≤ y) :
    flags (xs ++ ys) = union (flags xs) (flags ys) := by
  obtain ⟨c, hc⟩ := Int.eq_ofNat_of_zero_le (flags_nonneg hys)
  induction xs with
  | nil =>
    rw [List.nil_append, hc]
    exact congrArg Int.ofNat (Nat.zero_or c).symm
  | cons x rest ih =>
    obtain ⟨hx, hrest⟩ := List.forall_mem_cons.1 hxs
    obtain ⟨a, rfl⟩ := Int.eq_ofNat_of_zero_le hx
    obtain ⟨b, hb⟩ := Int.eq_ofNat_of_zero_le (flags_nonneg hrest)
    show union a (flags (rest ++ ys)) = union (union a (flags rest)) (flags ys)
    rw [ih hrest, hb, hc]
    exact congrArg Int.ofNat (Nat.or_assoc a b c).symm

theorem flags_flatMap {α : Type} {xs : List α} {g : α → List Int}
    (h : ∀ x ∈ xs, ∀ y ∈ g x, 0 ≤ y) :
    flags (xs.flatMap g) = flags (xs.map fun x => flags (g x)) := by
  induction xs with
  | nil => rfl
  | cons x rest ih =>
    obtain ⟨hx, hrest⟩ := List.forall_mem_cons.1 h
    have hbehind : ∀ y ∈ rest.flatMap g, 0 ≤ y := fun y hy =>
      let ⟨z, hz, hy⟩ := List.mem_flatMap.1 hy
      hrest z hz y hy
    rw [List.flatMap_cons, flags_append hx hbehind, ih hrest]
    rfl

/-- Severities with flags have flags together. -/
theorem eq_nil_of_flags {xs : List Int} (h : ∀ x ∈ xs, 0 < x) (hflags : flags xs = 0) :
    xs = [] := by
  cases xs with
  | nil => rfl
  | cons x rest =>
    obtain ⟨hx, hrest⟩ := List.forall_mem_cons.1 h
    obtain ⟨a, rfl⟩ := Int.eq_ofNat_of_zero_le (Int.le_of_lt hx)
    obtain ⟨b, hb⟩ := Int.eq_ofNat_of_zero_le
      (flags_nonneg fun y hy => Int.le_of_lt (hrest y hy))
    have hor : ((a ||| b : Nat) : Int) = 0 := by
      rw [← hflags, flags, List.foldr_cons, ← flags, hb]
      rfl
    have hzero : a = 0 := (Nat.or_eq_zero_iff.1 (Int.natCast_eq_zero.1 hor)).1
    exact absurd hx (by simp [hzero])

theorem summedAll_eq (ds : List Diagnostic) : summedAll ds = ds.map summed := by
  induction ds with
  | nil => rfl
  | cons d rest ih => rw [summedAll, ih, List.map_cons]

theorem summedSeverity_eq (ds : List Diagnostic) :
    summedSeverity ds = flags (ds.map fun d => d.summed.severity) := by
  induction ds with
  | nil => rw [summedSeverity]; rfl
  | cons d rest ih =>
    obtain ⟨f, cs⟩ := d
    rw [List.map_cons, flags, List.foldr_cons, ← flags, ← ih]
    cases cs <;> rw [summedSeverity] <;> rfl

theorem summed_node (f : Finding) (h : cs ≠ []) :
    (node f cs).summed =
      node { f with severity := flags (cs.map fun c => c.summed.severity) } (cs.map summed) := by
  obtain ⟨c, cs, rfl⟩ := List.exists_cons_of_ne_nil h
  rw [summed, summedAll_eq, summedSeverity_eq]
  rfl

theorem summed_summed (d : Diagnostic) : d.summed.summed = d.summed := by
  induction d using induct with
  | node f cs ih =>
    by_cases hcs : cs = []
    · subst hcs
      rfl
    · rw [summed_node f hcs, summed_node _ (by simpa using hcs), List.map_map, List.map_map]
      have hsummed : cs.map (summed ∘ summed) = cs.map summed := List.map_congr_left ih
      have hseverity : cs.map ((fun c => c.summed.severity) ∘ summed) =
          cs.map fun c => c.summed.severity :=
        List.map_congr_left fun c hc => congrArg severity (ih c hc)
      rw [hsummed, hseverity]

/-- The severities of a tree are summed up: it is what the summing of a tree has left. -/
def IsSummed (d : Diagnostic) : Prop := ∃ e : Diagnostic, e.summed = d

theorem isSummed_iff : d.IsSummed ↔ d.summed = d := by
  constructor
  · rintro ⟨e, rfl⟩
    exact summed_summed e
  · intro h
    exact ⟨d, h⟩

/-- **The severity that sums up a tree** has the flags of its problems. -/
theorem severity_summed (h : ∀ n ∈ d.nodes, 0 ≤ n.severity) :
    d.summed.severity = flags (d.leaves.map severity) := by
  induction d using induct with
  | node f cs ih =>
    by_cases hcs : cs = []
    · subst hcs
      have hf : 0 ≤ f.severity := h _ (self_mem_nodes _)
      show f.severity = _
      rw [leaves]
      split_ifs with hpos
      · exact (union_zero f.severity).symm
      · exact Int.le_antisymm (Int.not_lt.1 hpos) hf
    · have hchild : ∀ c ∈ cs, ∀ n ∈ c.nodes, 0 ≤ n.severity := fun c hc n hn =>
        h n (mem_nodes_child hc hn)
      rw [summed_node f hcs, leaves_node f hcs, List.map_flatMap,
        flags_flatMap fun c _ s hs => Int.le_of_lt (c.severities_pos s hs)]
      exact congrArg flags (List.map_congr_left fun c hc => ih c hc (hchild c hc))

theorem leaves_eq_nil (hnonneg : ∀ n ∈ d.nodes, 0 ≤ n.severity) (hsummed : d.IsSummed)
    (hfine : ¬ 0 < d.severity) : d.leaves = [] := by
  have hseverity : flags (d.leaves.map severity) = 0 := by
    rw [← severity_summed hnonneg, isSummed_iff.1 hsummed]
    exact Int.le_antisymm (Int.not_lt.1 hfine) (hnonneg d d.self_mem_nodes)
  exact List.map_eq_nil_iff.1 (eq_nil_of_flags d.severities_pos hseverity)

end RemoteModel.Diagnostic
