import Mathlib.Data.List.ReduceOption
import RemoteModel.Proofs.Diagnostic.Pools

/-!
# Merging loses no problem

Merging drops the diagnostics that are fine by their roots alone, and it changes the nodes of the
others where they stand.

**Main statement.** `merge_leaves`: if the severities of the diagnostics are summed up, then the
problems of the merged one are the problems of the given ones in order, the same nodes as before,
and nothing but their identifiers has changed.

* *In one tree*, merging changes identifiers only, and it puts at most a root above
  (`leaves_merge`, `nodes_merge`).
* *In a pool*, the trees go on to agree on the nodes that they share (`Sound.merge`), so the key of a
  problem tells which node it is. Every pool that is built in steps is sound (`Built.sound`).
-/

namespace RemoteModel.Diagnostic

variable {d l n q : Diagnostic} {ds : List (Option Diagnostic)} {writes : List (Nat × String)}
  {k : Nat}

/-! ## Problems -/

theorem mem_problems : q ∈ problems ds ↔ some q ∈ ds ∧ 0 < q.severity := by
  simp [problems, List.mem_filterMap, Option.filter_eq_some_iff]

/-- Nothing is lost with the diagnostics that are fine. -/
theorem leaves_problems (h : ∀ d, some d ∈ ds → ¬ 0 < d.severity → d.leaves = []) :
    (problems ds).flatMap leaves = ds.reduceOption.flatMap leaves := by
  induction ds with
  | nil => rfl
  | cons o rest ih =>
    have hrest := ih fun d hd => h d (List.mem_cons_of_mem _ hd)
    cases o with
    | none => exact hrest
    | some d =>
      by_cases hd : 0 < d.severity
      · have hcons : problems (some d :: rest) = d :: problems rest := by
          simp [problems, Option.filter, hd]
        rw [hcons, List.reduceOption_cons_of_some, List.flatMap_cons, List.flatMap_cons, hrest]
      · have hcons : problems (some d :: rest) = problems rest := by
          simp [problems, Option.filter, hd]
        rw [hcons, List.reduceOption_cons_of_some, List.flatMap_cons, hrest,
          h d List.mem_cons_self hd, List.nil_append]

/-- The same node as before, which says the same, under whatever identifier. -/
structure SameProblem (l l' : Diagnostic) : Prop where
  finding : l'.finding = { l.finding with id := l'.finding.id }
  children : l'.children = l.children

theorem sameProblem_setIds (h : l ∈ d.leaves) : SameProblem l (setIds writes l) := by
  obtain ⟨f, rfl, -⟩ := exists_of_mem_leaves h
  exact ⟨rfl, rfl⟩

/-! ## The merged tree -/

theorem setIds_nil (d : Diagnostic) : setIds [] d = d := mapFindings_eq_self fun _ _ => rfl

theorem leaves_setIds (writes : List (Nat × String)) (d : Diagnostic) :
    (setIds writes d).leaves = d.leaves.map (setIds writes) :=
  leaves_mapFindings (fun f => by rfl) d

theorem leaves_merge (k : Nat) (ds : List (Option Diagnostic)) :
    (merge k ds).1.leaves = ((problems ds).flatMap leaves).map (setIds (merge k ds).2) := by
  rcases hproblems : problems ds with _ | ⟨p, _ | ⟨q, rest⟩⟩
  · simp only [merge, hproblems]
    rfl
  · simp only [merge, hproblems, List.flatMap_cons, List.flatMap_nil, List.append_nil]
    rw [List.map_congr_left fun l _ => setIds_nil l, List.map_id']
  · simp only [merge, hproblems]
    rw [leaves_setIds, root, leaves_node _ (List.cons_ne_nil _ _)]

/-- The nodes of the merged tree are those of the problems and perhaps a new root. -/
theorem nodes_merge (hn : n ∈ (merge k ds).1.nodes) :
    (n = (merge k ds).1 ∧ (merge k ds).1.key = k) ∨
      ∃ q ∈ problems ds, ∃ m ∈ q.nodes, setIds (merge k ds).2 m = n := by
  rcases hproblems : problems ds with _ | ⟨p, _ | ⟨q, rest⟩⟩
  · simp only [merge, hproblems] at hn ⊢
    exact .inl ⟨List.mem_singleton.1 hn, rfl⟩
  · simp only [merge, hproblems] at hn ⊢
    exact .inr ⟨p, List.mem_cons_self, n, hn, setIds_nil n⟩
  · simp only [merge, hproblems] at hn ⊢
    rw [setIds, nodes_mapFindings, root, nodes_node, List.map_cons, List.mem_cons] at hn
    rcases hn with rfl | hn
    · exact .inl ⟨rfl, rfl⟩
    · obtain ⟨m, hm, hmn⟩ := List.mem_map.1 hn
      obtain ⟨o, ho, hmo⟩ := List.mem_flatMap.1 hm
      exact .inr ⟨o, ho, m, hmo, hmn⟩

/-! ## The worst -/

theorem worstFrom_mem (best : Diagnostic) (rest : List Diagnostic) :
    worstFrom best rest ∈ best :: rest := by
  induction rest generalizing best with
  | nil => exact List.mem_cons_self
  | cons d rest ih =>
    rw [worstFrom]
    have hbest : (if d.severity > best.severity then d else best) ∈ best :: d :: rest := by
      split_ifs <;> simp
    by_cases hd : d.severity = cancel
    · rw [if_pos hd]
      exact hbest
    · rw [if_neg hd]
      rcases List.mem_cons.1 (ih _) with heq | hmem
      · exact heq ▸ hbest
      · exact List.mem_cons_of_mem _ (List.mem_cons_of_mem _ hmem)

theorem worstFrom_self_mem (d : Diagnostic) (rest : List Diagnostic) :
    worstFrom d (d :: rest) ∈ d :: rest := by
  simpa using worstFrom_mem d (d :: rest)

theorem mem_of_candidates {cs : List Diagnostic} (h : candidates? ds = some cs) (hd : d ∈ cs) :
    some d ∈ ds := by
  induction ds generalizing cs with
  | nil =>
    cases h
    cases hd
  | cons o rest ih =>
    cases o with
    | none => cases h
    | some e =>
      rw [candidates?] at h
      split_ifs at h with he
      · cases h
        rw [List.mem_singleton.1 hd]
        exact List.mem_cons_self
      · obtain ⟨cs', hcs', rfl⟩ := Option.map_eq_some_iff.1 h
        rcases List.mem_cons.1 hd with rfl | hd
        · exact List.mem_cons_self
        · exact List.mem_cons_of_mem _ (ih hcs' hd)

/-! ## Pools that are built -/

namespace Pool

variable {p : Pool}

theorem fits_merge (hds : ∀ d, some d ∈ ds → p.Has d) :
    (p.map (setIds (Diagnostic.merge p.next ds).2)).Fits (Diagnostic.merge p.next ds).1 := by
  intro n hn
  rcases nodes_merge hn with hnew | ⟨q, hq, m, hm, hmn⟩
  · exact .inr hnew
  · exact .inl (has_map.2 ⟨m, (hds q (mem_problems.1 hq).1).of_mem_nodes hm, hmn⟩)

theorem Sound.merge (h : p.Sound) (hds : ∀ d, some d ∈ ds → p.Has d) : (p.merge ds).1.Sound :=
  (h.setIds _).place (fits_merge hds)

theorem Sound.worst (h : p.Sound) (hds : ∀ d, some d ∈ ds → p.Has d) {r : Pool × Nat}
    (hworst : p.worst ds = .ok r) : r.1.Sound := by
  cases hcs : candidates? ds with
  | none => simp [Pool.worst, hcs] at hworst
  | some cs =>
    simp only [Pool.worst, hcs, Except.ok.injEq] at hworst
    subst hworst
    refine h.place ?_
    cases cs with
    | nil => exact fun n hn => .inr ⟨List.mem_singleton.1 hn, rfl⟩
    | cons d rest => exact (hds _ (mem_of_candidates hcs (worstFrom_self_mem d rest))).fits

/-- A pool that is built in steps: diagnostics with new nodes are put into it, and its diagnostics
are merged, summed up and compared. -/
inductive Built : Pool → Prop
  | empty : Built {}
  | push {p : Pool} (h : Built p) (d : Option Diagnostic) : Built (p.push d)
  | merge {p : Pool} {ds : List (Option Diagnostic)} (h : Built p)
      (hds : ∀ d, some d ∈ ds → p.Has d) : Built (p.merge ds).1
  | sum {p : Pool} (h : Built p) (d : Diagnostic) : Built (p.sum d).1
  | worst {p : Pool} {ds : List (Option Diagnostic)} {r : Pool × Nat} (h : Built p)
      (hds : ∀ d, some d ∈ ds → p.Has d) (hworst : p.worst ds = .ok r) : Built r.1

/-- **Every pool that is built is sound.** -/
theorem Built.sound (h : Built p) : p.Sound := by
  induction h with
  | empty =>
    have hnone : ∀ n, ¬ Has {} n := fun n ⟨_, hd, _⟩ => nomatch hd
    exact ⟨fun n hn => absurd hn (hnone n), fun m _ hm _ => absurd hm (hnone m)⟩
  | push _ d ih => exact ih.push d
  | merge _ hds ih => exact ih.merge hds
  | sum _ d ih => exact ih.sum d
  | worst _ hds hworst ih => exact ih.worst hds hworst

end Pool

/-! ## Merging loses nothing -/

/-- **Merging loses no problem.** The given diagnostics are trees of a pool, which may share nodes,
or empty places; their severities are not negative, and they are summed up. The result stands at its
position, and its problems are the given ones in order, item by item the same nodes with other
identifiers at most. The pool stays sound, so that a key goes on to name one node. -/
theorem merge_leaves {p : Pool} {ds : List (Option Diagnostic)} (hp : p.Sound)
    (hds : ∀ d, some d ∈ ds → p.Has d)
    (hnonneg : ∀ d, some d ∈ ds → ∀ n ∈ d.nodes, 0 ≤ n.severity)
    (hsummed : ∀ d, some d ∈ ds → d.IsSummed) :
    ∃ merged, (p.merge ds).1.entries[(p.merge ds).2]? = some (some merged) ∧
      List.Forall₂ SameProblem (ds.reduceOption.flatMap leaves) merged.leaves ∧
      (p.merge ds).1.Sound := by
  refine ⟨(merge p.next ds).1, Pool.entries_place (hp.setIds _) (Pool.fits_merge hds), ?_,
    hp.merge hds⟩
  have hfine : ∀ d, some d ∈ ds → ¬ 0 < d.severity → d.leaves = [] := fun d hd =>
    leaves_eq_nil (hnonneg d hd) (hsummed d hd)
  rw [leaves_merge, leaves_problems hfine]
  refine List.forall₂_map_right_iff.2 (List.forall₂_same.2 fun l hl => ?_)
  obtain ⟨d, -, hl⟩ := List.mem_flatMap.1 hl
  exact sameProblem_setIds hl

/-- A warning and an error, the latter below a node of its own beside a fine one. -/
def nestedProblems : Diagnostic :=
  node { severity := 6 } [node { severity := 2, message := "unused" } [],
    node { severity := 4 } [node { severity := 4, message := "missing" } [], node {} []]]

/-- Two diagnostics with problems, an empty place between them, and one that is fine. -/
def reported : Pool :=
  (((({} : Pool).push (some nestedProblems)).push none).push
    (some (node { severity := 1, message := "renamed" } []))).push (some (node {} [node {} []]))

theorem merge_leaves_reported :
    reported.Sound ∧
      (∀ d, some d ∈ reported.entries →
        (∀ n ∈ d.nodes, 0 ≤ n.severity) ∧ d.IsSummed) ∧
      ∃ merged, (reported.merge reported.entries).1.entries[
          (reported.merge reported.entries).2]? = some (some merged) ∧
        List.Forall₂ SameProblem (reported.entries.reduceOption.flatMap leaves) merged.leaves ∧
        (reported.merge reported.entries).1.Sound := by
  have hsound : reported.Sound := Pool.Built.sound (.push (.push (.push (.push .empty _) _) _) _)
  have hgiven : ∀ d ∈ reported.entries.reduceOption,
      (∀ n ∈ d.nodes, 0 ≤ n.severity) ∧ d.IsSummed := by
    simp only [isSummed_iff]
    refine List.forall_mem_cons.2 ⟨⟨by decide, ?_⟩, List.forall_mem_cons.2 ⟨⟨by decide, rfl⟩,
      List.forall_mem_cons.2 ⟨⟨by decide, ?_⟩, fun _ hd => nomatch hd⟩⟩⟩
    all_goals simp [summed, summedAll, summedSeverity, union]
  have hds : ∀ d, some d ∈ reported.entries →
      (∀ n ∈ d.nodes, 0 ≤ n.severity) ∧ d.IsSummed := fun d hd =>
    hgiven d (List.reduceOption_mem_iff.2 hd)
  exact ⟨hsound, hds, merge_leaves hsound (fun d hd => ⟨d, hd, d.self_mem_nodes⟩)
    (fun d hd => (hds d hd).1) fun d hd => (hds d hd).2⟩

end RemoteModel.Diagnostic
