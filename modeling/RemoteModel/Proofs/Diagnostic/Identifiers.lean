import Mathlib.Data.List.Flatten
import RemoteModel.Proofs.Diagnostic.Summing
import RemoteModel.Proofs.Text.Numeral
import RemoteModel.Proofs.Text.Pieces

/-!
# Merging identifies nodes by their places

The root above several problems is a new node, and every node below it is given the identifier of
its place, where it stands.

**Main statement.** `merge_identified`: if no node is given twice, then the identifiers in the
merged tree tell the places of its nodes, and they differ. The problems are the children of its
root, and nothing else has changed in the pool.

* *The identifier of a place* tells the place (`placeId_injective`), since a written number does not
  hold a slash.
* *The identifiers that are written* are those of the places of a tree (`mem_ids`). Where all keys
  differ, the last one for a key is the only one (`id_setIds`).
* *A node that is not below a problem* has a key for which nothing is written
  (`setIds_eq_self`).
-/

namespace RemoteModel.Diagnostic

variable {d m n q : Diagnostic} {ds : List (Option Diagnostic)} {p : Pool}
  {writes : List (Nat × String)} {is : List Nat} {base : String} {k : Nat}

/-! ## Identifiers of places -/

/-- The text of a step down to a child. -/
def stepId (i : Nat) : String := "/@children." ++ toString i

/-- The identifier of a place: a slash for the root, and otherwise the steps down from it. -/
def placeId : List Nat → String
  | [] => "/"
  | i :: is => String.join ((i :: is).map stepId)

theorem pieces_steps (is : List Nat) :
    Text.pieces '/' (String.join (is.map stepId)).toList =
      [] :: is.map fun i => "@children.".toList ++ (toString i).toList := by
  have hsteps : (String.join (is.map stepId)).toList =
      [] ++ (is.map fun i => "@children.".toList ++ (toString i).toList).flatMap ('/' :: ·) := by
    rw [String.toList_join, List.flatMap_map, List.flatMap_map, List.nil_append]
    refine List.flatMap_congr fun i _ => ?_
    rw [stepId, String.toList_append]
    rfl
  rw [hsteps, Text.pieces_flatMap List.not_mem_nil]
  refine List.forall_mem_map.2 fun i _ => ?_
  rw [List.mem_append, not_or]
  exact ⟨by decide, Text.not_mem_toString (by decide) i⟩

/-- **The identifier of a place tells the place.** -/
theorem placeId_injective : Function.Injective placeId := by
  have hroot : ∀ i is, placeId (i :: is) ≠ "/" := by
    intro i is h
    have hpieces := pieces_steps (i :: is)
    rw [show String.join ((i :: is).map stepId) = "/" from h] at hpieces
    exact absurd (List.cons.inj (List.cons.inj hpieces).2).1 (List.cons_ne_nil _ _).symm
  have hstep : Function.Injective fun i : Nat => "@children.".toList ++ (toString i).toList :=
    fun i j h => Text.toString_injective (String.toList_inj.1 (List.append_cancel_left h))
  intro is js h
  cases is with
  | nil =>
    cases js with
    | nil => rfl
    | cons j js => exact absurd h.symm (hroot j js)
  | cons i is =>
    cases js with
    | nil => exact absurd h (hroot i is)
    | cons j js =>
      have hpieces := pieces_steps (i :: is)
      rw [show String.join ((i :: is).map stepId) = String.join ((j :: js).map stepId) from h,
        pieces_steps] at hpieces
      exact (List.map_injective_iff.2 hstep (List.cons.inj hpieces).2).symm

/-! ## Identifiers that are written -/

/-- The identifier that is written for a place, by the one for the root. -/
def idBelow (base : String) : List Nat → String
  | [] => base
  | i :: is => idBelow (childId base i) is

theorem childId_ne (base : String) (i : Nat) : childId base i ≠ "/" := by
  intro h
  have hmem : '@' ∈ (childId base i).toList := by simp [childId]
  exact absurd (h ▸ hmem) (by decide)

theorem idBelow_eq (hbase : base ≠ "/") (is : List Nat) :
    idBelow base is = base ++ String.join (is.map stepId) := by
  induction is generalizing base with
  | nil => exact String.append_empty.symm
  | cons i is ih =>
    rw [idBelow, ih (childId_ne base i), childId, if_neg hbase, List.map_cons, String.join_cons,
      stepId, String.append_assoc, String.append_assoc, String.append_assoc]

theorem idBelow_slash (is : List Nat) : idBelow "/" is = placeId is := by
  cases is with
  | nil => rfl
  | cons i is =>
    have hstep : childId "/" i = stepId i := by simp [childId, stepId]
    rw [idBelow, idBelow_eq (childId_ne "/" i), hstep, placeId, List.map_cons, String.join_cons]

theorem idsOf_eq (parent : String) (k : Nat) (cs : List Diagnostic) :
    idsOf parent k cs = (cs.zipIdx k).flatMap fun c => ids (childId parent c.2) c.1 := by
  induction cs generalizing k with
  | nil => rfl
  | cons c rest ih => rw [idsOf, ih, List.zipIdx_cons, List.flatMap_cons]

/-- What is written for a tree are the identifiers of its places. -/
theorem mem_ids {w : Nat × String} :
    w ∈ ids base d ↔ ∃ is n, d.at? is = some n ∧ (n.key, idBelow base is) = w := by
  induction d using induct generalizing base with
  | node f cs ih =>
    rw [ids, idsOf_eq, List.mem_cons, List.mem_flatMap]
    constructor
    · rintro (rfl | ⟨⟨c, i⟩, hc, hw⟩)
      · exact ⟨[], node f cs, rfl, rfl⟩
      · have hi : cs[i]? = some c := List.mk_mem_zipIdx_iff_getElem?.1 hc
        obtain ⟨is, n, hn, rfl⟩ := (ih c (List.mem_of_getElem? hi)).1 hw
        exact ⟨i :: is, n, Option.bind_eq_some_iff.2 ⟨c, hi, hn⟩, rfl⟩
    · rintro ⟨_ | ⟨i, is⟩, n, hn, rfl⟩
      · cases Option.some.inj hn
        exact .inl rfl
      · obtain ⟨c, hc, hn⟩ := Option.bind_eq_some_iff.1 hn
        exact .inr ⟨(c, i), List.mk_mem_zipIdx_iff_getElem?.2 hc,
          (ih c (List.mem_of_getElem? hc)).2 ⟨is, n, hn, rfl⟩⟩

theorem exists_of_mem_ids {id : String} (h : (k, id) ∈ ids base d) : ∃ n ∈ d.nodes, n.key = k := by
  obtain ⟨is, n, hn, hw⟩ := mem_ids.1 h
  exact ⟨n, mem_nodes_of_at? hn, congrArg Prod.fst hw⟩

/-! ## Writing them -/

theorem at?_setIds (writes : List (Nat × String)) (d : Diagnostic) (is : List Nat) :
    (setIds writes d).at? is = (d.at? is).map (setIds writes) :=
  at?_map (children_mapFindings _) d is

theorem key_setIds (writes : List (Nat × String)) (d : Diagnostic) :
    (setIds writes d).key = d.key := by
  rw [key, setIds, finding_mapFindings]
  rfl

/-- **Writing by keys** gives every node the identifier of its place, where all keys differ. -/
theorem id_setIds (hd : (d.nodes.map key).Nodup) (hn : d.at? is = some n) :
    (setIds (ids "/" d) n).finding.id = placeId is := by
  have hlast : lastOf n.key (ids "/" d) = some (placeId is) := by
    refine lastOf_eq_some (mem_ids.2 ⟨is, n, hn, by rw [idBelow_slash]⟩) fun id hid => ?_
    obtain ⟨js, m, hm, hw⟩ := mem_ids.1 hid
    obtain ⟨hkey, rfl⟩ := Prod.mk.inj hw
    rw [at?_inj hd hm hn hkey, idBelow_slash]
  rw [setIds, finding_mapFindings]
  show (lastOf n.key (ids "/" d)).getD n.finding.id = placeId is
  rw [hlast, Option.getD_some]

theorem finding_setIds (h : ∀ id, (n.key, id) ∉ writes) :
    (setIds writes n).finding = n.finding := by
  have hlast : lastOf n.key writes = none := by
    rw [lastOf, Option.map_eq_none_iff, List.find?_eq_none]
    intro w hw hkey
    exact h w.2 (of_decide_eq_true hkey ▸ List.mem_reverse.1 hw)
  rw [setIds, finding_mapFindings]
  show { n.finding with id := (lastOf n.key writes).getD n.finding.id } = n.finding
  rw [hlast, Option.getD_none]

theorem setIds_eq_self (h : ∀ n ∈ d.nodes, ∀ id, (n.key, id) ∉ writes) : setIds writes d = d := by
  refine mapFindings_eq_self fun n hn => ?_
  have hn := finding_setIds (h n hn)
  rwa [setIds, finding_mapFindings] at hn

/-! ## The merged tree -/

theorem problems_eq (ds : List (Option Diagnostic)) :
    problems ds = ds.reduceOption.filter fun d => d.severity > 0 := by
  rw [problems, List.reduceOption, List.filter_filterMap]
  rfl

theorem merge_of_two (k : Nat) (h : 2 ≤ (problems ds).length) :
    ∃ r, r.key = k ∧ r.children = problems ds ∧ merge k ds = (setIds (ids "/" r) r, ids "/" r) := by
  rcases hproblems : problems ds with _ | ⟨d, _ | ⟨q, rest⟩⟩
  · simp [hproblems] at h
  · simp [hproblems] at h
  · refine ⟨root k (worstFrom d (d :: q :: rest)) (d :: q :: rest), rfl, rfl, ?_⟩
    simp only [merge, hproblems]

theorem nodup_problems (h : ((ds.reduceOption.flatMap nodes).map key).Nodup) :
    (((problems ds).flatMap nodes).map key).Nodup := by
  rw [problems_eq]
  exact h.sublist ((List.filter_sublist.flatMap nodes).map key)

/-- A diagnostic that is dropped has no node in common with the problems. -/
theorem key_ne_of_dropped (h : ((ds.reduceOption.flatMap nodes).map key).Nodup)
    (hd : some d ∈ ds) (hfine : ¬ 0 < d.severity) (hn : n ∈ d.nodes) (hq : q ∈ problems ds)
    (hm : m ∈ q.nodes) : m.key ≠ n.key := by
  obtain ⟨hq, hproblem⟩ := mem_problems.1 hq
  have hne : q ≠ d := fun heq => hfine (heq ▸ hproblem)
  rw [List.map_flatMap, List.nodup_flatMap] at h
  have hsymm : Std.Symm (Function.onFun List.Disjoint fun d : Diagnostic => d.nodes.map key) :=
    ⟨fun _ _ => List.disjoint_symm⟩
  have hdisjoint := h.2.forall (List.reduceOption_mem_iff.2 hq) (List.reduceOption_mem_iff.2 hd) hne
  intro hkey
  exact hdisjoint (List.mem_map_of_mem hm) (hkey ▸ List.mem_map_of_mem hn)

/-- What becomes of a node: nothing but its identifier changes, and this only in the problems. -/
structure Reidentified (ds : List (Option Diagnostic)) (n n' : Diagnostic) : Prop where
  finding : n'.finding = { n.finding with id := n'.finding.id }
  children : n'.children.map key = n.children.map key
  apart : (∀ q ∈ problems ds, ∀ m ∈ q.nodes, m.key ≠ n.key) → n'.finding = n.finding
  dropped : ∀ d, some d ∈ ds → ¬ 0 < d.severity → n ∈ d.nodes → n' = n

/-- A tree that keeps its shape, and whose nodes stay what they are. -/
def SameTree (ds : List (Option Diagnostic)) (d d' : Diagnostic) : Prop :=
  ∀ is, Option.Rel (Reidentified ds) (d.at? is) (d'.at? is)

namespace Pool

theorem nodup_root {r : Diagnostic} (hp : p.Sound) (hr : r.key = p.next)
    (hcs : r.children = problems ds) (hhas : ∀ q ∈ problems ds, p.Has q)
    (hdistinct : ((ds.reduceOption.flatMap nodes).map key).Nodup) : (r.nodes.map key).Nodup := by
  obtain ⟨f, cs⟩ := r
  subst hcs
  rw [nodes_node, List.map_cons, List.nodup_cons]
  refine ⟨fun hmem => ?_, nodup_problems hdistinct⟩
  obtain ⟨m, hm, hkey⟩ := List.mem_map.1 hmem
  obtain ⟨q, hq, hm⟩ := List.mem_flatMap.1 hm
  have hlt := hp.fresh m ((hhas q hq).of_mem_nodes hm)
  omega

/-- For a node of the pool, an identifier is written only if it is below a problem. -/
theorem exists_of_written {r : Diagnostic} {id : String} (hp : p.Sound) (hr : r.key = p.next)
    (hcs : r.children = problems ds) (hn : p.Has n) (h : (n.key, id) ∈ ids "/" r) :
    ∃ q ∈ problems ds, ∃ m ∈ q.nodes, m.key = n.key := by
  obtain ⟨m, hm, hkey⟩ := exists_of_mem_ids h
  obtain ⟨f, cs⟩ := r
  rw [nodes_node, List.mem_cons, List.mem_flatMap] at hm
  rcases hm with rfl | ⟨q, hq, hm⟩
  · have hlt := hp.fresh n hn
    omega
  · exact ⟨q, hcs ▸ hq, m, hm, hkey⟩

/-- **Writing identifiers** leaves everything else of a node of the pool. -/
theorem reidentified_setIds {r : Diagnostic} (hp : p.Sound) (hr : r.key = p.next)
    (hcs : r.children = problems ds) (hdistinct : ((ds.reduceOption.flatMap nodes).map key).Nodup)
    (hn : p.Has n) : Reidentified ds n (setIds (ids "/" r) n) where
  finding := by
    rw [setIds, finding_mapFindings]
  children := by
    rw [setIds, children_mapFindings, List.map_map]
    exact List.map_congr_left fun c _ => key_setIds _ c
  apart := by
    intro hapart
    refine finding_setIds fun id hid => ?_
    obtain ⟨q, hq, m, hm, hkey⟩ := exists_of_written hp hr hcs hn hid
    exact hapart q hq m hm hkey
  dropped := by
    intro d hd hfine hnd
    refine setIds_eq_self fun m hm id hid => ?_
    obtain ⟨q, hq, l, hl, hkey⟩ := exists_of_written hp hr hcs (hn.of_mem_nodes hm) hid
    exact key_ne_of_dropped hdistinct hd hfine (nodes_subset hnd hm) hq hl hkey

theorem sameTree_setIds {r : Diagnostic} (hp : p.Sound) (hr : r.key = p.next)
    (hcs : r.children = problems ds) (hdistinct : ((ds.reduceOption.flatMap nodes).map key).Nodup)
    (hd : p.Has d) : SameTree ds d (setIds (ids "/" r) d) := by
  intro is
  rw [at?_setIds]
  cases hat : d.at? is with
  | none => exact .none
  | some n =>
    exact .some (reidentified_setIds hp hr hcs hdistinct (hd.of_mem_nodes (mem_nodes_of_at? hat)))

theorem place_new (h : p.Sound) (hd : d.key = p.next) :
    p.place d = (⟨p.entries ++ [some d], max p.next (d.key + 1)⟩, p.entries.length) := by
  rcases p.place_cases d with ⟨i, e, -, hget, hkey⟩ | hplace
  · have hlt := h.fresh e ⟨e, List.mem_of_getElem? hget, e.self_mem_nodes⟩
    omega
  · exact hplace

end Pool

/-- The identifiers of a tree whose keys differ are those of its places, and they differ. -/
theorem nodup_ids (hd : (d.nodes.map key).Nodup) :
    ((setIds (ids "/" d) d).nodes.map fun n => n.finding.id).Nodup := by
  rw [setIds, nodes_mapFindings, List.map_map]
  refine hd.of_map.map_on fun m hm n hn hid => ?_
  obtain ⟨is, hm⟩ := exists_at?_of_mem_nodes hm
  obtain ⟨js, hn⟩ := exists_at?_of_mem_nodes hn
  have hplaces : placeId is = placeId js := by
    rw [← id_setIds hd hm, ← id_setIds hd hn]
    exact hid
  rw [placeId_injective hplaces] at hm
  exact Option.some.inj (hm.symm.trans hn)

/-- **Merging several problems.** The given diagnostics are trees of a pool, or empty places, and no
node is given twice. The merged tree has a new root and stands behind the other trees. The
identifier of each of its nodes is that of its place, so all of them differ, and the children of its
root are the problems in order. Whatever stands in the pool stays what it is but for identifiers in
the problems; the pool stays sound, so that a key goes on to name one node. -/
theorem merge_identified (hp : p.Sound) (hds : ∀ d, some d ∈ ds → p.Has d)
    (hdistinct : ((ds.reduceOption.flatMap nodes).map key).Nodup)
    (htwo : 2 ≤ (problems ds).length) :
    ∃ entries merged, (p.merge ds).1.entries = entries ++ [some merged] ∧
      (p.merge ds).2 = p.entries.length ∧
      (∀ n, p.Has n → n.key ≠ merged.key) ∧
      (∀ is n, merged.at? is = some n → n.finding.id = placeId is) ∧
      (merged.nodes.map fun n => n.finding.id).Nodup ∧
      List.Forall₂ (SameTree ds) (problems ds) merged.children ∧
      List.Forall₂ (Option.Rel (SameTree ds)) p.entries entries ∧
      (p.merge ds).1.Sound := by
  obtain ⟨r, hr, hcs, hmerge⟩ := merge_of_two p.next htwo
  have hmerged : p.merge ds = (p.map (setIds (ids "/" r))).place (setIds (ids "/" r) r) := by
    simp only [Pool.merge, hmerge]
  have hkey : (setIds (ids "/" r) r).key = p.next := (key_setIds _ r).trans hr
  rw [Pool.place_new (hp.setIds _) hkey] at hmerged
  have hhas : ∀ q ∈ problems ds, p.Has q := fun q hq => hds q (mem_problems.1 hq).1
  have hdiffer : (r.nodes.map key).Nodup := Pool.nodup_root hp hr hcs hhas hdistinct
  refine ⟨p.entries.map (Option.map (setIds (ids "/" r))), setIds (ids "/" r) r, ?_, ?_, ?_, ?_,
    nodup_ids hdiffer, ?_, ?_, hp.merge hds⟩
  · rw [hmerged]
    rfl
  · rw [hmerged]
    exact List.length_map _
  · intro n hn
    rw [hkey]
    exact Nat.ne_of_lt (hp.fresh n hn)
  · intro is n hn
    rw [at?_setIds] at hn
    obtain ⟨m, hm, rfl⟩ := Option.map_eq_some_iff.1 hn
    exact id_setIds hdiffer hm
  · rw [setIds, children_mapFindings, hcs]
    exact List.forall₂_map_right_iff.2 (List.forall₂_same.2 fun q hq =>
      Pool.sameTree_setIds hp hr hcs hdistinct (hhas q hq))
  · refine List.forall₂_map_right_iff.2 (List.forall₂_same.2 fun o ho => ?_)
    cases o with
    | none => exact .none
    | some e =>
      exact .some (Pool.sameTree_setIds hp hr hcs hdistinct ⟨e, ho, e.self_mem_nodes⟩)

theorem merge_identified_reported :
    let ds := reported.entries
    let r := reported.merge ds
    reported.Sound ∧ (∀ d, some d ∈ ds → reported.Has d) ∧
      ((ds.reduceOption.flatMap nodes).map key).Nodup ∧ 2 ≤ (problems ds).length ∧
      ∃ entries merged, r.1.entries = entries ++ [some merged] ∧
        r.2 = reported.entries.length ∧
        (∀ n, reported.Has n → n.key ≠ merged.key) ∧
        (∀ is n, merged.at? is = some n → n.finding.id = placeId is) ∧
        (merged.nodes.map fun n => n.finding.id).Nodup ∧
        List.Forall₂ (SameTree ds) (problems ds) merged.children ∧
        List.Forall₂ (Option.Rel (SameTree ds)) reported.entries entries ∧
        r.1.Sound := by
  intro ds r
  have hsound : reported.Sound := Pool.Built.sound (.push (.push (.push (.push .empty _) _) _) _)
  have hds : ∀ d, some d ∈ ds → reported.Has d := fun d hd => ⟨d, hd, d.self_mem_nodes⟩
  have hdistinct : ((ds.reduceOption.flatMap nodes).map key).Nodup := by decide
  have htwo : 2 ≤ (problems ds).length := by decide
  exact ⟨hsound, hds, hdistinct, htwo, merge_identified hsound hds hdistinct htwo⟩

example : (((reported.merge reported.entries).1.entries[4]?.join.bind fun d => d.at? [0, 1, 0]).map
    fun n => n.finding.id) = some "/@children.0/@children.1/@children.0" := by decide

end RemoteModel.Diagnostic
