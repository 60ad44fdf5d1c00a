import Mathlib.Data.List.Nodup
import Mathlib.Data.List.Range
import RemoteModel.Proofs.Diagnostic.Trees

/-!
# Pools of diagnostics

A pool stands for the trees that share nodes, so its trees must agree on what they share: nodes with
one key are the same (`Pool.Sound`). The keys from some number on are not in use yet.

**Steps.** A change of findings (`Sound.map`), new trees (`Sound.push`) and the placing of a tree
whose nodes are in the pool, except perhaps for a root with the next key (`Sound.place`), keep a pool
sound. A tree that is placed is found at its position (`entries_place`).
-/

namespace RemoteModel.Diagnostic

/-! ## New keys -/

theorem keys_numberedAll {ds : List Diagnostic} (next : Nat)
    (h : ∀ d ∈ ds, ∀ next, (numbered next d).1.nodes.map key = List.range' next d.nodes.length ∧
      (numbered next d).2 = next + d.nodes.length) :
    ((numberedAll next ds).1.flatMap nodes).map key = List.range' next (ds.flatMap nodes).length ∧
      (numberedAll next ds).2 = next + (ds.flatMap nodes).length := by
  induction ds generalizing next with
  | nil => exact ⟨rfl, rfl⟩
  | cons d rest ih =>
    obtain ⟨hd, hrest⟩ := List.forall_mem_cons.1 h
    obtain ⟨hkeys, hafter⟩ := hd next
    obtain ⟨hkeys', hafter'⟩ := ih (next + d.nodes.length) hrest
    rw [← hafter] at hkeys' hafter'
    simp only [numberedAll, List.flatMap_cons, List.map_append, List.length_append]
    rw [hkeys, hkeys', hafter', hafter, List.range'_append_1, Nat.add_assoc]
    exact ⟨rfl, rfl⟩

theorem keys_numbered (d : Diagnostic) (next : Nat) :
    (numbered next d).1.nodes.map key = List.range' next d.nodes.length ∧
      (numbered next d).2 = next + d.nodes.length := by
  induction d using induct generalizing next with
  | node f cs ih =>
    obtain ⟨hkeys, hafter⟩ := keys_numberedAll (next + 1) ih
    simp only [numbered, nodes_node, List.map_cons, List.length_cons]
    rw [hkeys, hafter, List.range'_succ]
    exact ⟨rfl, by omega⟩

namespace Pool

variable {p : Pool} {d m n : Diagnostic} {g : Finding → Finding}

/-- A node of a tree of the pool. -/
def Has (p : Pool) (n : Diagnostic) : Prop := ∃ d, some d ∈ p.entries ∧ n ∈ d.nodes

/-- The trees of a pool agree on the nodes that they share, and new keys are free. -/
structure Sound (p : Pool) : Prop where
  fresh : ∀ n, p.Has n → n.key < p.next
  same : ∀ m n, p.Has m → p.Has n → m.key = n.key → m = n

/-- A tree of nodes of the pool, under a new root perhaps. -/
def Fits (p : Pool) (d : Diagnostic) : Prop :=
  ∀ n ∈ d.nodes, p.Has n ∨ n = d ∧ d.key = p.next

theorem Has.of_mem_nodes (h : p.Has d) (hn : n ∈ d.nodes) : p.Has n := by
  obtain ⟨e, he, hd⟩ := h
  exact ⟨e, he, nodes_subset hd hn⟩

theorem Has.fits (h : p.Has d) : p.Fits d := fun _ hn => .inl (h.of_mem_nodes hn)

/-! ## Changes -/

theorem has_map : (p.map (mapFindings g)).Has n ↔ ∃ m, p.Has m ∧ mapFindings g m = n := by
  constructor
  · rintro ⟨d, hd, hn⟩
    obtain ⟨o, ho, hod⟩ := List.mem_map.1 hd
    obtain ⟨e, rfl, rfl⟩ := Option.map_eq_some_iff.1 hod
    rw [nodes_mapFindings] at hn
    obtain ⟨m, hm, hmn⟩ := List.mem_map.1 hn
    exact ⟨m, ⟨e, ho, hm⟩, hmn⟩
  · rintro ⟨m, ⟨d, hd, hm⟩, rfl⟩
    refine ⟨mapFindings g d, List.mem_map.2 ⟨some d, hd, rfl⟩, ?_⟩
    rw [nodes_mapFindings]
    exact List.mem_map_of_mem hm

/-- A change that keeps the keys shows alike wherever a node stands. -/
theorem Sound.map (h : p.Sound) (hg : ∀ f, (g f).key = f.key) :
    (p.map (mapFindings g)).Sound := by
  have hkey : ∀ m, (mapFindings g m).key = m.key := fun m => by
    rw [key, finding_mapFindings, hg]
    rfl
  constructor
  · intro n hn
    obtain ⟨m, hm, rfl⟩ := has_map.1 hn
    rw [hkey]
    exact h.fresh m hm
  · intro n n' hn hn' heq
    obtain ⟨m, hm, rfl⟩ := has_map.1 hn
    obtain ⟨m', hm', rfl⟩ := has_map.1 hn'
    rw [hkey, hkey] at heq
    rw [h.same m m' hm hm' heq]

theorem Sound.setIds (h : p.Sound) (writes : List (Nat × String)) :
    (p.map (setIds writes)).Sound :=
  h.map fun _ => rfl

theorem Sound.sum (h : p.Sound) (d : Diagnostic) : (p.sum d).1.Sound :=
  h.map fun _ => rfl

/-! ## New trees -/

theorem has_append {entries : List (Option Diagnostic)} {next next' : Nat}
    {o : Option Diagnostic} :
    Has ⟨entries ++ [o], next'⟩ n ↔ Has ⟨entries, next⟩ n ∨ ∃ d, o = some d ∧ n ∈ d.nodes := by
  constructor
  · rintro ⟨d, hd, hn⟩
    rcases List.mem_append.1 hd with hd | hd
    · exact .inl ⟨d, hd, hn⟩
    · exact .inr ⟨d, (List.mem_singleton.1 hd).symm, hn⟩
  · rintro (⟨d, hd, hn⟩ | ⟨d, rfl, hn⟩)
    · exact ⟨d, List.mem_append_left _ hd, hn⟩
    · exact ⟨d, List.mem_append_right _ List.mem_cons_self, hn⟩

theorem Sound.push (h : p.Sound) (d : Option Diagnostic) : (p.push d).Sound := by
  cases d with
  | none =>
    have hhas : ∀ n, (p.push none).Has n → p.Has n := fun n hn => by
      rcases has_append.1 hn with hn | ⟨d, hd, -⟩
      · exact hn
      · cases hd
    exact ⟨fun n hn => h.fresh n (hhas n hn), fun m n hm hn => h.same m n (hhas m hm) (hhas n hn)⟩
  | some d =>
    obtain ⟨hkeys, hafter⟩ := keys_numbered d p.next
    have hnew : ∀ n ∈ (numbered p.next d).1.nodes, p.next ≤ n.key ∧
        n.key < (numbered p.next d).2 := fun n hn => by
      have hmem : n.key ∈ List.range' p.next d.nodes.length := hkeys ▸ List.mem_map_of_mem hn
      rw [hafter]
      exact List.mem_range'_1.1 hmem
    have hnodup : ((numbered p.next d).1.nodes.map key).Nodup := hkeys ▸ List.nodup_range'
    have hcases : ∀ n, (p.push (some d)).Has n → p.Has n ∨ n ∈ (numbered p.next d).1.nodes := by
      intro n hn
      rcases has_append.1 hn with hn | ⟨e, he, hn⟩
      · exact .inl hn
      · exact .inr (Option.some.inj he ▸ hn)
    constructor
    · intro n hn
      show n.key < (numbered p.next d).2
      rcases hcases n hn with hn | hn
      · have hlt := h.fresh n hn
        omega
      · exact (hnew n hn).2
    · intro m n hm hn heq
      rcases hcases m hm with hm | hm <;> rcases hcases n hn with hn | hn
      · exact h.same m n hm hn heq
      · have hlt := h.fresh m hm
        have hge := (hnew n hn).1
        omega
      · have hlt := h.fresh n hn
        have hge := (hnew m hm).1
        omega
      · exact List.inj_on_of_nodup_map hnodup hm hn heq

/-! ## Placing a tree -/

/-- A tree that is in the pool already stands at its position, any other one behind the rest. -/
theorem place_cases (p : Pool) (d : Diagnostic) :
    (∃ i e, p.place d = (p, i) ∧ p.entries[i]? = some (some e) ∧ e.key = d.key) ∨
      p.place d = (⟨p.entries ++ [some d], max p.next (d.key + 1)⟩, p.entries.length) := by
  cases hindex : p.indexOf? d.key with
  | none => exact .inr (by simp only [place, hindex])
  | some i =>
    obtain ⟨hi, hkey, -⟩ := List.findIdx?_eq_some_iff_getElem.1 hindex
    obtain ⟨e, he, hed⟩ := Option.map_eq_some_iff.1 (beq_iff_eq.1 hkey)
    refine .inl ⟨i, e, by simp only [place, hindex], ?_, hed⟩
    rw [List.getElem?_eq_getElem hi, he]

theorem Sound.place (h : p.Sound) (hd : p.Fits d) : (p.place d).1.Sound := by
  rcases p.place_cases d with ⟨i, e, hplace, -, -⟩ | hplace
  · exact hplace ▸ h
  · rw [hplace]
    have hcases : ∀ n, Has ⟨p.entries ++ [some d], max p.next (d.key + 1)⟩ n →
        p.Has n ∨ n = d ∧ d.key = p.next := fun n hn => by
      rcases has_append.1 hn with hn | ⟨e, he, hn⟩
      · exact .inl hn
      · exact hd n (Option.some.inj he ▸ hn)
    constructor
    · intro n hn
      show n.key < max p.next (d.key + 1)
      rcases hcases n hn with hn | ⟨rfl, -⟩
      · have hlt := h.fresh n hn
        omega
      · omega
    · intro m n hm hn heq
      rcases hcases m hm with hm' | ⟨rfl, hnew⟩ <;> rcases hcases n hn with hn' | ⟨rfl, hnew'⟩
      · exact h.same m n hm' hn' heq
      · exact absurd (h.fresh m hm') (by omega)
      · exact absurd (h.fresh n hn') (by omega)
      · rfl

/-- **A tree that is placed is found** at its position. -/
theorem entries_place (h : p.Sound) (hd : p.Fits d) :
    (p.place d).1.entries[(p.place d).2]? = some (some d) := by
  rcases p.place_cases d with ⟨i, e, hplace, hget, hkey⟩ | hplace
  · have he : p.Has e := ⟨e, List.mem_of_getElem? hget, e.self_mem_nodes⟩
    rw [hplace]
    rcases hd d d.self_mem_nodes with hhas | ⟨-, hnew⟩
    · rw [← h.same e d he hhas hkey]
      exact hget
    · exact absurd (h.fresh e he) (by omega)
  · rw [hplace]
    exact List.getElem?_concat_length

end Pool

end RemoteModel.Diagnostic
