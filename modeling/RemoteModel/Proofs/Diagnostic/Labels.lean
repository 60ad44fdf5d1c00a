import Mathlib.Data.Set.List
import Mathlib.Order.Bounds.Basic
import RemoteModel.Proofs.Diagnostic.Merging

/-!
# The label of the worst

Labels rank the severities by their highest flag; the search for the worst diagnostic compares
severities as numbers, and it ends at the first one that is `CANCEL` and nothing else.

**Main statement.** `label_merge_worst`: what is merged, and what is found to be the worst, has the
highest label of all given diagnostics.

* *Numbers and flags.* Of two sets of flags the greater number has the higher label
  (`Label.ofSeverity_mono`).
* *The end of the search.* The candidate is at least as great as all that it was compared with, or
  it has the highest flag already, and then no label is above its own (`worstFrom_covers`).
-/

namespace RemoteModel.Diagnostic

variable {d best : Diagnostic} {rest : List Diagnostic} {ds : List (Option Diagnostic)} {s s' : Int}

/-! ## Ranks -/

namespace Label

/-- The place of a label among all labels, from the harmless ones on. -/
def rank : Label → Nat
  | ok => 0
  | info => 1
  | warning => 2
  | error => 3
  | cancel => 4

theorem rank_injective : Function.Injective rank := by
  intro a b h
  cases a <;> cases b <;> simp [rank] at h ⊢

instance : PartialOrder Label := PartialOrder.lift rank rank_injective

theorem ok_le (l : Label) : ok ≤ l := Nat.zero_le l.rank

theorem le_cancel (l : Label) : l ≤ cancel := by
  show l.rank ≤ 4
  cases l <;> decide

/-- A severity that is a set of the four flags. -/
def IsFlagged (severity : Int) : Prop := 0 ≤ severity ∧ severity < 16

theorem rank_ofSeverity_mono : ∀ s s' : Fin 16, s ≤ s' →
    rank (ofSeverity s.val) ≤ rank (ofSeverity s'.val) := by
  decide +kernel

/-- **Of two sets of flags the greater number has the higher label.** -/
theorem ofSeverity_mono (hs : 0 ≤ s) (h : s ≤ s') (hs' : IsFlagged s') :
    ofSeverity s ≤ ofSeverity s' := by
  obtain ⟨n, rfl⟩ := Int.eq_ofNat_of_zero_le hs
  obtain ⟨n', rfl⟩ := Int.eq_ofNat_of_zero_le hs'.1
  have hn' : n' < 16 := Int.ofNat_lt.1 hs'.2
  have hle : n ≤ n' := Int.ofNat_le.1 h
  exact rank_ofSeverity_mono ⟨n, hle.trans_lt hn'⟩ ⟨n', hn'⟩ hle

theorem ofSeverity_of_cancel_le (h : Diagnostic.cancel ≤ s) (hs : IsFlagged s) :
    ofSeverity s = cancel := by
  have hcancel : ofSeverity Diagnostic.cancel = cancel := by decide
  exact le_antisymm (le_cancel _) (hcancel ▸ ofSeverity_mono (by decide) h hs)

theorem ofSeverity_of_not_pos (hs : IsFlagged s) (h : ¬ 0 < s) : ofSeverity s = ok := by
  have hzero : s = 0 := le_antisymm (not_lt.1 h) hs.1
  subst hzero
  decide

end Label

open Label (IsFlagged)

/-! ## The search -/

/-- What the search has found is at least as great as all diagnostics, unless it has ended early. -/
theorem worstFrom_covers (best : Diagnostic) (rest : List Diagnostic) :
    cancel ≤ (worstFrom best rest).severity ∨
      ∀ d ∈ best :: rest, d.severity ≤ (worstFrom best rest).severity := by
  induction rest generalizing best with
  | nil => exact .inr (List.forall_mem_singleton.2 (Int.le_refl _))
  | cons d rest ih =>
    -- The new candidate covers the old one and the diagnostic that it is compared with.
    obtain ⟨next, hnext, hbest, hd⟩ : ∃ next : Diagnostic,
        (if d.severity > best.severity then d else best) = next ∧
          best.severity ≤ next.severity ∧ d.severity ≤ next.severity := by
      refine ⟨_, rfl, ?_⟩
      split_ifs with h
      · exact ⟨Int.le_of_lt h, Int.le_refl _⟩
      · exact ⟨Int.le_refl _, Int.not_lt.1 h⟩
    simp only [worstFrom, hnext]
    by_cases hcancel : d.severity = cancel
    · rw [if_pos hcancel]
      exact .inl (hcancel ▸ hd)
    · rw [if_neg hcancel]
      refine (ih next).imp_right fun hcovers => ?_
      obtain ⟨hnext, hrest⟩ := List.forall_mem_cons.1 hcovers
      exact List.forall_mem_cons.2 ⟨hbest.trans hnext, List.forall_mem_cons.2
        ⟨hd.trans hnext, hrest⟩⟩

/-- **What the search has found has the highest label**, even where it has ended early. -/
theorem label_le_worstFrom (hflags : ∀ d ∈ best :: rest, IsFlagged d.severity)
    (hd : d ∈ best :: rest) : d.label ≤ (worstFrom best rest).label := by
  have hworst := hflags _ (worstFrom_mem best rest)
  rcases worstFrom_covers best rest with hcancel | hcovers
  · have htop : (worstFrom best rest).label = .cancel :=
      Label.ofSeverity_of_cancel_le hcancel hworst
    rw [htop]
    exact Label.le_cancel _
  · exact Label.ofSeverity_mono (hflags d hd).1 (hcovers d hd) hworst

/-- The search looks at the diagnostics up to its end. -/
theorem worstFrom_candidates {cs xs : List Diagnostic} (h : candidates? (xs.map some) = some cs)
    (best : Diagnostic) : worstFrom best cs = worstFrom best xs := by
  induction xs generalizing cs best with
  | nil =>
    cases h
    rfl
  | cons d xs ih =>
    rw [List.map_cons, candidates?] at h
    split_ifs at h with hd
    · cases h
      simp only [worstFrom, hd, if_true]
    · obtain ⟨cs', hcs', rfl⟩ := Option.map_eq_some_iff.1 h
      simp only [worstFrom, hd, if_false]
      exact ih hcs' _

theorem exists_candidates (xs : List Diagnostic) : ∃ cs, candidates? (xs.map some) = some cs := by
  induction xs with
  | nil => exact ⟨[], rfl⟩
  | cons d xs ih =>
    obtain ⟨cs, hcs⟩ := ih
    rw [List.map_cons, candidates?, hcs]
    split_ifs
    · exact ⟨[d], rfl⟩
    · exact ⟨d :: cs, rfl⟩

theorem worst?_candidates {cs : List Diagnostic}
    (h : candidates? ((d :: rest).map some) = some cs) :
    worst? cs = some (worstFrom d (d :: rest)) := by
  rw [← worstFrom_candidates h]
  rw [List.map_cons, candidates?] at h
  split_ifs at h with hd
  · cases h
    rfl
  · obtain ⟨cs', -, rfl⟩ := Option.map_eq_some_iff.1 h
    rfl

/-! ## The highest label -/

/-- The labels of some diagnostics, and that of a fine one. -/
def labels (ds : List (Option Diagnostic)) : Set Label :=
  {l | l = .ok ∨ ∃ d, some d ∈ ds ∧ d.label = l}

theorem isGreatest_worstFrom (hflags : ∀ d ∈ best :: rest, IsFlagged d.severity) :
    IsGreatest (labels ((best :: rest).map some)) (worstFrom best (best :: rest)).label := by
  refine ⟨.inr ⟨_, List.mem_map_of_mem (worstFrom_self_mem best rest), rfl⟩, ?_⟩
  rintro l (rfl | ⟨d, hd, rfl⟩)
  · exact Label.ok_le _
  · have hd' : d ∈ best :: rest := (List.mem_map_of_injective (Option.some_injective _)).1 hd
    exact label_le_worstFrom (List.forall_mem_cons.2 ⟨hflags _ List.mem_cons_self, hflags⟩)
      (List.mem_cons_of_mem _ hd')

theorem labels_problems (hflags : ∀ d, some d ∈ ds → IsFlagged d.severity) :
    labels ((problems ds).map some) = labels ds := by
  ext l
  constructor
  · rintro (rfl | ⟨d, hd, rfl⟩)
    · exact .inl rfl
    · have hd' : d ∈ problems ds := (List.mem_map_of_injective (Option.some_injective _)).1 hd
      exact .inr ⟨d, (mem_problems.1 hd').1, rfl⟩
  · rintro (rfl | ⟨d, hd, rfl⟩)
    · exact .inl rfl
    · by_cases hpos : 0 < d.severity
      · exact .inr ⟨d, List.mem_map_of_mem (mem_problems.2 ⟨hd, hpos⟩), rfl⟩
      · exact .inl (Label.ofSeverity_of_not_pos (hflags d hd) hpos)

/-- The merged diagnostic has the label of what the search finds among the problems. -/
theorem label_merge (k : Nat) (ds : List (Option Diagnostic)) :
    (merge k ds).1.label = match problems ds with
      | [] => .ok
      | q :: rest => (worstFrom q (q :: rest)).label := by
  rcases hproblems : problems ds with _ | ⟨q, _ | ⟨q', rest⟩⟩
  · simp only [merge, hproblems]
    rfl
  · simp [merge, hproblems, worstFrom]
  · simp only [merge, hproblems]
    rw [label, severity, setIds, finding_mapFindings]
    rfl

theorem isGreatest_merge (k : Nat) (hflags : ∀ d, some d ∈ ds → IsFlagged d.severity) :
    IsGreatest (labels ds) (merge k ds).1.label := by
  rw [← labels_problems hflags, label_merge]
  cases hproblems : problems ds with
  | nil =>
    refine ⟨.inl rfl, ?_⟩
    rintro l (rfl | ⟨d, hd, -⟩)
    · exact Label.ok_le _
    · cases hd
  | cons q rest =>
    refine isGreatest_worstFrom fun d hd => hflags d ?_
    exact (mem_problems.1 (hproblems ▸ hd)).1

/-- **The label of the worst.** In a pool, the merged diagnostic has the highest label of the given
ones, which is that of a fine one if there are none; and where there are some and no empty place,
the worst of them is found and has this label, too. -/
theorem label_merge_worst {p : Pool} (hp : p.Sound) (hds : ∀ d, some d ∈ ds → p.Has d)
    (hflags : ∀ d, some d ∈ ds → IsFlagged d.severity) :
    ∃ top, IsGreatest (labels ds) top ∧
      (∃ merged, (p.merge ds).1.entries[(p.merge ds).2]? = some (some merged) ∧
        merged.label = top) ∧
      (ds ≠ [] → none ∉ ds → ∃ r worst, p.worst ds = .ok r ∧
        r.1.entries[r.2]? = some (some worst) ∧ worst.label = top) := by
  refine ⟨_, isGreatest_merge p.next hflags,
    ⟨_, Pool.entries_place (hp.setIds _) (Pool.fits_merge hds), rfl⟩, ?_⟩
  intro hne hfull
  have hmap : ds ∈ Set.range (List.map some) := by
    rw [Set.range_list_map]
    exact fun o ho => Option.ne_none_iff_exists.1 fun hnone => hfull (hnone ▸ ho)
  obtain ⟨xs, rfl⟩ := hmap
  cases xs with
  | nil => exact absurd rfl hne
  | cons d rest =>
    have hgiven : ∀ e ∈ d :: rest, some e ∈ (d :: rest).map some := fun e he =>
      List.mem_map_of_mem he
    obtain ⟨cs, hcs⟩ := exists_candidates (d :: rest)
    refine ⟨p.place (worstFrom d (d :: rest)), worstFrom d (d :: rest), ?_,
      Pool.entries_place hp (hds _ (hgiven _ (worstFrom_self_mem d rest))).fits, ?_⟩
    · simp only [Pool.worst, hcs, worst?_candidates hcs, Option.getD_some]
    · exact (isGreatest_worstFrom fun e he => hflags e (hgiven e he)).unique
        (isGreatest_merge p.next hflags)

/-- Two flags, the severity that ends the search, and a greater one behind it. -/
def flagged : Pool :=
  ((({} : Pool).push (some (node { severity := 3 } []))).push
    (some (node { severity := 8 } []))).push (some (node { severity := 12 } []))

/-- The search ends in the middle, and what is behind its end is not worse by its label. -/
theorem label_merge_worst_flagged :
    flagged.Sound ∧ (∀ d, some d ∈ flagged.entries → IsFlagged d.severity) ∧
      flagged.entries ≠ [] ∧ none ∉ flagged.entries ∧
      ∃ top, IsGreatest (labels flagged.entries) top ∧
        (∃ merged, (flagged.merge flagged.entries).1.entries[(flagged.merge flagged.entries).2]? =
          some (some merged) ∧ merged.label = top) ∧
        ∃ r worst, flagged.worst flagged.entries = .ok r ∧
          r.1.entries[r.2]? = some (some worst) ∧ worst.label = top := by
  have hsound : flagged.Sound := Pool.Built.sound (.push (.push (.push .empty _) _) _)
  have hgiven : ∀ d ∈ flagged.entries.reduceOption, 0 ≤ d.severity ∧ d.severity < 16 := by decide
  have hflags : ∀ d, some d ∈ flagged.entries → IsFlagged d.severity := fun d hd =>
    hgiven d (List.reduceOption_mem_iff.2 hd)
  have hne : flagged.entries ≠ [] := by simp [flagged, Pool.push]
  have hfull : none ∉ flagged.entries := by simp [flagged, Pool.push]
  obtain ⟨top, htop, hmerge, hworst⟩ :=
    label_merge_worst hsound (fun d hd => ⟨d, hd, d.self_mem_nodes⟩) hflags
  exact ⟨hsound, hflags, hne, hfull, top, htop, hmerge, hworst hne hfull⟩

end RemoteModel.Diagnostic
