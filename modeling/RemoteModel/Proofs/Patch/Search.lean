import RemoteModel.Proofs.Patch.Elements

/-!
# The search for an element

Every path that names an element begins with a search for its identifier. Several objects of a
document may bear the same identifier, also one inside another.

**Main statement.** `locate_first`: the search finds nothing exactly if no object of the document
bears the identifier. Otherwise the steps that it gives are read back as a location: reading along
them ends at an object that bears the identifier, every other one comes later in document order,
and none of the containers on the way bears it.

* *First*: the objects before the one that is found, in the list of all objects, do not bear the
  identifier (`exists_split_of_locate`), and the list follows document order.
* *On the way*: a container comes before what it holds, so it would have been found first.
-/

namespace RemoteModel.Patch

open Json (Step Location)

variable {d : Json} {id : String} {l : Location} {ms : Entries Json} {steps : List String}

/-- An object at a location bears an identifier. -/
def BearsAt (d : Json) (id : String) (l : Location) : Prop :=
  ∃ ms, d.at? l = some (.obj ms) ∧ Entries.get? ms "$id" = some (.str id)

/-- The objects of a document, split at the first that bears an identifier. -/
theorem exists_split_of_locate (h : locate id d = some steps) :
    ∃ before l ms after, d.objects = before ++ (l, ms) :: after ∧ steps = l.map Step.token ∧
      Entries.get? ms "$id" = some (.str id) ∧
      ∀ o ∈ before, Entries.get? o.2 "$id" ≠ some (.str id) := by
  rw [locate_eq_find, firstBearing, Option.map_eq_some_iff] at h
  obtain ⟨⟨l, ms⟩, hfind, rfl⟩ := h
  obtain ⟨hbears, before, after, hsplit, hbefore⟩ := List.find?_eq_some_iff_append.1 hfind
  refine ⟨before, l, ms, after, hsplit, rfl, bears_iff.1 hbears, fun o ho hget => ?_⟩
  have hnot := hbefore o ho
  rw [bears_iff.2 hget] at hnot
  cases hnot

/-- **When nothing is found.** -/
theorem locate_eq_none_iff (hw : d.WellFormed) : locate id d = none ↔ ∀ l, ¬ BearsAt d id l := by
  rw [locate_eq_find, firstBearing, Option.map_eq_none_iff, List.find?_eq_none]
  constructor
  · rintro hnone l ⟨ms, hl, hget⟩
    exact hnone (l, ms) ((Json.mem_objects_iff hw).2 hl) (bears_iff.2 hget)
  · rintro hnone ⟨l, ms⟩ ho hbears
    exact hnone l ⟨ms, (Json.mem_objects_iff hw).1 ho, bears_iff.1 hbears⟩

/-- What stands at or behind the split of the objects comes at or after it in document order. -/
theorem precedes_of_split {before after : List (Location × Entries Json)} (hw : d.WellFormed)
    (hsplit : d.objects = before ++ (l, ms) :: after)
    (hbefore : ∀ o ∈ before, Entries.get? o.2 "$id" ≠ some (.str id)) {m : Location}
    (hm : BearsAt d id m) : m = l ∨ d.Precedes l m := by
  obtain ⟨ms', hat, hget⟩ := hm
  have hmem : (m, ms') ∈ d.objects := (Json.mem_objects_iff hw).2 hat
  have hordered : Json.Ordered d d.objects := Json.ordered_objects hw
  rw [hsplit] at hmem hordered
  rcases List.mem_append.1 hmem with hmem | hmem
  · exact absurd hget (hbefore _ hmem)
  · rcases List.mem_cons.1 hmem with heq | hmem
    · cases heq
      exact .inl rfl
    · have hlater := (List.pairwise_append.1 hordered).2.1
      exact .inr ((List.pairwise_cons.1 hlater).1 _ hmem)

/-- **The search for an element** finds nothing exactly if no object bears the identifier. What it
finds is the first object in document order that bears it: reading along the steps ends there,
every other such object comes later, and no container on the way is one. -/
theorem locate_first (hd : d.IsDocument) (id : String) :
    (locate id d = none ↔ ∀ l, ¬ BearsAt d id l) ∧
    ∀ steps, locate id d = some steps →
      ∃ l ms, steps = l.map Step.token ∧ d.at? l = some (.obj ms) ∧
        Entries.get? ms "$id" = some (.str id) ∧ (∀ path, get path steps d = .ok (.obj ms)) ∧
        (∀ m, BearsAt d id m → m = l ∨ d.Precedes l m) ∧
        ∀ m, m <+: l → m ≠ l → ¬ BearsAt d id m := by
  have hw : d.WellFormed := hd.wellFormed
  refine ⟨locate_eq_none_iff hw, fun steps hfound => ?_⟩
  obtain ⟨before, l, ms, after, hsplit, rfl, hget, hbefore⟩ := exists_split_of_locate hfound
  have hat : d.at? l = some (.obj ms) := by
    refine (Json.mem_objects_iff hw).1 ?_
    rw [hsplit]
    exact List.mem_append_right before List.mem_cons_self
  have hfirst : ∀ m, BearsAt d id m → m = l ∨ d.Precedes l m :=
    fun m => precedes_of_split hw hsplit hbefore
  refine ⟨l, ms, rfl, hat, hget, fun path => get_tokens path hd hat, hfirst, ?_⟩
  intro m hprefix hne hbears
  rcases hfirst m hbears with heq | hlater
  · exact hne heq
  · exact hlater.not_prefix hw hprefix

/-- A document with an identifier at three places, of which one lies inside another. -/
def nest : Json :=
  .obj [("$id", .str "r"),
    ("rows", .arr [.int 1, .arr [.obj [("$id", .str "a"), ("in", .obj [("$id", .str "a")])]]]),
    ("last", .obj [("$id", .str "a")])]

theorem nest_isDocument : nest.IsDocument := by
  have htwo : 2 ≤ Text.numeralBound := Text.le_numeralBound (by decide)
  have hone : 1 ≤ Text.numeralBound := Text.le_numeralBound (by decide)
  refine ⟨?_, ?_⟩
  · simp [nest, Json.WellFormed, Json.WellFormedItems, Json.WellFormedMembers, Entries.Distinct,
      Entries.names]
  · simp [nest, Json.Indexable, Json.IndexableItems, Json.IndexableMembers, htwo, hone]

/-- The outer one of two objects is found, and it comes before the other ones. -/
theorem locate_first_nest :
    nest.IsDocument ∧ locate "a" nest = some ["rows", "1", "0"] ∧ locate "b" nest = none ∧
      (∀ l, ¬ BearsAt nest "b" l) ∧
      ∃ ms, get "" ["rows", "1", "0"] nest = .ok (.obj ms) ∧
        Entries.get? ms "$id" = some (.str "a") ∧
        ∃ l, ["rows", "1", "0"] = l.map Step.token ∧ nest.Precedes l [.member "last"] := by
  have hfound : locate "a" nest = some ["rows", "1", "0"] := by decide +kernel
  have hnone : locate "b" nest = none := by decide +kernel
  obtain ⟨l, ms, hsteps, -, hget, hread, hfirst, -⟩ :=
    (locate_first nest_isDocument "a").2 _ hfound
  refine ⟨nest_isDocument, hfound, hnone, (locate_first nest_isDocument "b").1.1 hnone, ms,
    hread "", hget, l, hsteps, ?_⟩
  rcases hfirst [.member "last"] ⟨_, rfl, rfl⟩ with rfl | hlater
  · exact absurd hsteps (by decide)
  · exact hlater

end RemoteModel.Patch
