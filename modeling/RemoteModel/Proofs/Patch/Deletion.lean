import RemoteModel.Proofs.Patch.Removal
import RemoteModel.Proofs.Patch.Replacement

/-!
# Deleting an element

The operation that is built for deleting an element finds it by its identifier and erases it from
the container it stands in. Another element may bear the same identifier, as long as it comes
later in document order.

**Main statement.** `apply_removeElement`: the operation applies. The identifiers that are left and
those of the deleted element are the identifiers of the document; what stands apart from the
element keeps its place, and what stands behind it in the same list moves down by one.
-/

namespace RemoteModel.Patch

open Json (Step Location Apart ids)
open scoped List

variable {d : Json} {t : Location} {members : Entries Json} {id : String}

/-- An element that paths find: no object before it in document order bears its identifier, which
is not empty and holds no slash. A reference is named by what it refers to instead. -/
structure IsFirst (d : Json) (t : Location) (members : Entries Json) (id : String) : Prop where
  identifier : Entries.get? members "$id" = some (.str id)
  first : ∃ before after, d.objects = before ++ (t, members) :: after ∧
    ∀ o ∈ before, Entries.get? o.2 "$id" ≠ some (.str id)
  named : id ≠ ""
  plain : '/' ∉ id.toList
  noReference : isReferenceV2 (.obj members) = false

namespace IsFirst

theorem here (h : IsFirst d t members id) (hw : d.WellFormed) :
    d.at? t = some (.obj members) := by
  obtain ⟨before, after, hsplit, -⟩ := h.first
  refine (Json.mem_objects_iff hw).1 ?_
  rw [hsplit]
  exact List.mem_append_right before List.mem_cons_self

/-- **The search ends at the first element** that bears the identifier. -/
theorem locate (h : IsFirst d t members id) : Patch.locate id d = some (t.map Step.token) := by
  obtain ⟨before, after, hsplit, hbefore⟩ := h.first
  have hnone : before.find? (fun o => bears id o.2) = none := by
    refine List.find?_eq_none.2 ?_
    intro o ho hb
    exact hbefore o ho (bears_iff.1 hb)
  have hbears : bears id members = true := bears_iff.2 h.identifier
  rw [locate_eq_find, firstBearing, hsplit, List.find?_append, hnone]
  simp [hbears]

theorem removeElement (h : IsFirst d t members id) (modeluri : String) :
    Patch.removeElement modeluri (.obj members) =
      .ok (removeFrom (Address.modelPath modeluri id [])) :=
  removeElement_of_elementPath (elementPath_of_identifier modeluri h.noReference h.identifier)

theorem resolve (h : IsFirst d t members id) (modeluri : String) :
    resolvePath d (Address.modelPath modeluri id []) = .ok (t.map Step.token, true) := by
  have hplain : ∀ s ∈ [id], '/' ∉ s.toList := List.forall_mem_singleton.2 h.plain
  have hresolve := resolvePath_modelPath modeluri h.named hplain h.locate
  rwa [List.append_nil] at hresolve

end IsFirst

/-- **Deleting an element** takes it out of the document and nothing else: the identifiers of the
document are those that are left and those inside the element, every location apart from the
element keeps its value, and what stands behind the element in the same list moves down by one. -/
theorem apply_removeElement (hd : d.IsDocument) (he : IsFirst d t members id) (hinside : t ≠ [])
    (modeluri : String) :
    ∃ o r, removeElement modeluri (.obj members) = .ok o ∧ apply d [o] = .ok r ∧
      r.ids ++ ids (.obj members) ~ d.ids ∧
      (∀ m, Apart t m → ¬ Displaces t m → r.at? m = d.at? m) ∧
      ∀ p i j q, t = p ++ [.item i] → i < j →
        r.at? (p ++ .item (j - 1) :: q) = d.at? (p ++ .item j :: q) := by
  obtain ⟨p, s, u, rfl, hp, hs⟩ := exists_container (he.here hd.wellFormed) hinside
  have happly : applyOperation d (removeFrom (Address.modelPath modeluri id [])) =
      .ok (Json.put (u.eraseChild s) p d) := by
    rw [applyOperation_removeFrom (he.resolve modeluri)]
    exact remove_child _ hd hp hs
  refine ⟨_, _, he.removeElement modeluri, apply_singleton happly, ?_, ?_, ?_⟩
  · have hid : Json.id? members = some id := Json.id?_eq_some.2 he.identifier
    exact (ids_eraseChild hd.wellFormed hp hs hid).symm
  · intro m hm hdisplaces
    exact at?_put_eraseChild_of_apart hp hm hdisplaces
  · intro p' i j q heq hlt
    obtain ⟨rfl, hstep⟩ := List.append_inj' heq rfl
    cases hstep
    exact at?_displaced q hp hlt

/-- A list with two elements of one identifier, and a value behind them. -/
def twins : Json :=
  .obj [("$id", .str "r"),
    ("items", .arr [.obj [("$id", .str "a"), ("part", .obj [("$id", .str "p")])],
      .obj [("$id", .str "a")], .int 5])]

theorem twins_isDocument : twins.IsDocument := by
  have hthree : 3 ≤ Text.numeralBound := Text.le_numeralBound (by decide)
  refine ⟨?_, ?_⟩
  · simp [twins, Json.WellFormed, Json.WellFormedItems, Json.WellFormedMembers, Entries.Distinct,
      Entries.names]
  · simp [twins, Json.Indexable, Json.IndexableItems, Json.IndexableMembers, hthree]

/-- The first of two elements is deleted with its part, and the value at the end moves down. -/
theorem apply_removeElement_twins :
    let twin : Entries Json := [("$id", .str "a"), ("part", .obj [("$id", .str "p")])]
    let place : Location := [.member "items", .item 0]
    twins.IsDocument ∧ IsFirst twins place twin "a" ∧ place ≠ [] ∧
      ∃ o r, removeElement "m" (.obj twin) = .ok o ∧ apply twins [o] = .ok r ∧
        r.ids ++ ["a", "p"] ~ ["r", "a", "p", "a"] ∧
        (∀ m, Apart place m → ¬ Displaces place m → r.at? m = twins.at? m) ∧
        r.at? [.member "items", .item 1] = some (.int 5) := by
  intro twin place
  have he : IsFirst twins place twin "a" :=
    { identifier := rfl
      first := ⟨[([], [("$id", .str "r"), ("items", .arr [.obj twin, .obj [("$id", .str "a")],
        .int 5])])], _, rfl, by decide⟩
      named := by decide
      plain := by decide
      noReference := by decide }
  obtain ⟨o, r, hremove, happly, hids, hapart, hmoved⟩ :=
    apply_removeElement twins_isDocument he (by decide) "m"
  exact ⟨twins_isDocument, he, by decide, o, r, hremove, happly, hids, hapart,
    hmoved [.member "items"] 0 2 [] rfl (by decide)⟩

end RemoteModel.Patch
