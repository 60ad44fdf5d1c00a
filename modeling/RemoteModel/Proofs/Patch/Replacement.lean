import RemoteModel.Proofs.Patch.Elements

/-!
# Replacing a feature of an element

The operation that is built for a feature of an element finds the element again, whatever stands
around it, and writes to that feature alone.

**Main statement.** `apply_replaceFeature`: the operation applies; the element then has the value
under the feature and all its other features as before, and every location of the document that
is apart from the feature holds what it held.
-/

namespace RemoteModel.Patch

open Json (Location Apart)

variable {document : Json} {t : Location} {members : Entries Json} {id feature : String}

theorem replace_feature {path : String} (v : Json) (hd : document.IsDocument)
    (ht : document.at? t = some (.obj members)) :
    replace path (t.map Json.Step.token ++ [feature]) v document =
      .ok (Json.put (Json.setChild v (.obj members) (.member feature)) t document) := by
  unfold replace
  rw [edit_concat]
  exact update_tokens hd ht rfl

theorem apply_singleton {o : Operation} {result : Json}
    (h : applyOperation document o = .ok result) : apply document [o] = .ok result := by
  simp only [apply, h]

theorem apply_singleton_iff {o : Operation} {result : Json} :
    apply document [o] = .ok result ↔ applyOperation document o = .ok result := by
  refine ⟨fun h => ?_, apply_singleton⟩
  cases ho : applyOperation document o with
  | error fault => simp [apply, ho] at h
  | ok next =>
    simp only [apply, ho, Except.ok.injEq] at h
    rw [h]

theorem applyOperation_replaceFeature (he : IsElement document t members id)
    (hd : document.IsDocument) (hfeature : '/' ∉ feature.toList) (modeluri : String) (v : Json) :
    applyOperation document
        { action := .replace, path := Address.modelPath modeluri id [feature], value := some v } =
      .ok (Json.put (Json.setChild v (.obj members) (.member feature)) t document) := by
  have hsteps : ∀ s ∈ [feature], '/' ∉ s.toList := List.forall_mem_singleton.2 hfeature
  unfold applyOperation
  simp only [he.resolve hd modeluri hsteps, bind, Except.bind]
  exact replace_feature v hd he.here

/-- **Replacing a feature.** The operation that is built for a feature of an element applies to
the document, gives the feature its value, and leaves the other features of the element and all
locations apart from the feature as they were. -/
theorem apply_replaceFeature (he : IsElement document t members id) (hd : document.IsDocument)
    (hfeature : '/' ∉ feature.toList) (modeluri : String) (v : Json) :
    ∃ o result, replaceFeature modeluri (.obj members) feature v = .ok o ∧
      apply document [o] = .ok result ∧
      (∃ members', result.at? t = some (.obj members') ∧
        Entries.get? members' feature = some v ∧
        ∀ other ≠ feature, Entries.get? members' other = Entries.get? members other) ∧
      ∀ l, Apart (t ++ [.member feature]) l → result.at? l = document.at? l := by
  have happly := applyOperation_replaceFeature he hd hfeature modeluri v
  refine ⟨_, _, ?_, apply_singleton happly, ⟨Entries.insert members feature v, ?_, ?_, ?_⟩, ?_⟩
  · unfold replaceFeature
    rw [he.featurePath]
    rfl
  · exact Json.at?_put_self _ he.here
  · exact Entries.get?_insert_self _ _ _
  · intro other hother
    exact Entries.get?_insert_of_ne _ _ hother
  · intro l hl
    exact Json.at?_put_setChild v he.here hl

/-- A part of a small model, with an identifier that looks like a path. -/
def gear : Entries Json :=
  [("$id", .str "#~1"), ("name", .str "x"), ("teeth", .arr [.int 1])]

/-- A small model: a machine of two parts. -/
def machine : Json :=
  .obj [("$type", .str "Machine"), ("$id", .str "m"),
    ("parts", .arr [.obj [("$id", .str "a")], .obj gear])]

theorem machine_isDocument : machine.IsDocument := by
  refine ⟨?_, ?_⟩
  · simp [machine, gear, Json.WellFormed, Json.WellFormedItems, Json.WellFormedMembers,
      Entries.Distinct, Entries.names]
  · have hone : 1 ≤ Text.numeralBound := Text.le_numeralBound (by decide)
    have htwo : 2 ≤ Text.numeralBound := Text.le_numeralBound (by decide)
    simp [machine, gear, Json.Indexable, Json.IndexableItems, Json.IndexableMembers, hone, htwo]

theorem machine_isElement : IsElement machine [.member "parts", .item 1] gear "#~1" where
  here := rfl
  identifier := rfl
  named := by decide
  plain := by decide
  alone := by
    intro l ms hl hid
    have hmem := (Json.mem_objects_iff machine_isDocument.wellFormed).2 hl
    have hall : ∀ o ∈ machine.objects, Entries.get? o.2 "$id" = some (.str "#~1") →
        o.1 = [.member "parts", .item 1] := by decide
    exact hall _ hmem hid
  noReference := by decide

/-- A feature of an element inside a list, under an address with a number sign. -/
theorem apply_replaceFeature_machine :
    IsElement machine [.member "parts", .item 1] gear "#~1" ∧ machine.IsDocument ∧
      '/' ∉ "name".toList ∧
      ∃ o result, replaceFeature "machine.ecore#/" (.obj gear) "name" (.int 1) = .ok o ∧
        apply machine [o] = .ok result ∧
        (∃ members', result.at? [.member "parts", .item 1] = some (.obj members') ∧
          Entries.get? members' "name" = some (.int 1) ∧
          ∀ other ≠ "name", Entries.get? members' other = Entries.get? gear other) ∧
        ∀ l, Apart ([.member "parts", .item 1] ++ [.member "name"]) l →
          result.at? l = machine.at? l :=
  ⟨machine_isElement, machine_isDocument, by decide,
    apply_replaceFeature machine_isElement machine_isDocument (by decide) "machine.ecore#/" (.int 1)⟩

end RemoteModel.Patch
