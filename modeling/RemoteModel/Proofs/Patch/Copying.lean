import RemoteModel.Proofs.Patch.Agreement

/-!
# Copying and adding

A copy adds the value at its source. It has the outcome that adding this value has, whatever the
two paths are and whatever stands at them, but for one case.

**The one difference.** Adding at a model path whose last step names a list of an object appends
to the list (`AppendsAt`). A copy forgets that its path is one of a model, so it puts the value in
the place of the list, and what the list held is lost.

Main statement: `copy_adds`.
-/

namespace RemoteModel.Patch

open Json (Location)

variable {document v : Json} {source path : String}

/-- The operation that copies the value at a source to a path. -/
def copyTo (source path : String) : Operation :=
  { action := .copy, path := path, source := some source }

/-- The operation that adds a value at a path. -/
def addTo (v : Json) (path : String) : Operation :=
  { action := .add, path := path, value := some v }

/-- The value that a path leads to in a document. -/
def valueAt? (document : Json) (path : String) : Option Json :=
  (resolvePath document path).toOption.bind fun found => reached? found.1 document

/-- A model path whose last step names a list of an object. -/
def AppendsAt (document : Json) (path : String) (l : Location) (items : List Json) : Prop :=
  ∃ steps, resolvePath document path = .ok (steps, true) ∧ NamesList document steps l items

/-! ## What the two operations do -/

/-- A copy adds what its source holds, as at a pointer. -/
theorem applyOperation_copyTo (hv : valueAt? document source = some v) :
    applyOperation document (copyTo source path) =
      (resolvePath document path).bind fun found => add path false found.1 v document := by
  obtain ⟨found, hfound, hreached⟩ := Option.bind_eq_some_iff.1 hv
  rw [toOption_eq_some] at hfound
  rw [← toOption_get path, toOption_eq_some] at hreached
  unfold applyOperation copyTo
  simp only [sourceSteps, hfound, Except.map, hreached, bind, Except.bind]

theorem applyOperation_addTo (document v : Json) (path : String) :
    applyOperation document (addTo v path) =
      (resolvePath document path).bind fun found => add path found.2 found.1 v document := rfl

/-- Where adding does not append, it does what a copy does. -/
theorem toOption_copyTo (hv : valueAt? document source = some v)
    (h : ∀ l items, ¬ AppendsAt document path l items) :
    (applyOperation document (copyTo source path)).toOption =
      (applyOperation document (addTo v path)).toOption := by
  rw [applyOperation_copyTo hv, applyOperation_addTo]
  cases hpath : resolvePath document path with
  | error fault => rfl
  | ok found =>
    obtain ⟨steps, isModelPath⟩ := found
    cases isModelPath with
    | false => rfl
    | true =>
      have hlist : ∀ l items, ¬ NamesList document steps l items :=
        fun l items hlist => h l items ⟨steps, hpath, hlist⟩
      exact (toOption_add path path v hlist).symm

/-! ## Where they differ -/

theorem apply_copyTo_of_appendsAt {l : Location} {items : List Json}
    (hv : valueAt? document source = some v) (h : AppendsAt document path l items) :
    apply document [copyTo source path] = .ok (Json.put v l document) := by
  obtain ⟨steps, hpath, hlist⟩ := h
  refine apply_singleton ?_
  rw [applyOperation_copyTo hv, hpath]
  exact add_replaced path v hlist

theorem apply_addTo_of_appendsAt {l : Location} {items : List Json} (v : Json)
    (h : AppendsAt document path l items) :
    apply document [addTo v path] = .ok (Json.put (.arr (items ++ [v])) l document) := by
  obtain ⟨steps, hpath, hlist⟩ := h
  refine apply_singleton ?_
  rw [applyOperation_addTo, hpath]
  exact add_appended path v hlist

theorem ne_arr_concat (v : Json) (items : List Json) : v ≠ .arr (items ++ [v]) := by
  intro heq
  have hsize := List.sizeOf_lt_of_mem (List.mem_append_right items (List.mem_singleton_self v))
  have hself := congrArg sizeOf heq
  simp only [Json.arr.sizeOf_spec] at hself
  omega

/-- What is left differs: a list is not the same as a longer one that ends with it. -/
theorem not_sameOutcome_of_appendsAt {l : Location} {items : List Json}
    (hv : valueAt? document source = some v) (h : AppendsAt document path l items) :
    ¬ SameOutcome (apply document [copyTo source path]) (apply document [addTo v path]) := by
  rw [apply_copyTo_of_appendsAt hv h, apply_addTo_of_appendsAt v h]
  obtain ⟨_, -, hlist⟩ := h
  rintro (⟨result, hcopy, hadd⟩ | ⟨⟨fault, operation, hcopy⟩, -⟩)
  · have hsame : Json.put v l document = Json.put (.arr (items ++ [v])) l document :=
      Except.ok.inj (hcopy.trans hadd.symm)
    have hthere := Json.at?_put_self v hlist.list
    rw [hsame, Json.at?_put_self _ hlist.list] at hthere
    exact ne_arr_concat v items (Option.some.inj hthere).symm
  · cases hcopy

/-- **A copy adds what its source holds**, with the outcome that adding it has, exactly where
adding does not append to a list. Where it does, the copy puts the value in the place of the list
that adding makes longer. -/
theorem copy_adds (hv : valueAt? document source = some v) (path : String) :
    (SameOutcome (apply document [copyTo source path]) (apply document [addTo v path]) ↔
      ∀ l items, ¬ AppendsAt document path l items) ∧
    ∀ l items, AppendsAt document path l items →
      apply document [copyTo source path] = .ok (Json.put v l document) ∧
        apply document [addTo v path] = .ok (Json.put (.arr (items ++ [v])) l document) := by
  refine ⟨⟨fun hsame l items happends => ?_, fun h => ?_⟩, fun l items happends => ⟨?_, ?_⟩⟩
  · exact not_sameOutcome_of_appendsAt hv happends hsame
  · exact sameOutcome_of_toOption (toOption_copyTo hv h)
  · exact apply_copyTo_of_appendsAt hv happends
  · exact apply_addTo_of_appendsAt v happends

/-- A part is copied to a place between two parts. -/
theorem copy_adds_machine :
    valueAt? machine "machine.ecore#a" = some (.obj [("$id", .str "a")]) ∧
      SameOutcome (apply machine [copyTo "machine.ecore#a" "/parts/1"])
        (apply machine [addTo (.obj [("$id", .str "a")]) "/parts/1"]) := by
  have hv : valueAt? machine "machine.ecore#a" = some (.obj [("$id", .str "a")]) := by
    decide +kernel
  refine ⟨hv, (copy_adds hv "/parts/1").1.2 ?_⟩
  -- A pointer is no model path.
  rintro l items ⟨steps, hpath, -⟩
  have hpointer : (resolvePath machine "/parts/1").toOption = some (["parts", "1"], false) := by
    decide +kernel
  rw [hpath] at hpointer
  cases hpointer

/-- The name of a gear is copied to its teeth, and its only tooth is lost. -/
theorem copy_replaces_list :
    let copied := Json.put (.str "x") [.member "parts", .item 1, .member "teeth"] machine
    let added := Json.put (.arr [.int 1, .str "x"]) [.member "parts", .item 1, .member "teeth"]
      machine
    valueAt? machine "/parts/1/name" = some (.str "x") ∧ copied ≠ added ∧
      apply machine [copyTo "/parts/1/name" "machine.ecore#//@parts.1/teeth"] = .ok copied ∧
      apply machine [addTo (.str "x") "machine.ecore#//@parts.1/teeth"] = .ok added := by
  refine ⟨by decide +kernel, by decide +kernel, ?_, ?_⟩
  · exact toOption_eq_some.1 (by decide +kernel)
  · exact toOption_eq_some.1 (by decide +kernel)

end RemoteModel.Patch
