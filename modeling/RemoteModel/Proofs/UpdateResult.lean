import RemoteModel.Envelope
import RemoteModel.Proofs.Patch.Wire

/-!
# What the answer to an edit tells

A success may come with the patch that the server has applied. Two tests of it are written apart:
a look at each item (`isOperation`), and the reading of each item (`Operation.ofWire`).

**Main statement.** `updateResult_patch`: the result has the patch that a success reports, one
operation for each item in order, and the patch does to any document what its items do. A success
without a patch and an answer that is no success give a bare result. There are two exceptions, and
they are exact.

* *Nothing changed*: the empty list of operations is a patch, but the result has none.
* *An odd source*: the look passes an operation whose source is neither a text nor `null`, and the
  reading refuses it (`exists_ofWire_iff`). The first such item is reported instead of a result.
-/

namespace RemoteModel

namespace Patch.Operation

variable {v : Json} {o : Operation}

theorem defaulted_kept (ms : Entries Json) (name : String) :
    Check.defaulted ms [name] none (fun v => .ok (some v)) = .ok (ms.get? name) := by
  cases h : ms.get? name <;> simp [Check.defaulted, Check.find?, h, Checked.under]

theorem ofWire_eq_ok :
    ofWire v = .ok o ↔
      ∃ ms name, v = .obj ms ∧ Entries.get? ms "op" = some (.str name) ∧
        Action.ofName? name = some o.action ∧ Entries.get? ms "path" = some (.str o.path) ∧
        Entries.get? ms "value" = o.value ∧
        Check.optional ms ["from", "from_"] Check.text = .ok o.source := by
  rw [ofWire, Checked.orUndecodable_eq_ok, check, Check.fields_eq_ok]
  simp only [Checked.seq_eq_ok, Checked.map_eq_ok, Check.required_eq_ok, Check.word_eq_ok,
    Check.text_eq_ok, defaulted_kept, Checked.ok.injEq]
  constructor
  · rintro ⟨ms, rfl, _, source, ⟨_, value, ⟨_, path, ⟨action, ⟨_, hop, name, rfl, hname⟩, rfl⟩,
      ⟨_, hpath, rfl⟩, rfl⟩, hvalue, rfl⟩, hsource, rfl⟩
    exact ⟨ms, name, rfl, hop, hname, hpath, hvalue, hsource⟩
  · rintro ⟨ms, name, rfl, hop, hname, hpath, hvalue, hsource⟩
    exact ⟨ms, rfl, _, _, ⟨_, _, ⟨_, _, ⟨_, ⟨_, hop, name, rfl, hname⟩, rfl⟩, ⟨_, hpath, rfl⟩, rfl⟩,
      hvalue, rfl⟩, hsource, rfl⟩

/-- The source is missing, `null` or a text. -/
def hasPlainSource (v : Json) : Bool :=
  match (v.get? "from").or (v.get? "from_") with
  | some w => w.isNull || w.isString
  | none => true

theorem exists_optional_iff (ms : Entries Json) :
    (∃ s, Check.optional ms ["from", "from_"] Check.text = .ok s) ↔
      hasPlainSource (.obj ms) = true := by
  have hnullable : ∀ w : Json, (∃ s, Check.nullable Check.text w = .ok s) ↔
      (w.isNull || w.isString) = true := by
    intro w
    cases w <;>
      simp [Check.nullable, Check.text, Check.misfit, Checked.map, Json.isNull, Json.isString]
  cases hfrom : ms.get? "from" with
  | some w =>
    simp [Check.optional, Check.defaulted, Check.find?, hasPlainSource, Json.get?, hfrom,
      Checked.under_eq_ok, hnullable]
  | none =>
    cases hname : ms.get? "from_" <;>
      simp [Check.optional, Check.defaulted, Check.find?, hasPlainSource, Json.get?, hfrom, hname,
        Checked.under_eq_ok, hnullable]

/-- A value is read as an operation exactly if it looks like one and its source is plain. -/
theorem exists_ofWire_iff :
    (∃ o, ofWire v = .ok o) ↔ isOperation v = true ∧ hasPlainSource v = true := by
  constructor
  · rintro ⟨o, ho⟩
    refine ⟨isOperation_of_ofWire ho, ?_⟩
    obtain ⟨ms, _, rfl, -, -, -, -, hsource⟩ := ofWire_eq_ok.1 ho
    exact (exists_optional_iff ms).1 ⟨_, hsource⟩
  · rintro ⟨hlook, hplain⟩
    simp only [isOperation, Bool.and_eq_true, Option.isSome_iff_exists,
      Option.bind_eq_some_iff] at hlook
    obtain ⟨⟨action, name, hop, hname⟩, hpath⟩ := hlook
    obtain ⟨path, hpath⟩ := Json.hasString_iff.1 hpath
    cases v with
    | obj ms =>
      obtain ⟨source, hsource⟩ := (exists_optional_iff ms).2 hplain
      exact ⟨⟨action, path, Entries.get? ms "value", source⟩, ofWire_eq_ok.2
        ⟨ms, name, rfl, Json.text?_eq_some.1 hop, hname, hpath, rfl, hsource⟩⟩
    | _ => cases hpath

end Patch.Operation

namespace Envelope

/-- A success whose data are an object with a patch. -/
structure Reports (m : Envelope) (items : List Json) : Prop where
  success : m.type = "success"
  patch : m.data.get? "patch" = some (.arr items)
  isPatch : Patch.Operation.isPatch (.arr items) = true

variable {m : Envelope} {items : List Json}

theorem isSuccess_eq (m : Envelope) : m.isSuccess = decide (m.type = "success") := rfl

theorem updateResult_of_failure (h : m.type ≠ "success") :
    m.updateResult = .ok { success := false } := by
  simp [updateResult, isSuccess_eq, h]

theorem updateResult_of_bare (hsuccess : m.type = "success") (h : ∀ items, ¬ m.Reports items) :
    m.updateResult = .ok { success := true } := by
  simp only [updateResult, isSuccess_eq, hsuccess, decide_true, Bool.not_true, Bool.false_eq_true,
    if_false]
  split
  · rename_i v rest hget
    rw [if_neg fun hpatch => h _ ⟨hsuccess, hget, hpatch⟩]
  · rfl

theorem updateResult_of_empty (h : m.Reports []) : m.updateResult = .ok { success := true } := by
  simp [updateResult, isSuccess_eq, h.success, h.patch]

theorem updateResult_of_reports (h : m.Reports items) (hne : items ≠ []) :
    m.updateResult = (items.mapM Patch.Operation.ofWire).map fun os =>
      { success := true, operations := some os } := by
  cases items with
  | nil => exact absurd rfl hne
  | cons v rest => simp [updateResult, isSuccess_eq, h.success, h.patch, h.isPatch]

theorem isOperation_of_mem (h : m.Reports items) {v : Json} (hv : v ∈ items) :
    Patch.Operation.isOperation v = true :=
  List.all_eq_true.1 h.isPatch v hv

/-- Items that look like operations and have plain sources are read, one by one. -/
theorem exists_reads (hlook : ∀ v ∈ items, Patch.Operation.isOperation v = true)
    (hplain : ∀ v ∈ items, Patch.Operation.hasPlainSource v = true) :
    ∃ os, Patch.Reads items os := by
  induction items with
  | nil => exact ⟨[], .nil⟩
  | cons v rest ih =>
    obtain ⟨hv, hrest⟩ := List.forall_mem_cons.1 hlook
    obtain ⟨hv', hrest'⟩ := List.forall_mem_cons.1 hplain
    obtain ⟨o, ho⟩ := Patch.Operation.exists_ofWire_iff.2 ⟨hv, hv'⟩
    obtain ⟨os, hos⟩ := ih hrest hrest'
    exact ⟨o :: os, .cons ho hos⟩

theorem ofWire_of_odd {v : Json} (h : Patch.Operation.hasPlainSource v = false) :
    Patch.Operation.ofWire v = .error (.undecodable "Operation" v) := by
  cases hv : Patch.Operation.ofWire v with
  | ok o => simp [(Patch.Operation.exists_ofWire_iff.1 ⟨o, hv⟩).2] at h
  | error e => rw [Patch.Operation.ofWire_eq_error hv]

/-- **The result of an edit.** It has the patch that a success reports, with one operation for each
item, unless the patch is empty or the source of an item is odd; without such a report there is a
result that has no patch. -/
theorem updateResult_patch (m : Envelope) :
    (m.type ≠ "success" →
      ∃ r, m.updateResult = .ok r ∧ r.success = false ∧ r.patch? = none) ∧
    (m.type = "success" → (∀ items, ¬ m.Reports items) →
      ∃ r, m.updateResult = .ok r ∧ r.success = true ∧ r.patch? = none) ∧
    ∀ items, m.Reports items →
      (items ≠ [] → (∀ v ∈ items, Patch.Operation.hasPlainSource v = true) →
        ∃ r os patch, m.updateResult = .ok r ∧ r.success = true ∧ r.operations = some os ∧
          Patch.Reads items os ∧ r.patch? = some patch ∧
          ∀ document, patch document = Patch.applyWire document items) ∧
      (items = [] → ∃ r, m.updateResult = .ok r ∧ r.success = true ∧ r.patch? = none) ∧
      (∀ before v after, items = before ++ v :: after →
        (∀ u ∈ before, Patch.Operation.hasPlainSource u = true) →
        Patch.Operation.hasPlainSource v = false →
        m.updateResult = .error (.undecodable "Operation" v)) := by
  refine ⟨fun h => ⟨_, updateResult_of_failure h, rfl, rfl⟩,
    fun hsuccess h => ⟨_, updateResult_of_bare hsuccess h, rfl, rfl⟩,
    fun items h => ⟨fun hne hplain => ?_, ?_, ?_⟩⟩
  · obtain ⟨os, hreads⟩ := exists_reads (fun v => isOperation_of_mem h) hplain
    refine ⟨⟨true, some os⟩, os, _, ?_, rfl, rfl, hreads, rfl, fun document => ?_⟩
    · rw [updateResult_of_reports h hne, mapM_eq_ok.2 hreads]
      rfl
    · exact (Patch.applyWire_eq_apply hreads document).symm
  · rintro rfl
    exact ⟨_, updateResult_of_empty h, rfl, rfl⟩
  · rintro before v after rfl hbefore hv
    have hlook : ∀ u ∈ before, Patch.Operation.isOperation u = true :=
      fun u hu => isOperation_of_mem h (List.mem_append_left _ hu)
    obtain ⟨os, hreads⟩ := exists_reads hlook hbefore
    rw [updateResult_of_reports h (by simp), mapM_append hreads (ofWire_of_odd hv)]
    rfl

/-- Clears a name and copies a node. -/
def clearAndCopy : List Json :=
  [.obj [("op", .str "replace"), ("path", .str "/name"), ("value", .null), ("from", .null)],
    .obj [("from", .str "/nodes/0"), ("op", .str "copy"), ("path", .str "/nodes/-")]]

/-- The answer to an edit whose data are an object with some patch. -/
def answerWith (items : List Json) : Envelope :=
  { type := "success", data := .obj [("message", .str "done"), ("patch", .arr items)] }

theorem reports_answerWith (h : Patch.Operation.isPatch (.arr items) = true) :
    (answerWith items).Reports items := ⟨rfl, rfl, h⟩

theorem updateResult_patch_clearAndCopy :
    (answerWith clearAndCopy).Reports clearAndCopy ∧ clearAndCopy ≠ [] ∧
      (∀ v ∈ clearAndCopy, Patch.Operation.hasPlainSource v = true) ∧
      ∃ r os patch, (answerWith clearAndCopy).updateResult = .ok r ∧ r.success = true ∧
        r.operations = some os ∧ Patch.Reads clearAndCopy os ∧ r.patch? = some patch ∧
        ∀ document, patch document = Patch.applyWire document clearAndCopy := by
  have hreports : (answerWith clearAndCopy).Reports clearAndCopy :=
    reports_answerWith (by decide)
  have hne : clearAndCopy ≠ [] := by decide
  have hplain : ∀ v ∈ clearAndCopy, Patch.Operation.hasPlainSource v = true := by decide
  exact ⟨hreports, hne, hplain,
    ((updateResult_patch (answerWith clearAndCopy)).2.2 clearAndCopy hreports).1 hne hplain⟩

/-- An operation that looks like one but has a number for its source. -/
def oddlySourced : Json := .obj [("op", .str "remove"), ("path", .str "/a"), ("from", .int 5)]

/-- A success that reports the empty patch gets a result without a patch, and one that reports an
oddly sourced operation gets no result. -/
theorem reported_patches_are_lost :
    ((answerWith []).Reports [] ∧ (answerWith []).updateResult = .ok { success := true } ∧
      ({ success := true } : UpdateResult).patch? = none) ∧
    (answerWith [oddlySourced]).Reports [oddlySourced] ∧
      (answerWith [oddlySourced]).updateResult =
        .error (.undecodable "Operation" oddlySourced) := by
  have hempty : (answerWith []).Reports [] := reports_answerWith rfl
  have hodd : (answerWith [oddlySourced]).Reports [oddlySourced] :=
    reports_answerWith (by decide)
  exact ⟨⟨hempty, updateResult_of_empty hempty, rfl⟩, hodd,
    updateResult_of_reports hodd (by simp)⟩

end Envelope

end RemoteModel
