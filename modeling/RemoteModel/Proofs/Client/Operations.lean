import RemoteModel.Proofs.Client.Edits

/-!
# The values of operations in a dialect

The message that carries a patch is encoded as a whole. One search for the wanted tag goes through
the values of all its operations, so the value of one operation can decide what becomes of the
values of the others.

**Main statement.** `edit_operations`: each operation of the list that is sent has the action and
the paths of the operation in its place, and a value if that one has a value. If the wanted tag is
in none of the values, each value is sent as it would be alone. If it is in one of them, all values
are sent as they are; so an operation that holds the other tag only is not sent as it would be
alone.

* *Tags of the message* are those in the values of its operations (`occurs_message`).
* *A value alone* is renamed as it is inside the message, where the wanted tag is absent
  (`retag_eq_rename`), and changes exactly if it holds the other tag only (`retag_eq_self_iff`).
-/

namespace RemoteModel

/-! ## Values alone -/

namespace Json

variable {name source target : String} {v : Json}

instance (name : String) (v : Json) : Decidable (v.Occurs name) :=
  decidable_of_iff (mentions name v = true) mentions_iff

theorem retag_of_source (hs : Occurs source v) (ht : ¬ Occurs target v) :
    retag source target v = rename source target v := by
  have ht' : mentions target v = false := Bool.eq_false_iff.2 fun h => ht (mentions_iff.1 h)
  rw [retag, mentions_iff.2 hs, ht']
  rfl

/-- Without the wanted tag, a value is renamed, whether or not there is a tag to rename. -/
theorem retag_eq_rename (hw : v.WellFormed) (ht : ¬ Occurs target v) :
    retag source target v = rename source target v := by
  by_cases hs : Occurs source v
  · exact retag_of_source hs ht
  · have hfixed : ∀ n, Occurs n v → relabel source target n = n := fun n hn =>
      relabel_of_ne fun heq => hs (heq ▸ hn)
    rw [retag_of_not_occurs hs]
    refine ((Renamed.of_fixed hfixed).cancel (renamed_rename hw ht) fun n hn => ?_).symm
    rw [hfixed n hn, hfixed n hn]

/-- A value stays as it is if it holds the wanted tag, or not the other one. -/
theorem retag_eq_self_iff (hne : source ≠ target) (hw : v.WellFormed) :
    retag source target v = v ↔ (Occurs source v → Occurs target v) := by
  constructor
  · intro hsame hs
    by_contra ht
    have hrenamed : Renamed (relabel source target) v (retag source target v) :=
      renamed_retag hw ht
    rw [hsame] at hrenamed
    obtain ⟨n, -, hn⟩ := hrenamed.exists_occurs hs
    exact relabel_ne hne n hn
  · intro h
    by_cases hs : Occurs source v
    · exact retag_of_occurs (h hs)
    · exact retag_of_not_occurs hs

end Json

/-! ## Values in operations -/

namespace Patch

variable {name source target : String} {v : Json} {o : Operation} {os : List Operation}

namespace Operation

/-- The value of an operation holds a member of the name. -/
def Holds (name : String) (o : Operation) : Prop := ∃ v ∈ o.value, v.Occurs name

instance (name : String) (o : Operation) : Decidable (o.Holds name) :=
  inferInstanceAs (Decidable (∃ v ∈ o.value, v.Occurs name))

/-- The operations do the same at the same places, and both have a value or none. -/
structure Alike (o o' : Operation) : Prop where
  action : o'.action = o.action
  path : o'.path = o.path
  source : o'.source = o.source
  hasValue : o'.value.isSome = o.value.isSome

theorem Alike.refl (o : Operation) : Alike o o := ⟨rfl, rfl, rfl, rfl⟩

theorem alike_withValue (g : Json → Json) (o : Operation) : Alike o (o.withValue g) :=
  ⟨rfl, rfl, rfl, Option.isSome_map⟩

theorem withValue_congr {g g' : Json → Json} (h : ∀ u ∈ o.value, g u = g' u) :
    o.withValue g = o.withValue g' := by
  rw [withValue, withValue, Option.map_congr h]

theorem withValue_eq_self_iff {g : Json → Json} :
    o.withValue g = o ↔ ∀ u ∈ o.value, g u = u := by
  obtain ⟨action, path, value, source⟩ := o
  cases value <;> simp [withValue]

end Operation

/-- The names of members that the message of a patch has besides those in values. -/
def messageNames : List String := ["type", "data", "op", "path", "value", "from"]

theorem Operation.occurs_toWire (hname : name ∉ messageNames) :
    o.toWire.Occurs name ↔ o.Holds name := by
  have htext : ∀ s, ¬ (Json.str s).Occurs name := fun s h => by cases h
  obtain ⟨action, path, value, source⟩ := o
  simp only [messageNames, List.mem_cons, not_or] at hname
  rw [Operation.toWire, Json.occurs_obj]
  cases value <;> cases source <;> simp [Entries.names, Entries.values, Holds, htext, hname]

/-- **The names in the message of a patch** are those in the values of its operations. -/
theorem occurs_message (hname : name ∉ messageNames) :
    (message os).Occurs name ↔ ∃ o ∈ os, o.Holds name := by
  have htext : ¬ (Json.str Client.patchMessage).Occurs name := fun h => by cases h
  simp only [messageNames, List.mem_cons, not_or] at hname
  simp [message, Client.message, Json.occurs_obj, Json.occurs_arr, Entries.names, Entries.values,
    hname, htext, Operation.occurs_toWire, messageNames]

theorem Operation.wellFormed_value (h : Operation.ofWire v = .ok o) (hw : v.WellFormed) :
    ∀ u ∈ o.value, u.WellFormed := by
  intro u hu
  obtain ⟨ms, name, rfl, hget⟩ := Operation.exists_member h hu
  exact Json.WellFormed.child (s := .member name) hw hget

theorem IsPatch.wellFormed (h : IsPatch v os) (hw : v.WellFormed) :
    ∀ o ∈ os, ∀ u ∈ o.value, u.WellFormed := by
  intro o ho
  cases h with
  | single hread =>
    cases List.mem_singleton.1 ho
    exact Operation.wellFormed_value hread hw
  | list _ hreads =>
    obtain ⟨w, hmem, hread⟩ := exists_left_of_mem hreads ho
    exact Operation.wellFormed_value hread (Json.wellFormedItems_iff.1 hw w hmem)

theorem reads_toWire (os : List Operation) : Reads (os.map Operation.toWire) os :=
  List.forall₂_map_left_iff.2 (List.forall₂_same.2 fun o _ => Operation.ofWire_toWire o)

theorem isPatch_toWire (hne : os ≠ []) : IsPatch (.arr (os.map Operation.toWire)) os :=
  .list (mt List.map_eq_nil_iff.1 hne) (reads_toWire os)

/-- An operation with its value retagged alone is as it was, unless its value holds only the tag to
rename. -/
theorem Operation.retagged_eq_self_iff (hne : source ≠ target) (hw : ∀ u ∈ o.value, u.WellFormed) :
    o.withValue (Json.retag source target) = o ↔ (o.Holds source → o.Holds target) := by
  rw [withValue_eq_self_iff]
  constructor
  · rintro h ⟨u, hu, hs⟩
    exact ⟨u, hu, (Json.retag_eq_self_iff hne (hw u hu)).1 (h u hu) hs⟩
  · intro h u hu
    refine (Json.retag_eq_self_iff hne (hw u hu)).2 fun hs => ?_
    obtain ⟨u', hu', ht⟩ := h ⟨u, hu, hs⟩
    cases hu.symm.trans hu'
    exact ht

end Patch

/-! ## The message of a patch -/

namespace Format

variable {f : Format} {source target : String} {os : List Patch.Operation}

theorem Dialect.notMem_messageNames (h : Dialect f source target) :
    source ∉ Patch.messageNames ∧ target ∉ Patch.messageNames := by
  cases h <;> decide

theorem retag_message_of_holds (hf : Dialect f source target) (h : ∃ o ∈ os, o.Holds target) :
    Json.retag source target (Patch.message os) = Patch.message os :=
  Json.retag_of_occurs ((Patch.occurs_message hf.notMem_messageNames.2).2 h)

theorem retag_message_of_not_holds (hf : Dialect f source target)
    (hw : ∀ o ∈ os, ∀ u ∈ o.value, u.WellFormed) (h : ∀ o ∈ os, ¬ o.Holds target) :
    Json.retag source target (Patch.message os) =
      Patch.message (os.map (Patch.Operation.withValue (Json.retag source target))) := by
  obtain ⟨hsource, htarget⟩ := hf.notMem_messageNames
  by_cases hs : ∃ o ∈ os, o.Holds source
  · have ht : ¬ (Patch.message os).Occurs target := by
      rw [Patch.occurs_message htarget]
      rintro ⟨o, ho, hheld⟩
      exact h o ho hheld
    have hvalues : os.map (Patch.Operation.withValue (Json.rename source target)) =
        os.map (Patch.Operation.withValue (Json.retag source target)) :=
      List.map_congr_left fun o ho => Patch.Operation.withValue_congr fun u hu =>
        (Json.retag_eq_rename (hw o ho u hu) fun hocc => h o ho ⟨u, hu, hocc⟩).symm
    rw [Json.retag_of_source ((Patch.occurs_message hsource).2 hs) ht, rename_message hf, hvalues]
  · -- Without a tag to rename the message stays as it is, and so does each value.
    have hsame : ∀ o ∈ os, o.withValue (Json.retag source target) = o := fun o ho =>
      (Patch.Operation.retagged_eq_self_iff hf.ne (hw o ho)).2 fun hheld => absurd ⟨o, ho, hheld⟩ hs
    rw [Json.retag_of_not_occurs (mt (Patch.occurs_message hsource).1 hs),
      List.map_congr_left hsame, List.map_id']

/-- Retagged alone, all operations stay as they are exactly if each that holds the tag to rename
holds the wanted tag, too. -/
theorem map_retagged_eq_self_iff (hf : Dialect f source target)
    (hw : ∀ o ∈ os, ∀ u ∈ o.value, u.WellFormed) :
    os.map (Patch.Operation.withValue (Json.retag source target)) = os ↔
      ∀ o ∈ os, o.Holds source → o.Holds target := by
  have hone := fun o ho => Patch.Operation.retagged_eq_self_iff (o := o) hf.ne (hw o ho)
  constructor
  · intro hsame o ho
    refine (hone o ho).1 ?_
    exact List.map_inj_left.1 (hsame.trans (List.map_id' os).symm) o ho
  · intro h
    rw [List.map_congr_left fun o ho => (hone o ho).2 (h o ho), List.map_id']

/-- **The operations in a message**, in a dialect. -/
theorem exists_retag_message (hf : Dialect f source target)
    (hw : ∀ o ∈ os, ∀ u ∈ o.value, u.WellFormed) :
    ∃ os', Json.retag source target (Patch.message os) = Patch.message os' ∧
      List.Forall₂ Patch.Operation.Alike os os' ∧
      ((∃ o ∈ os, o.Holds target) → os' = os) ∧
      ((∀ o ∈ os, ¬ o.Holds target) →
        os' = os.map (Patch.Operation.withValue (Json.retag source target))) ∧
      (os' = os.map (Patch.Operation.withValue (Json.retag source target)) ↔
        ((∃ o ∈ os, o.Holds target) → ∀ o ∈ os, o.Holds source → o.Holds target)) := by
  by_cases h : ∃ o ∈ os, o.Holds target
  · refine ⟨os, retag_message_of_holds hf h, ?_, fun _ => rfl, fun hnone => ?_, ?_⟩
    · exact List.forall₂_same.2 fun o _ => .refl o
    · obtain ⟨o, ho, hheld⟩ := h
      exact absurd hheld (hnone o ho)
    · rw [eq_comm, map_retagged_eq_self_iff hf hw]
      exact ⟨fun hall _ => hall, fun hall => hall h⟩
  · have hnone : ∀ o ∈ os, ¬ o.Holds target := fun o ho hheld => h ⟨o, ho, hheld⟩
    refine ⟨_, retag_message_of_not_holds hf hw hnone, ?_, fun hsome => absurd hsome h,
      fun _ => rfl, iff_of_true rfl fun hsome => absurd hsome h⟩
    exact List.forall₂_map_right_iff.2
      (List.forall₂_same.2 fun o _ => Patch.Operation.alike_withValue _ o)

end Format

/-! ## Edits with a patch -/

namespace Client

variable {c : Client} {modeluri : String} {format : Option String} {f : Format}
  {source target : String} {v : Json} {os : List Patch.Operation}

/-- **The operations that an edit sends**, in a JSON format of the second version of the protocol.
They are the operations of the patch in order, and all of them are read back. If no value holds the
tag of the format, each value is sent as it would be alone; if one does, all values are sent as they
are. So each value is sent as it would be alone exactly if the tag of the format is in no value, or
in every value that holds the other tag. -/
theorem edit_operations (hv2 : c.protocol = .v2) (hformat : c.editFormat format = f.name)
    (hf : f.Dialect source target) (h : Patch.IsPatch v os) (hw : v.WellFormed) :
    ∃ os', c.edit modeluri (.patch v) format = .ok (.ask
        { method := .patch, path := "models", params := editParams modeluri f
          body := some (.obj [("data", Patch.message os')]) } Envelope.updateResult) ∧
      (v.isFinite = true → ∀ url a, c.requestUrl? "models" (editParams modeluri f) = some url →
        (c.submit modeluri (.patch v) format a).1 = some
          { method := .patch, url := url, body := some (.obj [("data", Patch.message os')]) }) ∧
      List.Forall₂ Patch.Operation.Alike os os' ∧
      Patch.operations (.arr (os'.map Patch.Operation.toWire)) = .ok os' ∧
      ((∃ o ∈ os, o.Holds target) → os' = os) ∧
      ((∀ o ∈ os, ¬ o.Holds target) →
        os' = os.map (Patch.Operation.withValue (Json.retag source target))) ∧
      (os' = os.map (Patch.Operation.withValue (Json.retag source target)) ↔
        ((∃ o ∈ os, o.Holds target) → ∀ o ∈ os, o.Holds source → o.Holds target)) := by
  obtain ⟨os', hmessage, halike, hvalues⟩ := Format.exists_retag_message hf (h.wellFormed hw)
  have hsent := Edit.SentAs.message hf (.patch h)
  rw [hmessage, ← hv2] at hsent
  have hedit : c.edit modeluri (.patch v) format = _ := edit_of_sentAs hformat hsent
  rw [hv2] at hedit
  refine ⟨os', hedit, fun hfinite url a hurl => ?_, halike, ?_, hvalues⟩
  · have hmessageFinite : (Patch.message os').isFinite = true := by
      rw [← hmessage]
      exact Json.isFinite_retag (h.isFinite hfinite)
    have houtcome : c.submit modeluri (.patch v) format a = _ := submit_of_sentAs hformat hsent a
    rw [hv2] at houtcome
    change c.requestUrl? (Protocol.editPath .v2) (editParams modeluri f) = some url at hurl
    rw [houtcome, hurl]
    simp only [hmessageFinite, if_true]
  · rw [Patch.operations_arr, mapM_eq_ok.2 (Patch.reads_toWire os')]
    rfl

/-- Operations with a tag to rename, without a value and with `null`. -/
def rebuilding : List Patch.Operation :=
  [{ action := .add, path := "m#w/nodes", value := some (.arr [.obj [("$type", .str "Task")]]) },
    { action := .move, path := "/b", source := some "/a" },
    { action := .replace, path := "/c", value := some .null }]

theorem edit_operations_rebuilding :
    let v : Json := .arr (rebuilding.map Patch.Operation.toWire)
    localClient.protocol = .v2 ∧ localClient.editFormat (some "json") = Format.json.name ∧
      Format.json.Dialect typeTagV2 typeTag ∧ Patch.IsPatch v rebuilding ∧ v.WellFormed ∧
      localClient.edit "m" (.patch v) (some "json") = .ok (.ask
        { method := .patch, path := "models", params := [("modeluri", "m"), ("format", "json")]
          body := some (.obj [("data", Patch.message
            [{ action := .add, path := "m#w/nodes",
                value := some (.arr [.obj [("eClass", .str "Task")]]) },
              { action := .move, path := "/b", source := some "/a" },
              { action := .replace, path := "/c", value := some .null }])]) }
        Envelope.updateResult) := by
  intro v
  have hpatch : Patch.IsPatch v rebuilding := Patch.isPatch_toWire (List.cons_ne_nil _ _)
  have hwell : v.WellFormed := by
    simp [v, rebuilding, Patch.Operation.toWire, Json.WellFormed, Json.WellFormedItems,
      Json.WellFormedMembers, Entries.Distinct, Entries.names]
  obtain ⟨os', hedit, -, -, -, -, halone, -⟩ :=
    @edit_operations localClient "m" (some "json") _ _ _ _ _ rfl rfl .json hpatch hwell
  refine ⟨rfl, rfl, .json, hpatch, hwell, ?_⟩
  rw [hedit, halone (by decide)]
  rfl

/-- The value of the first operation holds the tag of the format. So the tag in the value of the
second operation stays, which would be renamed alone. -/
theorem edit_mixed :
    let v : Json := .arr
      [.obj [("op", .str "replace"), ("path", .str "m#a/x"),
          ("value", .obj [("eClass", .str "A")])],
        .obj [("op", .str "replace"), ("path", .str "m#b/x"),
          ("value", .obj [("$type", .str "B")])]]
    let first : Patch.Operation :=
      { action := .replace, path := "m#a/x", value := some (.obj [("eClass", .str "A")]) }
    let second : Patch.Operation :=
      { action := .replace, path := "m#b/x", value := some (.obj [("$type", .str "B")]) }
    Patch.operations v = .ok [first, second] ∧
      ((localClient.submit "m" (.patch v) (some "json") .timedOut).1.bind SentRequest.body) =
        some (.obj [("data", Patch.message [first, second])]) ∧
      ¬ second.Holds typeTag ∧
      (second.withValue (Json.retag typeTagV2 typeTag)).value =
        some (.obj [("eClass", .str "B")]) := by
  refine ⟨rfl, ?_, ?_, ?_⟩ <;> decide +kernel

end Client

end RemoteModel
