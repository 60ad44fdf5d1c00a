import RemoteModel.Command.Wire
import RemoteModel.Proofs.Check
import RemoteModel.Proofs.Entries

/-!
# The fields of a command, written and read back

The fields of a command are written without what is missing (`present`) or with `null` for it
(`complete`). Reading makes no difference between the two: both show the fields (`Shows`).

**Main statement.** `check_of_shows`: fields are read back from every object that shows them, if
they are as reading leaves them (`Plain`). `plain_of_check` says that fields that were read are.
-/

namespace RemoteModel.Command.Fields

variable {f : Fields} {ms more : Entries Json} {type : String}
  {kind : Entries Json → Checked String}

/-- Fields are read one by one. -/
theorem check_eq_ok :
    check type kind ms = .ok f ↔
      Check.defaulted ms ["eClass", "e_class"] type Check.text = .ok f.type ∧
      kind ms = .ok f.kind ∧
      Check.optional ms ["owner"] Reference.check = .ok f.owner ∧
      Check.optional ms ["feature"] Check.text = .ok f.feature ∧
      Check.optional ms ["indices"] (Check.list fun v => (Check.integer v).map Json.int) =
        .ok f.indices ∧
      Check.optional ms ["dataValues", "data_values"] (Check.list data) = .ok f.dataValues ∧
      Check.optional ms ["objectValues", "object_values"] (Check.list Reference.check) =
        .ok f.objectValues ∧
      Check.optional ms ["objectsToAdd", "objects_to_add"] (Check.list Check.object) =
        .ok f.objectsToAdd ∧
      Check.optional ms ["properties"] (fun v =>
        (Check.table Check.text v).map fun ps => ps.map fun p => (p.1, Json.str p.2)) =
          .ok f.properties := by
  simp only [check, Checked.seq_eq_ok, Checked.map_eq_ok]
  constructor
  · rintro ⟨_, _, ⟨_, _, ⟨_, _, ⟨_, _, ⟨_, _, ⟨_, _, ⟨_, _, ⟨_, _, ⟨_, htype, rfl⟩, hkind, rfl⟩,
      howner, rfl⟩, hfeature, rfl⟩, hindices, rfl⟩, hdata, rfl⟩, hvalues, rfl⟩, hobjects, rfl⟩,
      hproperties, rfl⟩
    exact ⟨htype, hkind, howner, hfeature, hindices, hdata, hvalues, hobjects, hproperties⟩
  · rintro ⟨htype, hkind, howner, hfeature, hindices, hdata, hvalues, hobjects, hproperties⟩
    exact ⟨_, _, ⟨_, _, ⟨_, _, ⟨_, _, ⟨_, _, ⟨_, _, ⟨_, _, ⟨_, _, ⟨_, htype, rfl⟩, hkind, rfl⟩,
      howner, rfl⟩, hfeature, rfl⟩, hindices, rfl⟩, hdata, rfl⟩, hvalues, rfl⟩, hobjects, rfl⟩,
      hproperties, rfl⟩

/-! ## Fields that were read -/

/-- Fields as reading leaves them. -/
structure Plain (f : Fields) : Prop where
  indices : ∀ vs, f.indices = some vs → ∀ v ∈ vs, ∃ n, v = .int n
  dataValues : ∀ vs, f.dataValues = some vs → ∀ v ∈ vs, isData v = true
  objectsToAdd : ∀ os, f.objectsToAdd = some os → ∀ ms ∈ os, Json.isFinite (.obj ms) = true
  properties : ∀ ps, f.properties = some ps → ∀ p ∈ ps, ∃ s, p.2 = .str s

theorem isFinite_of_get? (h : Json.isFinite (.obj ms) = true) {name : String} {v : Json}
    (hget : ms.get? name = some v) : v.isFinite = true :=
  Json.finiteMembers_iff.1 h (name, v) (Entries.mem_of_get? hget)

theorem exists_item {α : Type} {names : List String} {c : Check α} {as : List α} {a : α}
    (h : Check.optional ms names (Check.list c) = .ok (some as)) (ha : a ∈ as) :
    ∃ name items v, ms.get? name = some (.arr items) ∧ v ∈ items ∧ c v = .ok a := by
  obtain ⟨name, v, hget, hlist⟩ := Check.exists_of_optional h
  obtain ⟨items, rfl, hitems⟩ := Check.list_eq_ok.1 hlist
  obtain ⟨u, hu, hua⟩ := exists_left_of_mem hitems ha
  exact ⟨name, items, u, hget, hu, hua⟩

theorem plain_of_check (h : check type kind ms = .ok f) (hms : Json.isFinite (.obj ms) = true) :
    f.Plain := by
  obtain ⟨-, -, -, -, hindices, hdata, -, hobjects, hproperties⟩ := check_eq_ok.1 h
  refine ⟨fun vs hvs v hv => ?_, fun vs hvs v hv => ?_, fun os hos m hm => ?_,
    fun ps hps p hp => ?_⟩
  · rw [hvs] at hindices
    obtain ⟨-, -, u, -, -, hu⟩ := exists_item hindices hv
    obtain ⟨n, -, rfl⟩ := Checked.map_eq_ok.1 hu
    exact ⟨n, rfl⟩
  · rw [hvs] at hdata
    obtain ⟨-, -, u, -, -, hu⟩ := exists_item hdata hv
    by_cases hdatum : isData u = true
    · rw [data, if_pos hdatum, Checked.ok.injEq] at hu
      exact hu ▸ hdatum
    · rw [data, if_neg hdatum] at hu
      cases hu
  · rw [hos] at hobjects
    obtain ⟨name, items, u, hget, hu, hobject⟩ := exists_item hobjects hm
    have hfinite : Json.isFinite (.arr items) = true := isFinite_of_get? hms hget
    cases u with
    | obj ms' =>
      cases hobject
      exact Json.finiteItems_iff.1 hfinite _ hu
    | _ => cases hobject
  · rw [hps] at hproperties
    obtain ⟨-, v, -, hv⟩ := Check.exists_of_optional hproperties
    obtain ⟨qs, -, rfl⟩ := Checked.map_eq_ok.1 hv
    obtain ⟨q, -, rfl⟩ := List.mem_map.1 hp
    exact ⟨q.2, rfl⟩

theorem properties_map {ps : Entries Json} (h : ∀ p ∈ ps, ∃ s, p.2 = .str s) :
    (Check.table Check.text (.obj (ps.map fun p => (p.1, p.2.finiteOrNull)))).map
      (fun qs => qs.map fun q => (q.1, Json.str q.2)) = .ok ps := by
  obtain ⟨qs, rfl⟩ : ∃ qs : Entries String, qs.map (fun q => (q.1, Json.str q.2)) = ps := by
    induction ps with
    | nil => exact ⟨[], rfl⟩
    | cons p rest ih =>
      obtain ⟨hp, hrest⟩ := List.forall_mem_cons.1 h
      obtain ⟨s, hs⟩ := hp
      obtain ⟨qs, hqs⟩ := ih hrest
      exact ⟨(p.1, s) :: qs, by rw [List.map_cons, hqs, ← hs]⟩
  have hmembers : Check.members Check.text
      ((qs.map fun q => (q.1, Json.str q.2)).map fun p => (p.1, p.2.finiteOrNull)) = .ok qs := by
    refine Check.members_eq_ok.2 ?_
    rw [List.map_map]
    exact List.forall₂_map_left_iff.2 (List.forall₂_same.2 fun q _ => ⟨rfl, rfl⟩)
  rw [Check.table, hmembers]
  rfl

/-! ## Objects that show fields -/

/-- The further names by which a field is found. -/
def aliases : List String := ["e_class", "data_values", "object_values", "objects_to_add"]

/-- An object has what is written for a field under its name, and nothing or `null` for a missing
field; no field is found under another name. -/
structure Shows (ms : Entries Json) (f : Fields) : Prop where
  field : ∀ name o, (name, o) ∈ f.written → Json.ofOption (ms.get? name) = Json.ofOption o
  noAlias : ∀ name ∈ aliases, ms.get? name = none

/-- The names under which fields are written. -/
def names : List String :=
  ["eClass", "type", "owner", "feature", "indices", "dataValues", "objectValues", "objectsToAdd",
    "properties"]

theorem names_written (f : Fields) : Entries.names f.written = names := rfl

theorem distinct_written (f : Fields) : Entries.Distinct f.written := by
  rw [Entries.Distinct, names_written]
  decide

/-- What stands behind the fields of a compound command. -/
def IsTail (more : Entries Json) : Prop := ∀ name ∈ more.names, name = "commands"

theorem isTail_nil : IsTail [] := fun _ h => nomatch h

theorem isTail_commands (v : Json) : IsTail [("commands", v)] := fun _ h => List.mem_singleton.1 h

theorem get?_tail (h : IsTail more) {name : String} (hname : name ≠ "commands") :
    more.get? name = none :=
  Entries.get?_eq_none fun hmem => hname (h name hmem)

theorem ne_commands {name : String} {o : Option Json} (h : (name, o) ∈ f.written) :
    name ≠ "commands" := by
  have hmem : name ∈ names := f.names_written ▸ List.mem_map_of_mem h
  rintro rfl
  exact absurd hmem (by decide)

theorem get?_alias (f : Fields) {name : String} (h : name ∈ aliases) :
    Entries.get? f.written name = none ∧ name ≠ "commands" := by
  have hother : ∀ name ∈ aliases, name ∉ names ∧ name ≠ "commands" := by decide
  exact ⟨Entries.get?_eq_none (hother name h).1, (hother name h).2⟩

theorem shows_present (h : IsTail more) : Shows (f.present ++ more) f where
  field name o hmem := by
    rw [Entries.get?_append, get?_tail h (ne_commands hmem), Option.or_none, present,
      Entries.get?_filterMap f.distinct_written, Entries.get?_of_mem f.distinct_written hmem]
    rfl
  noAlias name hname := by
    obtain ⟨hwritten, hne⟩ := f.get?_alias hname
    rw [Entries.get?_append, get?_tail h hne, Option.or_none, present,
      Entries.get?_filterMap f.distinct_written, hwritten]
    rfl

theorem shows_complete (h : IsTail more) : Shows (f.complete ++ more) f where
  field name o hmem := by
    rw [Entries.get?_append, get?_tail h (ne_commands hmem), Option.or_none, complete,
      Entries.get?_map, Entries.get?_of_mem f.distinct_written hmem]
    rfl
  noAlias name hname := by
    obtain ⟨hwritten, hne⟩ := f.get?_alias hname
    rw [Entries.get?_append, get?_tail h hne, Option.or_none, complete, Entries.get?_map, hwritten]
    rfl

theorem get?_commands (f : Fields) : Entries.get? f.written "commands" = none :=
  Entries.get?_eq_none (f.names_written ▸ by decide)

theorem get?_commands_present (f : Fields) (v : Json) :
    Entries.get? (f.present ++ [("commands", v)]) "commands" = some v := by
  rw [Entries.get?_append, present, Entries.get?_filterMap f.distinct_written, f.get?_commands]
  rfl

theorem get?_commands_complete (f : Fields) (v : Json) :
    Entries.get? (f.complete ++ [("commands", v)]) "commands" = some v := by
  rw [Entries.get?_append, complete, Entries.get?_map, f.get?_commands]
  rfl

namespace Shows

theorem get?_of_written (hs : Shows ms f) {name : String} {v : Json}
    (hmem : (name, some v) ∈ f.written) (hv : v ≠ .null) : ms.get? name = some v := by
  have hfield := hs.field name _ hmem
  cases hget : ms.get? name with
  | none => exact absurd (by simpa [hget, Json.ofOption] using hfield.symm) hv
  | some w => rw [show w = v by simpa [hget, Json.ofOption] using hfield]

theorem get?_type (hs : Shows ms f) : ms.get? "eClass" = some (.str f.type) :=
  hs.get?_of_written (by simp [written]) Json.noConfusion

theorem get?_kind (hs : Shows ms f) : ms.get? "type" = some (.str f.kind) :=
  hs.get?_of_written (by simp [written]) Json.noConfusion

theorem optional {α : Type} (hs : Shows ms f) {name : String} {others : List String} {c : Check α}
    {x : Option α} (wire : α → Json) (hmem : (name, x.map wire) ∈ f.written)
    (hothers : ∀ n ∈ others, n ∈ aliases) (hnull : ∀ a, wire a ≠ .null)
    (hback : ∀ a, x = some a → c (wire a) = .ok a) :
    Check.optional ms (name :: others) c = .ok x :=
  Check.optional_of_shown (hs.field name _ hmem) (fun n hn => hs.noAlias n (hothers n hn)) hnull
    hback

theorem optional_list {α : Type} (hs : Shows ms f) {name : String} {others : List String}
    {c : Check α} {x : Option (List α)} (wire : α → Json) (hmem : (name, listOf wire x) ∈ f.written)
    (hothers : ∀ n ∈ others, n ∈ aliases)
    (hback : ∀ as, x = some as → ∀ a ∈ as, c (wire a) = .ok a) :
    Check.optional ms (name :: others) (Check.list c) = .ok x :=
  hs.optional (fun as => .arr (as.map wire)) hmem hothers (fun _ => Json.noConfusion) fun as has =>
    Check.list_map (hback as has)

end Shows

/-- **Fields are read back** from an object that shows them. -/
theorem check_of_shows (hs : Shows ms f) (hf : f.Plain) (hkind : kind ms = .ok f.kind) :
    check type kind ms = .ok f := by
  refine check_eq_ok.2 ⟨?_, hkind, ?_, ?_, ?_, ?_, ?_, ?_, ?_⟩
  · refine Check.defaulted_eq_ok.2 (.inr ⟨"eClass", .str f.type, ?_, rfl⟩)
    simp [Check.find?, hs.get?_type]
  · exact hs.optional Reference.toWire (by simp [written]) (by decide) (fun _ => Json.noConfusion)
      fun r _ => r.check_toWire
  · exact hs.optional Json.str (by simp [written]) (by decide) (fun _ => Json.noConfusion)
      fun s _ => rfl
  · refine hs.optional_list Json.finiteOrNull (by simp [written]) (by decide) fun vs hvs v hv => ?_
    obtain ⟨n, rfl⟩ := hf.indices vs hvs v hv
    rfl
  · refine hs.optional_list writtenValue (by simp [written]) (by decide) fun vs hvs v hv => ?_
    have hdata := hf.dataValues vs hvs v hv
    cases v with
    | bool _ | int _ | float _ | str _ => rfl
    | _ => cases hdata
  · exact hs.optional_list Reference.toWire (by simp [written]) (by decide) fun rs _ r _ =>
      r.check_toWire
  · refine hs.optional_list (fun ms => .obj (ms.map fun m => (m.1, m.2.finiteOrNull)))
      (by simp [written]) (by decide) fun os hos ms hms => ?_
    have hfinite := Json.finiteOrNull_eq_self (hf.objectsToAdd os hos ms hms)
    rw [Json.finiteOrNull, Json.finiteOrNullMembers_eq] at hfinite
    rw [hfinite]
    rfl
  · refine hs.optional (fun ps => .obj (ps.map fun p => (p.1, p.2.finiteOrNull)))
      (by simp [written]) (by decide) (fun _ => Json.noConfusion) fun ps hps => ?_
    exact properties_map fun p hp => hf.properties ps hps p hp

end RemoteModel.Command.Fields
