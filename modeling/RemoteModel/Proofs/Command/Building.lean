import RemoteModel.Command.Build
import RemoteModel.Proofs.Command.RoundTrip

/-!
# Built commands on the wire

A builder puts values under one field of a command, which is chosen by what the values are. Values
that are set are checked for being data; values that are added and are not all objects are taken as
they come.

**Main statement.** `build_wire`: a built command has its values as one kind, and it is read back
from its wire form. The one exception are values that are added and neither are all objects nor all
data (`Builder.Takes`): the command is built, and its wire form is refused.

* *Building* is described by `Carries`, with one constructor for each kind of each builder
  (`carries_of_build`).
* *Reading back* a command that carries what its builder takes follows from its fields being as
  reading leaves them (`readable_of_carries`); a value that is no data is found by the check of the
  fields (`ofWire_refused`).
-/

namespace RemoteModel.Command

variable {owner : Value} {r : Reference} {feature : String} {values : List Value} {c : Command}
  {f : Fields} {ms : Entries Json}

/-- The builders of commands, with what they take besides an owner, a feature and values. -/
inductive Builder where
  | set
  | add (index : Option Json)
  | remove

namespace Builder

def variant : Builder → Variant
  | set => .set
  | add _ => .add
  | remove => .remove

def build : Builder → Value → String → List Value → Except Failure Command
  | set, owner, feature, values => Command.set owner feature values
  | add index, owner, feature, values => Command.add owner feature values index
  | remove, owner, feature, values => Command.remove owner feature values

/-- An index, if there is one, is an integer. -/
def Indexed : Builder → Prop
  | add index => ∀ i, index = some i → ∃ n, i = .int n
  | _ => True

/-- Values to add are objects and references, or truth values, numbers and texts. -/
def Takes : Builder → List Value → Prop
  | add _, values => areTagged values = true ∨ ∀ v ∈ values, isData v.toWire = true
  | _, _ => True

end Builder

variable {b : Builder}

/-! ## What is built -/

/-- The fields of a built command: its values are there as one kind. Added objects come with a
reference to each of them, by its type and its place among them. -/
inductive Carries (r : Reference) (feature : String) (values : List Value) :
    Builder → Fields → Prop
  | setData (h : ∀ v ∈ values, isData v.toWire = true) :
      Carries r feature values .set
        { kind := "set", owner := some r, feature := some feature,
          dataValues := some (values.map Value.toWire) }
  | setReferences {refs : List Reference}
      (h : List.Forall₂ (fun v ref => v.check = .ok ref) values refs) :
      Carries r feature values .set
        { kind := "set", owner := some r, feature := some feature, objectValues := some refs }
  | addData {index : Option Json} (h : values = [] ∨ areTagged values = false) :
      Carries r feature values (.add index)
        { kind := "add", owner := some r, feature := some feature,
          indices := index.map fun i => [i], dataValues := some (values.map Value.toWire) }
  | addObjects {index : Option Json} {refs : List Reference} {objects : List (Entries Json)}
      (htagged : areTagged values = true)
      (hobjects : List.Forall₂ (fun v ms => v.toWire = .obj ms) values objects)
      (hlength : refs.length = objects.length)
      (hrefs : ∀ (i : Nat) (ms : Entries Json), objects[i]? = some ms →
        ∃ type, ms.get? "eClass" = some (.str type) ∧
          refs[i]? = some ⟨type, "//@objectsToAdd." ++ toString i⟩) :
      Carries r feature values (.add index)
        { kind := "add", owner := some r, feature := some feature,
          indices := index.map fun i => [i], objectValues := some refs,
          objectsToAdd := some objects }
  | removePositions (h : ∀ v ∈ values, ∃ n, v.toWire = .int n) :
      Carries r feature values .remove
        { kind := "remove", owner := some r, feature := some feature,
          indices := some (values.map Value.toWire) }
  | removeReferences {refs : List Reference}
      (h : List.Forall₂ (fun v ref => v.check = .ok ref) values refs) :
      Carries r feature values .remove
        { kind := "remove", owner := some r, feature := some feature, objectValues := some refs }

theorem references_eq_ok {refs : List Reference} :
    values.mapM (fun v => v.check.orFail) = .ok refs ↔
      List.Forall₂ (fun v ref => v.check = .ok ref) values refs := by
  rw [mapM_eq_ok]
  simp only [Checked.orFail_eq_ok]

theorem data_eq_ok {u v : Json} : data u = .ok v ↔ isData u = true ∧ u = v := by
  by_cases hu : isData u = true <;> simp [data, hu, Check.misfit]

theorem items_data_eq_ok {us vs : List Json} (h : Check.items data 0 us = .ok vs) :
    vs = us ∧ ∀ u ∈ us, isData u = true := by
  have hitems := Check.items_eq_ok.1 h
  simp only [data_eq_ok] at hitems
  clear h
  induction hitems with
  | nil => exact ⟨rfl, fun _ hu => nomatch hu⟩
  | cons hu _ ih =>
    obtain ⟨hdata, rfl⟩ := hu
    obtain ⟨rfl, hrest⟩ := ih
    exact ⟨rfl, List.forall_mem_cons.2 ⟨hdata, hrest⟩⟩

theorem carries_set (h : set owner feature values = .ok c) :
    ∃ r f, owner.check = .ok r ∧ c = .simple .set f ∧ Carries r feature values .set f := by
  unfold set at h
  split_ifs at h with hrefs
  · obtain ⟨r, hr, h⟩ := bind_eq_ok.1 h
    obtain ⟨refs, hmap, h⟩ := bind_eq_ok.1 h
    cases h
    exact ⟨r, _, Checked.orFail_eq_ok.1 hr, rfl, .setReferences (references_eq_ok.1 hmap)⟩
  · obtain ⟨r, hr, h⟩ := bind_eq_ok.1 h
    obtain ⟨vs, hvs, h⟩ := bind_eq_ok.1 h
    cases h
    obtain ⟨rfl, hdata⟩ :=
      items_data_eq_ok (Checked.under_eq_ok.1 (Checked.orFail_eq_ok.1 hvs))
    exact ⟨r, _, Checked.orFail_eq_ok.1 hr, rfl, .setData (List.forall_mem_map.1 hdata)⟩

theorem carries_remove (h : remove owner feature values = .ok c) :
    ∃ r f, owner.check = .ok r ∧ c = .simple .remove f ∧ Carries r feature values .remove f := by
  unfold remove at h
  obtain ⟨r, hr, h⟩ := bind_eq_ok.1 h
  split_ifs at h with hintegers
  · cases h
    refine ⟨r, _, Checked.orFail_eq_ok.1 hr, rfl, .removePositions fun v hv => ?_⟩
    have hinteger : v.isInteger = true := List.all_eq_true.1 hintegers v hv
    unfold Value.isInteger at hinteger
    split at hinteger
    · exact ⟨_, rfl⟩
    · cases hinteger
  · obtain ⟨refs, hmap, h⟩ := bind_eq_ok.1 h
    cases h
    exact ⟨r, _, Checked.orFail_eq_ok.1 hr, rfl, .removeReferences (references_eq_ok.1 hmap)⟩

theorem exists_of_isTagged {v : Value} (h : v.isTagged = true) :
    ∃ ms type, v.toWire = .obj ms ∧ Entries.get? ms "eClass" = some (.str type) := by
  cases v with
  | reference r => exact ⟨_, r.type, rfl, rfl⟩
  | plain w =>
    obtain ⟨type, htype⟩ := Json.hasString_iff.1 h
    cases w with
    | obj ms => exact ⟨ms, type, rfl, htype⟩
    | _ => cases htype

theorem forall₂_members (h : areTagged values = true) :
    List.Forall₂ (fun v ms => v.toWire = .obj ms) values
      (values.filterMap fun v => v.toWire.members?) := by
  induction values with
  | nil => exact .nil
  | cons v rest ih =>
    obtain ⟨hv, hrest⟩ := List.forall_mem_cons.1 (List.all_eq_true.1 h)
    obtain ⟨ms, type, hms, -⟩ := exists_of_isTagged hv
    have hmembers : v.toWire.members? = some ms := by
      rw [hms]
      rfl
    rw [List.filterMap_cons, hmembers]
    exact .cons hms (ih (List.all_eq_true.2 hrest))

theorem carries_add {index : Option Json} (h : add owner feature values index = .ok c) :
    ∃ r f, owner.check = .ok r ∧ c = .simple .add f ∧
      Carries r feature values (.add index) f := by
  unfold add at h
  obtain ⟨r, hr, h⟩ := bind_eq_ok.1 h
  split_ifs at h with hobjects
  · cases h
    refine ⟨r, _, Checked.orFail_eq_ok.1 hr, rfl, ?_⟩
    have htagged : areTagged values = true := (Bool.and_eq_true_iff.1 hobjects).2
    have hmembers := forall₂_members htagged
    refine .addObjects htagged hmembers (by simp [addedReferences]) fun i ms hms => ?_
    obtain ⟨v, hv, hvms⟩ := exists_left_of_mem hmembers (List.mem_of_getElem? hms)
    obtain ⟨ms', type, hms', htype⟩ := exists_of_isTagged (List.all_eq_true.1 htagged v hv)
    cases hvms.symm.trans hms'
    refine ⟨type, htype, ?_⟩
    have htext : (Entries.get? ms typeTag).bind Json.string? = some type := by
      rw [show Entries.get? ms typeTag = some (.str type) from htype]
      rfl
    simp [addedReferences, List.getElem?_zipIdx, hms, htext, addedPlace]
  · cases h
    refine ⟨r, _, Checked.orFail_eq_ok.1 hr, rfl, .addData ?_⟩
    cases values with
    | nil => exact .inl rfl
    | cons v rest => exact .inr (by simpa using hobjects)

/-- **A built command** carries the values. -/
theorem carries_of_build (h : b.build owner feature values = .ok c) :
    ∃ r f, owner.check = .ok r ∧ c = .simple b.variant f ∧ Carries r feature values b f := by
  cases b with
  | set => exact carries_set h
  | add index => exact carries_add h
  | remove => exact carries_remove h

/-! ## Reading back -/

theorem tag_of_carries (h : Carries r feature values b f) :
    f.type = commandUri ∧ b.variant.tag? = some f.kind := by
  cases h <;> exact ⟨rfl, rfl⟩

theorem ofTag_of_tag? {variant : Variant} {tag : String} (h : variant.tag? = some tag) :
    Variant.ofTag tag = variant ∧ tag ≠ compoundTag := by
  cases variant with
  | custom => cases h
  | set | add | remove =>
    cases h
    decide

/-- The fields of a built command are as reading leaves them, if its builder takes the values. -/
theorem plain_of_carries (h : Carries r feature values b f) (hindexed : b.Indexed)
    (htakes : b.Takes values) (hfinite : ∀ v ∈ values, v.toWire.isFinite = true) : f.Plain := by
  have hindex : ∀ index : Option Json, (Builder.add index).Indexed → ∀ vs : List Json,
      (index.map fun i => [i]) = some vs → ∀ v ∈ vs, ∃ n, v = .int n := by
    intro index hindexed vs hvs v hv
    obtain ⟨i, rfl, rfl⟩ := Option.map_eq_some_iff.1 hvs
    exact List.mem_singleton.1 hv ▸ hindexed i rfl
  cases h with
  | setData h =>
    refine ⟨nofun, ?_, nofun, nofun⟩
    intro vs hvs
    cases hvs
    exact List.forall_mem_map.2 h
  | setReferences h =>
    exact ⟨nofun, nofun, nofun, nofun⟩
  | addData h =>
    refine ⟨hindex _ hindexed, ?_, nofun, nofun⟩
    intro vs hvs
    cases hvs
    have hdata : ∀ v ∈ values, isData v.toWire = true := by
      rcases h with rfl | hmixed
      · exact fun v hv => nomatch hv
      · rcases htakes with htagged | hdata
        · exact absurd htagged (by simp [hmixed])
        · exact hdata
    exact List.forall_mem_map.2 hdata
  | addObjects _ hobjects =>
    refine ⟨hindex _ hindexed, nofun, ?_, nofun⟩
    intro objects' hobjects' ms hms
    cases hobjects'
    obtain ⟨v, hv, hvms⟩ := exists_left_of_mem hobjects hms
    exact hvms ▸ hfinite v hv
  | removePositions h =>
    refine ⟨?_, nofun, nofun, nofun⟩
    intro vs hvs
    cases hvs
    exact List.forall_mem_map.2 h
  | removeReferences h =>
    exact ⟨nofun, nofun, nofun, nofun⟩

/-- **What a builder takes is read back.** -/
theorem ofWire_of_carries (h : Carries r feature values b f) (hindexed : b.Indexed)
    (htakes : b.Takes values) (hfinite : ∀ v ∈ values, v.toWire.isFinite = true) :
    ofWire (toWire (.simple b.variant f)) = .ok (.simple b.variant f) := by
  obtain ⟨htype, htag⟩ := tag_of_carries h
  obtain ⟨hvariant, hkind⟩ := ofTag_of_tag? htag
  have hplain := plain_of_carries h hindexed htakes hfinite
  rw [← hvariant]
  exact ofWire_form isForm_toWire (.simple hplain (.inl htype) hkind)

/-! ## Refusing -/

theorem ofWire_eq_error {tag : String} (hcommand : isCommand (.obj ms) = true)
    (htag : ms.get? "type" = some (.str tag)) (hne : tag ≠ compoundTag)
    (hcheck : ∀ f, Fields.check commandUri Fields.anyKind ms ≠ .ok f) :
    ofWire (.obj ms) = .error (.reported (.undecodable "Command" (.obj ms))) := by
  have htext : Json.text? (.obj ms) "type" = some tag := Json.text?_eq_some.2 htag
  have hcompound : ¬ IsCompound (.obj ms) := fun h =>
    hne (Option.some.inj (htext.symm.trans h.2))
  have hread : ∀ c, ofWire (.obj ms) ≠ .ok c := by
    intro c hc
    obtain ⟨f, hf, -⟩ := (ofWire_simple hcommand htag hne).1 hc
    exact hcheck f hf
  rw [ofWire_of_not_compound hcommand hcompound] at hread ⊢
  cases hvariant : checkVariant (.ofTag ((Json.text? (.obj ms) "type").getD "")) (.obj ms) with
  | ok c => exact absurd (orNone_eq_ok.2 hvariant) (hread c)
  | bad issues => rfl

theorem isData_writtenValue {v : Json} (h : isData (Fields.writtenValue v) = true) :
    isData v = true := by
  cases v with
  | null | arr | obj => cases h
  | _ => rfl

/-- **A data value that is no data** is not read back. -/
theorem ofWire_refused {variant : Variant} {vs : List Json} {v : Json}
    (htype : f.type = commandUri) (hkind : f.kind ≠ compoundTag) (hdata : f.dataValues = some vs)
    (hv : v ∈ vs) (hno : ¬ isData v = true) :
    ofWire (toWire (.simple variant f)) =
      .error (.reported (.undecodable "Command" (toWire (.simple variant f)))) := by
  have hs : Fields.Shows f.present f := by simpa using f.shows_present Fields.isTail_nil
  have hget : Entries.get? f.present "dataValues" = some (.arr (vs.map Fields.writtenValue)) :=
    hs.get?_of_written (by simp [Fields.written, Fields.listOf, hdata]) Json.noConfusion
  refine ofWire_eq_error (isCommand_of_shows hs (.inl htype)) hs.get?_kind hkind fun f' hf' => ?_
  obtain ⟨-, -, -, -, -, hvalues, -⟩ := Fields.check_eq_ok.1 hf'
  rw [Check.optional_of_get? hget Json.noConfusion, Checked.under_eq_ok] at hvalues
  obtain ⟨us, hus, -⟩ := Checked.map_eq_ok.1 hvalues
  have hwritten := (items_data_eq_ok hus).2 _ (List.mem_map_of_mem hv)
  exact hno (isData_writtenValue hwritten)

/-- Values that can be added and are not taken are data values, one of which is no data. -/
theorem exists_of_not_takes (h : Carries r feature values b f) (hno : ¬ b.Takes values) :
    ∃ vs v, f.dataValues = some vs ∧ v ∈ vs ∧ ¬ isData v = true := by
  cases h with
  | addData h =>
    have hmixed := not_or.1 hno
    obtain ⟨v, hv, hnone⟩ := not_forall₂.1 hmixed.2
    exact ⟨_, _, rfl, List.mem_map_of_mem hv, hnone⟩
  | addObjects htagged => exact absurd (.inl htagged) hno
  | setData | setReferences | removePositions | removeReferences => exact absurd trivial hno

/-! ## The wire forms of built commands -/

/-- **A built command on the wire**, for all values without a number that is not finite. The command
has the values as one kind (`Carries`). If the builder takes the values and an index is an integer,
then the command is read back from its wire form, and its data values are truth values, numbers and
texts. Values that an addition does not take are built into a command whose wire form is refused. -/
theorem build_wire (h : b.build owner feature values = .ok c)
    (hfinite : ∀ v ∈ values, v.toWire.isFinite = true) :
    ∃ r f, owner.check = .ok r ∧ c = .simple b.variant f ∧ Carries r feature values b f ∧
      (b.Indexed → b.Takes values → ofWire c.toWire = .ok c ∧
        ∀ vs, f.dataValues = some vs → ∀ v ∈ vs, isData v = true) ∧
      (¬ b.Takes values →
        ofWire c.toWire = .error (.reported (.undecodable "Command" c.toWire))) := by
  obtain ⟨r, f, hr, rfl, hcarries⟩ := carries_of_build h
  refine ⟨r, f, hr, rfl, hcarries, fun hindexed htakes => ⟨?_, ?_⟩, fun hno => ?_⟩
  · exact ofWire_of_carries hcarries hindexed htakes hfinite
  · exact (plain_of_carries hcarries hindexed htakes hfinite).dataValues
  · obtain ⟨htype, htag⟩ := tag_of_carries hcarries
    obtain ⟨vs, v, hdata, hv, hnone⟩ := exists_of_not_takes hcarries hno
    exact ofWire_refused htype (ofTag_of_tag? htag).2 hdata hv hnone

/-- A reference to a machine. -/
def machine : Value := .reference ⟨"Machine", "//"⟩

/-- An object, and a reference to another one. -/
def parts : List Value :=
  [.plain (.obj [("eClass", .str "Tank"), ("size", .int 2)]), .reference ⟨"Pump", "//@parts.0"⟩]

theorem build_wire_parts :
    ∃ c, (Builder.add (some (.int 0))).build machine "parts" parts = .ok c ∧
      (∀ v ∈ parts, v.toWire.isFinite = true) ∧
      ∃ r f, machine.check = .ok r ∧ c = .simple .add f ∧
        Carries r "parts" parts (.add (some (.int 0))) f ∧
        ofWire c.toWire = .ok c := by
  have hfinite : ∀ v ∈ parts, v.toWire.isFinite = true := by decide
  obtain ⟨r, f, hr, hc, hcarries, hback, -⟩ :=
    build_wire (show (Builder.add (some (.int 0))).build machine "parts" parts = .ok _ from rfl)
      hfinite
  have hindexed : (Builder.add (some (.int 0))).Indexed :=
    fun i hi => ⟨0, (Option.some.inj hi).symm⟩
  exact ⟨_, rfl, hfinite, r, f, hr, hc, hcarries, (hback hindexed (.inl rfl)).1⟩

/-- A number beside an object. -/
def mixed : List Value := [.plain (.int 1), .plain (.obj [("eClass", .str "Tank")])]

/-- A mixture is refused when it is set. An addition is built of it, and its wire form is
refused. -/
theorem add_mixed :
    (∀ v ∈ mixed, v.toWire.isFinite = true) ∧
      (∃ c, add machine "parts" mixed none = .ok c ∧
        ofWire c.toWire = .error (.reported (.undecodable "Command" c.toWire))) ∧
      set machine "parts" mixed = .error (.rejected [⟨["data_values", "1"], none⟩]) :=
  ⟨by decide, ⟨_, rfl, rfl⟩, rfl⟩

end RemoteModel.Command
