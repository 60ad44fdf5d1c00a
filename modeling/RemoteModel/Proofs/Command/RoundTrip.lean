import RemoteModel.Notification
import RemoteModel.Proofs.Command.Fields
import RemoteModel.Proofs.Command.Reading

/-!
# Commands survive the wire

A command that was read is written in two forms, without what is missing (`toWire`) and with `null`
for it (`dump`), as a notification of the executed command has it. Both are read as the command.

**Main statement.** `ofWire_written`: reading what was written of a command that was read gives the
same command, and the command mirrors the value that it was read from (`Mirrors`): each node is of
the variant that its tag names, and the children are the items of the list of commands, one by one
and in order.

* *Reading* goes along the value: what holds of a command whenever it holds of its children holds of
  every command that is read (`ofWire_induct`).
* *Readable* commands are those with plain fields and matching tags at every node; they are what is
  read (`readable_of_ofWire`), and they are read back from both written forms (`ofWire_form`).
-/

namespace RemoteModel.Command

variable {w : Json} {c : Command} {cs : List Command} {f : Fields} {ms : Entries Json}
  {items : List Json} {tag : String}

/-! ## Reading a node -/

theorem ofWires_eq (items : List Json) : ofWires items = items.mapM ofWire := by
  induction items with
  | nil => rfl
  | cons v rest ih =>
    rw [ofWires, ih, List.mapM_cons]
    rfl

theorem ofWires_eq_ok :
    ofWires items = .ok cs ↔ List.Forall₂ (fun v c => ofWire v = .ok c) items cs := by
  rw [ofWires_eq, mapM_eq_ok]

/-- The check of the tag of a variant. -/
def kindOf (variant : Variant) : Entries Json → Checked String :=
  match variant.tag? with
  | some tag => Fields.thisKind tag
  | none => Fields.anyKind

theorem isCommand_iff : isCommand (.obj ms) = true ↔
    (ms.get? "eClass" = some (.str commandUri) ∨ ms.get? "eClass" = some (.str compoundUri)) ∧
      ∃ tag, ms.get? "type" = some (.str tag) := by
  simp only [isCommand, Bool.and_eq_true, Bool.or_eq_true, beq_iff_eq, Json.text?_eq_some,
    Json.hasString_iff]
  exact Iff.rfl

theorem anyKind_of_get? (h : ms.get? "type" = some (.str tag)) : Fields.anyKind ms = .ok tag := by
  simp [Fields.anyKind, Check.required, Check.find?, h, Check.text, Checked.under]

/-- A tag that is there passes the check for it and the check for any tag alike. -/
theorem thisKind_of_get? (h : ms.get? "type" = some (.str tag)) :
    Fields.thisKind tag ms = Fields.anyKind ms := by
  rw [anyKind_of_get? h]
  simp [Fields.thisKind, Check.defaulted, Check.find?, h, Check.word, Check.ofOption, Checked.under]

theorem kindOf_ofTag (h : ms.get? "type" = some (.str tag)) :
    kindOf (.ofTag tag) ms = Fields.anyKind ms := by
  unfold Variant.ofTag
  split_ifs with hset hadd hremove
  · exact thisKind_of_get? (hset ▸ h)
  · exact thisKind_of_get? (hadd ▸ h)
  · exact thisKind_of_get? (hremove ▸ h)
  · rfl

theorem check_congr {type : String} {kind kind' : Entries Json → Checked String}
    (h : kind ms = kind' ms) : Fields.check type kind ms = Fields.check type kind' ms := by
  simp only [Fields.check, h]

theorem orNone_eq_ok {x : Checked Command} : orNone w x = .ok c ↔ x = .ok c := by
  cases x <;> simp [orNone]

theorem checkVariant_eq_ok (h : ms.get? "type" = some (.str tag)) :
    checkVariant (.ofTag tag) (.obj ms) = .ok c ↔
      ∃ f, Fields.check commandUri Fields.anyKind ms = .ok f ∧ simple (.ofTag tag) f = c := by
  rw [← check_congr (kindOf_ofTag h)]
  exact Checked.map_eq_ok

theorem checkCompound_eq_ok (h : ms.get? "type" = some (.str compoundTag)) :
    checkCompound cs (.obj ms) = .ok c ↔
      ∃ f, Fields.check compoundUri Fields.anyKind ms = .ok f ∧ compound f cs = c := by
  rw [checkCompound, Check.fields, Checked.map_eq_ok, check_congr (thisKind_of_get? h)]

theorem ofWire_simple (hcommand : isCommand (.obj ms) = true)
    (htag : ms.get? "type" = some (.str tag)) (hne : tag ≠ compoundTag) :
    ofWire (.obj ms) = .ok c ↔
      ∃ f, Fields.check commandUri Fields.anyKind ms = .ok f ∧ simple (.ofTag tag) f = c := by
  have htext : Json.text? (.obj ms) "type" = some tag := Json.text?_eq_some.2 htag
  have hcompound : ¬ IsCompound (.obj ms) := fun h =>
    hne (Option.some.inj (htext.symm.trans h.2))
  rw [ofWire_of_not_compound hcommand hcompound, orNone_eq_ok, htext]
  exact checkVariant_eq_ok htag

theorem ofWire_compound (h : IsCompound (.obj ms)) :
    ofWire (.obj ms) = .ok c ↔
      ∃ cs f, childrenOf ms = .ok cs ∧ Fields.check compoundUri Fields.anyKind ms = .ok f ∧
        compound f cs = c := by
  rw [ofWire_of_compound h]
  refine bind_eq_ok.trans ?_
  simp only [orNone_eq_ok, checkCompound_eq_ok (Json.text?_eq_some.1 h.2), exists_and_left]

/-! ## Reading along a value -/

/-- A value that is no list holds no children that are read. -/
theorem eq_nil_of_elementsOf {v : Json} (h : elementsOf v = .ok cs)
    (hv : ∀ items, v ≠ .arr items) : cs = [] := by
  cases helements : Patch.elements v with
  | error failure =>
    cases v with
    | arr items => exact absurd rfl (hv items)
    | _ => simp [elementsOf, helements] at h
  | ok items =>
    cases v with
    | arr items => exact absurd rfl (hv items)
    | _ => cases items <;> simp_all [elementsOf]

/-- The children are related to the items of the list of commands, one by one, and there are none
without a list. -/
def ReadsTo (R : Json → Command → Prop) (ms : Entries Json) (cs : List Command) : Prop :=
  (∀ items, ms.get? "commands" = some (.arr items) → List.Forall₂ R items cs) ∧
    ((∀ items, ms.get? "commands" ≠ some (.arr items)) → cs = [])

theorem ReadsTo.imp {R S : Json → Command → Prop} (h : ReadsTo R ms cs)
    (hRS : ∀ items, ms.get? "commands" = some (.arr items) → ∀ v ∈ items, ∀ c, R v c → S v c) :
    ReadsTo S ms cs :=
  ⟨fun items hget => forall₂_of_mem (h.1 items hget) (hRS items hget), h.2⟩

theorem readsTo_of_childrenOf (h : childrenOf ms = .ok cs) :
    ReadsTo (fun v c => ofWire v = .ok c) ms cs := by
  rw [childrenOf_eq] at h
  constructor
  · intro items hget
    rw [hget] at h
    exact ofWires_eq_ok.1 h
  · intro hnone
    cases hget : ms.get? "commands" with
    | none =>
      rw [hget] at h
      cases h
      rfl
    | some v =>
      rw [hget] at h
      exact eq_nil_of_elementsOf h fun items hitems => hnone items (hitems ▸ hget)

/-- **Induction on what is read**: a command without children, or a compound one for whose
children it holds. -/
theorem ofWire_induct {P : Json → Command → Prop}
    (simple : ∀ (ms : Entries Json) tag f, isCommand (.obj ms) = true →
      ms.get? "type" = some (.str tag) → tag ≠ compoundTag →
      Fields.check commandUri Fields.anyKind ms = .ok f → P (.obj ms) (.simple (.ofTag tag) f))
    (compound : ∀ (ms : Entries Json) f cs, IsCompound (.obj ms) →
      Fields.check compoundUri Fields.anyKind ms = .ok f → ReadsTo P ms cs →
      P (.obj ms) (.compound f cs))
    (h : ofWire w = .ok c) : P w c := by
  -- The children stand in a list below the command, so the induction carries lists along.
  suffices hboth : (∀ c, ofWire w = .ok c → P w c) ∧
      ∀ items, w = .arr items → ∀ v ∈ items, ∀ c, ofWire v = .ok c → P v c from hboth.1 c h
  clear h
  induction w using Json.induct with
  | obj ms ih =>
    refine ⟨fun c h => ?_, fun _ hitems => nomatch hitems⟩
    by_cases hcommand : isCommand (.obj ms) = true
    · obtain ⟨-, tag, htag⟩ := isCommand_iff.1 hcommand
      by_cases htype : tag = compoundTag
      · have hcompound : IsCompound (.obj ms) :=
          ⟨hcommand, Json.text?_eq_some.2 (htype ▸ htag)⟩
        obtain ⟨cs, f, hchildren, hfields, rfl⟩ := (ofWire_compound hcompound).1 h
        refine compound ms f cs hcompound hfields ((readsTo_of_childrenOf hchildren).imp ?_)
        intro items hget
        exact (ih _ (Entries.mem_of_get? hget)).2 items rfl
      · obtain ⟨f, hfields, rfl⟩ := (ofWire_simple hcommand htag htype).1 h
        exact simple ms tag f hcommand htag htype hfields
    · simp [ofWire, hcommand] at h
  | arr items ih =>
    refine ⟨fun c h => by simp [ofWire] at h, fun _ hitems => ?_⟩
    cases hitems
    exact fun v hv => (ih v hv).1
  | _ => exact ⟨fun c h => by simp [ofWire] at h, fun _ hitems => nomatch hitems⟩

/-! ## The tree of a command -/

/-- The variant that a tag names, for a tag other than that of compound commands. -/
inductive Names : String → Variant → Prop
  | set : Names "set" .set
  | add : Names "add" .add
  | remove : Names "remove" .remove
  | custom {tag : String} (h : tag ∉ ["set", "add", "remove", "compound"]) : Names tag .custom

/-- A command has the tree of the value that it was read from. -/
inductive Mirrors : Json → Command → Prop
  | simple {w : Json} {variant : Variant} {f : Fields} (htag : w.text? "type" = some f.kind)
      (hnames : Names f.kind variant) : Mirrors w (.simple variant f)
  | compound {w : Json} {f : Fields} {cs : List Command} (htag : w.text? "type" = some f.kind)
      (hkind : f.kind = "compound")
      (hitems : ∀ items, w.get? "commands" = some (.arr items) → List.Forall₂ Mirrors items cs)
      (hnone : (∀ items, w.get? "commands" ≠ some (.arr items)) → cs = []) :
      Mirrors w (.compound f cs)

theorem names_ofTag (h : tag ≠ compoundTag) : Names tag (.ofTag tag) := by
  unfold Variant.ofTag
  split_ifs with hset hadd hremove
  · exact hset ▸ .set
  · exact hadd ▸ .add
  · exact hremove ▸ .remove
  · exact .custom (by simpa [hset, hadd, hremove, compoundTag] using h)

theorem kind_of_check {type : String} (h : Fields.check type Fields.anyKind ms = .ok f)
    (htag : ms.get? "type" = some (.str tag)) : f.kind = tag := by
  have hkind := (Fields.check_eq_ok.1 h).2.1
  rw [anyKind_of_get? htag, Checked.ok.injEq] at hkind
  exact hkind.symm

theorem mirrors_of_ofWire (h : ofWire w = .ok c) : Mirrors w c := by
  refine ofWire_induct (fun ms tag f _ htag hne hfields => ?_)
    (fun ms f cs hcompound hfields hcs => ?_) h
  · obtain rfl := kind_of_check hfields htag
    exact .simple (Json.text?_eq_some.2 htag) (names_ofTag hne)
  · have hkind := kind_of_check hfields (Json.text?_eq_some.1 hcompound.2)
    exact .compound (hkind ▸ hcompound.2) hkind hcs.1 hcs.2

/-! ## Readable commands -/

/-- A command as reading leaves it, at every node. -/
inductive Readable : Command → Prop
  | simple {f : Fields} (hplain : f.Plain) (htype : f.type = commandUri ∨ f.type = compoundUri)
      (hkind : f.kind ≠ compoundTag) : Readable (.simple (.ofTag f.kind) f)
  | compound {f : Fields} {cs : List Command} (hplain : f.Plain)
      (htype : f.type = commandUri ∨ f.type = compoundUri) (hkind : f.kind = compoundTag)
      (hcs : ∀ c ∈ cs, Readable c) : Readable (.compound f cs)

theorem type_of_check {type : String} (hcommand : isCommand (.obj ms) = true)
    (h : Fields.check type Fields.anyKind ms = .ok f) :
    f.type = commandUri ∨ f.type = compoundUri := by
  have htype := (Fields.check_eq_ok.1 h).1
  have hread : ∀ uri, ms.get? "eClass" = some (.str uri) → f.type = uri := fun uri huri => by
    simpa [Check.defaulted, Check.find?, huri, Check.text, Checked.under, eq_comm] using htype
  exact (isCommand_iff.1 hcommand).1.imp (hread _) (hread _)

theorem readable_of_ofWire (h : ofWire w = .ok c) (hw : w.isFinite = true) : Readable c := by
  refine ofWire_induct (P := fun w c => w.isFinite = true → Readable c)
    (fun ms tag f hcommand htag hne hfields hms => ?_)
    (fun ms f cs hcompound hfields hcs hms => ?_) h hw
  · obtain rfl := kind_of_check hfields htag
    exact .simple (Fields.plain_of_check hfields hms) (type_of_check hcommand hfields) hne
  · refine .compound (Fields.plain_of_check hfields hms) (type_of_check hcompound.1 hfields)
      (kind_of_check hfields (Json.text?_eq_some.1 hcompound.2)) fun c hc => ?_
    by_cases hlist : ∃ items, ms.get? "commands" = some (.arr items)
    · obtain ⟨items, hget⟩ := hlist
      obtain ⟨v, hv, hread⟩ := exists_left_of_mem (hcs.1 items hget) hc
      have hitems : Json.isFinite (.arr items) = true := Fields.isFinite_of_get? hms hget
      exact hread (Json.finiteItems_iff.1 hitems v hv)
    · rw [hcs.2 fun items hget => hlist ⟨items, hget⟩] at hc
      cases hc

/-! ## Reading back -/

/-- A written form of commands: it shows the fields, and it lists the written children of a compound
command. -/
structure IsForm (write : Command → Json) : Prop where
  simple : ∀ variant f, ∃ ms : Entries Json, write (.simple variant f) = .obj ms ∧ Fields.Shows ms f
  compound : ∀ f cs, ∃ ms : Entries Json, write (.compound f cs) = .obj ms ∧ Fields.Shows ms f ∧
    ms.get? "commands" = some (.arr (cs.map write))

theorem isCommand_of_shows (hs : Fields.Shows ms f)
    (htype : f.type = commandUri ∨ f.type = compoundUri) : isCommand (.obj ms) = true :=
  isCommand_iff.2 ⟨htype.imp (fun h : f.type = commandUri => h ▸ hs.get?_type)
    fun h : f.type = compoundUri => h ▸ hs.get?_type, f.kind, hs.get?_kind⟩

theorem check_of_shows {type : String} (hs : Fields.Shows ms f) (hplain : f.Plain) :
    Fields.check type Fields.anyKind ms = .ok f :=
  Fields.check_of_shows hs hplain (anyKind_of_get? hs.get?_kind)

/-- **What is written of a readable command is read as that command.** -/
theorem ofWire_form {write : Command → Json} (hform : IsForm write) (h : Readable c) :
    ofWire (write c) = .ok c := by
  induction h with
  | simple hplain htype hkind =>
    obtain ⟨ms, hwrite, hs⟩ := hform.simple _ _
    rw [hwrite, ofWire_simple (isCommand_of_shows hs htype) hs.get?_kind hkind]
    exact ⟨_, check_of_shows hs hplain, rfl⟩
  | compound hplain htype hkind _ ih =>
    obtain ⟨ms, hwrite, hs, hget⟩ := hform.compound _ _
    have hcompound : IsCompound (.obj ms) :=
      ⟨isCommand_of_shows hs htype, Json.text?_eq_some.2 (hkind ▸ hs.get?_kind)⟩
    rw [hwrite, ofWire_compound hcompound]
    refine ⟨_, _, ?_, check_of_shows hs hplain, rfl⟩
    rw [childrenOf_eq, hget]
    exact ofWires_eq_ok.2 (List.forall₂_map_left_iff.2 (List.forall₂_same.2 ih))

theorem toWires_eq (cs : List Command) : toWires cs = cs.map toWire := by
  induction cs with
  | nil => rfl
  | cons c rest ih => rw [toWires, ih, List.map_cons]

theorem dumps_eq (cs : List Command) : dumps cs = cs.map dump := by
  induction cs with
  | nil => rfl
  | cons c rest ih => rw [dumps, ih, List.map_cons]

theorem isForm_toWire : IsForm toWire where
  simple variant f := ⟨f.present, rfl, by simpa using f.shows_present Fields.isTail_nil⟩
  compound f cs := by
    refine ⟨_, rfl, f.shows_present (Fields.isTail_commands _), ?_⟩
    rw [f.get?_commands_present, toWires_eq]

theorem isForm_dump : IsForm dump where
  simple variant f := ⟨f.complete, rfl, by simpa using f.shows_complete Fields.isTail_nil⟩
  compound f cs := by
    refine ⟨_, rfl, f.shows_complete (Fields.isTail_commands _), ?_⟩
    rw [f.get?_commands_complete, dumps_eq]

/-! ## The round trip -/

/-- What a notification of an executed command has as its command. -/
def reportedSource (n : Notification) : Option Json :=
  (n.toWire.get? "result").bind fun result => result.get? "source"

theorem reportedSource_eq {n : Notification} {e : Execution} (h : n.report = .executed e) :
    reportedSource n = some e.source.dump := by
  simp [reportedSource, Notification.toWire, h, Notification.members, Json.get?, Entries.get?,
    Execution.dump]

/-- **A command that was read survives the wire**, for every value without a number that is not
finite: its wire form and the command of every notification of its execution are read as the
command, and the command mirrors the value. -/
theorem ofWire_written (hw : w.isFinite = true) (h : ofWire w = .ok c) :
    ofWire c.toWire = .ok c ∧
      (∀ (n : Notification) (e : Execution), n.report = .executed e → e.source = c →
        ∃ source, reportedSource n = some source ∧ ofWire source = .ok c) ∧
      Mirrors w c := by
  have hread : Readable c := readable_of_ofWire h hw
  refine ⟨ofWire_form isForm_toWire hread, ?_, mirrors_of_ofWire h⟩
  rintro n e hn rfl
  exact ⟨_, reportedSource_eq hn, ofWire_form isForm_dump hread⟩

/-- Commands in a compound one: one with indices that are written in other ways, and a compound one
that holds a command of a tag of the server. -/
def nestedWire : Json :=
  .obj [("eClass", .str compoundUri), ("type", .str "compound"), ("commands", .arr [
    .obj [("eClass", .str commandUri), ("type", .str "add"), ("feature", .null),
      ("indices", .arr [.str " 1", .bool true]), ("data_values", .arr [.int 5])],
    .obj [("eClass", .str compoundUri), ("type", .str "compound"), ("commands", .arr [
      .obj [("eClass", .str commandUri), ("type", .str "swap"),
        ("properties", .obj [("a", .str "b")])]])]])]

def nestedCommand : Command :=
  .compound { type := compoundUri, kind := "compound" } [
    .simple .add { kind := "add", indices := some [.int 1, .int 1], dataValues := some [.int 5] },
    .compound { type := compoundUri, kind := "compound" } [
      .simple .custom { kind := "swap", properties := some [("a", .str "b")] }]]

theorem ofWire_written_nested :
    nestedWire.isFinite = true ∧ ofWire nestedWire = .ok nestedCommand ∧
      ofWire nestedCommand.toWire = .ok nestedCommand ∧
      (∀ (n : Notification) (e : Execution), n.report = .executed e → e.source = nestedCommand →
        ∃ source, reportedSource n = some source ∧ ofWire source = .ok nestedCommand) ∧
      Mirrors nestedWire nestedCommand := by
  have hfinite : nestedWire.isFinite = true := by decide
  have hread : ofWire nestedWire = .ok nestedCommand := by rfl
  exact ⟨hfinite, hread, ofWire_written hfinite hread⟩

end RemoteModel.Command
