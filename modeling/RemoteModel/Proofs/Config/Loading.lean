import RemoteModel.Config.Source
import RemoteModel.Proofs.Config.Fields
import RemoteModel.Proofs.Json.ReadValue
import RemoteModel.Proofs.Text.PathName
import RemoteModel.Proofs.Text.Pieces

/-!
# Where the fields of a configuration come from

A file and the variables of the environment are merged key by key into sections, in the order of the
environment. Seen from a single field, none of this matters: the field is read from one raw value,
that of the last variable that sets it, else its member in the file, else nothing. `Field.Raw` says
so without sections and without a fold.

**Main statement.** `load_reads`: every field has exactly one raw value and is read from it alone;
there is a configuration exactly if each of these values is valid and the home directory in the
name of the log file is known, from the environment or from the accounts of the system; and the
order of variables that set different fields does not matter. Lone surrogates are no characters, so
what a field is read as is said of files without them (`IsPaired`).

The proof looks at one field while the environment is gone through: a variable that sets the field
replaces what is found for it, and any other variable leaves it alone (`field?_override`).
-/

namespace RemoteModel.Config

/-! ## Sources -/

/-- A variable sets a field if its name is the prefix and a text whose lower case is the name of the
section, an underscore and the name of the field. -/
def Sets (sectionName field name : String) : Prop :=
  ∃ rest, name = variablePrefix ++ rest ∧ Text.lower rest = sectionName ++ "_" ++ field

/-- The file holds an object, the section is an object in it, and the field has a value there. -/
def InFile (content : Option (List UInt8)) (sectionName field : String) (v : Json) : Prop :=
  ∃ bytes text, ∃ members found : Entries Json,
    content = some bytes ∧ Text.Utf8.decode? bytes = some text ∧
      Json.read (String.ofList text) = .ok (.obj members) ∧
      members.get? sectionName = some (.obj found) ∧ found.get? field = some v

/-- No lone surrogate is escaped in the file. -/
def IsPaired (content : Option (List UInt8)) : Prop :=
  ∀ bytes text, content = some bytes → Text.Utf8.decode? bytes = some text →
    Json.Reader.isPaired text = true

namespace Field

variable {α : Type} (f : Field α)

/-- The value of the field in the text of a variable. -/
def valueOf (text : String) : Json := if f.isText then .str (Text.strip text) else coerce text

/-- The raw value of a field, if it has one. -/
inductive Raw (content : Option (List UInt8)) (environment : Entries String) : Option Json → Prop
  | ofVariable {before after : Entries String} {name text : String}
      (split : environment = before ++ (name, text) :: after)
      (sets : Sets f.sectionName f.name name)
      (last : ∀ later ∈ after, ¬ Sets f.sectionName f.name later.1) :
      Raw content environment (some (f.valueOf text))
  | ofFile {v : Json} (unset : ∀ e ∈ environment, ¬ Sets f.sectionName f.name e.1)
      (found : InFile content f.sectionName f.name v) : Raw content environment (some v)
  | absent (unset : ∀ e ∈ environment, ¬ Sets f.sectionName f.name e.1)
      (missing : ∀ v, ¬ InFile content f.sectionName f.name v) : Raw content environment none

end Field

instance (sectionName field name : String) : Decidable (Sets sectionName field name) :=
  decidable_of_iff
    ((Text.after? variablePrefix.toList name.toList).any fun rest =>
      Text.lower (String.ofList rest) = sectionName ++ "_" ++ field) <| by
    simp only [Option.any_eq_true, Text.after?_eq_some, decide_eq_true_eq, Sets]
    constructor
    · rintro ⟨rest, hname, hlower⟩
      refine ⟨String.ofList rest, ?_, hlower⟩
      rw [← String.toList_inj, hname, String.toList_append, String.toList_ofList]
    · rintro ⟨rest, rfl, hlower⟩
      exact ⟨rest.toList, String.toList_append, by rwa [String.ofList_toList]⟩

variable {α : Type} {sectionName field name : String} {content : Option (List UInt8)}
  {environment other : Entries String} {found : Entries (Entries Json)}

/-! ## Variables -/

theorem underscore_not_mem_of_mem_sections (h : sectionName ∈ sections) :
    '_' ∉ sectionName.toList := by
  have hall : ∀ s ∈ sections, '_' ∉ s.toList := by decide
  exact hall sectionName h

theorem cut?_of_lower {rest : String} (hsection : sectionName ∈ sections)
    (h : Text.lower rest = sectionName ++ "_" ++ field) :
    Text.cut? '_' (Text.lower rest).toList = some (sectionName.toList, field.toList) := by
  have hlist : (Text.lower rest).toList = sectionName.toList ++ '_' :: field.toList := by
    rw [h, String.toList_append, String.toList_append, List.append_assoc]
    rfl
  rw [hlist, Text.cut?_append _ (underscore_not_mem_of_mem_sections hsection)]

/-- The variable of the configuration file sets nothing. -/
theorem not_sets_fileVariable (h : sectionName ∈ sections) :
    ¬ Sets sectionName field fileVariable := by
  rintro ⟨rest, hname, hlower⟩
  have hrest : rest = "CONFIG_JSON" := by
    have hlist : fileVariable.toList = variablePrefix.toList ++ "CONFIG_JSON".toList := by decide
    rw [hname, String.toList_append] at hlist
    exact String.toList_inj.1 (List.append_cancel_left hlist)
  have hcut := cut?_of_lower h hlower
  rw [hrest, show Text.cut? '_' (Text.lower "CONFIG_JSON").toList =
    some ("config".toList, "json".toList) by decide, Option.some.injEq, Prod.mk.injEq] at hcut
  have hconfig : "config" ∉ sections := by decide
  exact hconfig (String.toList_inj.1 hcut.1 ▸ h)

/-- A variable is taken for a field of a section exactly if it sets the field. -/
theorem target?_eq_some :
    target? name = some (sectionName, field) ↔
      sectionName ∈ sections ∧ Sets sectionName field name := by
  constructor
  · intro h
    unfold target? at h
    split at h
    · cases h
    · obtain ⟨rest, hafter, h⟩ := Option.bind_eq_some_iff.1 h
      obtain ⟨⟨a, b⟩, hcut, h⟩ := Option.bind_eq_some_iff.1 h
      dsimp only at h
      split at h
      · next hmem =>
        simp only [Option.some.injEq, Prod.mk.injEq] at h
        obtain ⟨rfl, rfl⟩ := h
        refine ⟨List.contains_iff_mem.1 hmem, String.ofList rest, ?_, ?_⟩
        · rw [← String.toList_inj, Text.after?_eq_some.1 hafter, String.toList_append,
            String.toList_ofList]
        · rw [← String.toList_inj, Text.eq_append_of_cut? hcut]
          simp
      · cases h
  · rintro ⟨hsection, hsets⟩
    have hfile : name ≠ fileVariable := by
      rintro rfl
      exact not_sets_fileVariable hsection hsets
    obtain ⟨rest, rfl, hlower⟩ := hsets
    have hafter : Text.after? variablePrefix.toList (variablePrefix ++ rest).toList =
        some rest.toList := Text.after?_eq_some.2 String.toList_append
    have hmem : sections.contains sectionName = true := List.contains_iff_mem.2 hsection
    rw [target?, if_neg hfile, hafter, Option.bind_some, String.ofList_toList,
      cut?_of_lower hsection hlower, Option.bind_some]
    simp only [String.ofList_toList, hmem, if_true]

/-- **A variable replaces what is found for the field that it sets, and nothing else.** -/
theorem field?_override (hsection : sectionName ∈ sections) (setting : String × String) :
    field? (override found setting) sectionName field =
      if Sets sectionName field setting.1 then some (fieldValue field setting.2)
      else field? found sectionName field := by
  unfold override
  by_cases hsets : Sets sectionName field setting.1
  · rw [if_pos hsets, target?_eq_some.2 ⟨hsection, hsets⟩]
    simp only [field?, Entries.get?_insert_self, Option.bind_some]
  · have hother : target? setting.1 ≠ some (sectionName, field) := fun htarget =>
      hsets (target?_eq_some.1 htarget).2
    rw [if_neg hsets]
    cases htarget : target? setting.1 with
    | none => rfl
    | some target =>
      obtain ⟨s, f⟩ := target
      dsimp only
      by_cases hs : sectionName = s
      · subst hs
        have hf : field ≠ f := by
          rintro rfl
          exact hother htarget
        simp only [field?, Entries.get?_insert_self, Option.bind_some,
          Entries.get?_insert_of_ne _ _ hf]
        cases found.get? sectionName <;> rfl
      · simp only [field?, Entries.get?_insert_of_ne _ _ hs]

theorem field?_foldl_override (hsection : sectionName ∈ sections)
    (h : ∀ e ∈ environment, ¬ Sets sectionName field e.1) :
    field? (environment.foldl override found) sectionName field =
      field? found sectionName field := by
  induction environment generalizing found with
  | nil => rfl
  | cons e rest ih =>
    obtain ⟨he, hrest⟩ := List.forall_mem_cons.1 h
    rw [List.foldl_cons, ih hrest, field?_override hsection, if_neg he]

/-- Only the variables that set the field count for it. -/
theorem field?_gather_filter (hsection : sectionName ∈ sections) :
    field? (gather content (environment.filter fun e => Sets sectionName field e.1)) sectionName
        field =
      field? (gather content environment) sectionName field := by
  unfold gather
  induction environment using List.reverseRecOn with
  | nil => rfl
  | append_singleton before e ih =>
    rw [List.filter_append, List.foldl_append, List.foldl_append]
    by_cases he : Sets sectionName field e.1
    · have hkept : [e].filter (fun e => Sets sectionName field e.1) = [e] := by simp [he]
      rw [hkept, List.foldl_cons, List.foldl_nil, List.foldl_cons, List.foldl_nil,
        field?_override hsection, field?_override hsection, if_pos he, if_pos he]
    · have hdropped : [e].filter (fun e => Sets sectionName field e.1) = [] := by simp [he]
      rw [hdropped, List.foldl_nil, List.foldl_cons, List.foldl_nil, field?_override hsection,
        if_neg he, ih]

/-! ## Files -/

theorem get?_filterMap_sections {members : Entries Json} (hd : members.Distinct)
    (hsection : sectionName ∈ sections) :
    Entries.get? (members.filterMap fun (name, v) =>
        if sections.contains name then v.members?.map fun found => (name, found) else none)
      sectionName = (members.get? sectionName).bind Json.members? := by
  have hmem : sections.contains sectionName = true := List.contains_iff_mem.2 hsection
  induction members with
  | nil => rfl
  | cons e rest ih =>
    obtain ⟨k, v⟩ := e
    have hd' : k ∉ Entries.names rest ∧ Entries.Distinct rest := List.nodup_cons.1 hd
    have hrest := ih hd'.2
    rw [List.filterMap_cons]
    dsimp only
    by_cases hk : k = sectionName
    · subst hk
      rw [if_pos hmem]
      cases hv : v.members? with
      | some found => simp [Entries.get?, hv]
      | none =>
        rw [Entries.get?_eq_none hd'.1] at hrest
        simpa [Entries.get?, hv] using hrest
    · rw [Entries.get?_cons_of_ne hk, ← hrest]
      split
      · rfl
      · next hkept =>
        split at hkept
        · obtain ⟨found, -, rfl⟩ := Option.map_eq_some_iff.1 hkept
          exact Entries.get?_cons_of_ne hk
        · cases hkept

theorem field?_fileSections (hsection : sectionName ∈ sections) {v : Json} :
    field? (fileSections content) sectionName field = some v ↔
      InFile content sectionName field v := by
  have hmembers : ∀ {w : Json} {found : Entries Json}, w.members? = some found ↔ w = .obj found := by
    intro w found
    cases w <;> simp [Json.members?]
  constructor
  · intro h
    unfold fileSections at h
    split at h
    · cases h
    · next text htext =>
      split at h
      · next members hread =>
        obtain ⟨bytes, hbytes, hdecode⟩ := Option.bind_eq_some_iff.1 htext
        rw [field?, get?_filterMap_sections (Json.wellFormed_of_read hread).1 hsection] at h
        obtain ⟨found, hfound, hv⟩ := Option.bind_eq_some_iff.1 h
        obtain ⟨w, hw, hobj⟩ := Option.bind_eq_some_iff.1 hfound
        rw [hmembers.1 hobj] at hw
        exact ⟨bytes, text, members, found, hbytes, hdecode, hread, hw, hv⟩
      · cases h
  · rintro ⟨bytes, text, members, found, rfl, hdecode, hread, hmember, hv⟩
    have hsections := get?_filterMap_sections (Json.wellFormed_of_read hread).1 hsection
    rw [hmember] at hsections
    simp only [fileSections, Option.bind_some, hdecode, hread, field?, hsections,
      hmembers.2 rfl, hv]

/-! ## Raw values -/

theorem mem_sections_and_isText {f : (α : Type) × Field α} (h : f ∈ fields) :
    f.2.sectionName ∈ sections ∧ f.2.isText = textFields.contains f.2.name := by
  revert f
  rw [forall_fields]
  decide

theorem Field.fieldValue_name {f : Field α} (h : f.isText = textFields.contains f.name)
    (text : String) : fieldValue f.name text = f.valueOf text := by
  rw [fieldValue, Field.valueOf, h]

/-- A variable that does not set the field leaves its raw value alone. -/
theorem Field.Raw.append {f : Field α} {raw : Option Json} (h : f.Raw content environment raw)
    {e : String × String} (he : ¬ Sets f.sectionName f.name e.1) :
    f.Raw content (environment ++ [e]) raw := by
  have hunset (hall : ∀ e ∈ environment, ¬ Sets f.sectionName f.name e.1) :
      ∀ x ∈ environment ++ [e], ¬ Sets f.sectionName f.name x.1 := by
    intro x hx
    rcases List.mem_append.1 hx with hx | hx
    · exact hall x hx
    · exact List.mem_singleton.1 hx ▸ he
  cases h with
  | ofVariable split sets last =>
    refine .ofVariable (by rw [split, List.append_assoc]; rfl) sets fun later hlater => ?_
    rcases List.mem_append.1 hlater with hlater | hlater
    · exact last later hlater
    · exact List.mem_singleton.1 hlater ▸ he
  | ofFile unset found => exact .ofFile (hunset unset) found
  | absent unset missing => exact .absent (hunset unset) missing

theorem Field.raw_field? {f : (α : Type) × Field α} (hf : f ∈ fields) :
    f.2.Raw content environment
      (field? (gather content environment) f.2.sectionName f.2.name) := by
  obtain ⟨hsection, htext⟩ := mem_sections_and_isText hf
  induction environment using List.reverseRecOn with
  | nil =>
    cases hfound : field? (gather content []) f.2.sectionName f.2.name with
    | some v => exact .ofFile (by simp) ((field?_fileSections hsection).1 hfound)
    | none =>
      refine .absent (by simp) fun v hv => ?_
      rw [(show gather content [] = fileSections content from rfl),
        (field?_fileSections hsection).2 hv] at hfound
      cases hfound
  | append_singleton before e ih =>
    have hlast : field? (gather content (before ++ [e])) f.2.sectionName f.2.name =
        if Sets f.2.sectionName f.2.name e.1 then some (fieldValue f.2.name e.2)
        else field? (gather content before) f.2.sectionName f.2.name := by
      rw [gather, List.foldl_append]
      exact field?_override hsection e
    rw [hlast]
    by_cases he : Sets f.2.sectionName f.2.name e.1
    · rw [if_pos he, fieldValue_name htext]
      exact .ofVariable rfl he (by simp)
    · rw [if_neg he]
      exact ih.append he

/-- A field has the raw value that is found for it, and no other. -/
theorem Field.raw_iff {f : (α : Type) × Field α} (hf : f ∈ fields) {raw : Option Json} :
    f.2.Raw content environment raw ↔
      field? (gather content environment) f.2.sectionName f.2.name = raw := by
  obtain ⟨hsection, htext⟩ := mem_sections_and_isText hf
  constructor
  · intro h
    cases h with
    | ofVariable split sets last =>
      rw [gather, split, List.foldl_append, List.foldl_cons, field?_foldl_override hsection last,
        field?_override hsection, if_pos sets, fieldValue_name htext]
    | ofFile unset hfile =>
      rw [gather, field?_foldl_override hsection unset, (field?_fileSections hsection).2 hfile]
    | absent unset missing =>
      rw [gather, field?_foldl_override hsection unset]
      cases hfound : field? (fileSections content) f.2.sectionName f.2.name with
      | none => rfl
      | some v => exact absurd ((field?_fileSections hsection).1 hfound) (missing v)
  · rintro rfl
    exact raw_field? hf

/-! ## Loading -/

variable {accounts : String → Option String}

/-- What is loaded is read field by field, up to the home directory. -/
theorem load_eq (accounts : String → Option String) (content : Option (List UInt8))
    (environment : Entries String) :
    load accounts content environment =
      (assemble fun f => f.reading
        (field? (gather content environment) f.sectionName f.name)).orFail.bind
        (expand accounts environment) := by
  rw [← check_sectionsObject]
  rfl

theorem load_eq_ok {c : Config} :
    load accounts content environment = .ok c ↔
      ∃ checked, expand accounts environment checked = .ok c ∧
        ∀ f ∈ fields, ∃ raw, f.2.Raw content environment raw ∧
          f.2.reading raw = .ok (f.2.get checked) := by
  rw [load_eq, bind_eq_ok]
  simp only [Checked.orFail_eq_ok, assemble_eq_ok]
  constructor
  · rintro ⟨checked, hread, hexpand⟩
    exact ⟨checked, hexpand, fun f hf => ⟨_, Field.raw_field? hf, hread f hf⟩⟩
  · rintro ⟨checked, hexpand, hread⟩
    refine ⟨checked, fun f hf => ?_, hexpand⟩
    obtain ⟨raw, hraw, hget⟩ := hread f hf
    rwa [(Field.raw_iff hf).1 hraw]

theorem exists_expand {checked : Config} :
    (∃ c, expand accounts environment checked = .ok c) ↔
      ∀ name, checked.logging.file = some name →
        Text.PathName.KnowsHome (homes accounts environment) name := by
  unfold expand expandName
  cases checked.logging.file with
  | none => simp
  | some name =>
    simp only [Option.some.injEq, forall_eq', ← Text.PathName.exists_expand?]
    cases Text.PathName.expand? (homes accounts environment) name <;> simp [Except.map]

theorem logFile_check_eq_ok {v : Json} {name : String} :
    Field.logFile.check v = .ok (some name) ↔ ∃ s, v = .str s ∧ Text.PathName.normal s = name := by
  cases v <;> simp [Field.logFile, Check.nullable, fileName, Check.misfit, Checked.map]

theorem logFile_mem_fields : (⟨_, Field.logFile⟩ : (α : Type) × Field α) ∈ fields := by
  simp [fields]

theorem exists_checked :
    (∃ checked, (assemble fun f => f.reading
        (field? (gather content environment) f.sectionName f.name)) = .ok checked) ↔
      ∀ f ∈ fields, ∀ v, f.2.Raw content environment (some v) → ∃ a, f.2.check v = .ok a := by
  rw [exists_assemble_eq_ok]
  refine forall₂_congr fun f hf => ?_
  simp only [Field.raw_iff hf, Field.reading_eq_ok]
  cases field? (gather content environment) f.2.sectionName f.2.name <;> simp

theorem logFile_eq_some {checked : Config} (h : (assemble fun f => f.reading
      (field? (gather content environment) f.sectionName f.name)) = .ok checked) {name : String} :
    checked.logging.file = some name ↔
      ∃ s, Field.logFile.Raw content environment (some (.str s)) ∧ Text.PathName.normal s = name := by
  have hread : Field.logFile.reading
      (field? (gather content environment) Field.logFile.sectionName Field.logFile.name) =
        .ok checked.logging.file := assemble_eq_ok.1 h _ logFile_mem_fields
  have hraw : ∀ s, Field.logFile.Raw content environment (some (.str s)) ↔
      field? (gather content environment) Field.logFile.sectionName Field.logFile.name =
        some (.str s) := fun s => Field.raw_iff logFile_mem_fields
  constructor
  · intro hname
    rw [hname] at hread
    rcases Field.reading_eq_ok.1 hread with ⟨-, hnone⟩ | ⟨v, hv, hcheck⟩
    · cases hnone
    · obtain ⟨s, rfl, hs⟩ := logFile_check_eq_ok.1 hcheck
      exact ⟨s, (hraw s).2 hv, hs⟩
  · rintro ⟨s, hs, hname⟩
    rw [(hraw s).1 hs] at hread
    have hcheck := logFile_check_eq_ok.2 ⟨s, rfl, hname⟩
    rcases Field.reading_eq_ok.1 hread with ⟨hnone, -⟩ | ⟨v, hv, hfile⟩
    · cases hnone
    · obtain rfl := Option.some.inj hv
      rw [hcheck] at hfile
      exact (Checked.ok.inj hfile).symm

/-- There is a configuration exactly if the raw values are valid and the home directory is known. -/
theorem exists_load :
    (∃ c, load accounts content environment = .ok c) ↔
      (∀ f ∈ fields, ∀ v, f.2.Raw content environment (some v) → ∃ a, f.2.check v = .ok a) ∧
        ∀ s, Field.logFile.Raw content environment (some (.str s)) →
          Text.PathName.KnowsHome (homes accounts environment) s := by
  rw [← exists_checked]
  constructor
  · rintro ⟨c, hload⟩
    rw [load_eq] at hload
    obtain ⟨checked, hchecked, hexpand⟩ := bind_eq_ok.1 hload
    refine ⟨⟨checked, Checked.orFail_eq_ok.1 hchecked⟩, fun s hs => ?_⟩
    have hname := (logFile_eq_some (Checked.orFail_eq_ok.1 hchecked)).2 ⟨s, hs, rfl⟩
    exact Text.PathName.knowsHome_normal.1 (exists_expand.1 ⟨c, hexpand⟩ _ hname)
  · rintro ⟨⟨checked, hchecked⟩, hknown⟩
    obtain ⟨c, hc⟩ : ∃ c, expand accounts environment checked = .ok c := by
      refine exists_expand.2 fun name hname => ?_
      obtain ⟨s, hs, rfl⟩ := (logFile_eq_some hchecked).1 hname
      exact Text.PathName.knowsHome_normal.2 (hknown s hs)
    refine ⟨c, ?_⟩
    rw [load_eq, hchecked]
    exact hc

/-- Variables that set different fields may change places. -/
theorem load_of_perm (hperm : other.Perm environment) (hd : environment.Distinct)
    (horder : ∀ f ∈ fields, (other.filter fun e => Sets f.2.sectionName f.2.name e.1) =
      environment.filter fun e => Sets f.2.sectionName f.2.name e.1) :
    load accounts content other = load accounts content environment := by
  have hfields : (assemble fun f => f.reading
        (field? (gather content other) f.sectionName f.name)) =
      assemble fun f => f.reading
        (field? (gather content environment) f.sectionName f.name) := by
    refine assemble_congr fun f hf => ?_
    have hsection := (mem_sections_and_isText hf).1
    rw [← field?_gather_filter hsection, horder f hf, field?_gather_filter hsection]
  have hhomes : homes accounts other = homes accounts environment := by
    funext user
    rw [homes, homes, Entries.get?_of_perm hd hperm]
  have hexpand : expand accounts other = expand accounts environment := by
    funext checked
    simp only [expand, expandName, hhomes]
  rw [load_eq, load_eq, hfields, hexpand]

/-- **Every field of a configuration is read from one raw value**: that of the last variable that
sets it, else its value in the file, else its default. There is a configuration exactly if all of
these values are valid and the home directory in the name of the log file is known. Variables that
set different fields may change places. -/
theorem load_reads (accounts : String → Option String) (content : Option (List UInt8))
    (environment : Entries String) :
    (∀ f ∈ fields, ∃! raw, f.2.Raw content environment raw) ∧
      (IsPaired content → ∀ c, load accounts content environment = .ok c ↔
        ∃ checked, expand accounts environment checked = .ok c ∧
          ∀ f ∈ fields, ∃ raw, f.2.Raw content environment raw ∧
            f.2.reading raw = .ok (f.2.get checked)) ∧
      ((∃ c, load accounts content environment = .ok c) ↔
        (∀ f ∈ fields, ∀ v, f.2.Raw content environment (some v) → ∃ a, f.2.check v = .ok a) ∧
          ∀ s, Field.logFile.Raw content environment (some (.str s)) →
            Text.PathName.KnowsHome (homes accounts environment) s) ∧
      ∀ other, other.Perm environment → environment.Distinct →
        (∀ f ∈ fields, (other.filter fun e => Sets f.2.sectionName f.2.name e.1) =
          environment.filter fun e => Sets f.2.sectionName f.2.name e.1) →
        load accounts content other = load accounts content environment := by
  refine ⟨fun f hf => ⟨_, Field.raw_field? hf, fun raw hraw => ?_⟩, fun _ c => load_eq_ok,
    exists_load, fun other hperm hd horder => load_of_perm hperm hd horder⟩
  exact ((Field.raw_iff hf).1 hraw).symm

/-- A file that sets the level of the log. -/
def debugging : List UInt8 :=
  Text.Utf8.encode "\x7b\"logging\": \x7b\"level\": \"debug\"\x7d\x7d".toList

/-- An address with blanks around it and a time out, in either order, besides a file. -/
theorem load_reads_either_way :
    let environment :=
      [("MODELSERVER_Server_Base_Url", " h "), ("MODELSERVER_SUBSCRIPTION_TIMEOUT", "30")]
    load (fun _ => none) (some debugging) environment.reverse =
        load (fun _ => none) (some debugging) environment ∧
      (∃! raw, Field.baseUrl.Raw (some debugging) environment raw) ∧
      Field.baseUrl.Raw (some debugging) environment (some (.str "h")) ∧
      IsPaired (some debugging) ∧
      ∃ c checked, load (fun _ => none) (some debugging) environment = .ok c ∧
        expand (fun _ => none) environment checked = .ok c ∧
        ∀ f ∈ fields, ∃ raw, f.2.Raw (some debugging) environment raw ∧
          f.2.reading raw = .ok (f.2.get checked) := by
  intro environment
  obtain ⟨hraw, hloads, -, hperm⟩ := load_reads (fun _ => none) (some debugging) environment
  have hd : Entries.Distinct environment := by
    unfold Entries.Distinct
    decide
  have hpaired : IsPaired (some debugging) := by
    rintro bytes text hbytes htext
    cases hbytes
    have hdecode : Text.Utf8.decode? debugging =
        some "\x7b\"logging\": \x7b\"level\": \"debug\"\x7d\x7d".toList :=
      Text.Utf8.decode?_encode _
    cases hdecode.symm.trans htext
    decide +kernel
  let c : Config :=
    { server := { baseUrl := "h" }, subscription := { timeout := some 30 }
      logging := { level := "debug" } }
  have hc : load (fun _ => none) (some debugging) environment = .ok c :=
    toOption_eq_some.1 (by decide +kernel)
  obtain ⟨checked, hexpand, hfields⟩ := (hloads hpaired c).1 hc
  refine ⟨hperm _ (.swap ..) hd ?_, hraw ⟨_, .baseUrl⟩ (by simp [fields]), ?_, hpaired, c, checked,
    hc, hexpand, hfields⟩
  · rw [forall_fields]
    decide
  · exact .ofVariable (List.nil_append _).symm (by decide) (by decide)

/-- A home directory that begins with a tilde is unknown, however valid the name of the log file is;
and a file with a number that JSON does not have is read. -/
theorem load_reads_amiss :
    let environment := [("HOME", "~x"), ("MODELSERVER_LOGGING_LOG_FILE", "~/log")]
    let special := Text.Utf8.encode
      "\x7b\"server\": \x7b\"base_url\": \"h\"\x7d, \"n\": NaN\x7d".toList
    (∀ f ∈ fields, ∀ v, f.2.Raw none environment (some v) → ∃ a, f.2.check v = .ok a) ∧
      (∀ accounts, load accounts none environment = .error .noHome) ∧
      ∃ c, load (fun _ => none) (some special) [] = .ok c ∧ c.server.baseUrl = "h" := by
  intro environment special
  have hvalid : (assemble fun f => f.reading
      (field? (gather none environment) f.sectionName f.name)) =
        .ok { logging := { file := some "~/log" } } := rfl
  have hspecial : load (fun _ => none) (some special) [] = .ok { server := { baseUrl := "h" } } :=
    toOption_eq_some.1 (by decide +kernel)
  exact ⟨exists_checked.1 ⟨_, hvalid⟩, fun accounts => rfl, _, hspecial, rfl⟩

end RemoteModel.Config
