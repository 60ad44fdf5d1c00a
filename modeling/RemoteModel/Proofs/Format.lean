import Mathlib.Data.List.Nodup
import RemoteModel.Format
import RemoteModel.Proofs.Except
import RemoteModel.Proofs.Json.Location

/-!
# Conversion between the dialects

A value in one JSON dialect becomes one in the other dialect when its type tags are renamed. The
renaming writes every object anew, which would join two members if both tags met in one object; it
takes place only where a search of the whole value has not found the wanted tag.

**Main statement.** `encode_dialect`: a value that holds the wanted tag stays as it is. In any other
value exactly the other dialect's tags are renamed (`Json.Renamed`), encoding once more changes
nothing, and encoding for the other dialect gives the value back, with the order of all members.

* *Search*: it finds a name exactly if some object has a member of it (`mentions_iff`).
* *Renaming*: where the new name is absent, no two members are joined (`renamed_rename`).
* *Way back*: two renamings that cancel out on the names of a value lead back to it
  (`Renamed.cancel`).
-/

namespace RemoteModel

theorem Entries.eq_of_names_of_values {α : Type} {as bs : Entries α} (hnames : as.names = bs.names)
    (hvalues : as.values = bs.values) : as = bs := by
  induction as generalizing bs with
  | nil => cases bs with
    | nil => rfl
    | cons b bs => cases hnames
  | cons a as ih => cases bs with
    | nil => cases hnames
    | cons b bs =>
      obtain ⟨hk, hks⟩ := List.cons.inj hnames
      obtain ⟨hv, hvs⟩ := List.cons.inj hvalues
      rw [ih hks hvs, Prod.ext hk hv]

namespace Json

variable {σ τ : String → String} {name source target : String} {v w x : Json}

/-! ## Names inside a value -/

/-- Some object inside the value has a member of the name. -/
inductive Occurs (name : String) : Json → Prop
  | here {ms : Entries Json} (h : name ∈ ms.names) : Occurs name (.obj ms)
  | member {ms : Entries Json} {v : Json} (hv : v ∈ ms.values) (h : Occurs name v) :
      Occurs name (.obj ms)
  | item {items : List Json} {v : Json} (hv : v ∈ items) (h : Occurs name v) :
      Occurs name (.arr items)

theorem occurs_obj {ms : Entries Json} :
    Occurs name (.obj ms) ↔ name ∈ ms.names ∨ ∃ v ∈ ms.values, Occurs name v := by
  constructor
  · intro h
    cases h with
    | here h => exact .inl h
    | member hv h => exact .inr ⟨_, hv, h⟩
  · rintro (h | ⟨v, hv, h⟩)
    · exact .here h
    · exact .member hv h

theorem occurs_arr {items : List Json} : Occurs name (.arr items) ↔ ∃ v ∈ items, Occurs name v := by
  constructor
  · intro h
    cases h with
    | item hv h => exact ⟨_, hv, h⟩
  · rintro ⟨v, hv, h⟩
    exact .item hv h

theorem mentionsItems_iff {items : List Json} :
    mentionsItems name items = true ↔ ∃ v ∈ items, mentions name v = true := by
  induction items with
  | nil => simp [mentionsItems]
  | cons v rest ih => simp [mentionsItems, ih]

theorem mentionsMembers_iff {ms : Entries Json} :
    mentionsMembers name ms = true ↔ name ∈ ms.names ∨ ∃ v ∈ ms.values, mentions name v = true := by
  induction ms with
  | nil => simp [mentionsMembers, Entries.names, Entries.values]
  | cons m rest ih =>
    obtain ⟨k, v⟩ := m
    have hk : k = name ↔ name = k := eq_comm
    simp only [mentionsMembers, Bool.or_eq_true, beq_iff_eq, ih, hk, Entries.names, Entries.values,
      List.map_cons, List.mem_cons, exists_eq_or_imp]
    exact ⟨by tauto, by tauto⟩

/-- **The search** finds a name exactly if it occurs. -/
theorem mentions_iff : mentions name v = true ↔ Occurs name v := by
  induction v using Json.induct with
  | arr items ih =>
    rw [mentions, mentionsItems_iff, occurs_arr]
    exact exists_congr fun v => and_congr_right fun hv => ih v hv
  | obj ms ih =>
    rw [mentions, mentionsMembers_iff, occurs_obj]
    refine or_congr_right (exists_congr fun v => and_congr_right fun hv => ?_)
    obtain ⟨m, hm, rfl⟩ := List.mem_map.1 hv
    exact ih m hm
  | _ => exact ⟨fun h => by simp [mentions] at h, fun h => nomatch h⟩

/-! ## Values with other names -/

/-- The second value is the first one with other names of members: both hold the same values at
the same places, and the objects in them have as many members. -/
inductive Renamed (σ : String → String) : Json → Json → Prop
  | scalar {v : Json} (harr : v.isArray = false) (hobj : v.isObject = false) : Renamed σ v v
  | arr {items items' : List Json} (h : List.Forall₂ (Renamed σ) items items') :
      Renamed σ (.arr items) (.arr items')
  | obj {ms ms' : Entries Json} (hnames : ms'.names = ms.names.map σ)
      (hvalues : List.Forall₂ (Renamed σ) ms.values ms'.values) : Renamed σ (.obj ms) (.obj ms')

namespace Renamed

theorem of_fixed (h : ∀ n, Occurs n v → σ n = n) : Renamed σ v v := by
  induction v using Json.induct with
  | arr items ih =>
    exact .arr (List.forall₂_same.2 fun v hv => ih v hv fun n hn => h n (.item hv hn))
  | obj ms ih =>
    refine .obj ?_ (List.forall₂_same.2 fun v hv => ?_)
    · exact ((List.map_congr_left fun n hn => h n (.here hn)).trans (List.map_id _)).symm
    · obtain ⟨m, hm, rfl⟩ := List.mem_map.1 hv
      exact ih m hm fun n hn => h n (.member hv hn)
  | _ => exact .scalar rfl rfl

/-- A name of the renamed value comes from one of the value. -/
theorem exists_occurs (hvw : Renamed σ v w) (h : Occurs name w) : ∃ n, Occurs n v ∧ σ n = name := by
  induction v using Json.induct generalizing w with
  | arr items ih =>
    cases hvw with
    | scalar harr _ => cases harr
    | arr hitems =>
      obtain ⟨x, hx, hn⟩ := occurs_arr.1 h
      obtain ⟨v, hv, hvx⟩ := exists_left_of_mem hitems hx
      obtain ⟨n, hocc, heq⟩ := ih v hv hvx hn
      exact ⟨n, .item hv hocc, heq⟩
  | obj ms ih =>
    cases hvw with
    | scalar _ hobj => cases hobj
    | obj hnames hvalues =>
      rcases occurs_obj.1 h with hn | ⟨x, hx, hn⟩
      · rw [hnames] at hn
        obtain ⟨n, hmem, heq⟩ := List.mem_map.1 hn
        exact ⟨n, .here hmem, heq⟩
      · obtain ⟨v, hv, hvx⟩ := exists_left_of_mem hvalues hx
        obtain ⟨m, hm, rfl⟩ := List.mem_map.1 hv
        obtain ⟨n, hocc, heq⟩ := ih m hm hvx hn
        exact ⟨n, .member hv hocc, heq⟩
  | _ =>
    cases hvw
    cases h

/-- Names that are told apart before and after leave members with distinct names. -/
theorem wellFormed (hvw : Renamed σ v w) (hv : v.WellFormed)
    (hinj : ∀ m n, Occurs m v → Occurs n v → σ m = σ n → m = n) : w.WellFormed := by
  induction v using Json.induct generalizing w with
  | arr items ih =>
    cases hvw with
    | scalar harr _ => cases harr
    | arr hitems =>
      refine wellFormedItems_iff.2 fun x hx => ?_
      obtain ⟨u, hu, hux⟩ := exists_left_of_mem hitems hx
      exact ih u hu hux (wellFormedItems_iff.1 hv u hu) fun m n hm hn =>
        hinj m n (.item hu hm) (.item hu hn)
  | obj ms ih =>
    cases hvw with
    | scalar _ hobj => cases hobj
    | obj hnames hvalues =>
      refine ⟨?_, wellFormedMembers_iff.2 fun m' hm' => ?_⟩
      · rw [Entries.Distinct, hnames]
        exact List.Nodup.map_on (fun m hm n hn => hinj m n (.here hm) (.here hn)) hv.1
      · obtain ⟨u, hu, hux⟩ := exists_left_of_mem hvalues (List.mem_map_of_mem hm')
        obtain ⟨m, hm, rfl⟩ := List.mem_map.1 hu
        exact ih m hm hux (wellFormedMembers_iff.1 hv.2 m hm) fun a b ha hb =>
          hinj a b (.member hu ha) (.member hu hb)
  | _ =>
    cases hvw
    exact hv

/-- **The way back.** Renamings that cancel out on the names of a value lead back to it. -/
theorem cancel (hvw : Renamed σ v w) (hwx : Renamed τ w x) (h : ∀ n, Occurs n v → τ (σ n) = n) :
    x = v := by
  induction v using Json.induct generalizing w x with
  | arr items ih =>
    cases hvw with
    | scalar harr _ => cases harr
    | arr hitems => cases hwx with
      | scalar harr _ => cases harr
      | arr hitems' =>
        rw [eq_of_forall₂ hitems hitems' fun v hv w x hvw hwx =>
          ih v hv hvw hwx fun n hn => h n (.item hv hn)]
  | obj ms ih =>
    cases hvw with
    | scalar _ hobj => cases hobj
    | obj hnames hvalues => cases hwx with
      | scalar _ hobj => cases hobj
      | obj hnames' hvalues' =>
        refine congrArg Json.obj (Entries.eq_of_names_of_values ?_ ?_)
        · rw [hnames', hnames, List.map_map]
          exact (List.map_congr_left fun n hn => h n (.here hn)).trans (List.map_id _)
        · refine eq_of_forall₂ hvalues hvalues' fun v hv w x hvw hwx => ?_
          obtain ⟨m, hm, rfl⟩ := List.mem_map.1 hv
          exact ih m hm hvw hwx fun n hn => h n (.member hv hn)
  | _ =>
    cases hvw
    cases hwx
    rfl

theorem isString (hvw : Renamed σ v w) : w.isString = v.isString := by
  cases hvw <;> rfl

end Renamed

/-! ## Renaming one name -/

/-- One name becomes another one. -/
def relabel (source target n : String) : String := if n = source then target else n

theorem relabel_of_ne {n : String} (h : n ≠ source) : relabel source target n = n := if_neg h

theorem relabel_inj {m n : String} (hm : m ≠ target) (hn : n ≠ target)
    (h : relabel source target m = relabel source target n) : m = n := by
  unfold relabel at h
  split_ifs at h with hms hns hns
  · exact hms.trans hns.symm
  · exact absurd h.symm hn
  · exact absurd h hm
  · exact h

theorem relabel_relabel {n : String} (hn : n ≠ target) :
    relabel target source (relabel source target n) = n := by
  by_cases hs : n = source
  · simp [relabel, hs]
  · rw [relabel_of_ne hs, relabel_of_ne hn]

theorem relabel_ne (h : source ≠ target) (n : String) : relabel source target n ≠ source := by
  unfold relabel
  split_ifs with hs
  · exact h.symm
  · exact hs

theorem renameItems_eq (items : List Json) :
    renameItems source target items = items.map (rename source target) := by
  induction items with
  | nil => rfl
  | cons v rest ih => rw [renameItems, ih, List.map_cons]

theorem names_renameMembers (ms : Entries Json) :
    Entries.names (renameMembers source target ms) = ms.names.map (relabel source target) := by
  induction ms with
  | nil => rfl
  | cons m rest ih => exact congrArg (List.cons _) ih

theorem values_renameMembers (ms : Entries Json) :
    Entries.values (renameMembers source target ms) = ms.values.map (rename source target) := by
  induction ms with
  | nil => rfl
  | cons m rest ih => exact congrArg (List.cons _) ih

/-- **Renaming** joins no members where the new name does not occur. -/
theorem renamed_rename (hw : v.WellFormed) (ht : ¬ Occurs target v) :
    Renamed (relabel source target) v (rename source target v) := by
  induction v using Json.induct with
  | arr items ih =>
    rw [rename, renameItems_eq]
    refine .arr (List.forall₂_map_right_iff.2 (List.forall₂_same.2 fun v hv => ?_))
    exact ih v hv (wellFormedItems_iff.1 hw v hv) fun h => ht (.item hv h)
  | obj ms ih =>
    have hne : ∀ n ∈ Entries.names ms, n ≠ target := fun n hn heq => ht (.here (heq ▸ hn))
    have hdistinct : Entries.Distinct (renameMembers source target ms) := by
      rw [Entries.Distinct, names_renameMembers]
      exact List.Nodup.map_on (fun m hm n hn => relabel_inj (hne m hm) (hne n hn)) hw.1
    rw [rename, Entries.ofList_eq_self hdistinct]
    refine .obj (names_renameMembers ms) ?_
    rw [values_renameMembers]
    refine List.forall₂_map_right_iff.2 (List.forall₂_same.2 fun v hv => ?_)
    obtain ⟨m, hm, rfl⟩ := List.mem_map.1 hv
    exact ih m hm (wellFormedMembers_iff.1 hw.2 m hm) fun h => ht (.member hv h)
  | _ => exact .scalar rfl rfl

theorem isFinite_rename (h : v.isFinite = true) : (rename source target v).isFinite = true := by
  induction v using Json.induct with
  | arr items ih =>
    rw [rename, renameItems_eq]
    refine finiteItems_iff.2 (List.forall_mem_map.2 fun v hv => ?_)
    exact ih v hv (finiteItems_iff.1 h v hv)
  | obj ms ih =>
    rw [rename]
    refine finiteMembers_iff.2 fun m hm => ?_
    obtain ⟨m', hm', heq⟩ := Entries.exists_of_mem_merge hm
    have hvalue : m.2 ∈ Entries.values (renameMembers source target ms) :=
      heq ▸ List.mem_map_of_mem hm'
    rw [values_renameMembers, Entries.values, List.map_map] at hvalue
    obtain ⟨e, he, hem⟩ := List.mem_map.1 hvalue
    exact hem ▸ ih e he (finiteMembers_iff.1 h e he)
  | _ => exact h

theorem isFinite_retag (h : v.isFinite = true) : (retag source target v).isFinite = true := by
  unfold retag
  split_ifs
  · exact h
  · exact isFinite_rename h

theorem retag_of_occurs (h : Occurs target v) : retag source target v = v := by
  rw [retag, mentions_iff.2 h, Bool.or_true, if_pos rfl]

theorem renamed_retag (hw : v.WellFormed) (ht : ¬ Occurs target v) :
    Renamed (relabel source target) v (retag source target v) := by
  have ht' : mentions target v = false := Bool.eq_false_iff.2 fun h => ht (mentions_iff.1 h)
  by_cases hs : Occurs source v
  · rw [retag, mentions_iff.2 hs, ht']
    exact renamed_rename hw ht
  · have hs' : mentions source v = false := Bool.eq_false_iff.2 fun h => hs (mentions_iff.1 h)
    rw [retag, hs', ht']
    exact .of_fixed fun n hn => relabel_of_ne fun heq => hs (heq ▸ hn)

theorem retag_of_not_occurs (h : ¬ Occurs source v) : retag source target v = v := by
  have hs : mentions source v = false := Bool.eq_false_iff.2 fun hm => h (mentions_iff.1 hm)
  rw [retag, hs, Bool.not_false, Bool.true_or, if_pos rfl]

end Json

namespace Format

/-- The JSON dialects: a format with the tag that it renames and the tag that it writes. -/
inductive Dialect : Format → String → String → Prop
  | json : Dialect json typeTagV2 typeTag
  | jsonV2 : Dialect jsonV2 typeTag typeTagV2

theorem Dialect.ne {f : Format} {source target : String} (h : Dialect f source target) :
    source ≠ target := by
  cases h <;> decide

theorem Dialect.encode_eq {f : Format} {source target : String} (h : Dialect f source target)
    {v : Json} (hv : v.isString = false) : f.encode v = .ok (Json.retag source target v) := by
  cases v with
  | str s => cases hv
  | _ => cases h <;> rfl

/-- **Conversion loses nothing.** Encoding for a dialect leaves a value alone that holds its tag. In
any other value it renames the tags of the other dialect, and nothing else, and encoding for the
other dialect gives the value back. Encoding once more changes nothing in either case. -/
theorem encode_dialect {f g : Format} {source target : String} (hf : Dialect f source target)
    (hg : Dialect g target source) {v : Json} (hv : v.isString = false) (hw : v.WellFormed) :
    ∃ w, f.encode v = .ok w ∧ f.encode w = .ok w ∧
      (v.Occurs target → w = v) ∧
      (¬ v.Occurs target → v.Renamed (Json.relabel source target) w ∧ g.encode w = .ok v) := by
  refine ⟨Json.retag source target v, hf.encode_eq hv, ?_⟩
  by_cases ht : v.Occurs target
  · have hsame : Json.retag source target v = v := Json.retag_of_occurs ht
    rw [hsame]
    exact ⟨by rw [hf.encode_eq hv, hsame], fun _ => rfl, fun h => absurd ht h⟩
  · have hvw : v.Renamed (Json.relabel source target) (Json.retag source target v) :=
      Json.renamed_retag hw ht
    set w := Json.retag source target v
    have hstring : w.isString = false := hvw.isString.trans hv
    have hs : ¬ w.Occurs source := fun h => by
      obtain ⟨n, -, hn⟩ := hvw.exists_occurs h
      exact Json.relabel_ne hf.ne n hn
    have hwell : w.WellFormed := hvw.wellFormed hw fun m n hm hn =>
      Json.relabel_inj (fun heq => ht (heq ▸ hm)) fun heq => ht (heq ▸ hn)
    have hback : Json.retag target source w = v :=
      hvw.cancel (Json.renamed_retag hwell hs) fun n hn =>
        Json.relabel_relabel fun heq => ht (heq ▸ hn)
    exact ⟨by rw [hf.encode_eq hstring, Json.retag_of_not_occurs hs], fun h => absurd h ht,
      fun _ => ⟨hvw, by rw [hg.encode_eq hstring, hback]⟩⟩

/-- A model with tags at three depths, one of them behind other members. -/
def workflow : Json :=
  .obj [("id", .str "w"), ("$type", .str "Workflow"),
    ("nodes", .arr [.obj [("$type", .str "Task"), ("next", .obj [("$type", .str "Ref")])], .null])]

theorem encode_dialect_workflow :
    Dialect json typeTagV2 typeTag ∧ Dialect jsonV2 typeTag typeTagV2 ∧
      workflow.isString = false ∧ workflow.WellFormed ∧
      ∃ w, json.encode workflow = .ok w ∧ json.encode w = .ok w ∧
        (workflow.Occurs typeTag → w = workflow) ∧
        (¬ workflow.Occurs typeTag →
          workflow.Renamed (Json.relabel typeTagV2 typeTag) w ∧ jsonV2.encode w = .ok workflow) := by
  have hwell : workflow.WellFormed := by
    simp [workflow, Json.WellFormed, Json.WellFormedItems, Json.WellFormedMembers,
      Entries.Distinct, Entries.names]
  exact ⟨.json, .jsonV2, rfl, hwell, encode_dialect .json .jsonV2 rfl hwell⟩

example : json.encode workflow = .ok
    (.obj [("id", .str "w"), ("eClass", .str "Workflow"),
      ("nodes", .arr [.obj [("eClass", .str "Task"), ("next", .obj [("eClass", .str "Ref")])],
        .null])]) := by
  decide

end Format

end RemoteModel
