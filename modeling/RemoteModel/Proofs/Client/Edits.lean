import RemoteModel.Client.Calls
import RemoteModel.Proofs.Client.Readings
import RemoteModel.Proofs.Command.Fields
import RemoteModel.Proofs.Command.Reading
import RemoteModel.Proofs.Format
import RemoteModel.Proofs.Patch.Wire
import RemoteModel.Proofs.Subscription.Address

/-!
# What is sent for a patch

An edit takes any value as a patch. It reads operations from what the value holds when it is gone
through, and sends them in a message, in the dialect of the format.

**Main statement.** `submit_patch`: for one operation or some operations in a list, one request is
sent with these operations in order, if it has an address and their numbers are finite. Nothing is
sent for any other value: an empty list and the empty text count as a patch that changes nothing, a
value that cannot be gone through stops the call, and all others are refused.

* *Requests* have an address exactly if their form is short enough (`isSome_requestUrl?_iff`).
* *Reading* a value as a patch ends in one of four ways (`Patch.comes_operations`).
* *Encoding* the message changes the values of operations at most (`Format.retag_message`).
* *Any edit* that has data in a version and a format is sent with them (`submit_of_sentAs`).
-/

namespace RemoteModel

variable {v : Json} {os : List Patch.Operation}

/-! ## Requests -/

namespace Client

variable {α : Type} {c : Client} {r : Request} {decode : Envelope → Except Error α} {a : Answer}

/-- The address of a request below the API. -/
def requestUrl? (c : Client) (path : String) (params : Entries String) : Option Url :=
  (c.base.withTarget? (c.base.target ++ path)).bind fun u => u.withForm? params

/-- **When a request has an address.** -/
theorem isSome_requestUrl?_iff {path : String} {params : Entries String} :
    (c.requestUrl? path params).isSome = true ↔
      (c.requestUrl? path []).isSome = true ∧ Subscription.IsShort params := by
  unfold requestUrl?
  cases c.base.withTarget? (c.base.target ++ path) with
  | none => simp
  | some u =>
    have hmark : '#' ∉ ((Url.formQuery params).getD "").toList := by
      rw [Subscription.toList_formQuery]
      exact fun hmem => (Subscription.querySafe_of_mem_form hmem).2.2 rfl
    have hempty : Url.formQuery [] = none := rfl
    rw [Option.bind_some, Option.bind_some, Url.withForm?, Url.withForm?, hempty,
      Url.isSome_ofParts?_query_iff, Subscription.isPlain_formQuery_iff, and_iff_left hmark]

theorem requestUrl?_eq_none_iff {path : String} {params : Entries String} :
    c.requestUrl? path params = none ↔
      c.requestUrl? path [] = none ∨ ¬ Subscription.IsShort params := by
  rw [← Option.not_isSome_iff_eq_none, isSome_requestUrl?_iff, not_and_or,
    Option.not_isSome_iff_eq_none]

theorem perform_ask (c : Client) (r : Request) (a : Answer) :
    c.perform (.ask r decode) a =
      match c.requestUrl? r.path r.params with
      | some url =>
        if r.body.all Json.isFinite then
          (some { method := r.method, url := url, body := r.body }, c.read r.path decode a)
        else (none, .error .notFinite)
      | none => (none, .error .notAUrl) := by
  simp only [perform, start, Request.sent, requestUrl?]
  cases (c.base.withTarget? (c.base.target ++ r.path)).bind fun u => u.withForm? r.params with
  | none => rfl
  | some url => cases r.body.all Json.isFinite <;> rfl

/-- An edit as a whole: the request that is sent, if there is one, and the result. -/
def submit (c : Client) (modeluri : String) (e : Edit) (format : Option String) (a : Answer) :
    Option SentRequest × Except Failure UpdateResult :=
  match c.edit modeluri e format with
  | .error failure => (none, .error failure)
  | .ok x => c.perform x a

end Client

/-! ## Values that should be patches -/

namespace Patch

/-- A value is a patch: one operation, or a list of operations that is not empty. -/
inductive IsPatch : Json → List Operation → Prop
  | single {v : Json} {o : Operation} (h : Operation.ofWire v = .ok o) : IsPatch v [o]
  | list {items : List Json} {os : List Operation} (hne : items ≠ []) (h : Reads items os) :
      IsPatch (.arr items) os

/-- What becomes of a value that should be a patch. -/
inductive Comes (v : Json) : Except Failure (List Operation) → Prop
  | empty (h : v = .arr [] ∨ v = .str "") : Comes v (.ok [])
  | patch {os : List Operation} (h : IsPatch v os) : Comes v (.ok os)
  | stopped (h : Command.hasElements v = false) : Comes v (.error .wrongType)
  | refused (part : Json) : Comes v (.error (.reported (.undecodable "Operation" part)))

theorem exists_of_ofWire {o : Operation} (h : Operation.ofWire v = .ok o) :
    ∃ ms, v = .obj ms := by
  obtain ⟨ms, rfl, -⟩ := Check.fields_eq_ok.1 (Checked.orUndecodable_eq_ok.1 h)
  exact ⟨ms, rfl⟩

theorem mapM_ofWire (items : List Json) :
    (∃ os, items.mapM Operation.ofWire = .ok os ∧ Reads items os) ∨
      ∃ part, items.mapM Operation.ofWire = .error (.undecodable "Operation" part) := by
  cases h : items.mapM Operation.ofWire with
  | ok os => exact .inl ⟨os, rfl, mapM_eq_ok.1 h⟩
  | error e =>
    obtain ⟨-, part, -, -, -, -, hpart⟩ := mapM_eq_error h
    exact .inr ⟨part, by rw [Operation.ofWire_eq_error hpart]⟩

theorem operations_obj (ms : Entries Json) :
    operations (.obj ms) = ([.obj ms].mapM Operation.ofWire).mapError Failure.reported := by
  simp only [operations, bind, Except.bind]
  cases [Json.obj ms].mapM Operation.ofWire <;> rfl

/-- The operations of some items, or the error that one of them is none. -/
theorem comes_of_items {items : List Json} (hitems : operations v =
      (items.mapM Operation.ofWire).mapError Failure.reported)
    (hread : ∀ os, Reads items os → Comes v (.ok os)) : Comes v (operations v) := by
  rw [hitems]
  rcases mapM_ofWire items with ⟨os, hos, hreads⟩ | ⟨part, hpart⟩
  · rw [hos]
    exact hread os hreads
  · rw [hpart]
    exact .refused part

/-- **Reading a value as a patch** ends in one of four ways. -/
theorem comes_operations (v : Json) : Comes v (operations v) := by
  cases v with
  | null | bool | int | float => exact .stopped rfl
  | arr items =>
    refine comes_of_items (operations_arr items) fun os hos => ?_
    cases hitems : items with
    | nil =>
      subst hitems
      cases hos
      exact .empty (.inl rfl)
    | cons item rest => exact .patch (.list (List.cons_ne_nil _ _) (hitems ▸ hos))
  | obj ms =>
    refine comes_of_items (operations_obj ms) fun os hos => ?_
    cases hos with
    | cons ho hrest =>
      cases hrest
      exact .patch (.single ho)
  | str s =>
    refine @comes_of_items _ (s.toList.map fun c => .str (String.singleton c)) ?_
      fun os hos => ?_
    · simp only [operations, elements, bind, Except.bind]
      cases (s.toList.map fun c => Json.str (String.singleton c)).mapM Operation.ofWire <;> rfl
    · cases hs : s.toList with
      | nil =>
        rw [hs] at hos
        cases hos
        exact .empty (.inr (congrArg Json.str (String.toList_eq_nil_iff.1 hs)))
      | cons c cs =>
        rw [hs] at hos
        cases hos with
        | cons hc _ => cases hc

theorem operations_of_isPatch (h : IsPatch v os) : operations v = .ok os ∧ os ≠ [] := by
  cases h with
  | single ho =>
    obtain ⟨ms, rfl⟩ := exists_of_ofWire ho
    rw [operations_obj, mapM_eq_ok.2 (.cons ho .nil)]
    exact ⟨rfl, List.cons_ne_nil _ _⟩
  | list hne hos =>
    rw [operations_arr, mapM_eq_ok.2 hos]
    refine ⟨rfl, ?_⟩
    rintro rfl
    cases hos
    exact hne rfl

/-! ## Operations in a message -/

/-- The operation with another value, if it has one. -/
def Operation.withValue (g : Json → Json) (o : Operation) : Operation :=
  { o with value := o.value.map g }

/-- The message that carries operations. -/
def message (os : List Operation) : Json :=
  Client.message Client.patchMessage (.arr (os.map Operation.toWire))

/-- Operations as a dialect carries them: as they are, or with the tags of the other dialect renamed
in their values. -/
def Carried (source target : String) (os os' : List Operation) : Prop :=
  os' = os ∨ os' = os.map (Operation.withValue (Json.rename source target))

/-- The value of an operation is that of a member of the wire operation that it is read from. -/
theorem Operation.exists_member {o : Operation} {u : Json} (h : Operation.ofWire v = .ok o)
    (hu : o.value = some u) : ∃ ms name, v = .obj ms ∧ Entries.get? ms name = some u := by
  obtain ⟨ms, rfl, hms⟩ := Check.fields_eq_ok.1 (Checked.orUndecodable_eq_ok.1 h)
  simp only [Checked.seq_eq_ok, Checked.map_eq_ok] at hms
  obtain ⟨_, source, ⟨_, value, ⟨_, _, ⟨_, _, rfl⟩, -, rfl⟩, hvalue, rfl⟩, -, rfl⟩ := hms
  cases hu
  rcases Check.defaulted_eq_ok.1 hvalue with ⟨-, hnone⟩ | ⟨name, w, hfind, hw⟩
  · cases hnone
  · cases hw
    exact ⟨ms, name, rfl, Check.get?_of_find? hfind⟩

theorem Operation.isFinite_toWire {o : Operation} (h : Operation.ofWire v = .ok o)
    (hv : v.isFinite = true) : o.toWire.isFinite = true := by
  have hvalue : ∀ u, o.value = some u → u.isFinite = true := by
    intro u hu
    obtain ⟨ms, name, rfl, hget⟩ := Operation.exists_member h hu
    exact Command.Fields.isFinite_of_get? hv hget
  obtain ⟨action, path, value, source⟩ := o
  cases value with
  | none => cases source <;> rfl
  | some u =>
    have hfinite : u.isFinite = true := hvalue u rfl
    cases source <;> simp [Operation.toWire, Json.isFinite, Json.finiteMembers, hfinite]

theorem IsPatch.isFinite (h : IsPatch v os) (hv : v.isFinite = true) :
    (message os).isFinite = true := by
  have hitems : Json.finiteItems (os.map Operation.toWire) = true := by
    refine Json.finiteItems_iff.2 (List.forall_mem_map.2 fun o ho => ?_)
    cases h with
    | single hread =>
      rw [List.mem_singleton.1 ho]
      exact Operation.isFinite_toWire hread hv
    | list _ hreads =>
      obtain ⟨w, hw, hread⟩ := exists_left_of_mem hreads ho
      exact Operation.isFinite_toWire hread (Json.finiteItems_iff.1 hv w hw)
  simp [message, Client.message, Json.isFinite, Json.finiteMembers, hitems]

end Patch

namespace Format

theorem Dialect.body_eq {f : Format} {source target : String} (h : Dialect f source target)
    (hv : v.isString = false) :
    body f.name v = .ok (.obj [("data", Json.retag source target v)]) := by
  rw [body, encodeNamed, ofName?_name]
  simp only [h.encode_eq hv]
  rfl

theorem rename_toWire {f : Format} {source target : String} (h : Dialect f source target)
    (o : Patch.Operation) :
    Json.rename source target o.toWire = (o.withValue (Json.rename source target)).toWire := by
  obtain ⟨action, path, value, source'⟩ := o
  cases h <;> cases value <;> cases source' <;> rfl

/-- The message of a patch is renamed as a whole, and only the values of operations change. -/
theorem rename_message {f : Format} {source target : String} (h : Dialect f source target)
    (os : List Patch.Operation) :
    Json.rename source target (Patch.message os) =
      Patch.message (os.map (Patch.Operation.withValue (Json.rename source target))) := by
  have hitems : Json.rename source target (.arr (os.map Patch.Operation.toWire)) =
      .arr ((os.map (Patch.Operation.withValue (Json.rename source target))).map
        Patch.Operation.toWire) := by
    rw [Json.rename, Json.renameItems_eq, List.map_map, List.map_map]
    exact congrArg Json.arr (List.map_congr_left fun o _ => rename_toWire h o)
  rw [Patch.message, Patch.message, ← hitems]
  cases h <;> rfl

/-- **The message of a patch in a dialect** carries the operations in order. -/
theorem retag_message {f : Format} {source target : String} (h : Dialect f source target)
    (os : List Patch.Operation) :
    ∃ os', Patch.Carried source target os os' ∧
      Json.retag source target (Patch.message os) = Patch.message os' := by
  unfold Json.retag
  split_ifs with hkept
  · exact ⟨os, .inl rfl, rfl⟩
  · exact ⟨_, .inr rfl, rename_message h os⟩

end Format

/-! ## Edits in a version and a format -/

namespace Protocol

/-- Where edits are sent to. -/
def editPath : Protocol → String
  | v1 => Endpoint.edit.path
  | v2 => Endpoint.models.path

/-- How the answer to an edit is read. -/
def editResult : Protocol → Envelope → Except Error UpdateResult
  | v1 => Client.plainOutcome
  | v2 => Envelope.updateResult

end Protocol

namespace Edit

/-- The message of an edit in the second version of the protocol. -/
inductive Message : Edit → Json → Prop
  | command {k : Command} :
      Message (.command k) (Client.message Client.commandMessage k.toWire)
  | patch {v : Json} {os : List Patch.Operation} (h : Patch.IsPatch v os) :
      Message (.patch v) (Patch.message os)

/-- The data that are sent for an edit, in a version of the protocol and a format. -/
inductive SentAs : Protocol → Format → Edit → Json → Prop
  | plain {f : Format} {k : Command} : SentAs .v1 f (.command k) k.toWire
  | message {f : Format} {source target : String} {e : Edit} {m : Json}
      (hf : f.Dialect source target) (hm : Message e m) :
      SentAs .v2 f e (Json.retag source target m)

theorem Message.isString {e : Edit} {m : Json} (h : Message e m) : m.isString = false := by
  cases h <;> rfl

end Edit

namespace Client

variable {c : Client} {modeluri : String} {e : Edit} {format : Option String} {f : Format}
  {data : Json}

/-- The format of an edit: the usual one of the client if none is given. -/
def editFormat (c : Client) (format : Option String) : String :=
  (firstText format none).getD c.defaultFormat

/-- The parameters of the request for an edit. -/
def editParams (modeluri : String) (f : Format) : Entries String :=
  [("modeluri", modeluri), ("format", f.name)]

theorem edit_of_message {m : Json} (hv2 : c.protocol = .v2) (h : Edit.Message e m) :
    c.edit modeluri e format = editRequest modeluri (c.editFormat format) m := by
  cases h with
  | command => simp only [edit, hv2, editFormat]
  | @patch v os hv =>
    obtain ⟨hos, hne⟩ := Patch.operations_of_isPatch hv
    have hempty : os.isEmpty = false := by
      cases os with
      | nil => exact absurd rfl hne
      | cons => rfl
    simp only [edit, hv2, hos, editFormat, bind, Except.bind, hempty, Bool.false_eq_true, if_false,
      Patch.message]

theorem edit_of_sentAs (hformat : c.editFormat format = f.name)
    (h : Edit.SentAs c.protocol f e data) :
    c.edit modeluri e format = .ok (.ask
      { method := .patch, path := c.protocol.editPath, params := editParams modeluri f
        body := some (.obj [("data", data)]) }
      c.protocol.editResult) := by
  generalize hp : c.protocol = p at h
  cases h with
  | plain =>
    rw [editParams, ← hformat]
    simp only [edit, hp]
    rfl
  | message hf hm =>
    rw [edit_of_message hp hm, hformat, editRequest, hf.body_eq hm.isString]
    rfl

/-- **An edit that has data** is sent with them, if the request has an address and the numbers in
the data are finite. -/
theorem submit_of_sentAs (hformat : c.editFormat format = f.name)
    (h : Edit.SentAs c.protocol f e data) (a : Answer) :
    c.submit modeluri e format a =
      match c.requestUrl? c.protocol.editPath (editParams modeluri f) with
      | some url =>
        if data.isFinite then
          (some { method := .patch, url := url, body := some (.obj [("data", data)]) },
            c.read c.protocol.editPath c.protocol.editResult a)
        else (none, .error .notFinite)
      | none => (none, .error .notAUrl) := by
  have hbody : Option.all Json.isFinite (some (Json.obj [("data", data)])) = data.isFinite := by
    simp [Json.isFinite, Json.finiteMembers]
  rw [submit, edit_of_sentAs hformat h]
  dsimp only
  rw [perform_ask]
  simp only [hbody]

end Client

/-! ## Edits with a patch -/

namespace Client

variable {c : Client} {modeluri : String} {format : Option String} {f : Format}
  {source target : String}

theorem submit_of_error {failure : Failure} (hv2 : c.protocol = .v2)
    (h : Patch.operations v = .error failure) (a : Answer) :
    c.submit modeluri (.patch v) format a = (none, .error failure) := by
  simp only [submit, edit, hv2, h]
  rfl

theorem submit_of_nil (hv2 : c.protocol = .v2) (h : Patch.operations v = .ok []) (a : Answer) :
    c.submit modeluri (.patch v) format a =
      (none, .ok { success := true, operations := some [] }) := by
  simp only [submit, edit, hv2, h]
  rfl

/-- Operations are sent, if the request has an address and their numbers are finite. -/
theorem submit_of_isPatch (hv2 : c.protocol = .v2) (hformat : c.editFormat format = f.name)
    (hdialect : f.Dialect source target) (h : Patch.IsPatch v os) (a : Answer) :
    ∃ os', Patch.Carried source target os os' ∧
      (v.isFinite = true → (Patch.message os').isFinite = true) ∧
      c.submit modeluri (.patch v) format a =
        match c.requestUrl? "models" (editParams modeluri f) with
        | some url =>
          if (Patch.message os').isFinite then
            (some
              { method := .patch, url := url, body := some (.obj [("data", Patch.message os')]) },
              c.read "models" Envelope.updateResult a)
          else (none, .error .notFinite)
        | none => (none, .error .notAUrl) := by
  obtain ⟨os', hcarried, hdata⟩ := Format.retag_message hdialect os
  have hsent := Edit.SentAs.message hdialect (.patch h)
  rw [← hv2] at hsent
  have houtcome : c.submit modeluri (.patch v) format a = _ := submit_of_sentAs hformat hsent a
  rw [hdata, hv2] at houtcome
  refine ⟨os', hcarried, fun hfinite => ?_, houtcome⟩
  rw [← hdata]
  exact Json.isFinite_retag (h.isFinite hfinite)

/-- **An edit with a patch**, in a JSON format and for every value. One operation, or operations in
a list that is not empty, are sent in order in one request, if it has an address and their numbers
are finite. Nothing is sent otherwise: the edit succeeds with a patch that changes nothing for an
empty list, and so it does for the empty text; a value that cannot be gone through stops it with a
failure that is not reported; all others are reported not to be operations. -/
theorem submit_patch (hv2 : c.protocol = .v2) (hformat : c.editFormat format = f.name)
    (hdialect : f.Dialect source target) (v : Json) (a : Answer) :
    let outcome := c.submit modeluri (.patch v) format a
    let url? := c.requestUrl? "models" (editParams modeluri f)
    (v = .arr [] ∨ v = .str "" → ∃ r, outcome = (none, .ok r) ∧ r.success = true ∧
      ∃ p, r.patch? = some p ∧ ∀ document, p document = .ok document) ∧
    (∀ os, Patch.IsPatch v os → ∃ os', Patch.Carried source target os os' ∧
      (v.isFinite = true → (Patch.message os').isFinite = true) ∧
      (∀ url, url? = some url → (Patch.message os').isFinite = true → outcome.1 =
        some { method := .patch, url := url, body := some (.obj [("data", Patch.message os')]) }) ∧
      (∀ url, url? = some url → (Patch.message os').isFinite = false →
        outcome = (none, .error .notFinite)) ∧
      (url? = none → outcome = (none, .error .notAUrl))) ∧
    (Command.hasElements v = false → outcome = (none, .error .wrongType)) ∧
    (v ≠ .arr [] → v ≠ .str "" → (∀ os, ¬ Patch.IsPatch v os) → Command.hasElements v = true →
      ∃ part, outcome = (none, .error (.reported (.undecodable "Operation" part)))) ∧
    (∀ r, outcome = (none, .ok r) → v = .arr [] ∨ v = .str "") := by
  intro outcome url?
  have hempty : v = .arr [] ∨ v = .str "" →
      outcome = (none, .ok { success := true, operations := some [] }) := by
    rintro (rfl | rfl)
    · exact submit_of_nil hv2 rfl a
    · exact submit_of_nil hv2 rfl a
  have hpatch : ∀ os, Patch.IsPatch v os → ∃ os', Patch.Carried source target os os' ∧
      (v.isFinite = true → (Patch.message os').isFinite = true) ∧ outcome = _ :=
    fun os h => submit_of_isPatch hv2 hformat hdialect h a
  refine ⟨fun h => ⟨_, hempty h, rfl, _, rfl, fun _ => rfl⟩, fun os h => ?_,
    fun h => ?_, fun hlist htext hnone helements => ?_, fun r hr => ?_⟩
  · obtain ⟨os', hcarried, hkept, houtcome⟩ := hpatch os h
    refine ⟨os', hcarried, hkept, fun url hurl hfinite => ?_, fun url hurl hfinite => ?_,
      fun hurl => ?_⟩
    · rw [show c.requestUrl? "models" _ = some url from hurl] at houtcome
      simp only [hfinite, if_true] at houtcome
      exact congrArg Prod.fst houtcome
    · rw [show c.requestUrl? "models" _ = some url from hurl] at houtcome
      simpa only [hfinite, Bool.false_eq_true, if_false] using houtcome
    · rwa [show c.requestUrl? "models" _ = none from hurl] at houtcome
  · cases v with
    | null | bool | int | float => exact submit_of_error hv2 rfl a
    | _ => cases h
  · have hcomes := Patch.comes_operations v
    generalize hread : Patch.operations v = read at hcomes
    cases hcomes with
    | empty h => exact absurd h (not_or.2 ⟨hlist, htext⟩)
    | patch h => exact absurd h (hnone _)
    | stopped h => exact absurd helements (by rw [h]; exact Bool.false_ne_true)
    | refused part => exact ⟨part, submit_of_error hv2 hread a⟩
  · have hcomes := Patch.comes_operations v
    generalize hread : Patch.operations v = read at hcomes
    cases hcomes with
    | empty h => exact h
    | patch h =>
      obtain ⟨os', -, -, houtcome⟩ := hpatch _ h
      have hsame := houtcome.symm.trans hr
      split at hsame
      · split at hsame <;> cases hsame
      · cases hsame
    | stopped | refused => cases hr.symm.trans (submit_of_error hv2 hread a)

/-- A patch that removes a member. -/
def removal : Json := .arr [.obj [("op", .str "remove"), ("path", .str "/a")]]

theorem submit_patch_removal :
    localClient.protocol = .v2 ∧ localClient.editFormat none = Format.jsonV2.name ∧
      Format.jsonV2.Dialect typeTag typeTagV2 ∧
      Patch.IsPatch removal [{ action := .remove, path := "/a" }] ∧
      (localClient.submit "m" (.patch removal) none .timedOut).1 = some
        { method := .patch
          url := { localClient.base with
            path := "/api/v2/models", query := some "modeluri=m&format=json-v2" }
          body := some (.obj [("data", .obj [("type", .str "modelserver.patch"),
            ("data", removal)])]) } := by
  have hpatch : Patch.IsPatch removal [{ action := .remove, path := "/a" }] :=
    .list (List.cons_ne_nil _ _) (.cons rfl .nil)
  obtain ⟨-, hsends, -⟩ :=
    @submit_patch localClient "m" none _ _ _ rfl rfl .jsonV2 removal .timedOut
  obtain ⟨os', hcarried, hfinite, hsent, -⟩ := hsends _ hpatch
  have hfirst := hsent
    { localClient.base with path := "/api/v2/models", query := some "modeluri=m&format=json-v2" }
    (by decide +kernel) (hfinite (by decide))
  refine ⟨rfl, rfl, .jsonV2, hpatch, ?_⟩
  rcases hcarried with rfl | rfl
  · exact hfirst
  · exact hfirst

/-- Nothing is sent for the empty text, and the edit succeeds. An edit with `null` is stopped, and
its failure is not reported. -/
theorem submit_empty_text :
    localClient.submit "m" (.patch (.str "")) none .timedOut =
        (none, .ok { success := true, operations := some [] }) ∧
      localClient.submit "m" (.patch .null) none .timedOut = (none, .error .wrongType) :=
  ⟨rfl, rfl⟩

end Client

end RemoteModel
