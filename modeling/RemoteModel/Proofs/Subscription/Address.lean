import Mathlib.Tactic.SplitIfs
import RemoteModel.Proofs.Check
import RemoteModel.Proofs.Entries
import RemoteModel.Proofs.Url.Joining
import RemoteModel.Subscription.Options

/-!
# What the address of a channel asks for

The address of a channel exists exactly when the authority of the server can be written again, the
decoded path of the server can be a path, and the form of the options is not too long
(`isSome_channelParts_iff`). The query of such an address, form-decoded, is the list of names and
values that it was written from (`asked_text`).

**What is asked for** (`Asks`). Further options are merged over the fields, and both are merged over
the model. So each name occurs once, and what is under it is decided from the last list on: an
option under a name of its own is found there, and the model is found unless an option has its name
(`get?_params`).

Main statement: `address_form`.
-/

namespace RemoteModel.Subscription

/-! ## Options by name -/

namespace Options

/-- Options whose further members have names of their own. -/
structure Lawful (o : Options) : Prop where
  distinct : Entries.Distinct o.extras
  apart : ∀ name ∈ Entries.names o.extras, [name] ∉ names

/-- Options that are read from an object are lawful. -/
theorem lawful_of_check {ms : Entries Json} {o : Options} (hd : Entries.Distinct ms)
    (h : check (.obj ms) = .ok o) : o.Lawful := by
  obtain ⟨ms', heq, h⟩ := Check.fields_eq_ok.1 h
  obtain rfl : ms = ms' := Json.obj.inj heq
  obtain ⟨_, extras, h₄, hextras, rfl⟩ := Checked.seq_eq_ok.1 h
  obtain ⟨_, failing, h₃, -, rfl⟩ := Checked.seq_eq_ok.1 h₄
  obtain ⟨_, live, h₂, -, rfl⟩ := Checked.seq_eq_ok.1 h₃
  obtain ⟨_, timeout, h₁, -, rfl⟩ := Checked.seq_eq_ok.1 h₂
  obtain ⟨format, -, rfl⟩ := Checked.map_eq_ok.1 h₁
  cases hextras
  refine ⟨hd.sublist (List.filter_sublist.map _), ?_⟩
  intro name hname hfield
  obtain ⟨⟨k, v⟩, hmem, rfl⟩ := List.mem_map.1 hname
  obtain ⟨hms, hunused⟩ := List.mem_filter.1 hmem
  have hfind : Check.find? ms [k] = some (k, v) := by
    simp only [Check.find?, Entries.get?_of_mem hd hms]
  have hused : k ∈ names.filterMap fun ns => (Check.find? ms ns).map (·.1) :=
    List.mem_filterMap.2 ⟨[k], hfield, by rw [hfind]; rfl⟩
  exact absurd hunused (by simp [hused])

/-- The format that is asked for; an empty one is none. -/
def formatOr (o : Options) (defaultFormat : String) : String :=
  match o.format with
  | some f => if f = "" then defaultFormat else f
  | none => defaultFormat

/-- The values of the fields. -/
def fieldQuery (o : Options) (defaultFormat : String) : Entries String :=
  [("format", o.formatOr defaultFormat)] ++
    (o.timeout.map fun n => ("timeout", toString n)).toList ++
    (o.liveValidation.map fun b => ("livevalidation", queryText (.bool b))).toList

/-- The further options that are passed on. -/
def passed (o : Options) : Entries String :=
  (o.extras.filter fun e => !e.2.isNull && !isLocal e.1).map fun e => (e.1, queryText e.2)

theorem query_eq (o : Options) (defaultFormat : String) :
    o.query defaultFormat = Entries.merge (o.fieldQuery defaultFormat) o.passed := rfl

theorem names_fieldQuery_sublist (o : Options) (defaultFormat : String) :
    (Entries.names (o.fieldQuery defaultFormat)).Sublist
      ["format", "timeout", "livevalidation"] := by
  unfold fieldQuery
  cases o.timeout <;> cases o.liveValidation <;>
    simp only [Entries.names, Option.map_none, Option.map_some, Option.toList_none,
      Option.toList_some, List.map_cons, List.map_nil, List.append_nil, List.cons_append,
      List.nil_append] <;>
    decide

theorem distinct_fieldQuery (o : Options) (defaultFormat : String) :
    Entries.Distinct (o.fieldQuery defaultFormat) :=
  (names_fieldQuery_sublist o defaultFormat).nodup (by decide)

theorem queryText_bool (b : Bool) : queryText (.bool b) = if b then "true" else "false" := by
  cases b <;> rfl

section Distinct

variable {o : Options} (hd : Entries.Distinct o.extras)
include hd

theorem distinct_passed : Entries.Distinct o.passed := by
  have hnames : Entries.names o.passed =
      Entries.names (o.extras.filter fun e => !e.2.isNull && !isLocal e.1) := by
    rw [Entries.names, passed, List.map_map]
    rfl
  rw [Entries.Distinct, hnames]
  exact hd.sublist (List.filter_sublist.map _)

/-- An option is passed on under its name unless it is null or local. -/
theorem get?_passed (name : String) :
    o.passed.get? name =
      if isLocal name then none else ((o.extras.get? name).filter (!·.isNull)).map queryText := by
  rw [passed, Entries.get?_map, Entries.get?_filter hd]
  cases hlocal : isLocal name with
  | true =>
    cases o.extras.get? name <;> simp [hlocal, Option.filter]
  | false => simp [hlocal]

theorem get?_query (defaultFormat name : String) :
    (o.query defaultFormat).get? name =
      (o.passed.get? name).or ((o.fieldQuery defaultFormat).get? name) := by
  rw [query_eq, Entries.get?_merge _ (distinct_passed hd)]

end Distinct

end Options

/-! ## Queries -/

/-- The names and values of the query of a model. -/
def params (defaultFormat modeluri : String) (o : Options) : Entries String :=
  Entries.merge [("modeluri", modeluri)] (o.query defaultFormat)

theorem querySafe_of_mem_form {es : Entries String} {c : Char} (h : c ∈ Text.Percent.form es) :
    Url.isQuerySafe c = true ∧ Url.isControl c = false ∧ c ≠ '#' := by
  rcases Text.Percent.mem_form h with hc | rfl | rfl
  · exact Text.forall_ascii (P := fun c => Text.Percent.isFormChar c = true →
      Url.isQuerySafe c = true ∧ Url.isControl c = false ∧ c ≠ '#') (by decide)
      (Text.Percent.lt_of_isFormChar hc) hc
  · decide
  · decide

/-- A form is no longer than a component of an address may be. -/
def IsShort (es : Entries String) : Prop := (Text.Percent.form es).length ≤ Url.maxLength

theorem escape_formQuery (es : Entries String) :
    (Url.formQuery es).map (Url.escape Url.isQuerySafe) = Url.formQuery es := by
  unfold Url.formQuery
  split_ifs
  · rfl
  · rw [Option.map_some, Url.escape, String.toList_ofList, Text.Percent.encode_eq_self]
    exact fun c hc => (querySafe_of_mem_form hc).1

theorem toList_formQuery (es : Entries String) :
    ((Url.formQuery es).getD "").toList = Text.Percent.form es := by
  unfold Url.formQuery
  split_ifs with h
  · rw [List.isEmpty_iff.1 h]
    rfl
  · exact String.toList_ofList

theorem isPlain_formQuery_iff (es : Entries String) :
    Url.isPlain ((Url.formQuery es).getD "") = true ↔ IsShort es := by
  have hcontrol : (Text.Percent.form es).any Url.isControl = false := by
    refine List.any_eq_false.2 fun c hc => ?_
    rw [(querySafe_of_mem_form hc).2.1]
    exact Bool.false_ne_true
  rw [Url.isPlain, ← String.length_toList, toList_formQuery, hcontrol]
  simp [IsShort]

/-! ## Paths -/

/-- The path of the channels of a server. -/
def channelPath (u : Url) : String :=
  (if u.decodedPath.endsWith "/" then u.decodedPath else u.decodedPath ++ "/") ++ pathName

/-- A text that can be the path of an address. -/
def IsPath (s : String) : Prop :=
  Url.isPlain s = true ∧ ∀ c ∈ s.toList, c ≠ '?' ∧ c ≠ '#'

theorem rooted_channelPath {u : Url} (h : Url.Rooted u.path.toList) :
    Url.Rooted (channelPath u).toList := by
  obtain ⟨rest, hrest⟩ : ∃ rest, u.decodedPath.toList = '/' :: rest := by
    rw [Url.decodedPath]
    rcases h with hempty | ⟨rest, hrest⟩
    · have hpath : u.path = "" := String.toList_inj.1 hempty
      rw [if_pos hpath]
      exact ⟨[], rfl⟩
    · have hpath : u.path ≠ "" := fun h => by
        rw [h] at hrest
        cases hrest
      rw [if_neg hpath, hrest]
      exact ⟨_, Text.Percent.toList_decode_cons (by decide) rest⟩
  unfold channelPath
  split_ifs
  · exact .inr ⟨rest ++ pathName.toList, by rw [String.toList_append, hrest]; rfl⟩
  · exact .inr ⟨rest ++ "/".toList ++ pathName.toList, by
      rw [String.toList_append, String.toList_append, hrest]; rfl⟩

/-! ## Addresses -/

/-- The components of the address of a channel. -/
def channelParts (u : Url) (es : Entries String) : Url.Parts :=
  { u.parts with
    scheme := channelScheme u.scheme, path := channelPath u, query := Url.formQuery es }

theorem address?_eq (baseUrl defaultFormat modeluri : String) (o : Options) :
    address? baseUrl defaultFormat modeluri o =
      (Url.ofText? baseUrl).bind fun u =>
        (Url.ofParts? (channelParts u (params defaultFormat modeluri o))).map Url.text := by
  cases hu : Url.ofText? baseUrl with
  | none => simp only [address?, hu, Option.bind_eq_bind, Option.bind_none]
  | some u =>
    simp only [address?, hu, Option.bind_eq_bind, Option.bind_some, channelParts, channelPath,
      params, Option.map_eq_bind]
    rfl

/-- The names and values that an address asks for, form-decoded. -/
def asked (address : String) : Entries String :=
  Text.Percent.readForm ((Url.Parts.ofText address).query.getD "").toList

theorem channelScheme_eq_or (scheme : String) :
    channelScheme scheme = "ws" ∨ channelScheme scheme = "wss" := by
  unfold channelScheme
  split_ifs
  · exact .inr rfl
  · exact .inl rfl

theorem hasScheme_channelParts (u : Url) (es : Entries String) :
    (channelParts u es).hasScheme = true := by
  show (Text.lower (channelScheme u.scheme) != "") = true
  rcases channelScheme_eq_or u.scheme with h | h <;> rw [h] <;> decide

/-- **An address asks for what its query was written from.** -/
theorem asked_text {u v : Url} {es : Entries String}
    (h : Url.ofParts? (channelParts u es) = some v) : asked v.text = es := by
  obtain ⟨-, hv⟩ := Url.ofParts?_eq_some_iff.1 h
  obtain ⟨host, port, -, -, -, heq⟩ := Url.normalize?_eq_some_iff.1 hv
  have hscheme : v.scheme ≠ "" := by
    rw [← heq]
    exact bne_iff_ne.1 (hasScheme_channelParts u es)
  have hquery : v.query = Url.formQuery es := by
    rw [← heq]
    exact escape_formQuery es
  rw [asked, Url.query_ofText_text (Url.written_of_ofParts? h) hscheme, hquery, toList_formQuery,
    Text.Percent.readForm_form]

/-! ## Existence -/

/-- The schemes of the servers that have channels. -/
def serverSchemes : List String := ["http", "https", "ws", "wss"]

/-- The address of a server without what its channels replace. -/
def serverParts (u : Url) : Url.Parts := { u.parts with path := "", query := none }

theorem port?_congr {s t : String} (h : Url.defaultPort? s = Url.defaultPort? t)
    (cs : List Char) : Url.port? s cs = Url.port? t cs := by
  unfold Url.port?
  rw [h]

theorem defaultPort?_channelScheme {scheme : String} (h : scheme ∈ serverSchemes) :
    Url.defaultPort? (channelScheme scheme) = Url.defaultPort? scheme := by
  have hall : ∀ s ∈ serverSchemes, Url.defaultPort? (channelScheme s) = Url.defaultPort? s := by
    decide
  exact hall scheme h

theorem sound_channelParts_iff {u : Url} (h : u.scheme ∈ serverSchemes) (es : Entries String) :
    (channelParts u es).Sound ↔ (serverParts u).Sound ∧ IsPath (channelPath u) ∧ IsShort es := by
  have hserver : ∀ s ∈ serverSchemes, Url.isPlain s = true ∧ Url.isScheme s.toList = true := by
    decide
  have hchannel : Url.isPlain (channelScheme u.scheme) = true ∧
      Url.isScheme (channelScheme u.scheme).toList = true := by
    rcases channelScheme_eq_or u.scheme with h | h <;> rw [h] <;> decide
  have hempty : Url.isPlain "" = true := by decide
  constructor
  · rintro ⟨hplain, -, hauthority, hpath, -⟩
    simp only [List.forall_mem_cons, channelParts] at hplain
    obtain ⟨-, hplainAuthority, hplainPath, hplainQuery, hplainFragment, -⟩ := hplain
    refine ⟨⟨?_, (hserver _ h).2, hauthority, ?_, ?_⟩, ⟨hplainPath, hpath⟩,
      (isPlain_formQuery_iff es).1 hplainQuery⟩
    · simp only [List.forall_mem_cons, serverParts]
      exact ⟨(hserver _ h).1, hplainAuthority, hempty, hempty, hplainFragment,
        fun s hs => absurd hs List.not_mem_nil⟩
    · exact fun c hc => absurd hc List.not_mem_nil
    · exact List.not_mem_nil
  · rintro ⟨⟨hplain, -, hauthority, -, -⟩, ⟨hplainPath, hpath⟩, hshort⟩
    simp only [List.forall_mem_cons, serverParts] at hplain
    obtain ⟨-, hplainAuthority, -, -, hplainFragment, -⟩ := hplain
    refine ⟨?_, hchannel.2, hauthority, hpath, ?_⟩
    · simp only [List.forall_mem_cons, channelParts]
      exact ⟨hchannel.1, hplainAuthority, hplainPath, (isPlain_formQuery_iff es).2 hshort,
        hplainFragment, fun s hs => absurd hs List.not_mem_nil⟩
    · simp only [channelParts, toList_formQuery]
      exact fun hmem => (querySafe_of_mem_form hmem).2.2 rfl

/-- **When a channel has an address.** -/
theorem isSome_channelParts_iff {baseUrl : String} {u : Url} (hu : Url.ofText? baseUrl = some u)
    (h : u.scheme ∈ serverSchemes) (es : Entries String) :
    (Url.ofParts? (channelParts u es)).isSome = true ↔
      (Url.ofParts? (serverParts u)).isSome = true ∧ IsPath (channelPath u) ∧ IsShort es := by
  have hschemes : ∀ s ∈ serverSchemes, s ≠ "" ∧ (Text.lower s != "") = true := by decide
  have hrooted : u.authority ≠ "" → Url.Rooted (channelPath u).toList := fun ha =>
    rooted_channelPath (Url.rooted_of_ofText? hu (hschemes _ h).1 ha)
  have hhost : (channelParts u es).host? = (serverParts u).host? := rfl
  have hport : (channelParts u es).port? = (serverParts u).port? :=
    port?_congr (defaultPort?_channelScheme h) _
  rw [Url.isSome_ofParts?_iff (hasScheme_channelParts u es) hrooted,
    Url.isSome_ofParts?_iff (p := serverParts u) (hschemes _ h).2 (fun _ => .inl rfl),
    sound_channelParts_iff h, hhost, hport]
  constructor
  · rintro ⟨⟨hserver, hpath, hshort⟩, hread⟩
    exact ⟨⟨hserver, hread⟩, hpath, hshort⟩
  · rintro ⟨⟨hserver, hread⟩, hpath, hshort⟩
    exact ⟨⟨hserver, hpath, hshort⟩, hread⟩

/-! ## What is asked for -/

/-- The names of the values that a subscription has of its own. -/
def ownNames : List String := ["modeluri", "format", "timeout", "livevalidation"]

/-- A query asks for a model with some options, and for nothing else. -/
structure Asks (es : Entries String) (defaultFormat modeluri : String) (o : Options) : Prop where
  once : Entries.Distinct es
  model : es.get? "modeluri" = some modeluri
  format : es.get? "format" = some (o.formatOr defaultFormat)
  timeout : es.get? "timeout" = o.timeout.map toString
  validation : es.get? "livevalidation" =
    o.liveValidation.map fun b => if b then "true" else "false"
  /-- All other options are passed on under their names, without those that are null. -/
  further : ∀ name, name ∉ ownNames → name ≠ "errorWhenUnsuccessful" → name ≠ "listener" →
    es.get? name = ((o.extras.get? name).filter (!·.isNull)).map Options.queryText
  failing : es.get? "error_when_unsuccessful" = none ∧ es.get? "errorWhenUnsuccessful" = none
  listener : es.get? "listener" = none

/-- What further options and fields leave to the model. -/
theorem get?_params {o : Options} (hd : Entries.Distinct o.extras)
    (defaultFormat modeluri name : String) :
    (params defaultFormat modeluri o).get? name =
      ((o.passed.get? name).or ((o.fieldQuery defaultFormat).get? name)).or
        (if "modeluri" = name then some modeluri else none) := by
  have hquery : Entries.Distinct (o.query defaultFormat) :=
    (Options.distinct_fieldQuery o defaultFormat).merge _
  rw [params, Entries.get?_merge _ hquery, Options.get?_query hd]
  rfl

theorem Options.Lawful.get?_eq_none {o : Options} (ho : o.Lawful) {name : String}
    (h : [name] ∈ Options.names) : o.extras.get? name = none :=
  Entries.get?_eq_none fun hmem => ho.apart name hmem h

/-- **The query of a model asks for the model and for what the options set.** -/
theorem asks_params {o : Options} (ho : o.Lawful)
    (hm : ∀ v, o.extras.get? "modeluri" = some v → v.isNull = true)
    (defaultFormat modeluri : String) :
    Asks (params defaultFormat modeluri o) defaultFormat modeluri o := by
  have hparams := get?_params ho.distinct defaultFormat modeluri
  have hpassed := Options.get?_passed ho.distinct
  have hfields := Options.names_fieldQuery_sublist o defaultFormat
  have hfield : ∀ name, [name] ∈ Options.names → o.passed.get? name = none := by
    intro name h
    rw [hpassed, ho.get?_eq_none h]
    split_ifs <;> rfl
  have hone : Entries.Distinct [("modeluri", modeluri)] := List.pairwise_singleton _ _
  have hmodel : o.passed.get? "modeluri" = none := by
    rw [hpassed, if_neg (by decide)]
    cases hv : o.extras.get? "modeluri" with
    | none => rfl
    | some v => simp [Option.filter, hm v hv]
  have hother : ∀ name, name ∉ ownNames →
      (params defaultFormat modeluri o).get? name = o.passed.get? name := by
    intro name h
    have hne : "modeluri" ≠ name := fun heq => h (heq ▸ List.mem_cons_self)
    have hnone : (o.fieldQuery defaultFormat).get? name = none :=
      Entries.get?_eq_none fun hmem => h (List.mem_cons_of_mem _ (hfields.subset hmem))
    rw [hparams, hnone, if_neg hne, Option.or_none, Option.or_none]
  exact
    { once := hone.merge _
      model := by
        have hnone : (o.fieldQuery defaultFormat).get? "modeluri" = none :=
          Entries.get?_eq_none fun hmem => absurd (hfields.subset hmem) (by decide)
        rw [hparams, hmodel, hnone]
        rfl
      format := by
        rw [hparams, hfield _ (by decide)]
        rfl
      timeout := by
        rw [hparams, hfield _ (by decide)]
        cases ht : o.timeout <;> cases hl : o.liveValidation <;>
          simp [Options.fieldQuery, Entries.get?, ht, hl]
      validation := by
        rw [hparams, hfield _ (by decide)]
        cases ht : o.timeout <;> cases hl : o.liveValidation <;>
          simp [Options.fieldQuery, Entries.get?, ht, hl, Options.queryText_bool]
      further := by
        intro name h hfailing hlistener
        have hlocal : Options.isLocal name = false := by
          simp [Options.isLocal, hfailing, hlistener]
        rw [hother name h, hpassed, hlocal, if_neg Bool.false_ne_true]
      failing := by
        refine ⟨?_, ?_⟩
        · rw [hother _ (by decide), hfield _ (by decide)]
        · rw [hother _ (by decide), hpassed, if_pos (by decide)]
      listener := by
        rw [hother _ (by decide), hpassed, if_pos (by decide)] }

/-- **What the address of a model asks for.** If the path of its channels can be a path, it exists
exactly when its other parts fit into an address. Whenever it exists, its form-decoded query names
the model, the format, what else is set, and every further option that is neither null nor local
under its own name. -/
theorem address_form (baseUrl defaultFormat modeluri : String) (o : Options) (ho : o.Lawful)
    (hm : ∀ v, o.extras.get? "modeluri" = some v → v.isNull = true) {u : Url}
    (hu : Url.ofText? baseUrl = some u) (hs : u.scheme ∈ serverSchemes) :
    (IsPath (channelPath u) →
      ((address? baseUrl defaultFormat modeluri o).isSome = true ↔
        (Url.ofParts? (serverParts u)).isSome = true ∧
          IsShort (params defaultFormat modeluri o))) ∧
    ∀ address, address? baseUrl defaultFormat modeluri o = some address →
      Asks (asked address) defaultFormat modeluri o := by
  have haddress : address? baseUrl defaultFormat modeluri o =
      (Url.ofParts? (channelParts u (params defaultFormat modeluri o))).map Url.text := by
    rw [address?_eq, hu, Option.bind_some]
  refine ⟨fun hpath => ?_, fun address h => ?_⟩
  · rw [haddress, Option.isSome_map, isSome_channelParts_iff hu hs, and_iff_right hpath]
  · rw [haddress, Option.map_eq_some_iff] at h
    obtain ⟨v, hv, rfl⟩ := h
    rw [asked_text hv]
    exact asks_params ho hm defaultFormat modeluri

/-- Names and values are encoded where they have to be. -/
theorem address_form_encoded :
    (address? "https://h/api/" "json" "m?"
      { timeout := some 5, extras := [("a b", .str "ü&="), ("n", .null)] }).isSome = true ∧
    Asks (asked "wss://h/api/subscribe?modeluri=m%3F&format=json&timeout=5&a+b=%C3%BC%26%3D")
      "json" "m?" { timeout := some 5, extras := [("a b", .str "ü&="), ("n", .null)] } := by
  have ho : ({ timeout := some 5, extras := [("a b", .str "ü&="), ("n", .null)] } :
      Options).Lawful :=
    ⟨by simp [Entries.Distinct, Entries.names], by decide⟩
  have hbase : Url.ofText? "https://h/api/" =
      some ⟨"https", "", "h", none, "/api/", none, none⟩ := by
    decide +kernel
  have hmarks : ((channelPath ⟨"https", "", "h", none, "/api/", none, none⟩).toList.all
      fun c => c != '?' && c != '#') = true := by
    decide +kernel
  have hpath : IsPath (channelPath ⟨"https", "", "h", none, "/api/", none, none⟩) :=
    ⟨by decide +kernel, by simpa using hmarks⟩
  have hshort : IsShort (params "json" "m?"
      { timeout := some 5, extras := [("a b", .str "ü&="), ("n", .null)] }) := by
    unfold IsShort
    decide +kernel
  obtain ⟨hexists, hasks⟩ := address_form "https://h/api/" "json" "m?"
    { timeout := some 5, extras := [("a b", .str "ü&="), ("n", .null)] } ho
    (by simp [Entries.get?]) hbase (by decide)
  exact ⟨(hexists hpath).2 ⟨by decide +kernel, hshort⟩, hasks _ (by decide +kernel)⟩

/-- A local option is not passed on, a further option takes the place of the model, and the path
of a server may hold what no path of an address holds. -/
theorem address_form_amiss :
    (address? "http://h/" "json" "m" { extras := [("listener", .str "x")] } =
      some "ws://h/subscribe?modeluri=m&format=json" ∧
      (asked "ws://h/subscribe?modeluri=m&format=json").get? "listener" = none) ∧
    (address? "http://h/" "json" "m" { extras := [("modeluri", .str "n")] } =
      some "ws://h/subscribe?modeluri=n&format=json" ∧
      (asked "ws://h/subscribe?modeluri=n&format=json").get? "modeluri" = some "n") ∧
    ((Url.ofText? "http://h/%3F").isSome = true ∧ address? "http://h/%3F" "json" "m" {} = none) ∧
    (Url.ofText? "http://1[3.4/").isSome = true ∧
      address? "http://1[3.4/" "json" "m" {} = none := by
  decide +kernel

end RemoteModel.Subscription
