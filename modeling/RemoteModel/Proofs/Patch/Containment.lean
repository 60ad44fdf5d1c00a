import RemoteModel.Proofs.Patch.Copying
import RemoteModel.Proofs.Patch.Pointers

/-!
# Elements named by where they are contained

An element may be named by its place among the contained elements of a model: by the features that
lead to it from the root, each with an index where the feature holds a list. The root is named
`/`, and every other element `//@feature.index/…`. Slashes part the segments from one another and
from the steps that a path adds behind them, so the reader takes the segments with an at sign for
the name of the element and the rest for further steps.

**Main statement.** `containment_paths`: the paths that are built for an element with such a name
lead to the element, to its features and to their items. There is one exception: the path `…#/`
for removing the root is read as one step with an empty name.

The proof follows the reader. The fragment is cut at its slashes into the texts of the segments
and the further steps (`ofFragment_containmentName`); each segment gives its feature and index
(`containmentSteps_segment`), and the further steps begin without an at sign
(`containment_segments`).
-/

namespace RemoteModel.Patch

open Json (Step Location)

variable {d : Json} {segments : List (String × Option Nat)} {members : Entries Json}
  {suffix : List String}

/-! ## Names -/

/-- A feature that a path can name behind an element. -/
structure IsFeature (feature : String) : Prop where
  named : feature ≠ ""
  plain : '/' ∉ feature.toList
  unmarked : feature.toList.head? ≠ some '@'

/-- A feature that a segment can name: a dot parts it from the index. -/
structure IsContainmentFeature (feature : String) : Prop extends IsFeature feature where
  undotted : '.' ∉ feature.toList

/-- The steps of a segment: into a feature, and to an item of the list that it holds. -/
def segmentSteps : String × Option Nat → Location
  | (feature, none) => [.member feature]
  | (feature, some n) => [.member feature, .item n]

/-- The location of an element from its containment. -/
def containedAt (segments : List (String × Option Nat)) : Location :=
  segments.flatMap segmentSteps

/-- The text of a segment. -/
def segmentText : String × Option Nat → List Char
  | (feature, none) => '@' :: feature.toList
  | (feature, some n) => '@' :: (feature.toList ++ '.' :: (toString n).toList)

/-- The name of an element from its containment; that of the root is a slash. -/
def containmentName (segments : List (String × Option Nat)) : String :=
  String.ofList ('/' :: segments.flatMap fun s => '/' :: segmentText s)

/-! ## Reading segments -/

theorem toString_ne_nil (n : Nat) : (toString n).toList ≠ [] := by
  rw [Text.toList_toString]
  exact Nat.toDigits_ne_nil

theorem slash_not_mem_segmentText {s : String × Option Nat} (h : IsContainmentFeature s.1) :
    '/' ∉ segmentText s := by
  obtain ⟨feature, index⟩ := s
  cases index with
  | none =>
    simp only [segmentText, List.mem_cons, not_or]
    exact ⟨by decide, h.plain⟩
  | some n =>
    simp only [segmentText, List.mem_cons, List.mem_append, not_or]
    exact ⟨by decide, h.plain, by decide, Text.not_mem_toString (by decide) n⟩

theorem containmentSteps_segment {s : String × Option Nat} (h : IsContainmentFeature s.1) :
    ∃ cs, segmentText s = '@' :: cs ∧
      Address.containmentSteps cs = (segmentSteps s).map Step.token := by
  obtain ⟨feature, index⟩ := s
  cases index with
  | none =>
    refine ⟨_, rfl, ?_⟩
    rw [Address.containmentSteps, Text.cut?_eq_none h.undotted]
    simp [segmentSteps, Step.token]
  | some n =>
    refine ⟨_, rfl, ?_⟩
    obtain ⟨c, cs, hdigits⟩ := List.exists_cons_of_ne_nil (toString_ne_nil n)
    rw [Address.containmentSteps, Text.cut?_append _ h.undotted, hdigits]
    simp only [segmentSteps, Step.token, List.map_cons, List.map_nil, String.ofList_toList]
    rw [← hdigits, String.ofList_toList]

/-- Steps that a path adds behind an element: the first of them is a feature. -/
def IsSuffix (suffix : List String) : Prop :=
  (∀ s ∈ suffix, '/' ∉ s.toList) ∧ ∀ s ∈ suffix.head?, IsFeature s

/-- **The segments of a name are read back**, and then the steps behind them. -/
theorem containment_segments (hsegments : ∀ s ∈ segments, IsContainmentFeature s.1)
    (hsuffix : IsSuffix suffix) :
    Address.containment (segments.map segmentText ++ suffix.map String.toList) =
      (containedAt segments).map Step.token ++ suffix := by
  induction segments with
  | nil =>
    cases suffix with
    | nil => rfl
    | cons s rest =>
      -- The first step is no segment, so all of them are plain.
      have hs := (hsuffix.2 s rfl).unmarked
      have hplain : Address.containment ((s :: rest).map String.toList) =
          ((s :: rest).map String.toList).map String.ofList := by
        rw [List.map_cons, Address.containment]
        · simp
        · intro feature _ hfirst
          rw [(List.cons.inj hfirst).1] at hs
          exact hs rfl
      simpa [containedAt, Function.comp_def] using hplain
  | cons s segments ih =>
    obtain ⟨hs, hrest⟩ := List.forall_mem_cons.1 hsegments
    obtain ⟨cs, htext, hsteps⟩ := containmentSteps_segment hs
    rw [List.map_cons, List.cons_append, htext, Address.containment, hsteps, ih hrest]
    simp [containedAt]

theorem ofFragment_texts {first : List Char} {rest : List (List Char)} (hfirst : first ≠ [])
    (hplain : ∀ t ∈ first :: rest, '/' ∉ t) :
    Address.ofFragment ('/' :: (first :: rest).flatMap ('/' :: ·)) =
      .fromRoot (Address.containment (first :: rest)) := by
  obtain ⟨hslash, hrest⟩ := List.forall_mem_cons.1 hplain
  have hpieces := Text.pieces_flatMap hslash hrest
  obtain ⟨c, cs, rfl⟩ := List.exists_cons_of_ne_nil hfirst
  rw [List.flatMap_cons, List.cons_append, Address.ofFragment]
  · rw [hpieces]
  · simp

/-- The fragment of a path that begins with the name of an element is read as the location of the
element and the steps behind it. -/
theorem ofFragment_containmentName (hsegments : ∀ s ∈ segments, IsContainmentFeature s.1)
    (hsuffix : IsSuffix suffix) (hne : segments ≠ [] ∨ suffix ≠ []) :
    Address.ofFragment
        ((containmentName segments).toList ++ suffix.flatMap fun s => '/' :: s.toList) =
      .fromRoot ((containedAt segments).map Step.token ++ suffix) := by
  have htexts : (containmentName segments).toList ++ (suffix.flatMap fun s => '/' :: s.toList) =
      '/' :: (segments.map segmentText ++ suffix.map String.toList).flatMap ('/' :: ·) := by
    simp [containmentName, List.flatMap_map]
  have hplain : ∀ t ∈ segments.map segmentText ++ suffix.map String.toList, '/' ∉ t := by
    intro t ht
    rcases List.mem_append.1 ht with ht | ht
    · obtain ⟨s, hs, rfl⟩ := List.mem_map.1 ht
      exact slash_not_mem_segmentText (hsegments s hs)
    · obtain ⟨s, hs, rfl⟩ := List.mem_map.1 ht
      exact hsuffix.1 s hs
  rw [htexts, ← containment_segments hsegments hsuffix]
  -- The first text is not empty, so there is something behind the two slashes.
  cases segments with
  | cons s segments =>
    obtain ⟨cs, htext, -⟩ := containmentSteps_segment (hsegments s List.mem_cons_self)
    exact ofFragment_texts (by simp [htext]) hplain
  | nil =>
    cases suffix with
    | nil => simp at hne
    | cons s suffix =>
      have hnamed := (hsuffix.2 s rfl).named
      exact ofFragment_texts (by simpa using hnamed) hplain

/-! ## Paths of contained elements -/

theorem ofPath_containmentName (modeluri : String)
    (hsegments : ∀ s ∈ segments, IsContainmentFeature s.1) (hsuffix : IsSuffix suffix)
    (hne : segments ≠ [] ∨ suffix ≠ []) :
    Address.ofPath (Address.modelPath modeluri (containmentName segments) suffix) =
      .ok (.fromRoot ((containedAt segments).map Step.token ++ suffix)) := by
  have hlist : (Text.join "/" (containmentName segments :: suffix)).toList =
      (containmentName segments).toList ++ suffix.flatMap fun s => '/' :: s.toList := by
    rw [show "/" = String.singleton '/' from rfl, Text.toList_join, List.flatMap_map]
  rw [Address.ofPath_fragment, hlist, ofFragment_containmentName hsegments hsuffix hne]

/-- A path from the name of an element leads to what stands behind it. -/
theorem isPathTo_containmentName {l : Location} (modeluri : String) (hd : d.IsDocument)
    (hsegments : ∀ s ∈ segments, IsContainmentFeature s.1) (hsuffix : IsSuffix (l.map Step.token))
    (hne : segments ≠ [] ∨ l ≠ []) :
    IsPathTo d (Address.modelPath modeluri (containmentName segments) (l.map Step.token))
      (containedAt segments ++ l) := by
  have hpath := ofPath_containmentName modeluri hsegments hsuffix (by simpa using hne)
  have hresolve : resolvePath d
      (Address.modelPath modeluri (containmentName segments) (l.map Step.token)) =
        .ok ((containedAt segments ++ l).map Step.token, true) := by
    unfold resolvePath
    rw [hpath, List.map_append]
    rfl
  exact isPathTo_of_resolvePath hd hresolve

/-- The name of the root with no steps behind it is read as a step with an empty name. -/
theorem isPathTo_root (modeluri : String) (hd : d.IsDocument) :
    IsPathTo d (Address.modelPath modeluri (containmentName []) []) [.member ""] := by
  have hresolve : resolvePath d (Address.modelPath modeluri (containmentName []) []) =
      .ok ([""], true) := by
    unfold resolvePath
    rw [Address.ofPath_fragment]
    rfl
  exact isPathTo_of_resolvePath (l := [.member ""]) hd hresolve

/-! ## The paths that are built -/

theorem replaceFeature_of_elementPath {modeluri id : String} {element : Json} (feature : String)
    (v : Json) (h : elementPath modeluri element = .ok (Address.modelPath modeluri id [])) :
    replaceFeature modeluri element feature v =
      .ok (replaceWith v (Address.modelPath modeluri id [feature])) := by
  rw [replaceFeature, featurePath_of_elementPath feature h]
  rfl

theorem removeAt_of_elementPath {modeluri id : String} {element : Json} (feature : String) (n : Nat)
    (h : elementPath modeluri element = .ok (Address.modelPath modeluri id [])) :
    removeAt modeluri element feature (.int n) =
      .ok (removeFrom (Address.modelPath modeluri id [feature, toString n])) := by
  unfold removeAt removeFrom
  rw [featurePath_of_elementPath feature h]
  have hindex : indexSuffix (.int n) = "/" ++ toString n := rfl
  simp [hindex, Address.modelPath, Text.join, Except.map, String.append_assoc]

theorem isSuffix_feature {feature : String} (h : IsFeature feature) : IsSuffix [feature] := by
  refine ⟨List.forall_mem_singleton.2 h.plain, ?_⟩
  intro s hs
  cases hs
  exact h

theorem isSuffix_item {feature : String} (h : IsFeature feature) (n : Nat) :
    IsSuffix [feature, toString n] := by
  refine ⟨?_, (isSuffix_feature h).2⟩
  intro s hs
  rcases List.mem_cons.1 hs with rfl | hs
  · exact h.plain
  · rw [List.mem_singleton.1 hs]
    exact Text.not_mem_toString (by decide) n

theorem elementPath_of_reference (modeluri : String) (h : isReferenceV2 (.obj members) = true) :
    ∃ target, Entries.get? members "$ref" = some (.str target) ∧
      elementPath modeluri (.obj members) = .ok (Address.modelPath modeluri target []) := by
  obtain ⟨-, href⟩ := (Bool.and_eq_true ..).mp h
  obtain ⟨target, htarget⟩ := Json.hasString_iff.1 href
  have hmember : Entries.get? members "$ref" = some (.str target) := htarget
  refine ⟨target, hmember, ?_⟩
  unfold elementPath
  rw [h]
  simp only [member, hmember, if_true]
  rfl

theorem valueAt?_of_isPathTo {path : String} {l : Location} {x : Json} (h : IsPathTo d path l)
    (hl : d.at? l = some x) : valueAt? d path = some x := by
  obtain ⟨isModelPath, hresolve⟩ := h.resolves
  rw [valueAt?, hresolve]
  show reached? (l.map Step.token) d = some x
  rw [reached?, h.leads x hl]
  exact hl

/-- **Contained elements are found by their names.** For an element that is named by its place
among the contained elements, the path of its removal leads to it, and the paths that name a
feature, or a position of a feature, lead to that feature of it and to that position. Only the
path of the removal of the root leads to a member with an empty name. A reference is named by what
it refers to. -/
theorem containment_paths (modeluri : String) (hd : d.IsDocument)
    (hsegments : ∀ s ∈ segments, IsContainmentFeature s.1)
    (here : d.at? (containedAt segments) = some (.obj members))
    (identifier : Entries.get? members "$id" = some (.str (containmentName segments))) :
    (isReferenceV2 (.obj members) = false →
      (∃ o, removeElement modeluri (.obj members) = .ok o ∧
        (segments ≠ [] → IsPathTo d o.path (containedAt segments) ∧
          valueAt? d o.path = some (.obj members)) ∧
        (segments = [] → IsPathTo d o.path [.member ""])) ∧
      ∀ feature, IsFeature feature →
        (∀ v, ∃ o, replaceFeature modeluri (.obj members) feature v = .ok o ∧
          IsPathTo d o.path (containedAt segments ++ [.member feature])) ∧
        ∀ n : Nat, ∃ o, removeAt modeluri (.obj members) feature (.int n) = .ok o ∧
          IsPathTo d o.path (containedAt segments ++ [.member feature, .item n])) ∧
    (isReferenceV2 (.obj members) = true →
      ∃ target, Entries.get? members "$ref" = some (.str target) ∧
        elementPath modeluri (.obj members) = .ok (Address.modelPath modeluri target [])) := by
  refine ⟨?_, elementPath_of_reference modeluri⟩
  intro hobject
  have helement := elementPath_of_identifier modeluri hobject identifier
  refine ⟨⟨_, removeElement_of_elementPath helement, ?_, ?_⟩, ?_⟩
  · intro hne
    have hpath := isPathTo_containmentName (l := []) modeluri hd hsegments ⟨by simp, by simp⟩
      (.inl hne)
    rw [List.append_nil] at hpath
    exact ⟨hpath, valueAt?_of_isPathTo hpath here⟩
  · intro hroot
    subst hroot
    exact isPathTo_root modeluri hd
  · intro feature hfeature
    refine ⟨?_, ?_⟩
    · intro v
      exact ⟨_, replaceFeature_of_elementPath feature v helement,
        isPathTo_containmentName (l := [.member feature]) modeluri hd hsegments
          (isSuffix_feature hfeature) (.inr (by simp))⟩
    · intro n
      exact ⟨_, removeAt_of_elementPath feature n helement,
        isPathTo_containmentName (l := [.member feature, .item n]) modeluri hd hsegments
          (isSuffix_item hfeature n) (.inr (by simp))⟩

/-- A machine with a part inside a part, named by where they are contained. -/
def assembly : Json :=
  .obj [("$id", .str "/"), ("unit", .obj [("$id", .str "//@unit"),
    ("parts", .arr [.null, .obj [("$id", .str "//@unit/@parts.1"), ("teeth", .arr [.int 8])]])])]

theorem assembly_isDocument : assembly.IsDocument := by
  refine ⟨?_, ?_⟩
  · simp [assembly, Json.WellFormed, Json.WellFormedItems, Json.WellFormedMembers,
      Entries.Distinct, Entries.names]
  · have hone : 1 ≤ Text.numeralBound := Text.le_numeralBound (by decide)
    have htwo : 2 ≤ Text.numeralBound := Text.le_numeralBound (by decide)
    simp [assembly, Json.Indexable, Json.IndexableItems, Json.IndexableMembers, hone, htwo]

/-- A part inside a list of a part. -/
theorem containment_paths_assembly :
    let part : Entries Json := [("$id", .str "//@unit/@parts.1"), ("teeth", .arr [.int 8])]
    let place : Location := [.member "unit", .member "parts", .item 1]
    assembly.IsDocument ∧ assembly.at? place = some (.obj part) ∧
      (∃ o, removeElement "m" (.obj part) = .ok o ∧ IsPathTo assembly o.path place ∧
        valueAt? assembly o.path = some (.obj part)) ∧
      (∃ o, replaceFeature "m" (.obj part) "teeth" .null = .ok o ∧
        IsPathTo assembly o.path (place ++ [.member "teeth"])) ∧
      ∃ o, removeAt "m" (.obj part) "teeth" (.int 0) = .ok o ∧
        IsPathTo assembly o.path (place ++ [.member "teeth", .item 0]) := by
  have hfeature : ∀ f ∈ ["unit", "parts", "teeth"], IsContainmentFeature f := by
    have hsigns : ∀ f ∈ ["unit", "parts", "teeth"], f ≠ "" ∧ '/' ∉ f.toList ∧
        f.toList.head? ≠ some '@' ∧ '.' ∉ f.toList := by decide
    intro f hf
    obtain ⟨hnamed, hplain, hunmarked, hundotted⟩ := hsigns f hf
    exact { named := hnamed, plain := hplain, unmarked := hunmarked, undotted := hundotted }
  have hsegments : ∀ s ∈ [("unit", none), ("parts", some 1)], IsContainmentFeature s.1 := by
    intro s hs
    rcases List.mem_cons.1 hs with rfl | hs
    · exact hfeature "unit" (by simp)
    · rw [List.mem_singleton.1 hs]
      exact hfeature "parts" (by simp)
  have here : assembly.at? (containedAt [("unit", none), ("parts", some 1)]) =
      some (.obj [("$id", .str "//@unit/@parts.1"), ("teeth", .arr [.int 8])]) := rfl
  have hname : containmentName [("unit", none), ("parts", some 1)] = "//@unit/@parts.1" := rfl
  have hpaths := containment_paths "m" assembly_isDocument hsegments here (by rw [hname]; rfl)
  obtain ⟨⟨o, hremove, hinside, -⟩, hfeatures⟩ := hpaths.1 rfl
  obtain ⟨hreplace, hitem⟩ := hfeatures "teeth" (hfeature "teeth" (by simp)).toIsFeature
  exact ⟨assembly_isDocument, here, ⟨o, hremove, hinside (by simp)⟩, hreplace .null, hitem 0⟩

/-- The path for removing the root does not lead to the root, and the removal is refused. -/
theorem root_not_removed :
    let root : Json := .obj [("$id", .str (containmentName [])), ("name", .str "x")]
    removeElement "m" root = .ok (removeFrom "m#/") ∧ ¬ IsPathTo root "m#/" (containedAt []) ∧
      apply root [removeFrom "m#/"] =
        .error (.unpatchable (.noValue "m#/") (removeFrom "m#/").toWire) := by
  refine ⟨rfl, ?_, rfl⟩
  intro hpath
  obtain ⟨isModelPath, hroot⟩ := hpath.resolves
  -- The path has one step, and the root has none.
  have hsteps : ([""], true) = ((containedAt []).map Step.token, isModelPath) :=
    Except.ok.inj hroot
  simp [containedAt] at hsteps

end RemoteModel.Patch
