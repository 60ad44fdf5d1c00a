import RemoteModel.Proofs.Url.Normal

/-!
# Putting an address together

Components can be put together if each of them could be split off, the authority can be read, and
the path cannot be taken for an authority (`isSome_ofParts?_iff`). An address that was read keeps
its path apart from its authority: behind an authority the path is empty or begins with a slash
(`rooted_of_ofText?`), whatever dot segments were removed from it.
-/

namespace RemoteModel.Url

/-! ## Paths behind an authority -/

/-- The path is empty or begins with a slash. -/
def Rooted (cs : List Char) : Prop := cs = [] ∨ ∃ rest, cs = '/' :: rest

theorem head?_removeDots {done segments : List (List Char)} (h : done.head? = some []) :
    (removeDots done segments).head? = some [] := by
  induction done, segments using removeDots.induct with
  | case1 done => rwa [removeDots]
  | case2 done rest ih => rw [removeDots, ih h]
  | case3 done rest ih =>
    rw [removeDots]
    refine ih ?_
    split_ifs with hroot
    · exact h
    · match done, h with
      | [_], h => exact absurd (congrArg (fun s => [s]) (Option.some.inj h)) hroot
      | _ :: _ :: _, h => exact h
  | case4 done segment rest h1 h2 ih =>
    rw [removeDots]
    · refine ih ?_
      rw [List.head?_append, h]
      rfl
    · exact h1
    · exact h2

theorem rooted_slashed {segments : List (List Char)} (h : segments.head? = some []) :
    Rooted (slashed segments) := by
  match segments, h with
  | [_], h => exact .inl (Option.some.inj h)
  | s :: t :: rest, h =>
    have hs : s = [] := Option.some.inj h
    exact .inr ⟨slashed (t :: rest), by rw [hs]; rfl⟩

theorem rooted_normalPath {cs : List Char} (h : Rooted cs) : Rooted (normalPath cs) := by
  rcases h with rfl | ⟨rest, rfl⟩
  · exact .inl rfl
  · have hpieces : Text.pieces '/' ('/' :: rest) = [] :: Text.pieces '/' rest := by
      rw [Text.pieces, if_pos rfl]
    have hdots : removeDots [] ([] :: Text.pieces '/' rest) =
        removeDots [[]] (Text.pieces '/' rest) := rfl
    rw [normalPath, hpieces, hdots]
    exact rooted_slashed (head?_removeDots rfl)

theorem rooted_encode {safe : Char → Bool} (hsafe : safe '/' = true) {cs : List Char}
    (h : Rooted cs) : Rooted (Text.Percent.encode safe cs) := by
  rcases h with rfl | ⟨rest, rfl⟩
  · exact .inl rfl
  · refine .inr ⟨Text.Percent.encode safe rest, ?_⟩
    rw [Text.Percent.encode, List.flatMap_cons, if_pos hsafe]
    rfl

/-- With a scheme, the path has to keep apart from an authority only. -/
theorem isPathAllowed_iff {hasAuthority : Bool} {cs : List Char} :
    isPathAllowed true hasAuthority cs = true ↔ (hasAuthority = true → Rooted cs) := by
  have hrooted : (cs.isEmpty || cs.head? == some '/') = true ↔ Rooted cs := by
    cases cs <;> simp [Rooted]
  cases hasAuthority <;> simp [isPathAllowed, hrooted]

/-! ## Authorities -/

theorem hasAuthority_of_authority_eq {p : Parts} (h : p.authority = "") :
    p.host? = some [] ∧ p.port? = some none ∧ p.hasAuthority [] none = false := by
  have hsplit : splitUser p.authority.toList = ([], [], []) := by
    rw [h]
    rfl
  refine ⟨?_, ?_, ?_⟩
  · rw [Parts.host?, hsplit]
    rfl
  · rw [Parts.port?, hsplit]
    rfl
  · rw [Parts.hasAuthority, Parts.user, hsplit]
    rfl

theorem hasAuthority_of_authority_ne {p : Parts} {host : List Char} {port : Option Int}
    (h : (p.url host port).authority ≠ "") : p.hasAuthority host port = true := by
  refine Decidable.byContradiction fun hnone => ?_
  simp only [Parts.hasAuthority, Bool.or_eq_true, bne_iff_ne, not_or, Decidable.not_not,
    Bool.not_eq_true', Bool.not_eq_false, List.isEmpty_iff, Option.isSome_iff_ne_none] at hnone
  obtain ⟨⟨huser, rfl⟩, rfl⟩ := hnone
  refine h ?_
  have hu : (p.url [] none).userinfo = "" := huser
  rw [authority, if_pos hu]
  rfl

/-- **An address that is read keeps its path apart from its authority.** -/
theorem rooted_of_ofText? {s : String} {u : Url} (h : ofText? s = some u) (hs : u.scheme ≠ "")
    (ha : u.authority ≠ "") : Rooted u.path.toList := by
  rw [ofText?, Option.ite_none_right_eq_some] at h
  obtain ⟨host, port, -, -, hallowed, rfl⟩ := normalize?_eq_some_iff.1 h.2
  have hscheme : (Parts.ofText s).hasScheme = true := bne_iff_ne.2 hs
  have hauthority := hasAuthority_of_authority_ne ha
  rw [hscheme] at hallowed
  have hpath := isPathAllowed_iff.1 hallowed hauthority
  simp only [Parts.url, hscheme, Bool.true_or, if_true, String.toList_ofList]
  exact rooted_encode rfl (rooted_normalPath hpath)

/-! ## Components -/

/-- **When components can be put together.** -/
theorem isSome_ofParts?_iff {p : Parts} (hs : p.hasScheme = true)
    (hpath : p.authority ≠ "" → Rooted p.path.toList) :
    (ofParts? p).isSome = true ↔ p.Sound ∧ p.host?.isSome = true ∧ p.port?.isSome = true := by
  constructor
  · intro h
    obtain ⟨u, hu⟩ := Option.isSome_iff_exists.1 h
    obtain ⟨hp, hu⟩ := ofParts?_eq_some_iff.1 hu
    obtain ⟨host, port, hhost, hport, -, -⟩ := normalize?_eq_some_iff.1 hu
    exact ⟨hp, by rw [hhost]; rfl, by rw [hport]; rfl⟩
  · rintro ⟨hp, hhost, hport⟩
    obtain ⟨host, hhost⟩ := Option.isSome_iff_exists.1 hhost
    obtain ⟨port, hport⟩ := Option.isSome_iff_exists.1 hport
    refine Option.isSome_iff_exists.2 ⟨p.url host port, ofParts?_eq_some_iff.2 ⟨hp, ?_⟩⟩
    refine normalize?_eq_some_iff.2 ⟨host, port, hhost, hport, ?_, rfl⟩
    rw [hs]
    refine isPathAllowed_iff.2 fun hauthority => hpath ?_
    intro hempty
    obtain ⟨hhost', hport', hnone⟩ := hasAuthority_of_authority_eq hempty
    rw [hhost'] at hhost
    rw [hport'] at hport
    cases hhost
    cases hport
    exact absurd hauthority (by rw [hnone]; exact Bool.false_ne_true)

/-! ## Queries -/

theorem Parts.sound_query_iff {p : Parts} {query : Option String} :
    Parts.Sound { p with query := query } ↔
      Parts.Sound { p with query := none } ∧
        isPlain (query.getD "") = true ∧ '#' ∉ (query.getD "").toList := by
  have hempty : isPlain ((none : Option String).getD "") = true := by decide
  constructor
  · intro h
    have hplain := h.plain
    simp only [List.forall_mem_cons] at hplain
    obtain ⟨hscheme, hauthority, hpath, hquery, hrest⟩ := hplain
    refine ⟨⟨?_, h.scheme, h.authority, h.path, List.not_mem_nil⟩, hquery, h.query⟩
    simp only [List.forall_mem_cons]
    exact ⟨hscheme, hauthority, hpath, hempty, hrest⟩
  · rintro ⟨h, hquery, hmark⟩
    have hplain := h.plain
    simp only [List.forall_mem_cons] at hplain
    obtain ⟨hscheme, hauthority, hpath, -, hrest⟩ := hplain
    refine ⟨?_, h.scheme, h.authority, h.path, hmark⟩
    simp only [List.forall_mem_cons]
    exact ⟨hscheme, hauthority, hpath, hquery, hrest⟩

/-- The query does not decide whether components have a normal form. -/
theorem normalize?_query {p : Parts} {query query' : Option String} {u : Url}
    (h : normalize? { p with query := query } = some u) :
    ∃ v, normalize? { p with query := query' } = some v := by
  obtain ⟨host, port, hhost, hport, hpath, -⟩ := normalize?_eq_some_iff.1 h
  exact ⟨_, normalize?_eq_some_iff.2 ⟨host, port, hhost, hport, hpath, rfl⟩⟩

/-- **A query can be put to components** that can be put together without one, if it is plain and
does not begin a fragment. -/
theorem isSome_ofParts?_query_iff {p : Parts} {query : Option String} :
    (ofParts? { p with query := query }).isSome = true ↔
      (ofParts? { p with query := none }).isSome = true ∧
        isPlain (query.getD "") = true ∧ '#' ∉ (query.getD "").toList := by
  simp only [Option.isSome_iff_exists, ofParts?_eq_some_iff, exists_and_left]
  rw [Parts.sound_query_iff]
  constructor
  · rintro ⟨⟨hsound, hquery⟩, u, hu⟩
    exact ⟨⟨hsound, normalize?_query hu⟩, hquery⟩
  · rintro ⟨⟨hsound, u, hu⟩, hquery⟩
    exact ⟨⟨hsound, hquery⟩, normalize?_query hu⟩

end RemoteModel.Url
