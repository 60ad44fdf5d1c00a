import RemoteModel.Proofs.Text.Pieces
import RemoteModel.Text.PathName

/-!
# Normal file names

The normal form of a name has the root and the segments of the name (`root_normal`,
`segments_normal`), so what is asked about them may be asked about the name as it was given.

A name that begins with a tilde is expanded exactly if the home directory that it stands for is
known (`exists_expand?`).
-/

namespace RemoteModel.Text.PathName

/-- A segment is not empty, no dot, and holds no slash. -/
def IsSegment (s : List Char) : Prop := s ≠ [] ∧ s ≠ ['.'] ∧ '/' ∉ s

/-! ## Segments -/

theorem not_mem_of_mem_pieces {sep : Char} {cs p : List Char} (h : p ∈ pieces sep cs) :
    sep ∉ p := by
  induction cs generalizing p with
  | nil =>
    rw [List.mem_singleton.1 h]
    exact List.not_mem_nil
  | cons c rest ih =>
    by_cases hc : c = sep
    · rw [pieces, if_pos hc] at h
      rcases List.mem_cons.1 h with rfl | h
      · exact List.not_mem_nil
      · exact ih h
    · rw [pieces, if_neg hc] at h
      cases hrest : pieces sep rest with
      | nil =>
        rw [hrest] at h
        rw [List.mem_singleton.1 h, List.mem_singleton]
        exact Ne.symm hc
      | cons q qs =>
        rw [hrest] at h ih
        rcases List.mem_cons.1 h with rfl | h
        · exact List.not_mem_cons_of_ne_of_not_mem (Ne.symm hc) (ih List.mem_cons_self)
        · exact ih (List.mem_cons_of_mem _ h)

theorem isSegment_of_mem_segments {cs s : List Char} (h : s ∈ segments cs) : IsSegment s := by
  obtain ⟨hmem, hkept⟩ := List.mem_filter.1 h
  refine ⟨?_, ?_, not_mem_of_mem_pieces hmem⟩
  · rintro rfl
    simp at hkept
  · rintro rfl
    simp at hkept

theorem filter_segments {ss : List (List Char)} (h : ∀ s ∈ ss, IsSegment s) :
    ss.filter (fun s => !s.isEmpty && s != ['.']) = ss := by
  refine List.filter_eq_self.2 fun s hs => ?_
  obtain ⟨hempty, hdot, -⟩ := h s hs
  simp [hempty, hdot]

theorem segments_slash (cs : List Char) : segments ('/' :: cs) = segments cs := by
  simp [segments, pieces]

theorem segments_join {ss : List (List Char)} (h : ∀ s ∈ ss, IsSegment s) :
    segments (join "/" (ss.map String.ofList)).toList = ss := by
  cases ss with
  | nil => rfl
  | cons s rest =>
    have hslash : ∀ t ∈ String.ofList s :: rest.map String.ofList, '/' ∉ t.toList := by
      intro t ht
      obtain ⟨u, hu, rfl⟩ := List.mem_map.1 (show t ∈ (s :: rest).map String.ofList from ht)
      rw [String.toList_ofList]
      exact (h u hu).2.2
    have hpieces := @pieces_join '/' _ _ hslash
    have hback : (String.ofList s :: rest.map String.ofList).map String.toList = s :: rest := by
      simp
    rw [hback] at hpieces
    rw [segments, List.map_cons, show "/" = String.singleton '/' from rfl, hpieces]
    exact filter_segments h

theorem head?_join (s : List Char) (rest : List (List Char)) (hs : IsSegment s) :
    (join "/" ((s :: rest).map String.ofList)).toList.head? = s.head? := by
  obtain ⟨c, cs, rfl⟩ := List.exists_cons_of_ne_nil hs.1
  rw [List.map_cons, show "/" = String.singleton '/' from rfl, toList_join]
  simp

/-! ## The normal form -/

theorem root_cases (cs : List Char) : root cs = [] ∨ root cs = ['/'] ∨ root cs = ['/', '/'] := by
  unfold root
  split
  · exact .inl rfl
  · exact .inr (.inr rfl)
  · exact .inr (.inl rfl)

theorem root_append {r cs : List Char} (hr : r = [] ∨ r = ['/'] ∨ r = ['/', '/'])
    (hcs : cs.head? ≠ some '/') : root (r ++ cs) = r := by
  have hnone : cs.takeWhile (· = '/') = [] := by
    cases cs with
    | nil => rfl
    | cons c rest =>
      have hc : c ≠ '/' := fun hc => hcs (congrArg some hc)
      simp [hc]
  rcases hr with rfl | rfl | rfl <;> simp [root, hnone]

/-- Root and segments of a name that is put together. -/
theorem root_and_segments_assemble {r : List Char} {ss : List (List Char)}
    (hr : r = [] ∨ r = ['/'] ∨ r = ['/', '/']) (hss : ∀ s ∈ ss, IsSegment s) :
    root (assemble r ss).toList = r ∧ segments (assemble r ss).toList = ss := by
  have hhead : (join "/" (ss.map String.ofList)).toList.head? ≠ some '/' := by
    cases ss with
    | nil => simp [join]
    | cons s rest =>
      have hs := hss s List.mem_cons_self
      rw [head?_join s rest hs]
      intro hslash
      exact hs.2.2 (List.mem_of_head? hslash)
  unfold assemble
  dsimp only
  split
  · next hempty =>
    have hnil := congrArg String.toList hempty
    rw [String.toList_append, String.toList_ofList] at hnil
    obtain ⟨hroot, hbody⟩ := List.append_eq_nil_iff.1 hnil
    have hsegments := segments_join hss
    rw [hbody] at hsegments
    rw [hroot, ← hsegments]
    exact ⟨rfl, rfl⟩
  · rw [String.toList_append, String.toList_ofList]
    refine ⟨root_append hr hhead, ?_⟩
    rcases hr with rfl | rfl | rfl
    · exact segments_join hss
    · rw [List.cons_append, List.nil_append, segments_slash]
      exact segments_join hss
    · rw [List.cons_append, List.cons_append, List.nil_append, segments_slash, segments_slash]
      exact segments_join hss

theorem root_normal (s : String) : root (normal s).toList = root s.toList :=
  (root_and_segments_assemble (root_cases _) fun _ h => isSegment_of_mem_segments h).1

theorem segments_normal (s : String) : segments (normal s).toList = segments s.toList :=
  (root_and_segments_assemble (root_cases _) fun _ h => isSegment_of_mem_segments h).2

/-! ## Home directories -/

/-- The name begins with a tilde and the name of a user, or with a tilde alone. -/
def NamesHome (name : String) (user : List Char) : Prop :=
  root name.toList = [] ∧ ∃ rest, segments name.toList = ('~' :: user) :: rest

theorem namesHome_normal {name : String} {user : List Char} :
    NamesHome (normal name) user ↔ NamesHome name user := by
  rw [NamesHome, NamesHome, root_normal, segments_normal]

/-- The home directory that a name begins with, if any, is known, and does not begin with a tilde
itself. -/
def KnowsHome (homes : String → Option String) (name : String) : Prop :=
  ∀ user, NamesHome name user →
    ∃ home, homes (String.ofList user) = some home ∧ home.toList.head? ≠ some '~'

theorem knowsHome_normal {homes : String → Option String} {name : String} :
    KnowsHome homes (normal name) ↔ KnowsHome homes name := by
  simp only [KnowsHome, namesHome_normal]

/-- Dropping slashes at the end leaves a tilde in front. -/
theorem head?_trimmed (cs : List Char) : (trimmed cs).head? = some '~' ↔ cs.head? = some '~' := by
  have hdropped : ((cs.reverse.dropWhile (· = '/')).reverse).head? = some '~' ↔
      cs.head? = some '~' := by
    cases cs with
    | nil => simp
    | cons c rest =>
      rw [List.reverse_cons, List.dropWhile_append]
      by_cases hall : (rest.reverse.dropWhile (· = '/')).isEmpty = true
      · rw [if_pos hall]
        by_cases hc : c = '/'
        · subst hc
          simp
        · simp [hc]
      · rw [if_neg hall]
        simp
  unfold trimmed
  dsimp only
  split
  · next hempty =>
    rw [List.isEmpty_iff] at hempty
    rw [hempty] at hdropped
    simpa using hdropped
  · exact hdropped

theorem exists_homeOf? {homes : String → Option String} {user : String} :
    (∃ folder, homeOf? homes user = some folder) ↔
      ∃ home, homes user = some home ∧ home.toList.head? ≠ some '~' := by
  unfold homeOf?
  cases homes user with
  | none => simp
  | some home => simp [Option.filter_eq_some_iff, head?_trimmed]

/-- **A name is expanded exactly if the home directory that it begins with is known.** -/
theorem exists_expand? {homes : String → Option String} {name : String} :
    (∃ expanded, expand? homes name = some expanded) ↔ KnowsHome homes name := by
  unfold expand? KnowsHome NamesHome
  split
  · next user rest hroot hsegments =>
    rw [hroot, hsegments]
    simp only [Option.map_eq_some_iff, true_and]
    constructor
    · rintro ⟨_, folder, hfolder, -⟩ user' ⟨_, hcons⟩
      obtain ⟨hhead, -⟩ := List.cons.inj hcons
      obtain ⟨-, rfl⟩ := List.cons.inj hhead
      exact exists_homeOf?.1 ⟨folder, hfolder⟩
    · intro hknown
      obtain ⟨folder, hfolder⟩ := exists_homeOf?.2 (hknown user ⟨rest, rfl⟩)
      exact ⟨_, folder, hfolder, rfl⟩
  · next hother =>
    refine ⟨fun _ user hname => ?_, fun _ => ⟨_, rfl⟩⟩
    obtain ⟨hroot, rest, hsegments⟩ := hname
    exact absurd hsegments (hother user rest hroot)

end RemoteModel.Text.PathName
