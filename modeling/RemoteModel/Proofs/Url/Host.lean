import RemoteModel.Proofs.Text.Letters
import RemoteModel.Proofs.Text.Percent
import RemoteModel.Proofs.Text.Pieces
import RemoteModel.Proofs.Text.Punycode
import RemoteModel.Url.Host

/-!
# A host ends no authority

The normal form of a host holds no slash, no question mark and no number sign if the host that was
given holds none (`inAuthority_host?`). Four numbers and groups stay as they are, and a name in
ASCII is percent-encoded. A name beyond ASCII is written in lower case, which makes letters only,
and cut into labels, which are joined by points and written as they are or in Punycode.
-/

namespace RemoteModel.Url

/-- A character that an authority ends at. -/
def endsAuthority (c : Char) : Bool := c = '/' || c = '?' || c = '#'

/-- All characters of a text may stand in an authority. -/
def InAuthority (cs : List Char) : Prop := ∀ c ∈ cs, endsAuthority c = false

instance (cs : List Char) : Decidable (InAuthority cs) :=
  decidable_of_iff ((cs.all fun c => !endsAuthority c) = true) (by simp [InAuthority])

namespace InAuthority

theorem append {cs ds : List Char} (hcs : InAuthority cs) (hds : InAuthority ds) :
    InAuthority (cs ++ ds) :=
  fun c hc => (List.mem_append.1 hc).elim (hcs c) (hds c)

theorem cons {c : Char} {cs : List Char} (hc : endsAuthority c = false) (hcs : InAuthority cs) :
    InAuthority (c :: cs) := by
  intro d hd
  rcases List.mem_cons.1 hd with rfl | hd
  · exact hc
  · exact hcs d hd

theorem of_subset {cs ds : List Char} (hcs : InAuthority cs) (h : ∀ c ∈ ds, c ∈ cs) :
    InAuthority ds :=
  fun c hc => hcs c (h c hc)

end InAuthority

theorem endsAuthority_of_le {c : Char} (h : 0x61 ≤ c.toNat) : endsAuthority c = false := by
  have hne : ∀ d : Char, d.toNat < 0x61 → c ≠ d := by
    rintro d hd rfl
    omega
  simp only [endsAuthority, Bool.or_eq_false_iff, decide_eq_false_iff_not]
  exact ⟨⟨hne _ (by decide), hne _ (by decide)⟩, hne _ (by decide)⟩

theorem inAuthority_encode {safe : Char → Bool} (h : ∀ c, safe c = true → endsAuthority c = false)
    (cs : List Char) : InAuthority (Text.Percent.encode safe cs) := by
  have hdigit : ∀ n < 16, endsAuthority (Text.Percent.hexDigit n) = false := by decide
  intro c hc
  rcases Text.Percent.mem_encode hc with hsafe | rfl | ⟨n, hn, rfl⟩
  · exact h c hsafe
  · rfl
  · exact hdigit n hn

theorem inAuthority_lowerBehind {cs : List Char} (h : InAuthority cs) (begun : Bool) :
    InAuthority (Text.lowerBehind begun cs) := by
  intro c hc
  by_cases hlow : c.toNat < 0x61
  · exact h c (Text.mem_of_mem_lowerBehind hc hlow)
  · exact endsAuthority_of_le (by omega)

/-! ## Labels -/

theorem inAuthority_dotted {labels : List (List Char)} (h : ∀ l ∈ labels, InAuthority l) :
    InAuthority (dotted labels) := by
  induction labels with
  | nil => exact fun c hc => absurd hc List.not_mem_nil
  | cons l rest ih =>
    have hl := h l List.mem_cons_self
    have hrest := ih fun l' hl' => h l' (List.mem_cons_of_mem _ hl')
    cases rest with
    | nil => exact hl
    | cons l' rest => exact hl.append (hrest.cons rfl)

theorem inAuthority_written? {label written : List Char} (h : InAuthority label)
    (hwritten : Label.written? label = some written) : InAuthority written := by
  have hmark : InAuthority Label.mark := by decide
  have hdigit : ∀ n < 36, endsAuthority (Text.Punycode.digit n) = false := by decide
  have hcode : InAuthority (Text.Punycode.encode label) :=
    Text.Punycode.forall_mem_encode (P := fun c => endsAuthority c = false) hdigit rfl h
  simp only [Label.written?, Option.ite_none_right_eq_some, Option.some.injEq] at hwritten
  obtain ⟨-, rfl⟩ := hwritten
  split_ifs
  · exact h
  · exact hmark.append hcode

theorem mem_of_mapM_eq_some {α β : Type} {f : α → Option β} {xs : List α} {ys : List β}
    (h : xs.mapM f = some ys) : ∀ y ∈ ys, ∃ x ∈ xs, f x = some y := by
  induction xs generalizing ys with
  | nil =>
    cases h
    exact fun y hy => absurd hy List.not_mem_nil
  | cons x rest ih =>
    simp only [List.mapM_cons, Option.bind_eq_bind, Option.bind_eq_some_iff, Option.pure_def,
      Option.some.injEq] at h
    obtain ⟨y, hy, ys', hys, rfl⟩ := h
    intro z hz
    rcases List.mem_cons.1 hz with rfl | hz
    · exact ⟨x, List.mem_cons_self, hy⟩
    · obtain ⟨x', hx', hz⟩ := ih hys z hz
      exact ⟨x', List.mem_cons_of_mem _ hx', hz⟩

theorem inAuthority_international? {cs name : List Char} (h : InAuthority cs)
    (hname : international? cs = some name) : InAuthority name := by
  have hdots : InAuthority (cs.map fun c => if isDot c then '.' else c) := by
    intro c hc
    obtain ⟨d, hd, rfl⟩ := List.mem_map.1 hc
    split_ifs
    · rfl
    · exact h d hd
  simp only [international?, Option.bind_eq_some_iff, Option.ite_none_right_eq_some,
    Option.some.injEq] at hname
  obtain ⟨written, hwritten, -, rfl⟩ := hname
  have hlabels : ∀ l ∈ written, InAuthority l := by
    intro l hl
    obtain ⟨label, hlabel, hl⟩ := mem_of_mapM_eq_some hwritten l hl
    refine inAuthority_written? ?_ hl
    split_ifs at hlabel
    · exact hdots.of_subset fun c => Text.mem_of_mem_pieces (List.dropLast_subset _ hlabel)
    · exact hdots.of_subset fun c => Text.mem_of_mem_pieces hlabel
  refine (inAuthority_dotted hlabels).append ?_
  split_ifs
  · decide
  · exact fun c hc => absurd hc List.not_mem_nil

/-! ## Hosts -/

/-- None of the characters that stand for themselves in a component ends an authority. -/
theorem endsAuthority_of_safe {safe : Char → Bool} (hslash : safe '/' = false)
    (hquestion : safe '?' = false) (hnumber : safe '#' = false) {c : Char} (h : safe c = true) :
    endsAuthority c = false := by
  have hne : ∀ d : Char, safe d = false → c ≠ d := by
    rintro d hd rfl
    exact absurd h (by rw [hd]; exact Bool.false_ne_true)
  simp only [endsAuthority, Bool.or_eq_false_iff, decide_eq_false_iff_not]
  exact ⟨⟨hne _ hslash, hne _ hquestion⟩, hne _ hnumber⟩

/-- **The normal form of a host keeps to the authority that the host keeps to.** -/
theorem inAuthority_host? {cs host : List Char} (h : InAuthority cs)
    (hhost : host? cs = some host) : InAuthority host := by
  unfold host? at hhost
  dsimp only at hhost
  split_ifs at hhost with hlooks hnumbers hbrackets hgroups hascii
  · exact Option.some.inj hhost ▸ h
  · refine Option.some.inj hhost ▸ h.of_subset fun c hc => ?_
    exact List.mem_of_mem_drop (List.dropLast_subset _ hc)
  · rw [← Option.some.inj hhost]
    exact inAuthority_encode (fun c => endsAuthority_of_safe rfl rfl rfl) _
  · exact inAuthority_international? (inAuthority_lowerBehind h false) hhost

end RemoteModel.Url
