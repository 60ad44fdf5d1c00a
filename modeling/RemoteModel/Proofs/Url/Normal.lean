import Mathlib.Tactic.SplitIfs
import RemoteModel.Proofs.Json.WrittenNumber
import RemoteModel.Proofs.Url.Host
import RemoteModel.Url.Basic

/-!
# The text of an address in normal form

What normalization gives is a host, a port and the rest of the normal form around them
(`normalize?_eq_some_iff`). No component of it holds a mark that ends the component: the scheme no
colon, the authority and the path no question mark and no number sign, the query no number sign
(`written_of_ofParts?`). So the text of the address is split at the marks that were put there, and
its query is the query of the address (`query_ofText_text`).
-/

namespace RemoteModel.Url

/-! ## Normalization -/

namespace Parts

variable (p : Parts)

/-- The user, the host and the port that components have in normal form. -/
def user : String :=
  String.ofList (Text.Percent.encode isUserSafe (splitUser p.authority.toList).1)

def host? : Option (List Char) := Url.host? (splitUser p.authority.toList).2.1

def port? : Option (Option Int) := Url.port? p.scheme (splitUser p.authority.toList).2.2

/-- Something is left of the authority. -/
def hasAuthority (host : List Char) (port : Option Int) : Bool :=
  p.user != "" || !host.isEmpty || port.isSome

def hasScheme : Bool := Text.lower p.scheme != ""

/-- The normal form around a host and a port. -/
def url (host : List Char) (port : Option Int) : Url :=
  let path :=
    if p.hasScheme || p.hasAuthority host port then normalPath p.path.toList else p.path.toList
  { scheme := Text.lower p.scheme, userinfo := p.user, host := String.ofList host, port := port,
    path := String.ofList (Text.Percent.encode isPathSafe path),
    query := p.query.map (escape isQuerySafe), fragment := p.fragment.map (escape isFragmentSafe) }

end Parts

theorem normalize?_eq_some_iff {p : Parts} {u : Url} :
    normalize? p = some u ↔
      ∃ host port, p.host? = some host ∧ p.port? = some port ∧
        isPathAllowed p.hasScheme (p.hasAuthority host port) p.path.toList = true ∧
          p.url host port = u := by
  rcases hsplit : splitUser p.authority.toList with ⟨user, host, port⟩
  have huser : p.user = String.ofList (Text.Percent.encode isUserSafe user) := by
    rw [Parts.user, hsplit]
  have hhost : p.host? = Url.host? host := by rw [Parts.host?, hsplit]
  have hport : p.port? = Url.port? p.scheme port := by rw [Parts.port?, hsplit]
  simp only [normalize?, hsplit, hhost, hport, Parts.url, Parts.hasAuthority, Parts.hasScheme,
    huser, Option.bind_eq_bind, Option.bind_eq_some_iff, Option.bind_none,
    Option.ite_none_left_eq_some, Bool.not_eq_true', Bool.not_eq_false, Option.some.injEq,
    exists_and_left]

/-! ## Components of a normal form -/

/-- The components hold none of the marks that would end them earlier. -/
structure Written (u : Url) : Prop where
  scheme : isScheme u.scheme.toList = true
  authority : InAuthority u.authority.toList
  path : ∀ c ∈ u.path.toList, c ≠ '?' ∧ c ≠ '#'
  query : ∀ q ∈ u.query, '#' ∉ q.toList

theorem isSchemeChar_of_isAsciiLetter {c : Char} (h : isAsciiLetter c = true) :
    isSchemeChar c = true := by
  have halpha : c.isAlpha = true := h
  simp only [isSchemeChar, halpha, Bool.true_or]

theorem lt_of_isSchemeChar {c : Char} (h : isSchemeChar c = true) : c.toNat < 0x80 := by
  have halpha (hc : c.isAlpha = true) : c.toNat < 0x80 := by
    have hrange : (decide ('A'.val ≤ c.val ∧ c.val ≤ 'Z'.val) ||
        decide ('a'.val ≤ c.val) && decide (c.val ≤ 'z'.val)) = true := hc
    simp [UInt32.le_iff_toNat_le] at hrange
    omega
  have hdigit (hc : c.isDigit = true) : c.toNat < 0x80 := by
    simp [Char.isDigit, UInt32.le_iff_toNat_le] at hc
    omega
  simp only [isSchemeChar, Bool.or_eq_true, decide_eq_true_eq] at h
  rcases h with (((h | h) | rfl) | rfl) | rfl
  · exact halpha h
  · exact hdigit h
  · decide
  · decide
  · decide

theorem isSchemeChar_of_mem {cs : List Char} (h : isScheme cs = true) {c : Char} (hc : c ∈ cs) :
    isSchemeChar c = true := by
  cases cs with
  | nil => exact absurd hc List.not_mem_nil
  | cons d rest =>
    simp only [isScheme, Bool.and_eq_true, List.all_eq_true] at h
    rcases List.mem_cons.1 hc with rfl | hc
    · exact isSchemeChar_of_isAsciiLetter h.1
    · exact h.2 c hc

theorem isScheme_lower {s : String} (h : isScheme s.toList = true) :
    isScheme (Text.lower s).toList = true := by
  have hletter : ∀ {c : Char}, isAsciiLetter c = true → isAsciiLetter c.toLower = true := by
    intro c hc
    exact Text.forall_ascii (P := fun c => isAsciiLetter c = true → isAsciiLetter c.toLower = true)
      (by decide) (lt_of_isSchemeChar (isSchemeChar_of_isAsciiLetter hc)) hc
  have hchar : ∀ {c : Char}, isSchemeChar c = true → isSchemeChar c.toLower = true := by
    intro c hc
    exact Text.forall_ascii (P := fun c => isSchemeChar c = true → isSchemeChar c.toLower = true)
      (by decide) (lt_of_isSchemeChar hc) hc
  have hascii : (s.toList.all fun c => decide (c.toNat < 0x80)) = true := by
    refine List.all_eq_true.2 fun c hc => decide_eq_true (lt_of_isSchemeChar ?_)
    exact isSchemeChar_of_mem h hc
  rw [Text.lower, if_pos hascii, String.toList_ofList]
  cases hs : s.toList with
  | nil => rfl
  | cons c rest =>
    rw [hs] at h
    simp only [isScheme, Bool.and_eq_true, List.all_eq_true, List.map_cons, List.mem_map] at h ⊢
    refine ⟨hletter h.1, ?_⟩
    rintro _ ⟨d, hd, rfl⟩
    exact hchar (h.2 d hd)

theorem eq_append_of_cutLast? {sep : Char} {cs before after : List Char}
    (h : cutLast? sep cs = some (before, after)) : cs = before ++ sep :: after := by
  simp only [cutLast?, Option.map_eq_some_iff, Prod.mk.injEq] at h
  obtain ⟨⟨after', before'⟩, hcut, rfl, rfl⟩ := h
  have hcs := congrArg List.reverse (Text.eq_append_of_cut? hcut)
  simpa using hcs

theorem mem_of_mem_takeWhile {p : Char → Bool} {cs : List Char} {c : Char}
    (h : c ∈ cs.takeWhile p) : c ∈ cs :=
  (List.takeWhile_sublist p).subset h

theorem mem_of_mem_splitUser {cs : List Char} {c : Char} (h : c ∈ (splitUser cs).2.1) :
    c ∈ cs := by
  rcases hcut : (cutLast? '@' cs).getD ([], cs) with ⟨user, rest⟩
  have hrest : ∀ d ∈ rest, d ∈ cs := by
    intro d hd
    cases hlast : cutLast? '@' cs with
    | none =>
      rw [hlast] at hcut
      cases hcut
      exact hd
    | some parts =>
      rw [hlast] at hcut
      cases hcut
      rw [eq_append_of_cutLast? hlast]
      exact List.mem_append_right _ (List.mem_cons_of_mem _ hd)
  refine hrest c ?_
  simp only [splitUser, hcut] at h
  split_ifs at h with hbracket
  · cases hlast : cutLast? ']' rest with
    | none =>
      rw [hlast] at h
      exact mem_of_mem_takeWhile h
    | some parts =>
      rw [hlast] at h
      rw [eq_append_of_cutLast? hlast]
      rcases List.mem_append.1 h with h | h
      · exact List.mem_append_left _ h
      · exact List.mem_append_right _ (List.mem_singleton.1 h ▸ List.mem_cons_self)
  · exact mem_of_mem_takeWhile h

/-! ## Parts that can be put together -/

/-- What is demanded of components before they are put together. -/
structure Parts.Sound (p : Parts) : Prop where
  plain : ∀ s ∈ [p.scheme, p.authority, p.path, p.query.getD "", p.fragment.getD ""],
    isPlain s = true
  scheme : isScheme p.scheme.toList = true
  authority : InAuthority p.authority.toList
  path : ∀ c ∈ p.path.toList, c ≠ '?' ∧ c ≠ '#'
  query : '#' ∉ (p.query.getD "").toList

theorem Parts.areSound_iff {p : Parts} : p.areSound = true ↔ p.Sound := by
  have hauthority : (!p.authority.toList.any fun c => c = '/' || c = '?' || c = '#') = true ↔
      InAuthority p.authority.toList := by
    simp [InAuthority, endsAuthority]
  have hpath : (!p.path.toList.any fun c => c = '?' || c = '#') = true ↔
      ∀ c ∈ p.path.toList, c ≠ '?' ∧ c ≠ '#' := by
    simp
  have hquery : (!(p.query.getD "").toList.contains '#') = true ↔
      '#' ∉ (p.query.getD "").toList := by
    simp
  simp only [areSound, Bool.and_eq_true, hauthority, hpath, hquery, List.all_eq_true]
  constructor
  · rintro ⟨⟨⟨⟨hplain, hscheme⟩, hauth⟩, hp⟩, hq⟩
    exact ⟨hplain, hscheme, hauth, hp, hq⟩
  · intro h
    exact ⟨⟨⟨⟨h.plain, h.scheme⟩, h.authority⟩, h.path⟩, h.query⟩

theorem ne_of_endsAuthority {c d : Char} (hc : endsAuthority c = false)
    (hd : endsAuthority d = true) : c ≠ d := by
  rintro rfl
  exact absurd hd (by rw [hc]; exact Bool.false_ne_true)

theorem ofParts?_eq_some_iff {p : Parts} {u : Url} :
    ofParts? p = some u ↔ p.Sound ∧ normalize? p = some u := by
  rw [ofParts?, Option.ite_none_right_eq_some, Parts.areSound_iff]

theorem inAuthority_toString (n : Int) : InAuthority (toString n).toList := by
  intro c hc
  rw [Json.toList_toString] at hc
  rcases List.mem_append.1 hc with hc | hc
  · split_ifs at hc
    · rw [List.mem_singleton.1 hc]
      rfl
    · exact absurd hc List.not_mem_nil
  · have hdigit : c.isDigit = true := Nat.isDigit_of_mem_toDigits (by decide) (by decide) hc
    exact @endsAuthority_of_safe Char.isDigit rfl rfl rfl c hdigit

theorem inAuthority_authority {u : Url} (huser : InAuthority u.userinfo.toList)
    (hhost : InAuthority u.host.toList) : InAuthority u.authority.toList := by
  have hempty : InAuthority [] := fun c hc => absurd hc List.not_mem_nil
  have hopen : InAuthority "[".toList := by decide
  have hclose : InAuthority "]".toList := by decide
  have hat : InAuthority "@".toList := by decide
  have hcolon : InAuthority ":".toList := by decide
  rw [authority, String.toList_append, String.toList_append]
  refine (InAuthority.append ?_ ?_).append ?_
  · by_cases h : u.userinfo = ""
    · rw [if_pos h]
      exact hempty
    · rw [if_neg h, String.toList_append]
      exact huser.append hat
  · by_cases h : u.host.toList.contains ':' = true
    · rw [if_pos h, String.toList_append, String.toList_append]
      exact (hopen.append hhost).append hclose
    · rw [if_neg h]
      exact hhost
  · cases u.port with
    | none => exact hempty
    | some n =>
      rw [String.toList_append]
      exact hcolon.append (inAuthority_toString n)

theorem inAuthority_authority_url {p : Parts} (hp : InAuthority p.authority.toList)
    {host : List Char} (port : Option Int) (hhost : p.host? = some host) :
    InAuthority (p.url host port).authority.toList := by
  refine inAuthority_authority ?_ ?_
  · rw [Parts.url, Parts.user, String.toList_ofList]
    exact inAuthority_encode (fun c => endsAuthority_of_safe rfl rfl rfl) _
  · rw [Parts.url, String.toList_ofList]
    exact inAuthority_host? (fun c hc => hp c (mem_of_mem_splitUser hc)) hhost

theorem ne_of_mem_encode {safe : Char → Bool} {cs : List Char} {c d : Char}
    (h : c ∈ Text.Percent.encode safe cs) (hsafe : safe d = false)
    (hmark : endsAuthority d = true) : c ≠ d := by
  have hdigit : ∀ n < 16, endsAuthority (Text.Percent.hexDigit n) = false := by decide
  rintro rfl
  rcases Text.Percent.mem_encode h with hc | rfl | ⟨n, hn, rfl⟩
  · exact absurd hc (by rw [hsafe]; exact Bool.false_ne_true)
  · exact absurd hmark (by decide)
  · exact absurd hmark (by rw [hdigit n hn]; exact Bool.false_ne_true)

theorem written_of_ofParts? {p : Parts} {u : Url} (h : ofParts? p = some u) : u.Written := by
  obtain ⟨hp, hu⟩ := ofParts?_eq_some_iff.1 h
  obtain ⟨host, port, hhost, -, -, rfl⟩ := normalize?_eq_some_iff.1 hu
  exact
    { scheme := isScheme_lower hp.scheme
      authority := inAuthority_authority_url hp.authority port hhost
      path := by
        intro c hc
        simp only [Parts.url, String.toList_ofList] at hc
        exact ⟨ne_of_mem_encode hc rfl rfl, ne_of_mem_encode hc rfl rfl⟩
      query := by
        intro q hq
        obtain ⟨s, -, rfl⟩ := Option.map_eq_some_iff.1 hq
        rw [escape, String.toList_ofList]
        exact fun hmem => ne_of_mem_encode hmem rfl rfl rfl }

/-! ## Reading a text -/

/-- What stands before the first mark, and what stands behind it if it occurs. -/
def cutAt (mark : Char) (cs : List Char) : List Char × Option (List Char) :=
  match Text.cut? mark cs with
  | some (front, behind) => (front, some behind)
  | none => (cs, none)

theorem cutAt_introduced {mark : Char} {front : List Char} (h : mark ∉ front)
    (part : Option String) :
    cutAt mark (front ++ (introduced (String.singleton mark) part).toList) =
      (front, part.map String.toList) := by
  cases part with
  | none =>
    have hnil : (introduced (String.singleton mark) none).toList = [] := rfl
    rw [hnil, List.append_nil, cutAt, Text.cut?_eq_none h]
    rfl
  | some s =>
    have hcons : (introduced (String.singleton mark) (some s)).toList = mark :: s.toList := by
      simp [introduced]
    rw [hcons, cutAt, Text.cut?_append _ h]
    rfl

theorem query_ofText (s : String) :
    (Parts.ofText s).query =
      (cutAt '?' (cutAt '#' (splitAuthority (splitScheme s.toList).2).2).1).2.map String.ofList :=
  rfl

theorem splitScheme_append {scheme : List Char} (h : isScheme scheme = true) (rest : List Char) :
    splitScheme (scheme ++ ':' :: rest) = (scheme, rest) := by
  have hcolon : ':' ∉ scheme := fun hmem => absurd (isSchemeChar_of_mem h hmem) (by decide)
  simp only [splitScheme, Text.cut?_append _ hcolon, h, if_true]

/-- An authority ends before a query and before a fragment. -/
theorem splitAuthority_append (front : List Char) {behind : List Char}
    (hbehind : ∀ c ∈ behind.head?, endsAuthority c = true ∧ c ≠ '/') :
    ∃ rest, (∀ c ∈ rest, c ∈ front) ∧ (splitAuthority (front ++ behind)).2 = rest ++ behind := by
  have hslash : ∀ tail, behind ≠ '/' :: tail := by
    rintro tail rfl
    exact (hbehind '/' rfl).2 rfl
  unfold splitAuthority
  split
  · rename_i rest heq
    -- Both slashes stand in the front part, so the authority begins there.
    obtain ⟨r, rfl, rfl⟩ : ∃ r, front = '/' :: '/' :: r ∧ r ++ behind = rest := by
      match front, heq with
      | [], heq => exact absurd heq (hslash _)
      | [c], heq => exact absurd (List.cons.inj heq).2 (hslash _)
      | c :: d :: r, heq =>
        obtain ⟨hc, heq⟩ := List.cons.inj heq
        obtain ⟨hd, heq⟩ := List.cons.inj heq
        exact ⟨r, by rw [hc, hd], heq⟩
    have hstop : behind.dropWhile (fun c => c != '/' && c != '?' && c != '#') = behind := by
      cases hb : behind with
      | nil => rfl
      | cons c tail =>
        have hc := (hbehind c (by rw [hb]; rfl)).1
        simp only [endsAuthority, Bool.or_eq_true, decide_eq_true_eq] at hc
        rcases hc with (rfl | rfl) | rfl <;> rfl
    refine ⟨r.dropWhile fun c => c != '/' && c != '?' && c != '#', ?_, ?_⟩
    · intro c hc
      have hmem := (List.dropWhile_sublist _).subset hc
      exact List.mem_cons_of_mem _ (List.mem_cons_of_mem _ hmem)
    · dsimp only
      rw [List.dropWhile_append, hstop]
      split_ifs with hempty
      · rw [List.isEmpty_iff.1 hempty, List.nil_append]
      · rfl
  · exact ⟨front, fun c hc => hc, rfl⟩

/-- The parts behind the path begin with their marks. -/
theorem ends_of_mem_head? (query fragment : Option String) {c : Char}
    (h : c ∈ ((introduced "?" query).toList ++ (introduced "#" fragment).toList).head?) :
    endsAuthority c = true ∧ c ≠ '/' := by
  cases query with
  | some q =>
    simp only [introduced, String.toList_append] at h
    obtain rfl : '?' = c := Option.some.inj h
    decide
  | none =>
    cases fragment with
    | some f =>
      simp only [introduced, String.toList_append] at h
      obtain rfl : '#' = c := Option.some.inj h
      decide
    | none => cases h

/-- What stands between the scheme and the query. -/
def front (u : Url) : List Char :=
  (if u.authority = "" then "" else "//" ++ u.authority).toList ++ u.path.toList

theorem toList_text {u : Url} (h : u.scheme ≠ "") :
    u.text.toList =
      u.scheme.toList ++ ':' ::
        (u.front ++ ((introduced "?" u.query).toList ++ (introduced "#" u.fragment).toList)) := by
  simp [text, front, h]

theorem Written.front {u : Url} (hu : u.Written) : ∀ c ∈ u.front, c ≠ '?' ∧ c ≠ '#' := by
  intro c hc
  rcases List.mem_append.1 hc with hc | hc
  · split_ifs at hc
    · exact absurd hc List.not_mem_nil
    · rw [String.toList_append] at hc
      rcases List.mem_append.1 hc with hc | hc
      · have hslash : c ∈ ['/', '/'] := hc
        obtain rfl : c = '/' := by simpa using hslash
        decide
      · exact ⟨ne_of_endsAuthority (hu.authority c hc) rfl,
          ne_of_endsAuthority (hu.authority c hc) rfl⟩
  · exact hu.path c hc

/-- **The query of a written text is the query of the address.** -/
theorem query_ofText_text {u : Url} (hu : u.Written) (hs : u.scheme ≠ "") :
    (Parts.ofText u.text).query = u.query := by
  obtain ⟨rest, hrest, hauthority⟩ := splitAuthority_append u.front
    fun c hc => ends_of_mem_head? u.query u.fragment hc
  have hquestion : '?' ∉ rest := fun hmem => (hu.front _ (hrest _ hmem)).1 rfl
  have hnumber : '#' ∉ rest ++ (introduced "?" u.query).toList := by
    intro hmem
    rcases List.mem_append.1 hmem with hmem | hmem
    · exact (hu.front _ (hrest _ hmem)).2 rfl
    · cases hq : u.query with
      | none =>
        rw [hq] at hmem
        exact absurd hmem List.not_mem_nil
      | some q =>
        rw [hq, introduced, String.toList_append] at hmem
        rcases List.mem_append.1 hmem with hmem | hmem
        · exact absurd hmem (by decide)
        · exact hu.query q hq hmem
  have hfragment : cutAt '#' (rest ++ (introduced "?" u.query).toList ++
      (introduced "#" u.fragment).toList) = _ := cutAt_introduced hnumber u.fragment
  have hquery : cutAt '?' (rest ++ (introduced "?" u.query).toList) = _ :=
    cutAt_introduced hquestion u.query
  rw [query_ofText, toList_text hs, splitScheme_append hu.scheme, hauthority, ← List.append_assoc,
    hfragment, hquery, Option.map_map]
  cases u.query with
  | none => rfl
  | some q => exact congrArg some String.ofList_toList

end RemoteModel.Url
