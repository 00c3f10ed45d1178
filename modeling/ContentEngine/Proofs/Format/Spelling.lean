import ContentEngine.Proofs.Format.Canonical

/-!
# Spellings of a web address

A web address may be written in many ways: its scheme and its host in any case of letters, the host
with the usual port of the scheme or without a port, and all of it with blanks around it. A secure
address may also be written with nothing but the two slashes of its scheme, or without them.
`IsSpelling` lists these spellings of an address that is given by a scheme, a host and a tail, where
the tail is all that follows the authority. Every one of them has the same parts once a scheme has
been put in front (`spells_of_isSpelling`), whatever delimiters the tail holds, since the authority
ends before the tail. The text of those parts is itself a spelling of the address, with a tail that
has lost the marks of an empty query and an empty fragment (`isSpelling_text`), so that it is its
own canonical form.
-/

namespace ContentEngine

/-! ### Parts of an address in front of a tail -/

namespace Url

variable {scheme front tail : List Char}

/-- What is split off in front of a tail is the authority, and the rest comes from the tail. -/
theorem split_append (hfront : ∀ c ∈ front, endsAuthority c = false)
    (htail : ∀ c, tail.head? = some c → endsAuthority c = true) :
    split scheme (front ++ tail) = { split scheme tail with authority := front } := by
  have hends : (front ++ tail).takeWhile (!endsAuthority ·) = front ∧
      (front ++ tail).dropWhile (!endsAuthority ·) = tail :=
    takeWhile_dropWhile_append (fun c hc => by simp [hfront c hc])
      (fun c hc => by simp [htail c hc])
  have hdrop : tail.dropWhile (!endsAuthority ·) = tail :=
    dropWhile_of_head? fun c hc => by simp [htail c hc]
  simp only [split, hends.1, hends.2, hdrop]

/-- What is left of a tail once it has been split and put together again. -/
def tailOf (u : Url) : List Char :=
  u.path ++ delimited '?' u.query ++ delimited '#' u.fragment

end Url

/-! ### Texts in blanks -/

/-- What is trimmed off are the blanks around a text that neither starts nor ends in one. -/
theorem trimBy_append_append {p : Char → Bool} {before text after : List Char}
    (hbefore : ∀ c ∈ before, p c = true) (hafter : ∀ c ∈ after, p c = true) (hne : text ≠ [])
    (htext : ∀ c ∈ text, p c = false) : trimBy p (before ++ text ++ after) = text := by
  have hhead : ∀ c, (text ++ after).head? = some c → p c = false := by
    intro c hc
    rw [List.head?_append_of_ne_nil _ hne] at hc
    exact htext c (List.mem_of_mem_head? hc)
  have hlast : ∀ c, text.reverse.head? = some c → p c = false := by
    intro c hc
    exact htext c (List.mem_reverse.mp (List.mem_of_mem_head? hc))
  have hreverse : ∀ c ∈ after.reverse, p c = true := by simpa using hafter
  rw [trimBy, List.append_assoc, List.dropWhile_append_of_pos hbefore, dropWhile_of_head? hhead,
    List.reverse_append, List.dropWhile_append_of_pos hreverse, dropWhile_of_head? hlast,
    List.reverse_reverse]

namespace Format

variable {scheme host tail place name port text : List Char}

/-! ### Names of hosts -/

/-- Whether a character may stand in the name of a host: a letter, a digit, a dot or a hyphen. -/
def isHostChar (c : Char) : Bool :=
  Url.isAsciiLetter c || isAsciiDigit c || c == '.' || c == '-'

/-- Whether a text is the name of a host. -/
structure IsHostName (name : List Char) : Prop where
  ne_nil : name ≠ []
  char : ∀ c ∈ name, isHostChar c = true

theorem isSchemeChar_of_endsAuthority {c : Char} (h : Url.endsAuthority c = true) :
    Url.isSchemeChar c = false := by
  simp only [Url.endsAuthority, Bool.or_eq_true, beq_iff_eq] at h
  rcases h with (rfl | rfl) | rfl <;> decide

theorem isSchemeChar_of_isHostChar {c : Char} (h : isHostChar c = true) :
    Url.isSchemeChar c = true := by
  simp only [isHostChar, Bool.or_eq_true] at h
  simp only [Url.isSchemeChar, Bool.or_eq_true]
  rcases h with ((h | h) | h) | h <;> simp [h]

namespace IsHostName

variable (h : IsHostName name)
include h

theorem isSchemeChar {c : Char} (hc : c ∈ name) : Url.isSchemeChar c = true :=
  isSchemeChar_of_isHostChar (h.char c hc)

/-- No delimiter stands in the name of a host. -/
theorem not_mem {c : Char} (hc : Url.isSchemeChar c = false) : c ∉ name := fun hmem => by
  rw [h.isSchemeChar hmem] at hc
  contradiction

/-- The name of a host stays one in small letters. -/
theorem lower : IsHostName (lower name) where
  ne_nil := fun hnil => h.ne_nil (lower_eq_nil_iff.mp hnil)
  char := by
    have hchars : ∀ n < 128, isHostChar (Char.ofNat n) = true →
        (lowerChar (Char.ofNat n)).all isHostChar = true := by decide +kernel
    have hsigma : '\u03a3' ∉ name := h.not_mem (by decide)
    intro d hd
    rw [lower_eq_flatMap hsigma] at hd
    obtain ⟨c, hc, hd⟩ := List.mem_flatMap.mp hd
    have hascii := Url.toNat_lt_of_isSchemeChar (h.isSchemeChar hc)
    exact List.all_eq_true.mp (ascii_induction (P := fun c => isHostChar c = true →
      (lowerChar c).all isHostChar = true) hchars hascii (h.char c hc)) d hd

end IsHostName

/-! ### Places -/

/-- Whether nothing or the usual port of a scheme stands behind a host. -/
def IsUsualPort (scheme port : List Char) : Prop :=
  port = [] ∨ (scheme, port) ∈
    [("http".toList, ":80".toList), ("https".toList, ":443".toList)]

/-- Whether a text is a host in some case of letters, with the usual port of a scheme or without. -/
def IsPlace (scheme host place : List Char) : Prop :=
  ∃ name port, IsHostName name ∧ lower name = lower host ∧ IsUsualPort scheme port ∧
    place = name ++ port

/-- A usual port is read as a port that is not written again. -/
theorem IsUsualPort.exists_readPort (h : IsUsualPort scheme port) :
    ∃ digits, port = Url.delimited ':' digits ∧ (∀ c ∈ digits, isAsciiDigit c = true) ∧
      ∃ read, Url.readPort digits = .ok read ∧ portText scheme read = [] := by
  simp only [IsUsualPort, List.mem_cons, Prod.mk.injEq, List.not_mem_nil, or_false] at h
  rcases h with rfl | ⟨rfl, rfl⟩ | ⟨rfl, rfl⟩
  · exact ⟨[], rfl, by simp, none, rfl, rfl⟩
  · exact ⟨"80".toList, rfl, List.all_eq_true.mp (by decide), some 80, rfl, rfl⟩
  · exact ⟨"443".toList, rfl, List.all_eq_true.mp (by decide), some 443, rfl, rfl⟩

namespace IsPlace

variable (h : IsPlace scheme host place)
include h

/-- The characters of a place are those of a host, the colon and digits. -/
theorem char_cases {c : Char} (hc : c ∈ place) : Url.isSchemeChar c = true ∨ c = ':' := by
  obtain ⟨name, port, hname, -, hport, rfl⟩ := h
  obtain ⟨digits, rfl, hdigits, -⟩ := hport.exists_readPort
  rcases List.mem_append.mp hc with hc | hc
  · exact .inl (hname.isSchemeChar hc)
  · rw [Url.delimited] at hc
    split at hc
    · simp at hc
    · rcases List.mem_cons.mp hc with rfl | hc
      · exact .inr rfl
      · exact .inl (by simp [Url.isSchemeChar, hdigits c hc])

theorem not_mem {c : Char} (hc : Url.isSchemeChar c = false) (hcolon : c ≠ ':') : c ∉ place :=
  fun hmem => (h.char_cases hmem).elim (fun htrue => by rw [hc] at htrue; contradiction) hcolon

theorem isBlank_of_mem {c : Char} (hc : c ∈ place) : isBlank c = false := by
  rcases h.char_cases hc with hchar | rfl
  · exact Url.isBlank_of_isSchemeChar hchar
  · decide

theorem endsAuthority_of_mem {c : Char} (hc : c ∈ place) : Url.endsAuthority c = false := by
  rcases h.char_cases hc with hchar | rfl
  · by_contra hends
    rw [isSchemeChar_of_endsAuthority (by simpa using hends)] at hchar
    contradiction
  · decide

theorem ne_nil : place ≠ [] := by
  obtain ⟨name, port, hname, -, -, rfl⟩ := h
  simp [hname.ne_nil]

/-- A place is a sound authority: it has no brackets, and all its characters are ASCII. -/
theorem isSoundAuthority : Url.isSoundAuthority place = true := by
  have hopen : place.contains '[' = false := by simpa using h.not_mem (by decide) (by decide)
  have hclose : place.contains ']' = false := by simpa using h.not_mem (by decide) (by decide)
  have hplain : place.all (fun c => !Url.disguisedDelimiters.contains c) = true := by
    refine List.all_eq_true.mpr fun c hc => ?_
    have hascii : c.toNat < 128 := by
      rcases h.char_cases hc with hchar | rfl
      · exact Url.toNat_lt_of_isSchemeChar hchar
      · decide
    have hwide : Url.disguisedDelimiters.all (128 ≤ ·.toNat) = true := by decide
    have hnot : c ∉ Url.disguisedDelimiters := fun hmem => by
      have hle := of_decide_eq_true (List.all_eq_true.mp hwide c hmem)
      omega
    simpa using hnot
  rw [Url.isSoundAuthority, Url.hasSoundBrackets, hopen, hclose, hplain]
  rfl

/-- The canonical form of a place is the host in small letters. -/
theorem canonicalAuthority_eq : (Url.hostPort place).1 ≠ [] ∧
    ∃ read, Url.readPort (Url.hostPort place).2 = .ok read ∧
      canonicalAuthority scheme place read = lower host := by
  have hat : '@' ∉ place := h.not_mem (by decide) (by decide)
  have hopen : '[' ∉ place := h.not_mem (by decide) (by decide)
  obtain ⟨name, port, hname, hsame, hport, rfl⟩ := h
  obtain ⟨digits, rfl, -, read, hread, hnone⟩ := hport.exists_readPort
  have hhostPort : Url.hostPort (name ++ Url.delimited ':' digits) = (name, digits) := by
    have hcolon : ':' ∉ name := hname.not_mem (by decide)
    obtain ⟨hfirst, hsecond⟩ := Url.cutAtFirst_delimited hcolon digits
    rw [Url.hostPort, Url.placeOf_of_not_mem hat, cutAtFirst_of_not_mem hopen]
    simp only [hfirst, hsecond]
  have hcolon : ':' ∉ lower host := hsame ▸ hname.lower.not_mem (by decide)
  have hshown : shownHost (lower host) = lower host := if_neg (by simpa using hcolon)
  rw [hhostPort]
  refine ⟨hname.ne_nil, read, hread, ?_⟩
  rw [Authority.canonicalAuthority_eq_text, Authority.text, Authority.read, Url.userPassword,
    cutAtLast?_of_not_mem hat, hhostPort]
  simp only [userText, List.isEmpty_nil, if_true, List.nil_append, hsame, hshown, hnone,
    List.append_nil]

end IsPlace

/-- The host in small letters is a place itself. -/
theorem isPlace_lower (scheme : List Char) (hhost : IsHostName host) :
    IsPlace scheme host (lower host) :=
  ⟨lower host, [], hhost.lower, lower_lower host, .inl rfl, (List.append_nil _).symm⟩

/-! ### Tails -/

/-- Whether a text may follow an authority: it starts with what ends one, and holds no blanks. -/
structure IsTail (tail : List Char) : Prop where
  head : ∀ c, tail.head? = some c → Url.endsAuthority c = true
  no_blank : ∀ c ∈ tail, isBlank c = false

theorem isBlank_of_isDropped {c : Char} (h : Url.isDropped c = true) : isBlank c = true := by
  simp only [Url.isDropped, Bool.or_eq_true, beq_iff_eq] at h
  rcases h with (rfl | rfl) | rfl <;> decide

theorem filter_isDropped_eq_self (h : ∀ c ∈ text, isBlank c = false) :
    text.filter (!Url.isDropped ·) = text := by
  refine List.filter_eq_self.mpr fun c hc => ?_
  by_contra hdropped
  have hblank := isBlank_of_isDropped (by simpa using hdropped)
  rw [h c hc] at hblank
  contradiction

/-- A place that a tail follows does not start with a scheme and two slashes: the first character
that cannot stand in a scheme is the colon of a port or starts the tail. -/
theorem hasScheme_append (hplace : IsPlace scheme host place) (htail : IsTail tail) :
    hasScheme (place ++ tail) = false := by
  by_contra htrue
  rw [Bool.not_eq_false, hasScheme] at htrue
  split at htrue
  · next found rest htake =>
    obtain ⟨hfound, heq⟩ := Url.takeScheme?_eq_some htake
    obtain ⟨name, port, hname, -, hport, rfl⟩ := hplace
    obtain ⟨digits, rfl, hdigits, -⟩ := hport.exists_readPort
    have hend : ∀ c, (Url.delimited ':' digits ++ tail).head? = some c →
        Url.isSchemeChar c = false := by
      intro c hc
      cases digits with
      | nil => exact isSchemeChar_of_endsAuthority (htail.head c hc)
      | cons d digits =>
        obtain rfl : ':' = c := Option.some.inj hc
        decide
    have hcolon : ∀ c, (':' :: '/' :: '/' :: rest).head? = some c → Url.isSchemeChar c = false := by
      intro c hc
      obtain rfl : ':' = c := Option.some.inj hc
      decide
    have hread := Url.takeWhile_dropWhile_append (fun c hc => hname.isSchemeChar hc) hend
    have hgiven :=
      Url.takeWhile_dropWhile_append (fun c hc => Url.isSchemeChar_of_mem hfound hc) hcolon
    rw [← List.append_assoc, heq] at hread
    have hrest : Url.delimited ':' digits ++ tail = ':' :: '/' :: '/' :: rest :=
      hread.2.symm.trans hgiven.2
    cases digits with
    | nil =>
      -- a tail does not start with a colon
      have hhead := htail.head ':' (by rw [← List.nil_append tail]; exact congrArg List.head? hrest)
      exact absurd hhead (by decide)
    | cons d digits =>
      -- nor does a port start with a slash
      have hdigit := hdigits d List.mem_cons_self
      obtain ⟨rfl, -⟩ := List.cons.inj (List.cons.inj hrest).2
      exact absurd hdigit (by decide)
  · contradiction

/-! ### Spellings -/

/-- The spellings of an address that is given by its scheme, its host and its tail. Only a secure
address may be written without a scheme. -/
inductive IsSpelling (scheme host tail : List Char) : List Char → Prop where
  | full {written place : List Char} (hletters : ∀ c ∈ written, Url.isAsciiLetter c = true)
      (hscheme : lower written = scheme) (hplace : IsPlace scheme host place) :
      IsSpelling scheme host tail (written ++ ':' :: '/' :: '/' :: (place ++ tail))
  | slashes {place : List Char} (hsecure : scheme = "https".toList)
      (hplace : IsPlace scheme host place) :
      IsSpelling scheme host tail ('/' :: '/' :: (place ++ tail))
  | bare {place : List Char} (hsecure : scheme = "https".toList)
      (hplace : IsPlace scheme host place) : IsSpelling scheme host tail (place ++ tail)

/-- The parts that all spellings of an address have. -/
def spelledUrl (scheme host tail : List Char) : Url :=
  Url.split scheme (lower host ++ tail)

theorem isScheme_of_letters {written : List Char}
    (hletters : ∀ c ∈ written, Url.isAsciiLetter c = true) (hne : written ≠ []) :
    Url.isScheme written = true := by
  obtain ⟨c, rest, rfl⟩ := List.exists_cons_of_ne_nil hne
  have hall : (c :: rest).all Url.isSchemeChar = true :=
    List.all_eq_true.mpr fun d hd => by simp [Url.isSchemeChar, hletters d hd]
  rw [Url.isScheme, hall, Bool.and_true]
  exact hletters c List.mem_cons_self

/-- Every spelling is completed to a full one. -/
theorem IsSpelling.exists_withScheme (htail : IsTail tail) (hne : scheme ≠ [])
    (h : IsSpelling scheme host tail text) : ∃ written place, Url.isScheme written = true ∧
      lower written = scheme ∧ IsPlace scheme host place ∧
      withScheme text = written ++ ':' :: '/' :: '/' :: (place ++ tail) := by
  have hsecure : Url.isScheme "https".toList = true := by decide
  have hlower : lower "https".toList = "https".toList := by decide
  cases h with
  | @full written place hletters hscheme hplace =>
    have hwritten : written ≠ [] := fun hnil => hne (by rw [← hscheme, hnil]; rfl)
    have hvalid := isScheme_of_letters hletters hwritten
    exact ⟨written, place, hvalid, hscheme, hplace, withScheme_append hvalid _⟩
  | @slashes place hscheme hplace =>
    exact ⟨"https".toList, place, hsecure, hlower.trans hscheme.symm, hplace, rfl⟩
  | @bare place hscheme hplace =>
    refine ⟨"https".toList, place, hsecure, hlower.trans hscheme.symm, hplace, ?_⟩
    have hslash : "//".toList.isPrefixOf (place ++ tail) = false := by
      obtain ⟨c, rest, rfl⟩ := List.exists_cons_of_ne_nil hplace.ne_nil
      have hc : c ≠ '/' := by
        rintro rfl
        exact hplace.not_mem (by decide) (by decide) List.mem_cons_self
      simp [List.isPrefixOf, hc.symm]
    rw [withScheme, if_neg (by rw [hslash]; decide),
      if_neg (by rw [hasScheme_append hplace htail]; decide)]
    rfl

/-- No blank stands in a spelling. -/
theorem IsSpelling.isBlank_of_mem (htail : IsTail tail) (h : IsSpelling scheme host tail text) :
    ∀ c ∈ text, isBlank c = false := by
  have hslash : isBlank '/' = false := by decide
  have hrest {place : List Char} (hplace : IsPlace scheme host place) :
      ∀ c ∈ place ++ tail, isBlank c = false := fun c hc =>
    (List.mem_append.mp hc).elim hplace.isBlank_of_mem (htail.no_blank c)
  cases h with
  | full hletters hscheme hplace =>
    refine List.forall_mem_append.mpr ⟨fun c hc => ?_, ?_⟩
    · exact Url.isBlank_of_isSchemeChar (by simp [Url.isSchemeChar, hletters c hc])
    · have hcolon : isBlank ':' = false := by decide
      exact List.forall_mem_cons.mpr ⟨hcolon, List.forall_mem_cons.mpr
        ⟨hslash, List.forall_mem_cons.mpr ⟨hslash, hrest hplace⟩⟩⟩
  | slashes hsecure hplace =>
    exact List.forall_mem_cons.mpr ⟨hslash, List.forall_mem_cons.mpr ⟨hslash, hrest hplace⟩⟩
  | bare hsecure hplace => exact hrest hplace

theorem IsSpelling.ne_nil (h : IsSpelling scheme host tail text) : text ≠ [] := by
  cases h with
  | full => simp
  | slashes => simp
  | bare hsecure hplace => simp [hplace.ne_nil]

section Parts

variable (hhost : IsHostName host) (htail : IsTail tail)
include hhost htail

theorem spelledUrl_eq (scheme : List Char) :
    spelledUrl scheme host tail = { Url.split scheme tail with authority := lower host } :=
  Url.split_append (fun _ hc => (isPlace_lower scheme hhost).endsAuthority_of_mem hc)
    htail.head

/-- Every spelling of an address spells the same parts. -/
theorem spells_of_isSpelling (hne : scheme ≠ []) (h : IsSpelling scheme host tail text) :
    Spells text (spelledUrl scheme host tail) := by
  refine ⟨fun hspace => absurd (h.isBlank_of_mem htail _ hspace) (by decide), ?_⟩
  -- with a scheme in front all kinds of spelling are alike
  obtain ⟨written, place, hwritten, rfl, hplace, htext⟩ := h.exists_withScheme htail hne
  have hkept : (place ++ tail).filter (!Url.isDropped ·) = place ++ tail :=
    filter_isDropped_eq_self fun c hc =>
      (List.mem_append.mp hc).elim hplace.isBlank_of_mem (htail.no_blank c)
  have hsplit : Url.split (lower written) (place ++ tail) =
      { Url.split (lower written) tail with authority := place } :=
    Url.split_append (fun c hc => hplace.endsAuthority_of_mem hc) htail.head
  obtain ⟨hname, read, hread, hcanonical⟩ := hplace.canonicalAuthority_eq
  refine ⟨{ Url.split (lower written) tail with authority := place }, ?_, ?_⟩
  · rw [htext, Url.ofText_append hwritten, hkept, hsplit]
    exact if_pos hplace.isSoundAuthority
  · refine canonicalParts?_eq_some_iff.mpr ⟨hname, read, hread, ?_⟩
    rw [spelledUrl_eq hhost htail, ← hcanonical]
    rfl

/-- A spelling may stand in blanks. -/
theorem canonicalUrl_of_isSpelling (hne : scheme ≠ []) (h : IsSpelling scheme host tail text)
    {before after : List Char} (hbefore : ∀ c ∈ before, isBlank c = true)
    (hafter : ∀ c ∈ after, isBlank c = true) :
    canonicalUrl (.str (String.ofList (before ++ text ++ after))) =
      .ok (.str (String.ofList (spelledUrl scheme host tail).text)) := by
  have htext := h.isBlank_of_mem htail
  have hblank : isBlankText (String.ofList (before ++ text ++ after)) = false := by
    obtain ⟨c, rest, rfl⟩ := List.exists_cons_of_ne_nil h.ne_nil
    rw [isBlankText, String.toList_ofList]
    exact List.all_eq_false.mpr ⟨c, by simp, by simp [htext c List.mem_cons_self]⟩
  rw [canonicalUrl_of_not_isBlankText hblank, String.toList_ofList,
    trimBy_append_append hbefore hafter h.ne_nil htext]
  exact urlOf_eq_ok_iff.mpr ⟨_, spells_of_isSpelling hhost htail hne h, rfl⟩

/-- The text of the parts that all spellings have is a spelling of them, with a tail that may lack
marks of empty parts. -/
theorem exists_isSpelling_text (hletters : ∀ c ∈ scheme, Url.isAsciiLetter c = true)
    (hlower : lower scheme = scheme) : ∃ rest, IsTail rest ∧
      IsSpelling scheme host rest (spelledUrl scheme host tail).text ∧
      spelledUrl scheme host rest = spelledUrl scheme host tail := by
  have hsplit := Url.isSplit_split scheme (lower host ++ tail)
  have hafter : (spelledUrl scheme host tail).after =
      lower host ++ (Url.split scheme tail).tailOf := by
    rw [spelledUrl_eq hhost htail]
    rfl
  refine ⟨(Url.split scheme tail).tailOf, ⟨fun c hc => ?_, fun c hc => ?_⟩, ?_, ?_⟩
  · exact Url.endsAuthority_of_head? (Url.isSplit_split scheme tail) hc
  · -- putting a tail together again adds nothing to it
    have hmem : c ∈ (Url.split scheme tail).after := List.mem_append_right _ hc
    exact htail.no_blank c ((Url.after_split_sublist scheme tail).mem hmem)
  · rw [Url.text_eq, hafter]
    exact .full hletters hlower (isPlace_lower scheme hhost)
  · rw [spelledUrl, ← hafter]
    exact Url.split_after hsplit

end Parts

/-- The schemes of web addresses. -/
def webSchemes : List (List Char) := ["http".toList, "https".toList]

/-- All spellings of a web address have one canonical form, with blanks around them or without: the
text of its parts, with the host in small letters. This text is its own canonical form. -/
theorem spellings_collapse (hscheme : scheme ∈ webSchemes) (hhost : IsHostName host)
    (htail : IsTail tail) :
    (∀ text, IsSpelling scheme host tail text → ∀ before after,
      (∀ c ∈ before, isBlank c = true) → (∀ c ∈ after, isBlank c = true) →
      canonicalUrl (.str (String.ofList (before ++ text ++ after))) =
        .ok (.str (String.ofList (Url.split scheme (lower host ++ tail)).text))) ∧
    canonicalUrl (.str (String.ofList (Url.split scheme (lower host ++ tail)).text)) =
      .ok (.str (String.ofList (Url.split scheme (lower host ++ tail)).text)) := by
  have hweb : ∀ scheme ∈ webSchemes, scheme ≠ [] ∧ scheme.all Url.isAsciiLetter = true ∧
      lower scheme = scheme := by decide
  obtain ⟨hne, hall, hlower⟩ := hweb scheme hscheme
  have hletters := List.all_eq_true.mp hall
  refine ⟨fun text h before after hbefore hafter =>
    canonicalUrl_of_isSpelling hhost htail hne h hbefore hafter, ?_⟩
  obtain ⟨rest, hrest, hspelling, hsame⟩ := exists_isSpelling_text hhost htail hletters hlower
  have hagain := canonicalUrl_of_isSpelling hhost hrest hne hspelling
    (List.forall_mem_nil _) (List.forall_mem_nil _)
  rw [List.nil_append, List.append_nil, hsame] at hagain
  exact hagain

/-- A secure address without its scheme, in capitals, with its port and in blanks, and with a scheme
in its query. -/
theorem home_page_spelled :
    canonicalUrl (.str "\u00a0//EXAMPLE.org:443/a?next=http://B@c:80#\n") =
        .ok (.str "https://example.org/a?next=http://B@c:80") ∧
      canonicalUrl (.str "https://example.org/a?next=http://B@c:80") =
        .ok (.str "https://example.org/a?next=http://B@c:80") := by
  have hname : IsHostName "EXAMPLE.org".toList := ⟨by decide, List.all_eq_true.mp (by decide)⟩
  have hblank : "/a?next=http://B@c:80#".toList.all (!isBlank ·) = true := by decide
  have htail : IsTail "/a?next=http://B@c:80#".toList :=
    ⟨fun c hc => Option.some.inj hc ▸ rfl, fun c hc => by
      simpa using List.all_eq_true.mp hblank c hc⟩
  obtain ⟨hspelled, hagain⟩ := spellings_collapse (List.mem_cons_of_mem _ List.mem_cons_self)
    hname htail
  have hplace : IsPlace "https".toList "EXAMPLE.org".toList "EXAMPLE.org:443".toList :=
    ⟨_, ":443".toList, hname, rfl, .inr (by decide), rfl⟩
  exact ⟨hspelled _ (.slashes rfl hplace) "\u00a0".toList "\n".toList
    (List.all_eq_true.mp (by decide)) (List.all_eq_true.mp (by decide)), hagain⟩

end Format

end ContentEngine
