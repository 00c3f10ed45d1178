import ContentEngine.Proofs.Format.Authority
import ContentEngine.Proofs.Outcome

/-!
# Canonical web addresses

`Spells` says which address a text without blanks around it spells in canonical form. What is
spelled is canonical (`isCanonicalUrl_of_spells`), and the text of a canonical address spells that
address and no other one (`eq_of_spells_text`). So the canonical form is settled, with one
exception. A text is trimmed before it is read, and a canonical address may end in a blank: in
`https://h/a\u00a0?` the blank stands before the mark of an empty query, which is not written
again. The next time the blank is lost, and the address becomes another one
(`ne_of_spells_trimmed`).
-/

namespace ContentEngine

namespace Format

variable {scheme rest text : List Char} {u again given : Url} {v w : Value}

/-! ### Reading an address -/

/-- Nothing is put in front of an address that has a scheme. -/
theorem withScheme_append (h : Url.isScheme scheme = true) (rest : List Char) :
    withScheme (scheme ++ ':' :: '/' :: '/' :: rest) = scheme ++ ':' :: '/' :: '/' :: rest := by
  have hslash : "//".toList.isPrefixOf (scheme ++ ':' :: '/' :: '/' :: rest) = false := by
    cases scheme with
    | nil => simp [Url.isScheme] at h
    | cons c scheme =>
      have hc := Url.isSchemeChar_of_mem h List.mem_cons_self
      have hne : ('/' == c) = false := by
        refine beq_eq_false_iff_ne.mpr ?_
        rintro rfl
        exact absurd hc (by decide)
      simp [List.isPrefixOf, hne]
  have hscheme : hasScheme (scheme ++ ':' :: '/' :: '/' :: rest) = true := by
    rw [hasScheme, Url.takeScheme?_append h]
    rfl
  rw [withScheme, if_neg (by rw [hslash]; decide), if_pos hscheme]

theorem exists_withScheme (text : List Char) :
    ∃ scheme rest, Url.isScheme scheme = true ∧
      withScheme text = scheme ++ ':' :: '/' :: '/' :: rest ∧ ∀ c ∈ rest, c ∈ text := by
  have hsecure : Url.isScheme "https".toList = true := by decide
  rw [withScheme]
  split
  · next hslash =>
    obtain ⟨rest, rfl⟩ := List.isPrefixOf_iff_prefix.mp hslash
    exact ⟨"https".toList, rest, hsecure, rfl, fun c hc => List.mem_append_right _ hc⟩
  · split
    · next hscheme =>
      rw [hasScheme] at hscheme
      split at hscheme
      · next scheme rest htake =>
        obtain ⟨hvalid, rfl⟩ := Url.takeScheme?_eq_some htake
        exact ⟨scheme, rest, hvalid, rfl, fun c hc => by simp [hc]⟩
      · contradiction
    · exact ⟨"https".toList, text, hsecure, rfl, fun c hc => hc⟩

theorem canonicalParts?_eq_some_iff :
    canonicalParts? given = .ok (some u) ↔
      (Url.hostPort given.authority).1 ≠ [] ∧
        ∃ port, Url.readPort (Url.hostPort given.authority).2 = .ok port ∧
          u = { given with authority := canonicalAuthority given.scheme given.authority port } := by
  rw [canonicalParts?]
  rcases Url.hostPort given.authority with ⟨host, port⟩
  cases host with
  | nil => simp
  | cons c host =>
    simp only [List.isEmpty_cons, Bool.false_eq_true, if_false, Outcome.bind_eq_ok_iff,
      Outcome.pure_eq_ok_iff, Option.some.injEq, ne_eq, reduceCtorEq, not_false_eq_true, true_and]
    exact exists_congr fun port => and_congr_right' eq_comm

/-- Whether a text that has been trimmed spells an address in canonical form. -/
def Spells (text : List Char) (u : Url) : Prop :=
  ' ' ∉ text ∧
    ∃ given, Url.ofText (withScheme text) = .ok given ∧ canonicalParts? given = .ok (some u)

theorem malformed_ne_ok (what : String) (v w : Value) : malformed what v ≠ .ok w := by
  rw [malformed, ne_eq, Outcome.bind_eq_ok_iff]
  rintro ⟨shown, -, h⟩
  contradiction

theorem urlOf_eq_ok_iff :
    urlOf v text = .ok w ↔ ∃ u, Spells text u ∧ w = .str (String.ofList u.text) := by
  rw [urlOf]
  by_cases hspace : ' ' ∈ text
  · simp [hspace, Spells, malformed_ne_ok]
  · rw [if_neg (by simpa using hspace)]
    simp only [Outcome.bind_eq_ok_iff]
    constructor
    · rintro ⟨given, hread, parts, hparts, h⟩
      cases parts with
      | none => exact absurd h (malformed_ne_ok _ _ _)
      | some u => exact ⟨u, ⟨hspace, given, hread, hparts⟩, (Except.ok.inj h).symm⟩
    · rintro ⟨u, ⟨-, given, hread, hparts⟩, rfl⟩
      exact ⟨given, hread, some u, hparts, rfl⟩

/-- What a text spells, step by step. -/
theorem Spells.exists_split (h : Spells text u) :
    ∃ scheme rest, Url.isScheme scheme = true ∧ (∀ c ∈ rest, c ∈ text) ∧
      withScheme text = scheme ++ ':' :: '/' :: '/' :: rest ∧
      ∃ given, given = Url.split (lower scheme) (rest.filter (!Url.isDropped ·)) ∧
        Url.isSoundAuthority given.authority = true ∧
        (Url.hostPort given.authority).1 ≠ [] ∧
        ∃ port, Url.readPort (Url.hostPort given.authority).2 = .ok port ∧
          u = { given with authority := canonicalAuthority given.scheme given.authority port } := by
  obtain ⟨-, given, hread, hparts⟩ := h
  obtain ⟨scheme, rest, hscheme, htext, hrest⟩ := exists_withScheme text
  rw [htext, Url.ofText_append hscheme] at hread
  split at hread
  · next hsound =>
    obtain rfl := Except.ok.inj hread
    exact ⟨scheme, rest, hscheme, hrest, htext, _, rfl, hsound,
      canonicalParts?_eq_some_iff.mp hparts⟩
  · contradiction

/-! ### Canonical addresses -/

/-- Whether an address is canonical. -/
structure IsCanonicalUrl (u : Url) : Prop where
  isSplit : u.IsSplit
  isScheme : Url.isScheme u.scheme = true
  scheme_lower : lower u.scheme = u.scheme
  clean : ∀ c ∈ u.after, Url.isDropped c = false ∧ c ≠ ' '
  authority : ∃ a : Authority, a.IsCanonical ∧ u.authority = a.text u.scheme

theorem isCaseless_of_endsAuthority {c : Char} (h : Url.endsAuthority c = true) :
    isCaseless c = true ∧ c ∉ ['@', ':', '[', ']'] ∧ isAsciiDigit c = false := by
  simp only [Url.endsAuthority, Bool.or_eq_true, beq_iff_eq] at h
  rcases h with (rfl | rfl) | rfl <;> decide

theorem isCaseless_of_isDropped {c : Char} (h : Url.isDropped c = true ∨ c = ' ') :
    isCaseless c = true ∧ c ∉ ['@', ':', '[', ']'] ∧ isAsciiDigit c = false := by
  simp only [Url.isDropped, Bool.or_eq_true, beq_iff_eq] at h
  rcases h with ((rfl | rfl) | rfl) | rfl <;> decide

/-- What a text spells is canonical. -/
theorem isCanonicalUrl_of_spells (h : Spells text u) : IsCanonicalUrl u := by
  have hspace := h.1
  obtain ⟨scheme, rest, hscheme, hrest, -, given, hgiven, hsound, hhost, port, hport, rfl⟩ :=
    h.exists_split
  have hsplit : given.IsSplit := hgiven ▸ Url.isSplit_split _ _
  have hclean : ∀ c ∈ given.after, Url.isDropped c = false ∧ c ≠ ' ' := by
    intro c hc
    rw [hgiven] at hc
    have hmem := List.mem_filter.mp ((Url.after_split_sublist _ _).mem hc)
    refine ⟨by simpa using hmem.2, ?_⟩
    rintro rfl
    exact hspace (hrest _ hmem.1)
  have hgscheme : given.scheme = lower scheme := by rw [hgiven]; rfl
  refine ⟨⟨fun c hc => ?_, hsplit.path, hsplit.path_query, hsplit.path_fragment,
    hsplit.query_fragment⟩, ?_, ?_, fun c hc => ?_, ?_⟩
  · -- the authority is written anew, but what would end it does not come in
    by_contra hends
    have hends : Url.endsAuthority c = true := by simpa using hends
    obtain ⟨hcase, hnew, hdigit⟩ := isCaseless_of_endsAuthority hends
    have hmem := Authority.mem_of_mem_canonicalAuthority hc hcase hnew hdigit
    simp [hsplit.authority c hmem] at hends
  · rw [hgscheme]
    exact Url.isScheme_lower hscheme
  · rw [hgscheme]
    exact lower_lower scheme
  · -- nor do spaces come in, or what is dropped before an address is split
    rcases List.mem_append.mp hc with hauthority | htail
    · by_contra hbad
      have hbad : Url.isDropped c = true ∨ c = ' ' := by
        by_cases hc : c = ' '
        · exact .inr hc
        · simpa [hc] using hbad
      obtain ⟨hcase, hnew, hdigit⟩ := isCaseless_of_isDropped hbad
      have hmem := Authority.mem_of_mem_canonicalAuthority hauthority hcase hnew hdigit
      obtain ⟨hkept, hne⟩ := hclean c (List.mem_append_left _ hmem)
      rcases hbad with hbad | hbad
      · rw [hkept] at hbad
        contradiction
      · exact hne hbad
    · exact hclean c (List.mem_append_right _ htail)
  · exact ⟨_, Authority.isCanonical_read hsound hhost hport,
      Authority.canonicalAuthority_eq_text _ _ _⟩

namespace IsCanonicalUrl

/-- A canonical address is told by its text. -/
theorem text_injective (h : IsCanonicalUrl u) (hagain : IsCanonicalUrl again)
    (htext : u.text = again.text) : u = again := by
  rw [Url.text_eq, Url.text_eq] at htext
  have htake := Url.takeScheme?_append h.isScheme ('/' :: '/' :: u.after)
  rw [htext, Url.takeScheme?_append hagain.isScheme] at htake
  simp only [Option.some.injEq, Prod.mk.injEq, List.cons.injEq, true_and] at htake
  obtain ⟨hscheme, hafter⟩ := htake
  rw [← Url.split_after h.isSplit, ← Url.split_after hagain.isSplit, hscheme, hafter]

/-- What a canonical address, or the start of one, spells besides its scheme. -/
theorem exists_split_of_spells (h : IsCanonicalUrl u) (hrest : ∀ c ∈ rest, c ∈ u.after)
    (hspells : Spells (u.scheme ++ ':' :: '/' :: '/' :: rest) again) :
    ∃ given, given = Url.split u.scheme rest ∧
      Url.isSoundAuthority given.authority = true ∧
      (Url.hostPort given.authority).1 ≠ [] ∧
      ∃ port, Url.readPort (Url.hostPort given.authority).2 = .ok port ∧
        again =
          { given with authority := canonicalAuthority given.scheme given.authority port } := by
  obtain ⟨scheme, read, hscheme, -, htext, given, hgiven, hparts⟩ := hspells.exists_split
  rw [withScheme_append h.isScheme] at htext
  -- the scheme is the same, since the text says where it ends
  have htake := Url.takeScheme?_append h.isScheme ('/' :: '/' :: rest)
  rw [htext, Url.takeScheme?_append hscheme] at htake
  simp only [Option.some.injEq, Prod.mk.injEq, List.cons.injEq, true_and] at htake
  obtain ⟨rfl, rfl⟩ := htake
  have hclean : read.filter (!Url.isDropped ·) = read :=
    List.filter_eq_self.mpr fun c hc => by simp [(h.clean c (hrest c hc)).1]
  rw [hclean, h.scheme_lower] at hgiven
  exact ⟨given, hgiven, hparts⟩

/-- The text of a canonical address spells nothing but the address. -/
theorem eq_of_spells_text (h : IsCanonicalUrl u) (hspells : Spells u.text again) : again = u := by
  rw [Url.text_eq] at hspells
  obtain ⟨given, hgiven, hsound, -, port, hport, rfl⟩ :=
    h.exists_split_of_spells (fun _ hc => hc) hspells
  rw [Url.split_after h.isSplit] at hgiven
  subst hgiven
  obtain ⟨a, ha, htext⟩ := h.authority
  rw [htext] at hsound hport
  obtain ⟨-, read, hread, hcanonical⟩ := ha.canonicalAuthority_eq hsound
  obtain rfl : read = port := Except.ok.inj (hread.symm.trans hport)
  rw [← htext] at hcanonical
  rw [hcanonical]

/-- Without the blanks at its end, the text of a canonical address spells another one. -/
theorem ne_of_spells_trimmed (h : IsCanonicalUrl u) {kept dropped : List Char}
    (htext : u.text = kept ++ dropped) (hne : dropped ≠ [])
    (hblank : ∀ c ∈ dropped, isBlank c = true) (hspells : Spells kept again) : again ≠ u := by
  have hfront : u.text = (u.scheme ++ [':', '/', '/']) ++ u.after := by
    rw [Url.text_eq]
    simp
  obtain ⟨rest, rfl, hafter⟩ := exists_append_of_append_eq (hfront.symm.trans htext) hblank
    fun c hc => by
      rw [List.getLast?_append] at hc
      obtain rfl : '/' = c := by simpa using hc
      decide
  rw [List.append_assoc] at hspells
  obtain ⟨given, hgiven, hsound, hhost, port, hport, rfl⟩ :=
    h.exists_split_of_spells (fun c hc => hafter ▸ List.mem_append_left _ hc) hspells
  intro heq
  by_cases hends : ∃ c ∈ rest, Url.endsAuthority c = true
  · -- the authorities are the same, so that the rest would have to be as long as the whole
    obtain ⟨c, hc, hend⟩ := hends
    have hauthority : u.authority = given.authority := by
      rw [hgiven, ← Url.authority_split_append hc hend dropped, ← hafter,
        Url.split_after h.isSplit]
    have hsame : given.after = u.after := by
      rw [Url.after, Url.after, ← hauthority, ← heq]
    have hsub : given.after.Sublist rest := hgiven ▸ Url.after_split_sublist _ _
    have hlength := hsub.length_le
    rw [hsame, hafter, List.length_append] at hlength
    exact hne (List.length_eq_zero_iff.mp (by omega))
  · -- the rest is all authority, and it is the host that has lost its blanks
    have hall : ∀ c ∈ rest, Url.endsAuthority c = false := fun c hc => by
      by_contra hend
      exact hends ⟨c, hc, by simpa using hend⟩
    rw [Url.split_of_forall hall] at hgiven
    subst hgiven
    have hauthority : u.authority = rest ++ dropped := by
      rw [← hafter, ← heq]
      simp [Url.after, Url.delimited]
    obtain ⟨a, ha, hatext⟩ := h.authority
    rcases Authority.hostPort_eq_nil_or_exists ha (hatext ▸ hauthority) hne hblank with
      hnil | ⟨b, hb, hbtext⟩
    · exact hhost hnil
    · subst hbtext
      obtain ⟨-, read, hread, hcanonical⟩ := hb.canonicalAuthority_eq hsound
      obtain rfl : read = port := Except.ok.inj (hread.symm.trans hport)
      have hlonger := congrArg Url.authority heq
      rw [hauthority] at hlonger
      simp only [hcanonical] at hlonger
      exact hne (List.self_eq_append_right.mp hlonger)

theorem isBlank_of_head?_text (h : IsCanonicalUrl u) {c : Char} (hc : u.text.head? = some c) :
    isBlank c = false := by
  have hne : u.scheme ≠ [] := by
    intro hnil
    have hscheme := h.isScheme
    rw [hnil] at hscheme
    contradiction
  rw [Url.text, List.head?_append_of_ne_nil _ hne] at hc
  exact Url.isBlank_of_isSchemeChar (Url.isSchemeChar_of_mem h.isScheme (List.mem_of_mem_head? hc))

end IsCanonicalUrl

end Format

end ContentEngine
