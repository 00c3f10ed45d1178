import Mathlib.Data.List.TakeWhile
import ContentEngine.Proofs.Text.Case
import ContentEngine.Proofs.Text.Search
import ContentEngine.Url.Basic

/-!
# Splitting a network address and putting it together

An address with a scheme and two slashes is split at the delimiters, and `split` is what happens to
all that stands behind the slashes (`ofText_append`). Parts that come from splitting hold none of
the delimiters that end them (`IsSplit`), so that they are found again in the text that they make
up (`split_after`). That text is what has been split save for delimiters in front of nothing
(`after_split_sublist`).
-/

namespace ContentEngine

namespace Url

variable {scheme rest before part : List Char} {delimiter : Char} {u : Url}

/-! ### Schemes -/

/-- Whether a text is a scheme. -/
def isScheme (text : List Char) : Bool :=
  text.head?.any isAsciiLetter && text.all isSchemeChar

theorem isSchemeChar_of_mem (h : isScheme scheme = true) {c : Char} (hc : c ∈ scheme) :
    isSchemeChar c = true := by
  rw [isScheme, Bool.and_eq_true, List.all_eq_true] at h
  exact h.2 c hc

theorem takeScheme?_append (h : isScheme scheme = true) (rest : List Char) :
    takeScheme? (scheme ++ ':' :: rest) = some (scheme, rest) := by
  have hcolon : ':' ∉ scheme := fun hmem => absurd (isSchemeChar_of_mem h hmem) (by decide)
  rw [takeScheme?, cutAtFirst_append hcolon]
  exact if_pos h

theorem takeScheme?_eq_some {text : List Char} (h : takeScheme? text = some (scheme, rest)) :
    isScheme scheme = true ∧ text = scheme ++ ':' :: rest := by
  rw [takeScheme?] at h
  rcases not_mem_or_exists_first ':' text with hnot | ⟨before, after, hnot, rfl⟩
  · simp [cutAtFirst_of_not_mem hnot] at h
  · rw [cutAtFirst_append hnot] at h
    simp only [Option.ite_none_right_eq_some, Option.some.injEq, Prod.mk.injEq] at h
    obtain ⟨hscheme, rfl, rfl⟩ := h
    exact ⟨hscheme, rfl⟩

theorem toNat_lt_of_isSchemeChar {c : Char} (h : isSchemeChar c = true) : c.toNat < 128 := by
  simp only [isSchemeChar, isAsciiLetter, Bool.or_eq_true, beq_iff_eq] at h
  rcases h with (((h | h) | rfl) | rfl) | rfl
  · exact toNat_lt_of_isAscii (h.elim .inl fun h => .inr (.inl h))
  · exact toNat_lt_of_isAscii (.inr (.inr h))
  all_goals decide

theorem isBlank_of_isSchemeChar {c : Char} (h : isSchemeChar c = true) : isBlank c = false := by
  have hascii : ∀ n < 128, isSchemeChar (Char.ofNat n) = true → isBlank (Char.ofNat n) = false := by
    decide +kernel
  exact ascii_induction (P := fun c => isSchemeChar c = true → isBlank c = false) hascii
    (toNat_lt_of_isSchemeChar h) h

theorem isScheme_lower (h : isScheme scheme = true) : isScheme (lower scheme) = true := by
  have hletter : ∀ n < 128, isAsciiLetter (Char.ofNat n) = true →
      (lowerChar (Char.ofNat n)).all isAsciiLetter = true := by decide +kernel
  have hchar : ∀ n < 128, isSchemeChar (Char.ofNat n) = true →
      (lowerChar (Char.ofNat n)).all isSchemeChar = true := by decide +kernel
  have hsigma : '\u03a3' ∉ scheme := fun hmem =>
    absurd (isSchemeChar_of_mem h hmem) (by decide)
  rw [isScheme, Bool.and_eq_true, List.all_eq_true]
  constructor
  · rw [isScheme, Bool.and_eq_true] at h
    cases scheme with
    | nil => simp at h
    | cons c rest =>
      obtain ⟨hc, hall⟩ := h
      have hascii := toNat_lt_of_isSchemeChar (List.all_eq_true.mp hall c List.mem_cons_self)
      rw [lower_eq_flatMap hsigma, List.flatMap_cons,
        List.head?_append_of_ne_nil _ (lowerChar_ne_nil c), Option.any_eq_true]
      refine ⟨(lowerChar c).head (lowerChar_ne_nil c), List.head?_eq_some_head _, ?_⟩
      exact List.all_eq_true.mp (ascii_induction (P := fun c => isAsciiLetter c = true →
        (lowerChar c).all isAsciiLetter = true) hletter hascii hc) _ (List.head_mem _)
  · intro d hd
    rw [lower_eq_flatMap hsigma] at hd
    obtain ⟨c, hc, hd⟩ := List.mem_flatMap.mp hd
    have hscheme := isSchemeChar_of_mem h hc
    exact List.all_eq_true.mp (ascii_induction (P := fun c => isSchemeChar c = true →
      (lowerChar c).all isSchemeChar = true) hchar (toNat_lt_of_isSchemeChar hscheme) hscheme) d hd

/-- A scheme loses nothing when an address is cleaned. -/
theorem filter_scheme (h : isScheme scheme = true) : scheme.filter (!isDropped ·) = scheme := by
  refine List.filter_eq_self.mpr fun c hc => ?_
  have hchar := isSchemeChar_of_mem h hc
  by_contra hdropped
  simp only [Bool.not_eq_true', Bool.not_eq_false, isDropped, Bool.or_eq_true, beq_iff_eq]
    at hdropped
  rcases hdropped with (rfl | rfl) | rfl <;> exact absurd hchar (by decide)

/-! ### Parts with their delimiters -/

theorem cutAtFirst_delimited (h : delimiter ∉ before) (part : List Char) :
    (cutAtFirst delimiter (before ++ delimited delimiter part)).1 = before ∧
      (cutAtFirst delimiter (before ++ delimited delimiter part)).2.getD [] = part := by
  cases part with
  | nil => simp [delimited, cutAtFirst_of_not_mem h]
  | cons c part => simp [delimited, cutAtFirst_append h]

/-- Cutting a text and putting it together again loses at most a delimiter. -/
theorem delimited_cutAtFirst_sublist (delimiter : Char) (text : List Char) :
    ((cutAtFirst delimiter text).1 ++
      delimited delimiter ((cutAtFirst delimiter text).2.getD [])).Sublist text := by
  rcases not_mem_or_exists_first delimiter text with h | ⟨before, after, h, rfl⟩
  · simp [cutAtFirst_of_not_mem h, delimited]
  · rw [cutAtFirst_append h, Option.getD_some, delimited]
    split
    · rw [List.append_nil]
      exact List.sublist_append_left before _
    · exact List.Sublist.refl _

theorem not_mem_cutAtFirst (delimiter : Char) (text : List Char) :
    delimiter ∉ (cutAtFirst delimiter text).1 := by
  rcases not_mem_or_exists_first delimiter text with h | ⟨before, after, h, rfl⟩
  · rwa [cutAtFirst_of_not_mem h]
  · rwa [cutAtFirst_append h]

/-! ### Splitting -/

/-- All that stands behind the scheme and its two slashes. -/
def after (u : Url) : List Char :=
  u.authority ++ (u.path ++ delimited '?' u.query ++ delimited '#' u.fragment)

theorem text_eq (u : Url) : u.text = u.scheme ++ ':' :: '/' :: '/' :: u.after := by
  simp [text, after]

/-- The parts of what stands behind a scheme and its two slashes. -/
def split (scheme rest : List Char) : Url :=
  let (front, fragment) := cutAtFirst '#' (rest.dropWhile (!endsAuthority ·))
  let (path, query) := cutAtFirst '?' front
  ⟨scheme, rest.takeWhile (!endsAuthority ·), path, query.getD [], fragment.getD []⟩

theorem ofText_append (h : isScheme scheme = true) (rest : List Char) :
    ofText (scheme ++ ':' :: '/' :: '/' :: rest) =
      if isSoundAuthority (split (lower scheme) (rest.filter (!isDropped ·))).authority then
        .ok (split (lower scheme) (rest.filter (!isDropped ·)))
      else .error .badAuthority := by
  have hclean : (scheme ++ ':' :: '/' :: '/' :: rest).filter (!isDropped ·) =
      scheme ++ ':' :: '/' :: '/' :: rest.filter (!isDropped ·) := by
    rw [List.filter_append, filter_scheme h]
    rfl
  rw [ofText, hclean, takeScheme?_append h]
  rfl

/-- Whether parts hold none of the delimiters that end them. -/
structure IsSplit (u : Url) : Prop where
  authority : ∀ c ∈ u.authority, endsAuthority c = false
  path : u.path = [] ∨ ∃ rest, u.path = '/' :: rest
  path_query : '?' ∉ u.path
  path_fragment : '#' ∉ u.path
  query_fragment : '#' ∉ u.query

theorem isSplit_split (scheme rest : List Char) : (split scheme rest).IsSplit := by
  have hfront := not_mem_cutAtFirst '#' (rest.dropWhile (!endsAuthority ·))
  have hpath := not_mem_cutAtFirst '?' (cutAtFirst '#' (rest.dropWhile (!endsAuthority ·))).1
  have hsub := delimited_cutAtFirst_sublist '?'
    (cutAtFirst '#' (rest.dropWhile (!endsAuthority ·))).1
  refine ⟨fun c hc => ?_, ?_, hpath, fun hmem => ?_, fun hmem => ?_⟩
  · simpa using List.mem_takeWhile_imp hc
  · -- what ends the authority is the first character of the path, or there is no path
    have hhead := List.head?_dropWhile_not (!endsAuthority ·) rest
    cases htail : rest.dropWhile (!endsAuthority ·) with
    | nil => simp [split, htail, cutAtFirst]
    | cons c tail =>
      have hc : endsAuthority c = true := by simpa [htail] using hhead
      simp only [endsAuthority, Bool.or_eq_true, beq_iff_eq] at hc
      rcases hc with (rfl | rfl) | rfl <;> simp [split, htail, cutAtFirst]
  · exact hfront (hsub.mem (List.mem_append_left _ hmem))
  · refine hfront (hsub.mem (List.mem_append_right _ ?_))
    have hquery : '#' ∈ ((cutAtFirst '?'
      (cutAtFirst '#' (rest.dropWhile (!endsAuthority ·))).1).2.getD []) := hmem
    rw [delimited]
    split
    · next hnil => simp [List.isEmpty_iff.mp hnil] at hquery
    · exact List.mem_cons_of_mem _ hquery

/-- What is split is put together from its parts, save for delimiters in front of nothing. -/
theorem after_split_sublist (scheme rest : List Char) :
    (split scheme rest).after.Sublist rest := by
  have hquery := delimited_cutAtFirst_sublist '?'
    (cutAtFirst '#' (rest.dropWhile (!endsAuthority ·))).1
  have hfragment := delimited_cutAtFirst_sublist '#' (rest.dropWhile (!endsAuthority ·))
  calc (split scheme rest).after
    _ = rest.takeWhile (!endsAuthority ·) ++ _ := rfl
    List.Sublist _ (rest.takeWhile (!endsAuthority ·) ++ rest.dropWhile (!endsAuthority ·)) :=
      ((hquery.append_right _).trans hfragment).append_left _
    _ = rest := List.takeWhile_append_dropWhile

/-- What ends a text of one class is found where the class ends. -/
theorem takeWhile_dropWhile_append {p : Char → Bool} {tail : List Char}
    (hbefore : ∀ c ∈ before, p c = true) (htail : ∀ c, tail.head? = some c → p c = false) :
    (before ++ tail).takeWhile p = before ∧ (before ++ tail).dropWhile p = tail := by
  rw [List.takeWhile_append_of_pos hbefore, List.dropWhile_append_of_pos hbefore]
  cases tail with
  | nil => simp
  | cons c rest => simp [htail c rfl]

theorem endsAuthority_of_head? (h : u.IsSplit) {c : Char}
    (hc : (u.path ++ delimited '?' u.query ++ delimited '#' u.fragment).head? = some c) :
    endsAuthority c = true := by
  rcases h.path with hnil | ⟨rest, hslash⟩
  · rw [hnil, List.nil_append] at hc
    rcases hquery : u.query with _ | ⟨q, query⟩
    · rcases hfragment : u.fragment with _ | ⟨f, fragment⟩
      · simp [hquery, hfragment, delimited] at hc
      · obtain rfl : '#' = c := by simpa [hquery, hfragment, delimited] using hc
        rfl
    · obtain rfl : '?' = c := by simpa [hquery, delimited] using hc
      rfl
  · obtain rfl : '/' = c := by simpa [hslash] using hc
    rfl

/-- The parts are found again in the text that they make up. -/
theorem split_after (h : u.IsSplit) : split u.scheme u.after = u := by
  -- a delimiter follows the authority, if anything does
  have htail : u.after.takeWhile (!endsAuthority ·) = u.authority ∧
      u.after.dropWhile (!endsAuthority ·) =
        u.path ++ delimited '?' u.query ++ delimited '#' u.fragment :=
    takeWhile_dropWhile_append (fun c hc => by simp [h.authority c hc])
      (fun c hc => by simp [endsAuthority_of_head? h hc])
  have hfront : '#' ∉ u.path ++ delimited '?' u.query := by
    rw [List.mem_append, not_or, delimited]
    refine ⟨h.path_fragment, ?_⟩
    split
    · simp
    · simpa using h.query_fragment
  obtain ⟨hpath, hfragment⟩ := cutAtFirst_delimited hfront u.fragment
  obtain ⟨hfirst, hquery⟩ := cutAtFirst_delimited h.path_query u.query
  simp only [split, htail.1, htail.2, hpath, hfragment, hfirst, hquery]

/-- Without a delimiter there is nothing but the authority. -/
theorem split_of_forall (h : ∀ c ∈ rest, endsAuthority c = false) :
    split scheme rest = ⟨scheme, rest, [], [], []⟩ := by
  have hrest : (rest ++ []).takeWhile (!endsAuthority ·) = rest ∧
      (rest ++ []).dropWhile (!endsAuthority ·) = [] :=
    takeWhile_dropWhile_append (fun c hc => by simp [h c hc]) (by simp)
  rw [List.append_nil] at hrest
  simp [split, hrest.1, hrest.2, cutAtFirst]

/-- The authority is known as soon as a delimiter ends it. -/
theorem authority_split_append {c : Char} (hc : c ∈ rest) (hend : endsAuthority c = true)
    (more : List Char) :
    (split scheme (rest ++ more)).authority = (split scheme rest).authority := by
  obtain ⟨before, after, rfl⟩ := List.append_of_mem hc
  -- the authority ends before the delimiter, and so before what is appended
  have hshort : ¬((before ++ c :: after).takeWhile (!endsAuthority ·)).length =
      (before ++ c :: after).length := by
    intro hlength
    have hkept : (before ++ c :: after).takeWhile (!endsAuthority ·) <+: before ++ c :: after :=
      List.takeWhile_prefix _
    have hmem := List.takeWhile_eq_self_iff.mp (hkept.eq_of_length hlength) c hc
    simp [hend] at hmem
  exact (List.takeWhile_append).trans (if_neg hshort)

end Url

end ContentEngine
