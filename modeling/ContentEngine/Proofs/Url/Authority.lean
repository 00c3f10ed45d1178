import ContentEngine.Proofs.Text.Case
import ContentEngine.Proofs.Url.Split

/-!
# The place in an authority

What can be said of the host and the user that are read off a sound authority: which delimiters they
cannot hold. A host with a bracket in it is numeric, since it has been in brackets itself, and a
numeric host does not start with a bracket (`head?_ne_of_isNumericHost`).
-/

namespace ContentEngine

namespace Url

variable {authority text : List Char}

/-! ### Numeric hosts -/

theorem splitAtChar_cons_of_ne {separator c : Char} (h : c ≠ separator) (rest : List Char) :
    ∃ part parts, splitAtChar separator (c :: rest) = (c :: part) :: parts := by
  rw [splitAtChar]
  rcases splitAtChar separator rest with _ | ⟨part, parts⟩
  · exact ⟨[], [], rfl⟩
  · exact ⟨part, parts, if_neg h⟩

/-- A run of groups that starts with a bracket is none, except perhaps for one decimal number. -/
theorem groupCount?_bracket (atEnd : Bool) (rest : List Char) :
    groupCount? atEnd ('[' :: rest) = none ∨
      atEnd = true ∧ groupCount? atEnd ('[' :: rest) = some 2 := by
  obtain ⟨part, parts, hsplit⟩ := splitAtChar_cons_of_ne (by decide : '[' ≠ ':') rest
  have hgroup : isGroup ('[' :: part) = false := by
    have hhex : isHexDigit '[' = false := by decide
    simp [isGroup, hhex]
  cases atEnd with
  | false => simp [groupCount?, hsplit, hgroup]
  | true =>
    cases parts with
    | nil =>
      simp only [groupCount?, hsplit]
      by_cases hdotted : isDotted ('[' :: part) = true <;> simp [hgroup, hdotted]
    | cons next parts => simp [groupCount?, hsplit, hgroup]

theorem head?_ne_of_isNumericHost (h : isNumericHost text = true) : text.head? ≠ some '[' := by
  intro hhead
  obtain ⟨rest, rfl⟩ : ∃ rest, text = '[' :: rest := by
    cases text with
    | nil => simp at hhead
    | cons c rest => exact ⟨rest, by rw [Option.some.inj hhead]⟩
  have hcut : (cutAtFirst '%' ('[' :: rest)).1 = '[' :: (cutAtFirst '%' rest).1 := by
    rw [cutAtFirst, if_neg (by decide)]
  have hfuture : isFutureAddress ('[' :: rest) = false := rfl
  rw [isNumericHost, hfuture, hcut, Bool.false_or, Bool.and_eq_true] at h
  have hgroups := h.1
  generalize (cutAtFirst '%' rest).1 = groups at hgroups
  have hgap : cutAtGap? ('[' :: groups) =
      (cutAtGap? groups).map fun cut => ('[' :: cut.1, cut.2) := by
    rw [cutAtGap?]
    simp
  rw [isGroupAddress, hgap] at hgroups
  rcases hcases : cutAtGap? groups with _ | ⟨before, after⟩
  · -- without a gap there must be eight groups, and a decimal number counts as two
    rw [hcases, Option.map_none] at hgroups
    rcases groupCount?_bracket true groups with hnone | ⟨-, htwo⟩
    · simp [hnone] at hgroups
    · simp [htwo] at hgroups
  · -- a decimal number does not stand before a gap
    rw [hcases, Option.map_some] at hgroups
    rcases groupCount?_bracket false before with hnone | ⟨hfalse, -⟩
    · simp [hnone] at hgroups
    · contradiction

/-! ### Hosts -/

theorem mem_of_mem_cutAtFirst {separator c : Char} (h : c ∈ (cutAtFirst separator text).1) :
    c ∈ text :=
  (delimited_cutAtFirst_sublist separator text).mem (List.mem_append_left _ h)

/-- The place is what follows the last at sign. -/
theorem placeOf_append (user : List Char) {place : List Char} (h : '@' ∉ place) :
    placeOf (user ++ '@' :: place) = place := by
  rw [placeOf, cutAtLast?_append user h]
  rfl

theorem placeOf_of_not_mem (h : '@' ∉ authority) : placeOf authority = authority := by
  rw [placeOf, cutAtLast?_of_not_mem h]
  rfl

theorem not_mem_placeOf (authority : List Char) : '@' ∉ placeOf authority := by
  rcases not_mem_or_exists_last '@' authority with h | ⟨user, place, h, rfl⟩
  · rwa [placeOf_of_not_mem h]
  · rwa [placeOf_append user h]

theorem mem_of_mem_placeOf {c : Char} (h : c ∈ placeOf authority) : c ∈ authority := by
  rcases not_mem_or_exists_last '@' authority with hnot | ⟨user, place, hnot, rfl⟩
  · rwa [placeOf_of_not_mem hnot] at h
  · rw [placeOf_append user hnot] at h
    exact List.mem_append_right _ (List.mem_cons_of_mem _ h)

theorem hasNumericHost_of_isSoundAuthority (h : isSoundAuthority authority = true)
    (hopen : '[' ∈ authority) : hasNumericHost (placeOf authority) = true := by
  simp only [isSoundAuthority, Bool.and_eq_true] at h
  have hsound := h.1
  rw [hasSoundBrackets, List.contains_iff_mem.mpr hopen] at hsound
  split at hsound
  · contradiction
  · exact hsound
  · contradiction

/-- What is known of the host of a sound authority. -/
structure IsHost (host : List Char) : Prop where
  no_at : '@' ∉ host
  no_close : ':' ∈ host → ']' ∉ host
  no_open : host.head? ≠ some '['

theorem isHost_hostPort (h : isSoundAuthority authority = true) :
    IsHost (hostPort authority).1 := by
  rcases not_mem_or_exists_first '[' (placeOf authority) with hnot | ⟨before, after, hnot, hplace⟩
  · have hhost : (hostPort authority).1 = (cutAtFirst ':' (placeOf authority)).1 := by
      rw [hostPort, cutAtFirst_of_not_mem hnot]
    rw [hhost]
    refine ⟨fun hmem => ?_, fun hmem => ?_, fun hhead => ?_⟩
    · exact not_mem_placeOf authority (mem_of_mem_cutAtFirst hmem)
    · exact absurd hmem (not_mem_cutAtFirst ':' _)
    · exact hnot (mem_of_mem_cutAtFirst (List.mem_of_mem_head? hhead))
  · have hhost : (hostPort authority).1 = (cutAtFirst ']' after).1 := by
      rw [hostPort, hplace, cutAtFirst_append hnot]
    have hopen : '[' ∈ authority := mem_of_mem_placeOf (hplace ▸ by simp)
    have hnumeric := hasNumericHost_of_isSoundAuthority h hopen
    rw [hasNumericHost, hplace, cutAtFirst_append hnot] at hnumeric
    simp only [Bool.and_eq_true] at hnumeric
    rw [hhost]
    refine ⟨fun hmem => ?_, fun _ => not_mem_cutAtFirst ']' _, ?_⟩
    · refine not_mem_placeOf authority ?_
      rw [hplace]
      exact List.mem_append_right _ (List.mem_cons_of_mem _ (mem_of_mem_cutAtFirst hmem))
    · exact head?_ne_of_isNumericHost hnumeric.2

/-- A host keeps what is known of it in small letters. -/
theorem IsHost.lower {host : List Char} (h : IsHost host) : IsHost (lower host) where
  no_at hmem := h.no_at (mem_of_mem_lower hmem (by decide))
  no_close hcolon hmem :=
    h.no_close (mem_of_mem_lower hcolon (by decide)) (mem_of_mem_lower hmem (by decide))
  no_open hhead := h.no_open (head?_of_head?_lower hhead (by decide))

end Url

end ContentEngine
