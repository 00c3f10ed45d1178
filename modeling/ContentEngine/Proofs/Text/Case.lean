import Mathlib.Data.List.Basic
import ContentEngine.Proofs.Text.Blank
import ContentEngine.Text.Case

/-!
# Texts in lower and in upper case

The case maps are tables of stretches, and what is to be shown of them is a property of the tables:
no stretch leads into a stretch of the same table, nor to a blank, nor to an ASCII character that
is no letter. The tables are checked stretch by stretch against each other (`CaseRange.misses`),
since going through their characters one by one would take too long. A stretch that leads past a
whole block of the table need not be checked against the stretches in it
(`isSettledTable_of_blocks`).

* `lower_lower`: a text in lower case stays as it is.
* `mem_of_mem_lower`: blanks and ASCII characters that are no letters are in a text in lower case
  only if they have been in the text.
* `upper_upper`: a text in upper case stays as it is, and it is trimmed if the text has been
  (`trim_upperText_trim`).
-/

namespace ContentEngine

/-! ### Stretches that lead nowhere else -/

namespace CaseRange

/-- The code point that the last one of a stretch goes to. -/
def lastImage (r : CaseRange) : Nat :=
  r.image + (r.last - r.first)

/-- Whether no image of a stretch lies in another stretch. A stretch that takes every second code
point is missed by images of the other parity. -/
def misses (r s : CaseRange) : Bool :=
  Nat.blt s.last r.image || Nat.blt r.lastImage s.first
    || (s.step == 2 && (r.step == 2 || r.first == r.last) && (r.image + s.first) % 2 == 1)

/-- Whether no image of a stretch lies in a range. -/
def avoids (r : CaseRange) (s : CodeRange) : Bool :=
  Nat.blt s.last r.image || Nat.blt r.lastImage s.first

/-- Whether the images of a stretch are characters. -/
def isValid (r : CaseRange) : Bool :=
  Nat.blt r.lastImage 0xd800 || (Nat.blt 0xdfff r.image && Nat.blt r.lastImage 0x110000)

variable {r s : CaseRange} {c d : Char}

/-- An image is as far from the first image as the character is from the first one. -/
theorem toNat_of_image?_eq_some (hr : r.isValid = true) (h : r.image? c = some d) :
    ∃ k, d.toNat = r.image + k ∧ k ≤ r.last - r.first ∧ k % r.step = 0 ∧
      (r.first = r.last → k = 0) := by
  simp only [image?, Option.ite_none_right_eq_some, Option.some.injEq] at h
  obtain ⟨⟨hfirst, hlast, hstep⟩, rfl⟩ := h
  refine ⟨c.toNat - r.first, ?_, by omega, hstep, by omega⟩
  simp only [isValid, lastImage, Nat.blt_eq, Bool.or_eq_true, Bool.and_eq_true] at hr
  have hvalid : (r.image + (c.toNat - r.first)).isValidChar := by
    simp only [Nat.isValidChar]
    omega
  rw [Char.ofNat, dif_pos hvalid]
  rfl

theorem image?_eq_none_of_misses (hr : r.isValid = true) (hmiss : r.misses s = true)
    (h : r.image? c = some d) : s.image? d = none := by
  obtain ⟨k, hk, hle, hstep, hsingle⟩ := toNat_of_image?_eq_some hr h
  simp only [misses, lastImage, Bool.or_eq_true, Bool.and_eq_true, Nat.blt_eq, beq_iff_eq] at hmiss
  refine if_neg ?_
  rintro ⟨hfirst, hlast, hmod⟩
  rcases hmiss with (hlow | hhigh) | ⟨⟨hs, hr⟩, hparity⟩
  · omega
  · omega
  · -- the image and the start of the other stretch differ by an odd number
    rw [hs] at hmod
    rcases hr with hr | hr
    · rw [hr] at hstep
      omega
    · have := hsingle hr
      omega

theorem not_mem_of_avoids (hr : r.isValid = true) {s : CodeRange} (havoid : r.avoids s = true)
    (h : r.image? c = some d) : ¬(s.first ≤ d.toNat ∧ d.toNat ≤ s.last) := by
  obtain ⟨k, hk, hle, -, -⟩ := toNat_of_image?_eq_some hr h
  simp only [avoids, lastImage, Bool.or_eq_true, Nat.blt_eq] at havoid
  omega

end CaseRange

/-- The image of a character is the character itself or comes from a stretch. -/
theorem caseImage_eq_or (ranges : List CaseRange) (c : Char) :
    caseImage ranges c = c ∨ ∃ r ∈ ranges, r.image? c = some (caseImage ranges c) := by
  rw [caseImage]
  cases h : ranges.findSome? fun r => r.image? c with
  | none => exact .inl rfl
  | some d => exact .inr (List.exists_of_findSome?_eq_some h)

theorem caseImage_eq_self {ranges : List CaseRange} {c : Char}
    (h : ∀ r ∈ ranges, r.image? c = none) : caseImage ranges c = c := by
  rw [caseImage, List.findSome?_eq_none_iff.mpr h, Option.getD_none]

/-- Whether the stretches of a table lead into none of its stretches, nor into some ranges. -/
def isSettledTable (ranges : List CaseRange) (excluded : CodeRanges) : Bool :=
  ranges.all fun r => r.isValid && ranges.all r.misses && excluded.all r.avoids

/-- A settled table leaves a character alone, or takes it to one that it leaves alone and that is in
none of the ranges. -/
theorem caseImage_of_isSettledTable {ranges : List CaseRange} {excluded : CodeRanges}
    (h : isSettledTable ranges excluded = true) (c : Char) :
    caseImage ranges c = c ∨
      caseImage ranges (caseImage ranges c) = caseImage ranges c ∧
        ∀ s ∈ excluded, ¬(s.first ≤ (caseImage ranges c).toNat ∧
          (caseImage ranges c).toNat ≤ s.last) := by
  rcases caseImage_eq_or ranges c with hself | ⟨r, hr, himage⟩
  · exact .inl hself
  · have hsettled := List.all_eq_true.mp h r hr
    simp only [Bool.and_eq_true, List.all_eq_true] at hsettled
    obtain ⟨⟨hvalid, hmiss⟩, havoid⟩ := hsettled
    refine .inr ⟨caseImage_eq_self fun s hs => ?_, fun s hs => ?_⟩
    · exact CaseRange.image?_eq_none_of_misses hvalid (hmiss s hs) himage
    · exact CaseRange.not_mem_of_avoids hvalid (havoid s hs) himage

/-! ### Blocks of a table -/

/-- The range from the first to the last code point of some ranges. -/
def CodeRanges.bounds : CodeRanges → CodeRange
  | [] => ⟨0x110000, 0⟩
  | r :: rs => ⟨min r.first (bounds rs).first, max r.last (bounds rs).last⟩

theorem CodeRanges.le_bounds_of_mem {r : CodeRange} {rs : CodeRanges} (h : r ∈ rs) :
    rs.bounds.first ≤ r.first ∧ r.last ≤ rs.bounds.last := by
  induction rs with
  | nil => cases h
  | cons s rs ih =>
    simp only [bounds]
    rcases List.mem_cons.mp h with rfl | hrest
    · omega
    · have hbounds := ih hrest
      omega

section Blocks

variable {α : Type}

/-- A list cut into a number of blocks of one size, and what is left of it. -/
def cutIntoBlocks (size : Nat) : Nat → List α → List (List α)
  | 0, rest => [rest]
  | count + 1, rest => rest.take size :: cutIntoBlocks size count (rest.drop size)

theorem flatten_cutIntoBlocks (size count : Nat) (items : List α) :
    (cutIntoBlocks size count items).flatten = items := by
  induction count generalizing items with
  | zero => simp [cutIntoBlocks]
  | succ count ih => rw [cutIntoBlocks, List.flatten_cons, ih, List.take_append_drop]

/-- The blocks of a list of things that each take up a range, with the bounds of each block. -/
def boundedBlocks (size count : Nat) (range : α → CodeRange) (items : List α) :
    List (CodeRange × List α) :=
  (cutIntoBlocks size count items).map fun block => (CodeRanges.bounds (block.map range), block)

/-- What holds of all things that a stretch leads past need not be checked for those in blocks that
the stretch leads past. -/
theorem CaseRange.all_of_blocks {r : CaseRange} {p : α → Bool} {range : α → CodeRange}
    {items : List α} {size count : Nat} (hp : ∀ a, r.avoids (range a) = true → p a = true)
    (h : ((boundedBlocks size count range items).all fun block =>
      r.avoids block.1 || block.2.all p) = true) : items.all p = true := by
  refine List.all_eq_true.mpr fun a ha => ?_
  rw [← flatten_cutIntoBlocks size count items] at ha
  obtain ⟨block, hblock, ha⟩ := List.mem_flatten.mp ha
  have hchecked := List.all_eq_true.mp h _ (List.mem_map_of_mem hblock)
  rcases Bool.or_eq_true_iff.mp hchecked with hpast | hall
  · have hbounds := CodeRanges.le_bounds_of_mem (List.mem_map_of_mem (f := range) ha)
    refine hp a ?_
    simp only [avoids, Bool.or_eq_true, Nat.blt_eq] at hpast ⊢
    omega
  · exact List.all_eq_true.mp hall a ha

end Blocks

/-- A table is settled if its stretches lead past each block of stretches and of ranges, or past all
that is in it. -/
theorem isSettledTable_of_blocks {ranges : List CaseRange} {excluded : CodeRanges}
    (size count : Nat)
    (h : (ranges.all fun r => r.isValid &&
      ((boundedBlocks size count (fun s => ⟨s.first, s.last⟩) ranges).all fun block =>
        r.avoids block.1 || block.2.all r.misses) &&
      (boundedBlocks size count id excluded).all fun block =>
        r.avoids block.1 || block.2.all r.avoids) = true) :
    isSettledTable ranges excluded = true := by
  refine List.all_eq_true.mpr fun r hr => ?_
  have hchecked := List.all_eq_true.mp h r hr
  rw [Bool.and_eq_true, Bool.and_eq_true] at hchecked ⊢
  obtain ⟨⟨hvalid, hstretches⟩, hexcluded⟩ := hchecked
  refine ⟨⟨hvalid, CaseRange.all_of_blocks (fun s hpast => ?_) hstretches⟩,
    CaseRange.all_of_blocks (fun _ hpast => hpast) hexcluded⟩
  rw [CaseRange.misses, Bool.or_eq_true]
  exact .inl hpast

/-- The blanks, as ranges. -/
def blankRanges : CodeRanges :=
  [⟨9, 13⟩, ⟨28, 32⟩, ⟨0x85, 0x85⟩, ⟨0xa0, 0xa0⟩, ⟨0x1680, 0x1680⟩, ⟨0x2000, 0x200a⟩,
   ⟨0x2028, 0x2029⟩, ⟨0x202f, 0x202f⟩, ⟨0x205f, 0x205f⟩, ⟨0x3000, 0x3000⟩]

theorem exists_blankRange {c : Char} (h : isBlank c = true) :
    ∃ s ∈ blankRanges, s.first ≤ c.toNat ∧ c.toNat ≤ s.last := by
  simp only [isBlank, Bool.or_eq_true, Bool.and_eq_true, decide_eq_true_eq, beq_iff_eq] at h
  simp only [blankRanges, List.mem_cons, List.not_mem_nil, or_false, exists_eq_or_imp,
    exists_eq_left]
  omega

/-! ### The two maps -/

theorem lowerChar_of_table {c : Char} (hc : ¬c.toNat < 128) (hdot : c ≠ '\u0130') :
    lowerChar c = [caseImage lowerRanges c] := by
  rw [lowerChar, if_neg hc, if_neg hdot]

theorem lowerChar_ne_nil (c : Char) : lowerChar c ≠ [] := by
  unfold lowerChar
  split
  · simp
  · split <;> simp

theorem lowerAfter_eq_flatMap {text : List Char} (h : '\u03a3' ∉ text) (before : List Char) :
    lowerAfter before text = text.flatMap lowerChar := by
  induction text generalizing before with
  | nil => rfl
  | cons c rest ih =>
    rw [List.mem_cons, not_or] at h
    rw [lowerAfter, if_neg (Ne.symm h.1), ih h.2, List.flatMap_cons]

/-- Without a sigma, each character goes its own way. -/
theorem lower_eq_flatMap {text : List Char} (h : '\u03a3' ∉ text) :
    lower text = text.flatMap lowerChar :=
  lowerAfter_eq_flatMap h []

theorem lower_eq_nil_iff {text : List Char} : lower text = [] ↔ text = [] := by
  cases text with
  | nil => simp [lower, lowerAfter]
  | cons c rest =>
    rw [lower, lowerAfter]
    split <;> simp [lowerChar_ne_nil]

theorem upperChar_of_table {c : Char} (hc : ¬c.toNat < 128) :
    upperChar c = ((upperExpansions.lookup c.toNat).map String.toList).getD
      [caseImage upperRanges c] := by
  rw [upperChar, if_neg hc]
  cases upperExpansions.lookup c.toNat <;> rfl

theorem upper_cons (c : Char) (rest : List Char) :
    upper (c :: rest) = upperChar c ++ upper rest :=
  List.flatMap_cons

/-! ### Lower case -/

/-- Whether a character is the same in lower and in upper case, as far as delimiters are concerned:
a blank, or an ASCII character that is no letter. -/
def isCaseless (c : Char) : Bool :=
  isBlank c || (c.toNat < 128 && !isAsciiUpper c && !isAsciiLower c)

/-- What holds of the first 128 characters holds of every ASCII character. -/
theorem ascii_induction {P : Char → Prop} (h : ∀ n < 128, P (Char.ofNat n)) {c : Char}
    (hc : c.toNat < 128) : P c := by
  have hP := h c.toNat hc
  rwa [Char.ofNat_toNat] at hP

theorem toNat_lt_of_isAscii {c : Char}
    (h : isAsciiUpper c = true ∨ isAsciiLower c = true ∨ isAsciiDigit c = true) :
    c.toNat < 128 := by
  simp only [isAsciiUpper, isAsciiLower, isAsciiDigit, Bool.and_eq_true, decide_eq_true_eq,
    Char.le_def, UInt32.le_iff_toNat_le] at h
  rcases h with h | h | h <;> exact Nat.lt_of_le_of_lt h.2 (by decide)

/-- Whether a text is in lower case. -/
def IsLower (text : List Char) : Prop :=
  ∀ c ∈ text, lowerChar c = [c] ∧ c ≠ '\u03a3'

instance (text : List Char) : Decidable (IsLower text) :=
  decidable_of_iff (text.all fun c => lowerChar c == [c] && c != '\u03a3') (by simp [IsLower])

theorem IsLower.lowerAfter_eq {text : List Char} (h : IsLower text) (before : List Char) :
    lowerAfter before text = text := by
  induction text generalizing before with
  | nil => rfl
  | cons c rest ih =>
    obtain ⟨hc, hsigma⟩ := h c List.mem_cons_self
    rw [lowerAfter, if_neg hsigma, hc, ih (fun d hd => h d (List.mem_cons_of_mem c hd)),
      List.singleton_append]

/-- A text in lower case is left alone. -/
theorem IsLower.lower_eq {text : List Char} (h : IsLower text) : lower text = text :=
  h.lowerAfter_eq []

/-- What an ASCII character goes to: it is in lower case, and no delimiter that the character is not
itself. A small letter stays. -/
theorem lowerChar_ascii : ∀ n < 128,
    IsLower (lowerChar (Char.ofNat n)) ∧
      (lowerChar (Char.ofNat n)).all (fun d => !isCaseless d || d == Char.ofNat n) = true ∧
      (0x60 < n ∧ n < 0x7b →
        lowerChar (Char.ofNat n) = [Char.ofNat n] ∧ isAsciiLower (Char.ofNat n) = true) := by
  decide +kernel

/-- The two capitals that are mapped without the table, the dotted I and the sigma. -/
theorem lowerChar_special :
    IsLower (lowerChar '\u0130') ∧ (lowerChar '\u0130').all (fun d => !isCaseless d) = true ∧
      IsLower ['\u03c2', '\u03c3'] ∧ caseImage lowerRanges '\u03a3' ≠ '\u03a3' := by
  decide +kernel

/-- What the stretches of the lower-case table must not lead to: blanks, ASCII characters that are
no small letters, and the two capitals that are mapped without the table. -/
def lowerExcluded : CodeRanges :=
  [⟨0, 0x60⟩, ⟨0x7b, 0x7f⟩, ⟨0x130, 0x130⟩, ⟨0x3a3, 0x3a3⟩] ++ blankRanges

theorem lowerRanges_settled : isSettledTable lowerRanges lowerExcluded = true :=
  isSettledTable_of_blocks 14 12 (by decide +kernel)

theorem isLower_lowerChar (c : Char) : IsLower (lowerChar c) := by
  by_cases hc : c.toNat < 128
  · exact ascii_induction (P := fun c => IsLower (lowerChar c))
      (fun n hn => (lowerChar_ascii n hn).1) hc
  · by_cases hdot : c = '\u0130'
    · subst hdot
      exact lowerChar_special.1
    · intro d hd
      rw [lowerChar_of_table hc hdot, List.mem_singleton] at hd
      rcases caseImage_of_isSettledTable lowerRanges_settled c with h | ⟨himage, havoid⟩
      · -- the table leaves the character alone, and the capital sigma is not such a one
        rw [h] at hd
        subst hd
        refine ⟨by rw [lowerChar_of_table hc hdot, h], ?_⟩
        rintro rfl
        exact lowerChar_special.2.2.2 h
      · rw [← hd] at himage havoid
        have hlow : ¬(0 ≤ d.toNat ∧ d.toNat ≤ 0x60) := havoid ⟨0, 0x60⟩ (by decide)
        have hhigh : ¬(0x7b ≤ d.toNat ∧ d.toNat ≤ 0x7f) := havoid ⟨0x7b, 0x7f⟩ (by decide)
        have hdotted : d ≠ '\u0130' := by
          rintro rfl
          exact havoid ⟨0x130, 0x130⟩ (by decide) (by decide)
        have hsigma : d ≠ '\u03a3' := by
          rintro rfl
          exact havoid ⟨0x3a3, 0x3a3⟩ (by decide) (by decide)
        refine ⟨?_, hsigma⟩
        by_cases hletter : d.toNat < 128
        · have hd := ((lowerChar_ascii d.toNat hletter).2.2 (by omega)).1
          rwa [Char.ofNat_toNat] at hd
        · rw [lowerChar_of_table hletter hdotted, himage]

/-- A blank or a delimiter comes from no other character. -/
theorem eq_of_mem_lowerChar {c d : Char} (h : d ∈ lowerChar c) (hd : isCaseless d = true) :
    d = c := by
  by_cases hc : c.toNat < 128
  · have hall := ascii_induction
      (P := fun c => (lowerChar c).all (fun d => !isCaseless d || d == c) = true)
      (fun n hn => (lowerChar_ascii n hn).2.1) hc
    simpa [hd] using List.all_eq_true.mp hall d h
  · by_cases hdot : c = '\u0130'
    · subst hdot
      simpa [hd] using List.all_eq_true.mp lowerChar_special.2.1 d h
    · rw [lowerChar_of_table hc hdot, List.mem_singleton] at h
      rcases caseImage_of_isSettledTable lowerRanges_settled c with himage | ⟨-, havoid⟩
      · rw [h, himage]
      · rw [← h] at havoid
        simp only [isCaseless, Bool.or_eq_true, Bool.and_eq_true, decide_eq_true_eq] at hd
        rcases hd with hblank | ⟨⟨hletter, -⟩, hlower⟩
        · obtain ⟨s, hs, hrange⟩ := exists_blankRange hblank
          exact absurd hrange (havoid s (List.mem_append_right _ hs))
        · have hlow : ¬(0 ≤ d.toNat ∧ d.toNat ≤ 0x60) := havoid ⟨0, 0x60⟩ (by decide)
          have hhigh : ¬(0x7b ≤ d.toNat ∧ d.toNat ≤ 0x7f) := havoid ⟨0x7b, 0x7f⟩ (by decide)
          have hd := ((lowerChar_ascii d.toNat hletter).2.2 (by omega)).2
          rw [Char.ofNat_toNat] at hd
          simp [hd] at hlower

theorem isLower_lowerAfter (before text : List Char) : IsLower (lowerAfter before text) := by
  induction text generalizing before with
  | nil => simp [lowerAfter, IsLower]
  | cons c rest ih =>
    intro d hd
    rw [lowerAfter] at hd
    split at hd
    · rcases List.mem_cons.mp hd with rfl | hd
      · exact lowerChar_special.2.2.1 _ (by split <;> simp)
      · exact ih _ d hd
    · rcases List.mem_append.mp hd with hd | hd
      · exact isLower_lowerChar c d hd
      · exact ih _ d hd

/-- A text is in lower case once it has been brought there. -/
theorem isLower_lower (text : List Char) : IsLower (lower text) :=
  isLower_lowerAfter [] text

theorem lower_lower (text : List Char) : lower (lower text) = lower text :=
  (isLower_lower text).lower_eq

theorem mem_of_mem_lowerAfter {before text : List Char} {d : Char}
    (h : d ∈ lowerAfter before text) (hd : isCaseless d = true) : d ∈ text := by
  induction text generalizing before with
  | nil => simp [lowerAfter] at h
  | cons c rest ih =>
    rw [lowerAfter] at h
    split at h
    · rcases List.mem_cons.mp h with rfl | h
      · exact absurd hd (by split <;> decide)
      · exact List.mem_cons_of_mem c (ih h)
    · rcases List.mem_append.mp h with h | h
      · exact eq_of_mem_lowerChar h hd ▸ List.mem_cons_self
      · exact List.mem_cons_of_mem c (ih h)

/-- Blanks and delimiters of a text in lower case come from the text. -/
theorem mem_of_mem_lower {text : List Char} {d : Char} (h : d ∈ lower text)
    (hd : isCaseless d = true) : d ∈ text :=
  mem_of_mem_lowerAfter h hd

/-- A blank or a delimiter at the start of a text in lower case is there in the text. -/
theorem head?_of_head?_lower {text : List Char} {d : Char} (h : (lower text).head? = some d)
    (hd : isCaseless d = true) : text.head? = some d := by
  cases text with
  | nil => simp [lower, lowerAfter] at h
  | cons c rest =>
    rw [lower, lowerAfter] at h
    split at h
    · obtain rfl := Option.some.inj h
      exact absurd hd (by split <;> decide)
    · rw [List.head?_append_of_ne_nil _ (lowerChar_ne_nil c)] at h
      rw [List.head?_cons, eq_of_mem_lowerChar (List.mem_of_mem_head? h) hd]

/-! ### Upper case -/

/-- What the stretches of the upper-case table must not lead to: blanks, ASCII characters that are
no capital letters, and the letters that go to several. -/
def upperExcluded : CodeRanges :=
  [⟨0, 0x40⟩, ⟨0x5b, 0x7f⟩] ++ blankRanges ++ upperExpansions.map fun e => ⟨e.1, e.1⟩

/-- What an ASCII character goes to: it is in upper case, and no blank that the character is not
itself. A capital letter stays. -/
theorem upperChar_ascii : ∀ n < 128,
    (upperChar (Char.ofNat n)).all (fun d =>
        upperChar d == [d] && (!isBlank d || d == Char.ofNat n)) = true ∧
      (0x40 < n ∧ n < 0x5b → upperChar (Char.ofNat n) = [Char.ofNat n]) := by
  decide +kernel

/-- A letter that goes to several goes to at least one, and to what is in upper case and not a
blank. -/
theorem upperExpansions_settled :
    (upperExpansions.all fun e =>
      e.2 != "" && e.2.toList.all fun d => upperChar d == [d] && !isBlank d) = true := by
  decide +kernel

theorem upperRanges_settled : isSettledTable upperRanges upperExcluded = true :=
  isSettledTable_of_blocks 14 12 (by decide +kernel)

/-- What the upper-case table leads to is in upper case. -/
theorem upperChar_eq_self {c : Char} (hself : caseImage upperRanges c = c)
    (hexcluded : ∀ s ∈ upperExcluded, ¬(s.first ≤ c.toNat ∧ c.toNat ≤ s.last)) :
    upperChar c = [c] := by
  by_cases hc : c.toNat < 128
  · have hlow : ¬(0 ≤ c.toNat ∧ c.toNat ≤ 0x40) := hexcluded ⟨0, 0x40⟩ List.mem_cons_self
    have hhigh : ¬(0x5b ≤ c.toNat ∧ c.toNat ≤ 0x7f) :=
      hexcluded ⟨0x5b, 0x7f⟩ (List.mem_cons_of_mem _ List.mem_cons_self)
    have hletter := (upperChar_ascii c.toNat hc).2 (by omega)
    rwa [Char.ofNat_toNat] at hletter
  · have hnone : upperExpansions.lookup c.toNat = none := by
      refine List.lookup_eq_none_iff.mpr fun e he => ?_
      have hmem : (⟨e.1, e.1⟩ : CodeRange) ∈ upperExcluded :=
        List.mem_append_right _ (List.mem_map.mpr ⟨e, he, rfl⟩)
      have hne : ¬(e.1 ≤ c.toNat ∧ c.toNat ≤ e.1) := hexcluded _ hmem
      simp only [ne_eq, bne_iff_ne]
      omega
    rw [upperChar_of_table hc, hnone, hself]
    rfl

theorem upperExpansions_of_lookup {n : Nat} {expansion : String}
    (h : upperExpansions.lookup n = some expansion) :
    expansion ≠ "" ∧ ∀ d ∈ expansion.toList, upperChar d = [d] ∧ isBlank d = false := by
  obtain ⟨before, after, hsplit, -⟩ := List.lookup_eq_some_iff.mp h
  have hmem : (n, expansion) ∈ upperExpansions := by simp [hsplit]
  simpa using List.all_eq_true.mp upperExpansions_settled _ hmem

theorem upperChar_ne_nil (c : Char) : upperChar c ≠ [] := by
  rw [upperChar]
  split
  · simp
  · split
    · next hlookup => simpa using (upperExpansions_of_lookup hlookup).1
    · simp

/-- What a letter goes to is in upper case, and no blank that the letter is not itself. -/
theorem of_mem_upperChar {c d : Char} (h : d ∈ upperChar c) :
    upperChar d = [d] ∧ (isBlank d = true → d = c) := by
  by_cases hc : c.toNat < 128
  · have hall := ascii_induction (P := fun c => (upperChar c).all (fun d =>
      upperChar d == [d] && (!isBlank d || d == c)) = true)
      (fun n hn => (upperChar_ascii n hn).1) hc
    have hd := List.all_eq_true.mp hall d h
    rw [Bool.and_eq_true, beq_iff_eq] at hd
    exact ⟨hd.1, fun hblank => by simpa [hblank] using hd.2⟩
  · rw [upperChar_of_table hc] at h
    cases hlookup : upperExpansions.lookup c.toNat with
    | some expansion =>
      rw [hlookup] at h
      obtain ⟨hupper, hblank⟩ := (upperExpansions_of_lookup hlookup).2 d h
      exact ⟨hupper, fun htrue => absurd (hblank.symm.trans htrue) Bool.false_ne_true⟩
    | none =>
      rw [hlookup] at h
      obtain rfl := List.mem_singleton.mp h
      rcases caseImage_of_isSettledTable upperRanges_settled c with h | ⟨hself, hexcluded⟩
      · rw [h, upperChar_of_table hc, hlookup, h]
        exact ⟨rfl, fun _ => rfl⟩
      · refine ⟨upperChar_eq_self hself hexcluded, fun hblank => ?_⟩
        obtain ⟨s, hs, hrange⟩ := exists_blankRange hblank
        have hmem : s ∈ upperExcluded :=
          List.mem_append_left _ (List.mem_append_right _ hs)
        exact absurd hrange (hexcluded s hmem)

/-- A letter that is no blank goes to no blank. -/
theorem isBlank_of_mem_upperChar {c d : Char} (hc : isBlank c = false) (hd : d ∈ upperChar c) :
    isBlank d = false := by
  cases hblank : isBlank d with
  | false => rfl
  | true => rwa [← (of_mem_upperChar hd).2 hblank, hblank] at hc

/-- A text in upper case has no blanks if the text has none. -/
theorem isBlank_of_mem_upper {text : List Char} (h : ∀ c ∈ text, isBlank c = false) {d : Char}
    (hd : d ∈ upper text) : isBlank d = false := by
  obtain ⟨c, hc, hd⟩ := List.mem_flatMap.mp hd
  exact isBlank_of_mem_upperChar (h c hc) hd

/-- A text in upper case is left alone. -/
theorem upper_upper (text : List Char) : upper (upper text) = upper text := by
  have hself : ∀ d ∈ upper text, upperChar d = [d] := by
    intro d hd
    obtain ⟨c, -, hd⟩ := List.mem_flatMap.mp hd
    exact (of_mem_upperChar hd).1
  rw [upper.eq_def (upper text), List.flatMap_congr hself, List.flatMap_singleton']

theorem upperText_upperText (text : String) : upperText (upperText text) = upperText text := by
  rw [upperText, upperText, String.toList_ofList, upper_upper]

/-- A text in upper case starts in a blank only if the text does. -/
theorem head?_upper {text : List Char} (h : ∀ c, text.head? = some c → isBlank c = false)
    {d : Char} (hd : (upper text).head? = some d) : isBlank d = false := by
  cases text with
  | nil => simp [upper] at hd
  | cons c rest =>
    rw [upper_cons, List.head?_append_of_ne_nil _ (upperChar_ne_nil c)] at hd
    exact isBlank_of_mem_upperChar (h c rfl) (List.mem_of_mem_head? hd)

/-- A text in upper case ends in a blank only if the text does. -/
theorem getLast?_upper {text : List Char} (h : ∀ c, text.getLast? = some c → isBlank c = false)
    {d : Char} (hd : (upper text).getLast? = some d) : isBlank d = false := by
  rcases List.eq_nil_or_concat text with rfl | ⟨init, c, rfl⟩
  · simp [upper] at hd
  · rw [List.concat_eq_append] at h hd
    rw [upper, List.flatMap_append, List.flatMap_singleton,
      List.getLast?_append_of_ne_nil _ (upperChar_ne_nil c)] at hd
    exact isBlank_of_mem_upperChar (h c (by simp)) (List.mem_of_getLast? hd)

/-- A trimmed text stays trimmed in upper case. -/
theorem trim_upperText_trim (text : String) :
    trim (upperText (trim text)) = upperText (trim text) := by
  have htrim : trimBy isBlank (upper (trimBy isBlank text.toList)) =
      upper (trimBy isBlank text.toList) :=
    trimBy_eq_self (fun d => head?_upper fun c => head?_trimBy)
      fun d => getLast?_upper fun c => getLast?_trimBy
  rw [upperText, trim, trim, String.toList_ofList, String.toList_ofList, htrim]

end ContentEngine
