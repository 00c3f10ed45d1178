import Mathlib.Data.List.Chain
import Mathlib.Data.List.DropRight
import ContentEngine.Text.Blank

/-!
# Trimmed and collapsed texts

What `trimBy` leaves is a stretch of the text that neither starts nor ends in the class
(`head?_trimBy`, `getLast?_trimBy`), and a text like that is left alone (`trimBy_eq_self`).
`HasSingleRuns` says of a text that every run of a class is one separator; this is what
`replaceRuns` brings about (`hasSingleRuns_replaceRuns`) and what it leaves alone
(`replaceRuns_eq_self`). Hence a collapsed text stays as it is when it is collapsed again
(`collapse_collapse`).
-/

namespace ContentEngine

variable {p : Char → Bool} {text : List Char}

/-! ### Trimmed texts -/

theorem isInfix_trimBy (p : Char → Bool) (text : List Char) : trimBy p text <:+: text := by
  have hkept : trimBy p text <+: text.dropWhile p := List.rdropWhile_prefix p _
  exact hkept.isInfix.trans (List.dropWhile_suffix p).isInfix

/-- What does not start in the class has nothing to lose at its start. -/
theorem dropWhile_of_head? (hhead : ∀ c, text.head? = some c → p c = false) :
    text.dropWhile p = text := by
  cases text with
  | nil => rfl
  | cons c rest => simp [hhead c rfl]

/-- A trimmed text does not end in the class. -/
theorem getLast?_trimBy {c : Char} (h : (trimBy p text).getLast? = some c) : p c = false := by
  have hne : (text.dropWhile p).rdropWhile p ≠ [] := by
    rintro hnil
    rw [trimBy, ← List.rdropWhile, hnil] at h
    simp at h
  have hlast : (trimBy p text).getLast? = some (((text.dropWhile p).rdropWhile p).getLast hne) :=
    List.getLast?_eq_some_getLast hne
  rw [h] at hlast
  rw [Option.some.inj hlast]
  simpa using List.rdropWhile_last_not p (text.dropWhile p) hne

/-- A trimmed text does not start in the class. -/
theorem head?_trimBy {c : Char} (h : (trimBy p text).head? = some c) : p c = false := by
  have hnot := List.head?_dropWhile_not p text
  obtain ⟨dropped, hsplit⟩ := List.rdropWhile_prefix p (text.dropWhile p)
  have hkept : ((text.dropWhile p).rdropWhile p).head? = some c := h
  have hhead : (text.dropWhile p).head? = some c := by
    rw [← hsplit, List.head?_append, hkept, Option.some_or]
  rw [hhead] at hnot
  simpa using hnot

/-- A text that neither starts nor ends in the class is left alone. -/
theorem trimBy_eq_self (hhead : ∀ c, text.head? = some c → p c = false)
    (hlast : ∀ c, text.getLast? = some c → p c = false) : trimBy p text = text := by
  rw [trimBy, dropWhile_of_head? hhead]
  refine (List.rdropWhile_eq_self_iff (p := p)).mpr fun hne => ?_
  simp [hlast _ (List.getLast?_eq_some_getLast hne)]

theorem trimBy_trimBy (p : Char → Bool) (text : List Char) :
    trimBy p (trimBy p text) = trimBy p text :=
  trimBy_eq_self (fun _ => head?_trimBy) fun _ => getLast?_trimBy

theorem trim_trim (text : String) : trim (trim text) = trim text := by
  rw [trim, trim, String.toList_ofList, trimBy_trimBy]

/-- Nothing is left only of a text of characters of the class. -/
theorem trimBy_eq_nil (h : trimBy p text = []) : ∀ c ∈ text, p c = true := by
  have hall : ∀ c ∈ text.dropWhile p, p c = true := List.rdropWhile_eq_nil_iff.mp h
  have hhead := List.head?_dropWhile_not p text
  cases hrest : text.dropWhile p with
  | nil => exact List.dropWhile_eq_nil_iff.mp hrest
  | cons c rest =>
    rw [hrest] at hall hhead
    simp [hall c List.mem_cons_self] at hhead

theorem isBlankText_of_trim {text : String} (h : trim text = "") : isBlankText text = true := by
  rw [trim, String.ofList_eq_empty_iff] at h
  exact List.all_eq_true.mpr (trimBy_eq_nil h)

/-- Of a text that does not start in the class, only an end in the class is taken off. -/
theorem exists_trimBy_append (hhead : ∀ c, text.head? = some c → p c = false) :
    ∃ dropped, text = trimBy p text ++ dropped ∧ ∀ c ∈ dropped, p c = true := by
  refine ⟨text.rtakeWhile p, ?_, fun c hc => List.mem_rtakeWhile_imp hc⟩
  rw [trimBy, dropWhile_of_head? hhead]
  exact List.rdropWhile_append_rtakeWhile.symm

/-! ### Texts that end in a class -/

section Ends

variable {front back kept dropped : List Char}

/-- What does not end in the class is empty if an end in the class follows right behind. -/
theorem eq_nil_of_append_eq (h : front ++ back = kept ++ dropped) (hne : dropped ≠ [])
    (hdropped : ∀ c ∈ dropped, p c = true) (hback : ∀ c, back.getLast? = some c → p c = false) :
    back = [] := by
  by_contra hback_ne
  -- otherwise both ends would be one character
  have hlast := congrArg List.getLast? h
  rw [List.getLast?_append, List.getLast?_append, List.getLast?_eq_some_getLast hback_ne,
    List.getLast?_eq_some_getLast hne, Option.some_or, Option.some_or, Option.some.injEq] at hlast
  have hnot := hback _ (List.getLast?_eq_some_getLast hback_ne)
  rw [hlast, hdropped _ (List.getLast_mem hne)] at hnot
  contradiction

/-- An end in the class does not reach into what does not end in the class. -/
theorem exists_append_of_append_eq (h : front ++ back = kept ++ dropped)
    (hdropped : ∀ c ∈ dropped, p c = true) (hfront : ∀ c, front.getLast? = some c → p c = false) :
    ∃ rest, kept = front ++ rest ∧ back = rest ++ dropped := by
  rcases List.append_eq_append_iff.mp h with ⟨rest, hkept, hback⟩ | ⟨reach, hreach, hback⟩
  · exact ⟨rest, hkept, hback⟩
  · rcases List.eq_nil_or_concat reach with rfl | ⟨init, c, rfl⟩
    · refine ⟨[], ?_, ?_⟩
      · rw [hreach, List.append_nil, List.append_nil]
      · rw [hback, List.nil_append, List.nil_append]
    · -- what reaches into the front ends where the front does
      have hnot := hfront c (by rw [hreach, List.concat_eq_append, ← List.append_assoc]; simp)
      rw [hdropped c (by rw [hback]; simp)] at hnot
      contradiction

end Ends

/-! ### Collapsed texts -/

/-- Whether every run of a class in a text is one separator. -/
def HasSingleRuns (p : Char → Bool) (separator : Char) (text : List Char) : Prop :=
  (∀ c ∈ text, p c = true → c = separator) ∧
    text.IsChain fun a b => p a = true → p b = false

theorem HasSingleRuns.of_isInfix {separator : Char} {part : List Char}
    (h : HasSingleRuns p separator text) (hpart : part <:+: text) :
    HasSingleRuns p separator part :=
  ⟨fun c hc => h.1 c (hpart.mem hc), List.IsChain.infix h.2 hpart⟩

theorem hasSingleRuns_replaceRunsFrom (p : Char → Bool) (separator : Char) (text : List Char)
    (within : Bool) :
    HasSingleRuns p separator (replaceRunsFrom p separator within text) ∧
      (within = true → ∀ c, (replaceRunsFrom p separator within text).head? = some c →
        p c = false) := by
  induction text generalizing within with
  | nil => simp [replaceRunsFrom, HasSingleRuns]
  | cons c rest ih =>
    cases hc : p c with
    | true =>
      cases within with
      | true => simpa [replaceRunsFrom, hc] using ih true
      | false =>
        obtain ⟨⟨hsep, hchain⟩, hhead⟩ := ih true
        refine ⟨⟨?_, ?_⟩, by simp⟩
        · simpa [replaceRunsFrom, hc] using hsep
        · simp only [replaceRunsFrom, hc, if_true]
          exact List.isChain_cons.mpr ⟨fun d hd _ => hhead rfl d hd, hchain⟩
    | false =>
      obtain ⟨⟨hsep, hchain⟩, -⟩ := ih false
      refine ⟨⟨?_, ?_⟩, ?_⟩
      · simpa [replaceRunsFrom, hc] using hsep
      · simp only [replaceRunsFrom, hc, Bool.false_eq_true, if_false]
        exact List.isChain_cons.mpr ⟨by simp [hc], hchain⟩
      · simp [replaceRunsFrom, hc]

theorem hasSingleRuns_replaceRuns (p : Char → Bool) (separator : Char) (text : List Char) :
    HasSingleRuns p separator (replaceRuns p separator text) :=
  (hasSingleRuns_replaceRunsFrom p separator text false).1

theorem replaceRunsFrom_eq_self {separator : Char} (h : HasSingleRuns p separator text)
    (within : Bool) (hhead : within = true → ∀ c, text.head? = some c → p c = false) :
    replaceRunsFrom p separator within text = text := by
  induction text generalizing within with
  | nil => rfl
  | cons c rest ih =>
    have hrest : HasSingleRuns p separator rest := h.of_isInfix (List.suffix_cons c rest).isInfix
    have hnext := (List.isChain_cons.mp h.2).1
    cases hc : p c with
    | true =>
      obtain rfl : c = separator := h.1 c List.mem_cons_self hc
      cases within with
      | true => simp [hhead rfl c rfl] at hc
      | false => simp [replaceRunsFrom, hc, ih hrest true fun _ d hd => hnext d hd hc]
    | false => simp [replaceRunsFrom, hc, ih hrest false]

/-- A text whose runs are single separators already is left alone. -/
theorem replaceRuns_eq_self {separator : Char} (h : HasSingleRuns p separator text) :
    replaceRuns p separator text = text :=
  replaceRunsFrom_eq_self h false (by simp)

theorem toList_collapse (text : String) :
    (collapse text).toList = trimBy isBlank (replaceRuns isBlank ' ' text.toList) :=
  String.toList_ofList

/-- A line of text is left alone. -/
theorem collapse_eq_self {text : String} (h : HasSingleRuns isBlank ' ' text.toList)
    (htrim : trimBy isBlank text.toList = text.toList) : collapse text = text := by
  rw [collapse, replaceRuns_eq_self h, htrim, String.ofList_toList]

theorem collapse_of_no_blank {text : String} (h : ∀ c ∈ text.toList, isBlank c = false) :
    collapse text = text := by
  refine collapse_eq_self ⟨fun c hc hblank => ?_, ?_⟩
    (trimBy_eq_self (fun c hc => ?_) fun c hc => ?_)
  · rw [h c hc] at hblank
    contradiction
  · have hall : text.toList.Pairwise fun a b => isBlank a = true → isBlank b = false :=
      List.pairwise_of_forall_mem_list fun _ _ b hb _ => h b hb
    exact hall.isChain
  · exact h c (List.mem_of_mem_head? hc)
  · exact h c (List.mem_of_getLast? hc)

theorem collapse_collapse (text : String) : collapse (collapse text) = collapse text := by
  refine collapse_eq_self ?_ ?_
  · rw [toList_collapse]
    exact (hasSingleRuns_replaceRuns isBlank ' ' text.toList).of_isInfix (isInfix_trimBy _ _)
  · rw [toList_collapse, trimBy_trimBy]

/-- Nothing but separators is left of a text that is one run of the class. -/
theorem replaceRunsFrom_of_forall {separator : Char} (h : ∀ c ∈ text, p c = true) (within : Bool) :
    ∀ c ∈ replaceRunsFrom p separator within text, c = separator := by
  induction text generalizing within with
  | nil => simp [replaceRunsFrom]
  | cons c rest ih =>
    rw [List.forall_mem_cons] at h
    have hrest := ih h.2 true
    cases within <;> simpa [replaceRunsFrom, h.1] using hrest

/-- Nothing is left of a blank text on one line. -/
theorem collapse_of_isBlankText {text : String} (h : isBlankText text = true) :
    collapse text = "" := by
  have hspaces : ∀ c ∈ replaceRuns isBlank ' ' text.toList, isBlank c = true := by
    intro c hc
    rw [replaceRunsFrom_of_forall (List.all_eq_true.mp h) false c hc]
    decide
  rw [collapse, trimBy, List.dropWhile_eq_nil_iff.mpr hspaces]
  rfl

end ContentEngine
