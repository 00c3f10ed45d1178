import Mathlib.Data.List.DropRight
import ContentEngine.Key
import ContentEngine.Proofs.Text.Blank

/-!
# Words

A word is a stretch of small letters and digits, and every text can be read word by word
(`word_induction`). `wordsOf` lists the words of a text. Joining them is what `joinWords` does
(`joinWords_eq_intercalate`), and what has been joined is read as the same words
(`wordsOf_intercalate`), so that texts that are joined from different words differ.
-/

namespace ContentEngine

/-- A word: letters `a` to `z` and digits, at least one of them. -/
def IsWord (word : List Char) : Prop :=
  word ≠ [] ∧ ∀ c ∈ word, isWordChar c = true

/-- The words of a text, in order: its longest stretches of letters `a` to `z` and digits. -/
def wordsOf (text : List Char) : List (List Char) :=
  (text.splitOnP fun c => !isWordChar c).filter (· ≠ [])

/-- Whether a text is made of words that single separators join. The empty text is made of none. -/
def IsWorded (separator : Char) (text : List Char) : Prop :=
  ∃ words : List (List Char), (∀ w ∈ words, IsWord w) ∧ text = [separator].intercalate words

variable {separator c : Char} {text word : List Char} {words : List (List Char)}

theorem IsWord.eq_false_of_mem (h : IsWord word) (hc : c ∈ word) : (!isWordChar c) = false := by
  rw [h.2 c hc, Bool.not_true]

/-! ### The words of a text -/

@[simp] theorem wordsOf_nil : wordsOf [] = [] := rfl

theorem wordsOf_cons_of_not (hc : isWordChar c = false) (text : List Char) :
    wordsOf (c :: text) = wordsOf text := by
  have hsplit := List.splitOnP_append_cons (p := fun c => !isWordChar c) [] text
    (show (!isWordChar c) = true by rw [hc, Bool.not_false])
  rw [List.nil_append] at hsplit
  rw [wordsOf, hsplit]
  simp [wordsOf]

theorem IsWord.wordsOf_eq (h : IsWord word) : wordsOf word = [word] := by
  rw [wordsOf, List.splitOnP_eq_singleton fun c hc => h.eq_false_of_mem hc]
  simp [h.1]

theorem IsWord.wordsOf_append_cons (h : IsWord word) (hc : isWordChar c = false)
    (text : List Char) : wordsOf (word ++ c :: text) = word :: wordsOf text := by
  rw [wordsOf, List.splitOnP_append_cons_of_forall_mem (fun d hd => h.eq_false_of_mem hd) c
    (by rw [hc, Bool.not_false]), List.filter_cons_of_pos (by simpa using h.1), wordsOf]

/-- Every text can be read word by word: it starts with something that cannot stand in a word, or it
is one word, or a word and such a thing stand in front of another text. -/
theorem word_induction {motive : List Char → Prop} (nil : motive [])
    (skip : ∀ c text, isWordChar c = false → motive text → motive (c :: text))
    (last : ∀ word, IsWord word → motive word)
    (next : ∀ word c text, IsWord word → isWordChar c = false → motive text →
      motive (word ++ c :: text)) (text : List Char) : motive text := by
  induction h : text.length using Nat.strong_induction_on generalizing text with
  | _ n ih =>
    subst h
    have hsplit := List.takeWhile_append_dropWhile (p := isWordChar) (l := text)
    cases hrest : text.dropWhile isWordChar with
    | nil =>
      rw [hrest, List.append_nil] at hsplit
      by_cases hnil : text = []
      · exact hnil ▸ nil
      · refine last text ⟨hnil, fun c hc => ?_⟩
        exact List.mem_takeWhile_imp (hsplit.symm ▸ hc)
    | cons c rest =>
      have hc : isWordChar c = false := by
        have hhead := List.head?_dropWhile_not isWordChar text
        rw [hrest] at hhead
        simpa using hhead
      rw [hrest] at hsplit
      have hshorter : rest.length < text.length := by
        rw [← hsplit, List.length_append, List.length_cons]
        omega
      rw [← hsplit]
      by_cases hword : text.takeWhile isWordChar = []
      · rw [hword]
        exact skip c rest hc (ih _ hshorter rest rfl)
      · exact next _ c rest ⟨hword, fun d hd => List.mem_takeWhile_imp hd⟩ hc
          (ih _ hshorter rest rfl)

theorem isWord_of_mem_wordsOf (h : word ∈ wordsOf text) : IsWord word := by
  induction text using word_induction with
  | nil => simp at h
  | skip c text hc ih => exact ih (wordsOf_cons_of_not hc text ▸ h)
  | last first hfirst =>
    rw [hfirst.wordsOf_eq, List.mem_singleton] at h
    exact h ▸ hfirst
  | next first c text hfirst hc ih =>
    rw [hfirst.wordsOf_append_cons hc, List.mem_cons] at h
    rcases h with rfl | h
    · exact hfirst
    · exact ih h

/-! ### Words that are joined -/

/-- Words that have been joined are the words of the text. -/
theorem wordsOf_intercalate (hseparator : isWordChar separator = false)
    (h : ∀ w ∈ words, IsWord w) : wordsOf ([separator].intercalate words) = words := by
  induction words with
  | nil => rw [List.intercalate_nil, wordsOf_nil]
  | cons word rest ih =>
    rw [List.forall_mem_cons] at h
    cases rest with
    | nil => rw [List.intercalate_singleton, h.1.wordsOf_eq]
    | cons w rest =>
      rw [List.intercalate_cons_cons, List.append_assoc, List.singleton_append,
        h.1.wordsOf_append_cons hseparator, ih h.2]

/-- What does not end in a class is kept in front of a text whose end in the class is taken off. -/
theorem rdropWhile_append {p : Char → Bool} {front : List Char}
    (hfront : ∀ hne : front ≠ [], p (front.getLast hne) = false) (back : List Char) :
    (front ++ back).rdropWhile p = front ++ back.rdropWhile p := by
  induction back using List.reverseRecOn with
  | nil =>
    rw [List.append_nil, List.rdropWhile_nil, List.append_nil]
    exact List.rdropWhile_eq_self_iff.mpr fun hne => by rw [hfront hne]; exact Bool.false_ne_true
  | append_singleton back c ih =>
    rw [← List.append_assoc, List.rdropWhile_concat, List.rdropWhile_concat, ih]
    split
    · rfl
    · rw [List.append_assoc]

theorem rdropWhile_cons_of_ne_nil {p : Char → Bool} (h : text.rdropWhile p ≠ []) (c : Char) :
    (c :: text).rdropWhile p = c :: text.rdropWhile p := by
  have hreverse : text.reverse.dropWhile p ≠ [] := fun hnil =>
    h (by rw [List.rdropWhile, hnil]; rfl)
  simp [List.rdropWhile, List.dropWhile_append, hreverse]

/-- Nothing of a word is replaced. -/
theorem IsWord.replaceRunsFrom_append (h : IsWord word) (separator : Char) (within : Bool)
    (text : List Char) :
    replaceRunsFrom (fun c => !isWordChar c) separator within (word ++ text) =
      word ++ replaceRunsFrom (fun c => !isWordChar c) separator false text := by
  obtain ⟨hne, hchars⟩ := h
  induction word generalizing within with
  | nil => contradiction
  | cons c rest ih =>
    rw [List.forall_mem_cons] at hchars
    rw [List.cons_append, replaceRunsFrom, hchars.1, Bool.not_true, if_neg Bool.false_ne_true]
    cases rest with
    | nil => rfl
    | cons d rest => rw [ih false (List.cons_ne_nil d rest) hchars.2]; rfl

section JoinWords

variable (hseparator : isWordChar separator = false)
include hseparator

theorem IsWord.getLast_beq (h : IsWord word) (hne : word ≠ []) :
    (word.getLast hne == separator) = false := by
  refine beq_false_of_ne fun heq => ?_
  have hlast := h.2 _ (List.getLast_mem hne)
  rw [heq, hseparator] at hlast
  contradiction

/-- A text of which each run between words has become a separator, but for the one that it starts
with, is its words joined, and perhaps a separator. -/
theorem rdropWhile_replaceRunsFrom (text : List Char) :
    (replaceRunsFrom (fun c => !isWordChar c) separator true text).rdropWhile (· == separator) =
      [separator].intercalate (wordsOf text) := by
  induction text using word_induction with
  | nil => rfl
  | skip c text hc ih =>
    rw [wordsOf_cons_of_not hc, replaceRunsFrom, hc]
    exact ih
  | last word hword =>
    have hkept := hword.replaceRunsFrom_append separator true []
    rw [List.append_nil, replaceRunsFrom, List.append_nil] at hkept
    rw [hkept, hword.wordsOf_eq, List.intercalate_singleton]
    exact List.rdropWhile_eq_self_iff.mpr fun hne => by simp [hword.getLast_beq hseparator hne]
  | next word c text hword hc ih =>
    rw [hword.replaceRunsFrom_append, hword.wordsOf_append_cons hc, replaceRunsFrom, hc,
      rdropWhile_append (p := (· == separator)) (hword.getLast_beq hseparator)]
    change word ++ List.rdropWhile _ (separator :: _) = _
    by_cases hwords : wordsOf text = []
    · -- only separators are left behind the word
      rw [hwords, List.intercalate_nil, List.rdropWhile_eq_nil_iff] at ih
      rw [hwords, List.intercalate_singleton, List.rdropWhile_eq_nil_iff.mpr, List.append_nil]
      exact List.forall_mem_cons.mpr ⟨beq_self_eq_true separator, ih⟩
    · have hne : [separator].intercalate (wordsOf text) ≠ [] := by
        intro hnil
        have hread := wordsOf_intercalate hseparator fun w (hw : w ∈ wordsOf text) =>
          isWord_of_mem_wordsOf hw
        rw [hnil, wordsOf_nil] at hread
        exact hwords hread.symm
      rw [rdropWhile_cons_of_ne_nil (ih ▸ hne), ih, List.intercalate_cons_of_ne_nil hwords,
        List.append_assoc, List.singleton_append]

/-- The separator that a text starts with is taken off. -/
theorem dropWhile_replaceRuns (text : List Char) :
    (replaceRuns (fun c => !isWordChar c) separator text).dropWhile (· == separator) =
      replaceRunsFrom (fun c => !isWordChar c) separator true text := by
  have hhead : ∀ c, (replaceRunsFrom (fun c => !isWordChar c) separator true text).head? = some c →
      (c == separator) = false := by
    intro c hc
    have hword := (hasSingleRuns_replaceRunsFrom _ separator text true).2 rfl c hc
    refine beq_false_of_ne ?_
    rintro rfl
    simp [hseparator] at hword
  have hkept := dropWhile_of_head? hhead
  cases text with
  | nil => rfl
  | cons c rest =>
    rw [replaceRuns]
    cases hc : isWordChar c with
    | true =>
      have hsame : replaceRunsFrom (fun c => !isWordChar c) separator false (c :: rest) =
          replaceRunsFrom (fun c => !isWordChar c) separator true (c :: rest) := by
        simp [replaceRunsFrom, hc]
      rw [hsame, hkept]
    | false =>
      have hrun : replaceRunsFrom (fun c => !isWordChar c) separator false (c :: rest) =
          separator :: replaceRunsFrom (fun c => !isWordChar c) separator true (c :: rest) := by
        simp [replaceRunsFrom, hc]
      rw [hrun, List.dropWhile_cons, if_pos (beq_self_eq_true separator), hkept]

/-- The words of a text are joined. -/
theorem joinWords_eq_intercalate (text : List Char) :
    joinWords separator text = [separator].intercalate (wordsOf text) := by
  rw [joinWords, trimBy, dropWhile_replaceRuns hseparator]
  exact rdropWhile_replaceRunsFrom hseparator text

/-- A text is made of words exactly if joining its words gives the text. -/
theorem isWorded_iff : IsWorded separator text ↔ joinWords separator text = text := by
  rw [joinWords_eq_intercalate hseparator]
  constructor
  · rintro ⟨words, hwords, rfl⟩
    rw [wordsOf_intercalate hseparator hwords]
  · exact fun h => ⟨wordsOf text, fun _ hw => isWord_of_mem_wordsOf hw, h.symm⟩

end JoinWords

end ContentEngine
