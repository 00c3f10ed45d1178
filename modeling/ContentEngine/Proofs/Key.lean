import Mathlib.Data.Set.Operations
import ContentEngine.Key
import ContentEngine.Proofs.Key.Words
import ContentEngine.Proofs.Text.Case

/-!
# Keys, slugs and aliases

Keys and slugs are spelled by joining the words of a text in lower case. So they are made of words
that single separators join, a text like that spells itself, and no other text does
(`SpellsWords`). The alias of a key is its words run together, each behind the first with a capital
(`camelChars_intercalate`), and holds no underscore (`underscore_notMem_camelCase`). A key without
underscores is its own alias. So a key that has an alias of its own is never the alias of a key
(`ne_camelCase_of_hasAlias`); a key without one may well be: `item2` is the alias of `item_2`, since
a digit has no capital form.
-/

namespace ContentEngine

/-- Whether a text is a key that some text spells. -/
def IsKey (key : String) : Prop :=
  ∃ text, key = snakeCase text

/-- Whether a key has an alias that differs from it. -/
def hasAlias (key : String) : Bool :=
  camelCase key != key

theorem hasAlias_iff {key : String} : hasAlias key = true ↔ camelCase key ≠ key :=
  bne_iff_ne

/-- A text that is made of words holds nothing but them and the separators. -/
theorem isWordChar_of_mem_joinWords {separator c : Char} {text : List Char}
    (h : c ∈ joinWords separator text) : isWordChar c = true ∨ c = separator := by
  have hmem := (isInfix_trimBy (· == separator) _).mem h
  cases hc : isWordChar c with
  | true => exact .inl rfl
  | false => exact .inr ((hasSingleRuns_replaceRuns _ separator _).1 c hmem (by rw [hc]; rfl))

/-- The characters of a key are no capital letters, no blanks and no separators but underscores. -/
theorem keyChar_spec {c : Char} (h : isWordChar c = true ∨ c = '_') :
    isBlank c = false ∧ isAsciiUpper c = false ∧ lowerChar c = [c] ∧ c ≠ '\u03a3' := by
  have hchars : ∀ n < 128, isWordChar (Char.ofNat n) = true ∨ Char.ofNat n = '_' →
      isBlank (Char.ofNat n) = false ∧ isAsciiUpper (Char.ofNat n) = false ∧
        lowerChar (Char.ofNat n) = [Char.ofNat n] ∧ Char.ofNat n ≠ '\u03a3' := by
    decide +kernel
  have hascii : c.toNat < 128 := by
    rcases h with h | rfl
    · rw [isWordChar, Bool.or_eq_true] at h
      exact toNat_lt_of_isAscii (.inr h)
    · decide
  exact ascii_induction (P := fun c => isWordChar c = true ∨ c = '_' →
    isBlank c = false ∧ isAsciiUpper c = false ∧ lowerChar c = [c] ∧ c ≠ '\u03a3') hchars hascii h

/-- The front of a text stays as it is if no capitals are in it. -/
theorem breakCapitals_append {front : List Char} (h : ∀ c ∈ front, isAsciiUpper c = false)
    (previous : Char) (text : List Char) :
    breakCapitals previous (front ++ text) =
      front ++ breakCapitals (front.getLastD previous) text := by
  induction front generalizing previous with
  | nil => rfl
  | cons c front ih =>
    rw [List.forall_mem_cons] at h
    rw [List.cons_append, breakCapitals, h.1, Bool.false_and, if_neg Bool.false_ne_true, ih h.2]
    cases front <;> rfl

theorem breakCapitals_eq_self {text : List Char} (h : ∀ c ∈ text, isAsciiUpper c = false)
    (previous : Char) : breakCapitals previous text = text := by
  have happend := breakCapitals_append h previous []
  rwa [List.append_nil, breakCapitals, List.append_nil] at happend

/-! ### What is spelled -/

/-- Whether a character can separate words: it stands in none, is no blank, and stays as it is in
lower case. -/
structure IsWordSeparator (c : Char) : Prop where
  isWordChar_eq : isWordChar c = false
  isBlank_eq : isBlank c = false
  isLower : IsLower [c]

theorem isWordSeparator_underscore : IsWordSeparator '_' :=
  ⟨by decide, by decide, by decide +kernel⟩

theorem isWordSeparator_hyphen : IsWordSeparator '-' :=
  ⟨by decide, by decide, by decide +kernel⟩

section Worded

variable {separator c : Char} {text : List Char} (hseparator : IsWordSeparator separator)
include hseparator

theorem IsWorded.isWordChar_of_mem (h : IsWorded separator text) (hc : c ∈ text) :
    isWordChar c = true ∨ c = separator := by
  rw [← (isWorded_iff hseparator.isWordChar_eq).mp h] at hc
  exact isWordChar_of_mem_joinWords hc

/-- A text that is made of words has no blanks at its ends. -/
theorem IsWorded.trimBy_eq (h : IsWorded separator text) : trimBy isBlank text = text := by
  have hchars (c : Char) (hc : c ∈ text) : isBlank c = false := by
    rcases h.isWordChar_of_mem hseparator hc with hword | rfl
    · exact (keyChar_spec (.inl hword)).1
    · exact hseparator.isBlank_eq
  exact trimBy_eq_self (fun c hc => hchars c (List.mem_of_mem_head? hc))
    fun c hc => hchars c (List.mem_of_getLast? hc)

/-- A text that is made of words is in lower case. -/
theorem IsWorded.lower_eq (h : IsWorded separator text) : lower text = text := by
  refine IsLower.lower_eq fun c hc => ?_
  rcases h.isWordChar_of_mem hseparator hc with hword | rfl
  · exact (keyChar_spec (.inl hword)).2.2
  · exact hseparator.isLower c (List.mem_singleton_self c)

end Worded

/-- What it takes to spell words, joined by a separator, of texts that have been prepared: the
outcome is the words of the prepared text, the texts that are made of words are those that spell
themselves, and they are all that is ever spelled. -/
structure SpellsWords (separator : Char) (prepare : List Char → List Char)
    (spell : String → String) : Prop where
  toList_eq : ∀ text,
    (spell text).toList = [separator].intercalate (wordsOf (prepare text.toList))
  isWorded : ∀ text, IsWorded separator (spell text).toList
  eq_self_iff : ∀ text, spell text = text ↔ IsWorded separator text.toList
  idempotent : ∀ text, spell (spell text) = spell text
  range_eq : Set.range spell = {text | IsWorded separator text.toList}

/-- Joining the words of prepared texts spells words, if preparing leaves those texts alone that are
made of words already. -/
theorem SpellsWords.of_prepare {separator : Char} (hseparator : IsWordSeparator separator)
    {prepare : List Char → List Char} {spell : String → String}
    (hspell : ∀ text, spell text = String.ofList (joinWords separator (prepare text.toList)))
    (hprepare : ∀ text, IsWorded separator text → prepare text = text) :
    SpellsWords separator prepare spell := by
  have htoList (text : String) :
      (spell text).toList = [separator].intercalate (wordsOf (prepare text.toList)) := by
    rw [hspell, String.toList_ofList, joinWords_eq_intercalate hseparator.isWordChar_eq]
  have hworded (text : String) : IsWorded separator (spell text).toList :=
    ⟨_, fun _ hw => isWord_of_mem_wordsOf hw, htoList text⟩
  have hself (text : String) : spell text = text ↔ IsWorded separator text.toList := by
    refine ⟨fun h => h ▸ hworded text, fun h => ?_⟩
    rw [hspell, hprepare _ h, (isWorded_iff hseparator.isWordChar_eq).mp h, String.ofList_toList]
  refine ⟨htoList, hworded, hself, fun text => (hself _).mpr (hworded text), ?_⟩
  ext text
  exact ⟨fun ⟨given, hgiven⟩ => hgiven ▸ hworded given, fun h => ⟨text, (hself text).mpr h⟩⟩

theorem spellsWords_slugOf {separator : Char} (hseparator : IsWordSeparator separator) :
    SpellsWords separator (fun text => lower (trimBy isBlank text)) (slugOf separator) := by
  refine .of_prepare hseparator (fun text => rfl) fun text h => ?_
  rw [h.trimBy_eq hseparator, h.lower_eq hseparator]

theorem spellsWords_snakeCase :
    SpellsWords '_' (fun text => lower (breakCapitals ' ' (trimBy isBlank text))) snakeCase := by
  have hseparator := isWordSeparator_underscore
  refine .of_prepare hseparator (fun text => rfl) fun text h => ?_
  have hcapitals : breakCapitals ' ' text = text := breakCapitals_eq_self
    (fun _ hc => (keyChar_spec (h.isWordChar_of_mem hseparator hc)).2.1) ' '
  rw [h.trimBy_eq hseparator, hcapitals, h.lower_eq hseparator]

/-- Slugs and keys are what their grammars say. The slug of an entry or a view, the slug of a
content type and a key are made of words, which the one or the other separator joins. What is made
of words already is left alone, and nothing else is; so each spells itself, and each text of the
grammar is spelled. -/
theorem slugs_and_keys_spelled :
    SpellsWords '-' (fun text => lower (trimBy isBlank text)) slugify ∧
      SpellsWords '_' (fun text => lower (trimBy isBlank text)) typeSlug ∧
      SpellsWords '_' (fun text => lower (breakCapitals ' ' (trimBy isBlank text))) snakeCase :=
  ⟨spellsWords_slugOf isWordSeparator_hyphen, spellsWords_slugOf isWordSeparator_underscore,
    spellsWords_snakeCase⟩

/-- A letter may be longer in lower case, or be a letter of ASCII there. -/
example : slugify "\u212a\u0130" = "ki" ∧ snakeCase "\u0130\u212a" = "i_k" := by decide +kernel

theorem slugify_slugify (text : String) : slugify (slugify text) = slugify text :=
  (spellsWords_slugOf isWordSeparator_hyphen).idempotent text

theorem typeSlug_typeSlug (text : String) : typeSlug (typeSlug text) = typeSlug text :=
  (spellsWords_slugOf isWordSeparator_underscore).idempotent text

theorem trim_typeSlug (text : String) : trim (typeSlug text) = typeSlug text := by
  have hslug : IsWorded '_' (typeSlug text).toList :=
    (spellsWords_slugOf isWordSeparator_underscore).isWorded text
  rw [trim, hslug.trimBy_eq isWordSeparator_underscore, String.ofList_toList]

/-! ### Keys -/

/-- A key is made of words that single underscores join. -/
theorem IsKey.isWorded {key : String} (h : IsKey key) : IsWorded '_' key.toList := by
  obtain ⟨text, rfl⟩ := h
  exact spellsWords_snakeCase.isWorded text

/-- Keys of the same words are the same. -/
theorem IsKey.eq_of_wordsOf_eq {key other : String} (h : IsKey key) (hother : IsKey other)
    (heq : wordsOf key.toList = wordsOf other.toList) : key = other := by
  have hseparator := isWordSeparator_underscore.isWordChar_eq
  rw [← String.toList_inj, ← (isWorded_iff hseparator).mp h.isWorded,
    ← (isWorded_iff hseparator).mp hother.isWorded, joinWords_eq_intercalate hseparator, heq,
    joinWords_eq_intercalate hseparator]

/-- A key spells itself. -/
theorem IsKey.snakeCase_eq {key : String} (h : IsKey key) : snakeCase key = key :=
  (spellsWords_snakeCase.eq_self_iff key).mpr h.isWorded

/-- A key has no blanks at its ends. -/
theorem IsKey.trim_eq {key : String} (h : IsKey key) : trim key = key := by
  rw [trim, h.isWorded.trimBy_eq isWordSeparator_underscore, String.ofList_toList]

/-! ### Aliases -/

/-- A word as it stands in an alias behind another one. -/
def capitalized : List Char → List Char
  | [] => []
  | c :: rest => upperChar c ++ rest

/-- Whether a character stands in an alias for the first character of a word: a capital letter for a
letter, and a digit for itself. -/
def IsInitialOf (d c : Char) : Prop :=
  isAsciiUpper d = isAsciiLower c ∧ isWordChar d = !isAsciiLower c ∧ lowerChar d = [c] ∧
    isBlank d = false ∧ d ≠ '_' ∧ d ≠ '\u03a3'

instance (d c : Char) : Decidable (IsInitialOf d c) :=
  inferInstanceAs (Decidable (_ ∧ _))

theorem exists_upperChar_eq {c : Char} (h : isWordChar c = true) :
    ∃ d, upperChar c = [d] ∧ IsInitialOf d c := by
  have hchars : ∀ n < 128, isWordChar (Char.ofNat n) = true →
      upperChar (Char.ofNat n) = [(upperChar (Char.ofNat n)).headD ' '] ∧
        IsInitialOf ((upperChar (Char.ofNat n)).headD ' ') (Char.ofNat n) := by
    decide +kernel
  have hascii : c.toNat < 128 := by
    rw [isWordChar, Bool.or_eq_true] at h
    exact toNat_lt_of_isAscii (.inr h)
  exact ⟨_, ascii_induction (P := fun c => isWordChar c = true →
    upperChar c = [(upperChar c).headD ' '] ∧ IsInitialOf ((upperChar c).headD ' ') c) hchars
    hascii h⟩

theorem camelChars_cons_of_ne {c : Char} (h : c ≠ '_') (text : List Char) :
    camelChars (c :: text) = c :: camelChars text := by
  rw [camelChars]
  exact fun _ _ hc => absurd hc h

/-- Nothing of a text without underscores is dropped. -/
theorem camelChars_append {front : List Char} (h : '_' ∉ front) (text : List Char) :
    camelChars (front ++ text) = front ++ camelChars text := by
  induction front with
  | nil => rfl
  | cons c rest ih =>
    rw [List.mem_cons, not_or] at h
    rw [List.cons_append, camelChars_cons_of_ne (Ne.symm h.1), ih h.2, List.cons_append]

theorem camelChars_of_underscore_notMem {text : List Char} (h : '_' ∉ text) :
    camelChars text = text := by
  have happend := camelChars_append h []
  rwa [List.append_nil, camelChars, List.append_nil] at happend

theorem underscore_notMem_of_isWordChar {text : List Char} (h : ∀ c ∈ text, isWordChar c = true) :
    '_' ∉ text :=
  fun hmem => Bool.false_ne_true (isWordSeparator_underscore.isWordChar_eq.symm.trans (h '_' hmem))

/-- In an alias the words of a key stand behind each other, all but the first with a capital. -/
theorem camelChars_intercalate {first : List Char} {rest : List (List Char)} (hfirst : '_' ∉ first)
    (hrest : ∀ w ∈ rest, IsWord w) :
    camelChars (['_'].intercalate (first :: rest)) = first ++ rest.flatMap capitalized := by
  induction rest generalizing first with
  | nil =>
    rw [List.intercalate_singleton, camelChars_of_underscore_notMem hfirst, List.flatMap_nil,
      List.append_nil]
  | cons word rest ih =>
    rw [List.forall_mem_cons] at hrest
    obtain ⟨hword, hrest⟩ := hrest
    cases word with
    | nil => exact absurd rfl hword.1
    | cons c word =>
      have hnot := underscore_notMem_of_isWordChar (List.forall_mem_cons.mp hword.2).2
      have hsplit :
          ['_'].intercalate ((c :: word) :: rest) = c :: ['_'].intercalate (word :: rest) := by
        cases rest <;> rfl
      rw [List.intercalate_cons_cons, List.append_assoc, List.singleton_append,
        camelChars_append hfirst, hsplit, camelChars, if_pos (hword.2 c List.mem_cons_self),
        ih hnot hrest, List.flatMap_cons, capitalized, List.append_assoc]

/-- The alias of a key is its words behind each other, all but the first with a capital. -/
theorem IsKey.exists_camelCase_eq {key : String} (h : IsKey key) (hne : key ≠ "") :
    ∃ first rest, (∀ w ∈ first :: rest, IsWord w) ∧
      key.toList = ['_'].intercalate (first :: rest) ∧
      (camelCase key).toList = first ++ rest.flatMap capitalized := by
  obtain ⟨words, hwords, htext⟩ := h.isWorded
  cases words with
  | nil => exact absurd (String.toList_inj.mp htext) hne
  | cons first rest =>
    refine ⟨first, rest, hwords, htext, ?_⟩
    rw [List.forall_mem_cons] at hwords
    rw [camelCase, String.toList_ofList, htext,
      camelChars_intercalate (underscore_notMem_of_isWordChar hwords.1.2) hwords.2]

theorem underscore_notMem_capitalized {word : List Char} (h : IsWord word) :
    '_' ∉ capitalized word := by
  obtain ⟨hne, hchars⟩ := h
  cases word with
  | nil => exact absurd rfl hne
  | cons c rest =>
    rw [List.forall_mem_cons] at hchars
    obtain ⟨d, hd, -, -, -, -, hne, -⟩ := exists_upperChar_eq hchars.1
    rw [capitalized, hd, List.singleton_append, List.mem_cons, not_or]
    exact ⟨hne.symm, underscore_notMem_of_isWordChar hchars.2⟩

/-- The alias of a key holds no underscore. -/
theorem underscore_notMem_camelCase {key : String} (h : IsKey key) :
    '_' ∉ (camelCase key).toList := by
  by_cases hne : key = ""
  · subst hne
    decide
  · obtain ⟨first, rest, hwords, -, htext⟩ := h.exists_camelCase_eq hne
    rw [List.forall_mem_cons] at hwords
    rw [htext, List.mem_append, List.mem_flatMap, not_or]
    refine ⟨underscore_notMem_of_isWordChar hwords.1.2, ?_⟩
    rintro ⟨word, hword, hmem⟩
    exact underscore_notMem_capitalized (hwords.2 word hword) hmem

/-- A key without underscores is its own alias. -/
theorem underscore_mem_of_hasAlias {key : String} (h : hasAlias key = true) :
    '_' ∈ key.toList := by
  by_contra hnot
  refine hasAlias_iff.mp h ?_
  rw [camelCase, camelChars_of_underscore_notMem hnot, String.ofList_toList]

/-- A key that has an alias is not itself the alias of a key. -/
theorem ne_camelCase_of_hasAlias {key other : String} (h : hasAlias key = true)
    (hother : IsKey other) : key ≠ camelCase other := by
  intro heq
  refine underscore_notMem_camelCase hother ?_
  rw [← heq]
  exact underscore_mem_of_hasAlias h

/-- An alias has no alias of its own. -/
theorem hasAlias_camelCase {key : String} (h : IsKey key) : hasAlias (camelCase key) = false := by
  by_contra htrue
  exact ne_camelCase_of_hasAlias (by simpa using htrue) h rfl

/-- Whether a key is the alias of another one of some keys. -/
def HasRival (keys : List String) (key : String) : Prop :=
  ∃ other ∈ keys, other ≠ key ∧ camelCase other = key

instance (keys : List String) (key : String) : Decidable (HasRival keys key) :=
  inferInstanceAs (Decidable (∃ other ∈ keys, other ≠ key ∧ camelCase other = key))

/-- Digits have no capital form, so that the alias of a key may be a key itself. -/
example : HasRival ["item_2", "item2"] "item2" := by decide

end ContentEngine
