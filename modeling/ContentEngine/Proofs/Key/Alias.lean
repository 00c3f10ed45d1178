import Mathlib
import ContentEngine.Memory.Stores
import ContentEngine.Proofs.Action
import ContentEngine.Proofs.Field.Settings
import ContentEngine.Proofs.Layout.Section
import ContentEngine.Repeater.Basic
import ContentEngine.Service.Entries

/-!
# What an alias spells

An alias marks where a word of its key starts by a capital, and a capital is read as the start of a
word if no capital precedes it. So words that start with a digit, and words behind a single letter,
run into what precedes them: an alias spells the words of its key with some of them merged
(`IsKey.exists_wordsOf_eq`), and leads back to the key exactly if none are
(`IsKey.snakeCase_camelCase_eq_iff`). The words of `plan_b_cost` cannot be told apart in
`planBCost`, which spells `plan_bcost`.

Rows take the value of a field under its alias, whatever the alias spells. Rules, layouts and
options take a name for the key that it spells, so they find a field under its alias exactly if the
alias leads back to the key (`alias_leads_back_iff`).
-/

namespace ContentEngine

/-- Whether a word starts with a letter. -/
def startsWithLetter (word : List Char) : Bool :=
  word.head?.any isAsciiLower

/-- Whether a word is a single letter, which is a lone capital in an alias. -/
def isLoneLetter (word : List Char) : Bool :=
  word.length == 1 && startsWithLetter word

/-- The words that an alias spells, of which the first starts with some characters and the others
are what is made of some words: a word is told from what precedes it by its capital, unless it has
none, or another capital precedes it. -/
def mergeWords (front : List Char) (behindCapital : Bool) : List (List Char) → List (List Char)
  | [] => [front]
  | word :: rest =>
    if behindCapital || !startsWithLetter word then
      mergeWords (front ++ word) (isLoneLetter word) rest
    else front :: mergeWords word (isLoneLetter word) rest

/-- Whether the words of a key can be told apart in its alias: each one behind an underscore starts
with a letter, and none between two underscores is a single letter. -/
def HasReadableAlias (key : String) : Prop :=
  (∀ w ∈ (wordsOf key.toList).tail, startsWithLetter w = true) ∧
    ∀ w ∈ (wordsOf key.toList).tail.dropLast, w.length ≠ 1

instance (key : String) : Decidable (HasReadableAlias key) :=
  inferInstanceAs (Decidable (_ ∧ _))

variable {front word : List Char} {rest : List (List Char)} {key : String}

/-! ### Words that are merged -/

theorem isWord_of_mem_mergeWords {behindCapital : Bool} (hfront : IsWord front)
    (hrest : ∀ w ∈ rest, IsWord w) (h : word ∈ mergeWords front behindCapital rest) :
    IsWord word := by
  induction rest generalizing front behindCapital with
  | nil =>
    rw [mergeWords, List.mem_singleton] at h
    exact h ▸ hfront
  | cons next rest ih =>
    rw [List.forall_mem_cons] at hrest
    rw [mergeWords] at h
    split at h
    · refine ih ⟨?_, ?_⟩ hrest.2 h
      · exact List.append_ne_nil_of_left_ne_nil hfront.1 next
      · exact List.forall_mem_append.mpr ⟨hfront.2, hrest.1.2⟩
    · rcases List.mem_cons.mp h with rfl | h
      · exact hfront
      · exact ih hrest.1 hrest.2 h

theorem mergeWords_ne_nil (front : List Char) (behindCapital : Bool) (rest : List (List Char)) :
    mergeWords front behindCapital rest ≠ [] := by
  induction rest generalizing front behindCapital with
  | nil => exact List.cons_ne_nil front []
  | cons word rest ih =>
    rw [mergeWords]
    split
    · exact ih _ _
    · exact List.cons_ne_nil _ _

theorem length_mergeWords_le (front : List Char) (behindCapital : Bool) (rest : List (List Char)) :
    (mergeWords front behindCapital rest).length ≤ rest.length + 1 := by
  induction rest generalizing front behindCapital with
  | nil => exact Nat.le_refl 1
  | cons word rest ih =>
    rw [mergeWords]
    split
    · exact Nat.le_succ_of_le (ih _ _)
    · exact Nat.succ_le_succ (ih _ _)

/-- No words are merged exactly if each one has a capital, and no capital right before it. -/
theorem mergeWords_eq_self_iff (front : List Char) (behindCapital : Bool) :
    mergeWords front behindCapital rest = front :: rest ↔
      (rest ≠ [] → behindCapital = false) ∧ (∀ w ∈ rest, startsWithLetter w = true) ∧
        ∀ w ∈ rest.dropLast, isLoneLetter w = false := by
  induction rest generalizing front behindCapital with
  | nil => simp [mergeWords]
  | cons word rest ih =>
    rw [mergeWords]
    split
    · next hmerged =>
      have hle := length_mergeWords_le (front ++ word) (isLoneLetter word) rest
      refine iff_of_false (fun heq => ?_) fun ⟨hfront, hletters, _⟩ => ?_
      · rw [heq, List.length_cons, List.length_cons] at hle
        omega
      · rw [hfront (List.cons_ne_nil word rest), hletters word List.mem_cons_self] at hmerged
        contradiction
    · next hkept =>
      simp only [Bool.or_eq_true, Bool.not_eq_true', not_or, Bool.not_eq_true,
        Bool.not_eq_false] at hkept
      rw [List.cons.injEq, ih, List.forall_mem_cons]
      cases rest with
      | nil => simp [hkept]
      | cons next rest =>
        rw [List.dropLast_cons_of_ne_nil (List.cons_ne_nil next rest), List.forall_mem_cons]
        simp [hkept, and_left_comm]

/-! ### What an alias spells -/

theorem flatMap_lowerChar_eq_self {text : List Char} (h : ∀ c ∈ text, isWordChar c = true) :
    text.flatMap lowerChar = text := by
  have hself : ∀ c ∈ text, lowerChar c = [c] := fun c hc => (keyChar_spec (.inl (h c hc))).2.2.1
  rw [List.flatMap_congr hself, List.flatMap_singleton']

theorem IsWord.isWordChar_getLastD (h : IsWord word) (c : Char) :
    isWordChar (word.getLastD c) = true := by
  obtain ⟨hne, hchars⟩ := h
  cases word with
  | nil => exact absurd rfl hne
  | cons d word => exact hchars _ (List.getLast_mem (List.cons_ne_nil d word))

theorem eq_or_mem_of_mem_breakCapitals {previous c : Char} {text : List Char}
    (h : c ∈ breakCapitals previous text) : c = '_' ∨ c ∈ text := by
  induction text generalizing previous with
  | nil => exact .inr h
  | cons d rest ih =>
    rw [breakCapitals] at h
    split at h
    · simp only [List.mem_cons] at h ⊢
      rcases h with h | h | h
      · exact .inl h
      · exact .inr (.inl h)
      · exact (ih h).imp_right .inr
    · rcases List.mem_cons.mp h with h | h
      · exact .inr (List.mem_cons.mpr (.inl h))
      · exact (ih h).imp_right (List.mem_cons_of_mem d)

/-- A word behind another one in an alias is told from what precedes it if it starts with a capital,
and no capital precedes it. What follows it sees a capital before it if the word is a single letter.
-/
theorem exists_breakCapitals_capitalized (h : IsWord word) (previous : Char) (text : List Char) :
    ∃ last, isWordChar last = !isLoneLetter word ∧
      (breakCapitals previous (capitalized word ++ text)).flatMap lowerChar =
        (if isWordChar previous && startsWithLetter word then '_' :: word else word) ++
          (breakCapitals last text).flatMap lowerChar := by
  obtain ⟨hne, hchars⟩ := h
  cases word with
  | nil => exact absurd rfl hne
  | cons c word =>
    rw [List.forall_mem_cons] at hchars
    obtain ⟨d, hd, hupper, hword, hlower, -⟩ := exists_upperChar_eq hchars.1
    have hcapitals : ∀ c ∈ word, isAsciiUpper c = false := fun c hc =>
      (keyChar_spec (.inl (hchars.2 c hc))).2.1
    refine ⟨word.getLastD d, ?_, ?_⟩
    · cases word with
      | nil => simpa [isLoneLetter, startsWithLetter] using hword
      | cons e word =>
        have hword : IsWord (e :: word) := ⟨List.cons_ne_nil e word, hchars.2⟩
        rw [hword.isWordChar_getLastD]
        rfl
    · rw [capitalized, hd, List.singleton_append, List.cons_append, breakCapitals, hupper,
        breakCapitals_append hcapitals, startsWithLetter, List.head?_cons, Option.any_some,
        Bool.and_comm]
      have hseparator : lowerChar '_' = ['_'] := by decide
      split <;> simp [hseparator, hlower, flatMap_lowerChar_eq_self hchars.2]

/-- What the alias of a key spells: the words of the key, some of them merged. -/
theorem append_breakCapitals_eq (hrest : ∀ w ∈ rest, IsWord w) (front : List Char)
    (previous : Char) :
    front ++ (breakCapitals previous (rest.flatMap capitalized)).flatMap lowerChar =
      ['_'].intercalate (mergeWords front (!isWordChar previous) rest) := by
  induction rest generalizing front previous with
  | nil => simp [mergeWords, breakCapitals]
  | cons word rest ih =>
    rw [List.forall_mem_cons] at hrest
    obtain ⟨last, hlast, htext⟩ :=
      exists_breakCapitals_capitalized hrest.1 previous (rest.flatMap capitalized)
    have hmerged : isLoneLetter word = !isWordChar last := by rw [hlast, Bool.not_not]
    rw [List.flatMap_cons, htext, mergeWords, hmerged, ← List.append_assoc]
    rw [← Bool.not_and]
    cases isWordChar previous && startsWithLetter word with
    | true =>
      rw [if_pos rfl, Bool.not_true, if_neg Bool.false_ne_true,
        List.intercalate_cons_of_ne_nil (mergeWords_ne_nil _ _ _), ← ih hrest.2,
        List.append_assoc, List.append_assoc]
      rfl
    | false => rw [if_neg Bool.false_ne_true, Bool.not_false, if_pos rfl, ih hrest.2]

/-- The characters of an alias are no blanks, and no capital sigma. -/
theorem aliasChar_spec (hfront : IsWord front) (hrest : ∀ w ∈ rest, IsWord w) {c : Char}
    (hc : c ∈ front ++ rest.flatMap capitalized) : isBlank c = false ∧ c ≠ '\u03a3' := by
  have hchar {c : Char} (h : isWordChar c = true) : isBlank c = false ∧ c ≠ '\u03a3' :=
    ⟨(keyChar_spec (.inl h)).1, (keyChar_spec (.inl h)).2.2.2⟩
  rcases List.mem_append.mp hc with hc | hc
  · exact hchar (hfront.2 c hc)
  · obtain ⟨word, hword, hc⟩ := List.mem_flatMap.mp hc
    obtain ⟨hne, hchars⟩ := hrest word hword
    cases word with
    | nil => exact absurd rfl hne
    | cons first word =>
      rw [List.forall_mem_cons] at hchars
      obtain ⟨d, hd, -, -, -, hblank, -, hsigma⟩ := exists_upperChar_eq hchars.1
      rw [capitalized, hd, List.singleton_append, List.mem_cons] at hc
      rcases hc with rfl | hc
      · exact ⟨hblank, hsigma⟩
      · exact hchar (hchars.2 c hc)

/-- The alias of a key has no blanks at its ends. -/
theorem trimBy_append_flatMap (hfront : IsWord front) (hrest : ∀ w ∈ rest, IsWord w) :
    trimBy isBlank (front ++ rest.flatMap capitalized) = front ++ rest.flatMap capitalized :=
  trimBy_eq_self (fun _ hc => (aliasChar_spec hfront hrest (List.mem_of_mem_head? hc)).1)
    fun _ hc => (aliasChar_spec hfront hrest (List.mem_of_getLast? hc)).1

theorem IsKey.trim_camelCase (h : IsKey key) (hne : key ≠ "") :
    trim (camelCase key) = camelCase key := by
  obtain ⟨first, rest, hwords, -, halias⟩ := h.exists_camelCase_eq hne
  rw [List.forall_mem_cons] at hwords
  rw [trim, halias, trimBy_append_flatMap hwords.1 hwords.2, ← halias, String.ofList_toList]

/-- The alias of a key spells the words of the key, some of them merged. -/
theorem IsKey.exists_wordsOf_eq (h : IsKey key) (hne : key ≠ "") :
    ∃ first rest, wordsOf key.toList = first :: rest ∧
      wordsOf (snakeCase (camelCase key)).toList = mergeWords first false rest := by
  obtain ⟨first, rest, hwords, hkey, halias⟩ := h.exists_camelCase_eq hne
  have hseparator := isWordSeparator_underscore.isWordChar_eq
  refine ⟨first, rest, by rw [hkey, wordsOf_intercalate hseparator hwords], ?_⟩
  rw [List.forall_mem_cons] at hwords
  obtain ⟨hfirst, hrest⟩ := hwords
  have hsigma : '\u03a3' ∉ breakCapitals ' ' (first ++ rest.flatMap capitalized) := by
    intro hmem
    rcases eq_or_mem_of_mem_breakCapitals hmem with hunderscore | hmem
    · revert hunderscore
      decide
    · exact (aliasChar_spec hfirst hrest hmem).2 rfl
  have hmerged : ∀ w ∈ mergeWords first false rest, IsWord w := fun _ hw =>
    isWord_of_mem_mergeWords hfirst hrest hw
  have hspelled := append_breakCapitals_eq hrest first (first.getLastD ' ')
  rw [hfirst.isWordChar_getLastD, Bool.not_true] at hspelled
  rw [spellsWords_snakeCase.toList_eq, halias, trimBy_append_flatMap hfirst hrest,
    lower_eq_flatMap hsigma,
    breakCapitals_append fun c hc => (keyChar_spec (.inl (hfirst.2 c hc))).2.1, List.flatMap_append,
    flatMap_lowerChar_eq_self hfirst.2, hspelled, wordsOf_intercalate hseparator hmerged,
    wordsOf_intercalate hseparator hmerged]

theorem IsKey.snakeCase_camelCase_ne (h : IsKey key) (hne : key ≠ "") :
    snakeCase (camelCase key) ≠ "" := by
  obtain ⟨first, rest, -, hspelled⟩ := h.exists_wordsOf_eq hne
  intro hempty
  rw [hempty] at hspelled
  exact mergeWords_ne_nil _ _ _ hspelled.symm

theorem isLoneLetter_eq_false_iff (h : startsWithLetter word = true) :
    isLoneLetter word = false ↔ word.length ≠ 1 := by
  rw [isLoneLetter, h, Bool.and_true, beq_eq_false_iff_ne]

/-- The alias of a key leads back to the key exactly if its words can be told apart in it. -/
theorem IsKey.snakeCase_camelCase_eq_iff (h : IsKey key) (hne : key ≠ "") :
    snakeCase (camelCase key) = key ↔ HasReadableAlias key := by
  obtain ⟨first, rest, hwords, hspelled⟩ := h.exists_wordsOf_eq hne
  have hsame : snakeCase (camelCase key) = key ↔ mergeWords first false rest = first :: rest := by
    have hspells : IsKey (snakeCase (camelCase key)) := ⟨camelCase key, rfl⟩
    rw [← hwords, ← hspelled]
    exact ⟨fun heq => by rw [heq], hspells.eq_of_wordsOf_eq h⟩
  rw [hsame, mergeWords_eq_self_iff, HasReadableAlias, hwords, List.tail_cons,
    and_iff_right fun _ => rfl]
  exact and_congr_right fun hletters => forall₂_congr fun w hw =>
    isLoneLetter_eq_false_iff (hletters w (List.mem_of_mem_dropLast hw))

example : HasReadableAlias "unit_price" ∧ ¬HasReadableAlias "plan_b_cost" ∧
    ¬HasReadableAlias "item_2" := by
  decide +kernel

/-! ### Options under an alias -/

namespace Service

variable {σ : Type} {s : Stores σ} {slug name a b : String} {st st' : σ} {shown : Obj}

/-- Whether the options that are found under two names are the same, in all stores. -/
def SameOptions (a b : String) : Prop :=
  ∀ (σ : Type) (s : Stores σ) (slug : String) (st st' : σ) (shown : Obj),
    (options s slug (.str a)).run st = (.ok shown, st') ↔
      (options s slug (.str b)).run st = (.ok shown, st')

/-- The options of a field are found under each name that spells its key. -/
theorem run_options_eq_ok_iff (hname : name ≠ "") :
    (options s slug (.str name)).run st = (.ok shown, st') ↔
      ∃ t st₁ fields st₂ f, (contentType s slug).run st = (.ok t, st₁) ∧
        (s.fieldsOf (recordId t)).run st₁ = (.ok fields, st₂) ∧
        (fields.find? fun f => f.definition.key == snakeCase name) = some f ∧
        (fieldOptions s (.obj f.toObj)).run st₂ = (.ok shown, st') := by
  have htruthy : ¬(!(Value.str name).truthy) = true := by simp [Value.truthy_str hname]
  simp only [options, if_neg htruthy, Action.run_bind_eq_ok_iff, Value.snakeCase_str,
    Action.run_lift_eq_ok_iff, Except.ok.injEq]
  constructor
  · rintro ⟨t, st₁, ht, key, _, ⟨rfl, rfl⟩, fields, st₂, hfields, h⟩
    split at h
    · next f hf => exact ⟨t, st₁, fields, st₂, f, ht, hfields, hf, h⟩
    · cases h
  · rintro ⟨t, st₁, fields, st₂, f, ht, hfields, hf, h⟩
    refine ⟨t, st₁, ht, _, st₁, ⟨rfl, rfl⟩, fields, st₂, hfields, ?_⟩
    rw [hf]
    exact h

/-- Stores in which every type has one field, a text under a key. -/
def textStores (key : String) : Stores World :=
  { Memory.stores with
    findType := fun _ => pure (some [])
    fieldsOf := fun _ => pure [⟨usualField key .text 0 [], .null⟩] }

theorem run_options_textStores (hname : name ≠ "") {key : String} {w : World} :
    (options (textStores key) slug (.str name)).run w = (.ok [("options", .list [])], w) ↔
      snakeCase name = key := by
  rw [run_options_eq_ok_iff hname]
  constructor
  · rintro ⟨t, _, fields, st₂, f, ⟨⟩, ⟨⟩, hf, -⟩
    rw [List.find?_singleton] at hf
    split at hf
    · next hkey => exact (eq_of_beq hkey).symm
    · cases hf
  · rintro rfl
    exact ⟨[], w, _, w, _, rfl, rfl, List.find?_cons_of_pos (beq_self_eq_true _), rfl⟩

theorem sameOptions_iff (ha : a ≠ "") (hb : b ≠ "") :
    SameOptions a b ↔ snakeCase a = snakeCase b := by
  constructor
  · intro h
    have hasked := h World (textStores (snakeCase b)) "" .empty .empty [("options", .list [])]
    exact (run_options_textStores ha).mp (hasked.mpr ((run_options_textStores hb).mpr rfl))
  · intro hsame σ s slug st st' shown
    rw [run_options_eq_ok_iff ha, run_options_eq_ok_iff hb, hsame]

end Service

/-! ### Fields that are named by their aliases -/

theorem IsKey.camelCase_ne (h : IsKey key) (hne : key ≠ "") : camelCase key ≠ "" := by
  intro hempty
  refine h.snakeCase_camelCase_ne hne ?_
  rw [hempty]
  rfl

/-- An alias leads back to its key exactly if the words of the key can be told apart in it, and
wherever a field is named by a text, its alias names it exactly then: as the key that a rule reads
or as one of the targets of a rule, as the key of a reference in a layout, and as the field whose
options are asked for. -/
theorem alias_leads_back_iff {key : String} (hkey : snakeCase key = key) (hne : key ≠ "") :
    (snakeCase (camelCase key) = key ↔ HasReadableAlias key) ∧
    (∀ (o : Obj) (r : VisibilityRule), VisibilityRule.ofObj o = .ok r →
      (Obj.getEither o "ifKey" "if_key" = .str (camelCase key) →
        (r.ifKey = key ↔ HasReadableAlias key)) ∧
      ∀ before after : List Value,
        VisibilityRule.givenTargets o = before ++ .str (camelCase key) :: after →
          (VisibilityRule.targetKeys (before ++ .str key :: after) = .ok r.targets ↔
            HasReadableAlias key)) ∧
    (∀ (fields : List Obj) (f : Obj) (ref : Value), Layout.DeclaresKeys fields → f ∈ fields →
      Obj.get f "key" = .str key → FieldRef.key ref = trim (camelCase key) →
        (Layout.resolve fields (FieldRef.key ref) = .obj f ↔ HasReadableAlias key)) ∧
    (Service.SameOptions (camelCase key) key ↔ HasReadableAlias key) := by
  have hspelled : IsKey key := ⟨key, hkey.symm⟩
  have hback := hspelled.snakeCase_camelCase_eq_iff hne
  refine ⟨hback, fun o r hrule => ⟨fun hifKey => ?_, fun before after htargets => ?_⟩,
    fun fields f ref hfields hf hfkey href => ?_, ?_⟩
  · rw [VisibilityRule.ifKey_of_ofObj hrule hifKey, hback]
  · have hread := VisibilityRule.targetKeys_givenTargets hrule
    rw [htargets] at hread
    have hne' : snakeCase key ≠ "" := by rwa [hkey]
    rw [VisibilityRule.targetKeys_replace_iff (hspelled.snakeCase_camelCase_ne hne) hne' hread,
      hkey, hback]
  · rw [Layout.resolve_eq_iff hfields hf hfkey, href, hspelled.trim_camelCase hne, hback]
  · rw [Service.sameOptions_iff (hspelled.camelCase_ne hne) hne, hkey, hback]

/-- A rule that reads a price and shows it with a note. -/
def priceRule : Obj :=
  [("ifKey", .str "unitPrice"), ("targets", .list [.str "note", .str "unitPrice"])]

/-- Fields for a price and for a note. -/
def priceFields : List Obj := [[("key", .str "unit_price")], [("key", .str "note")]]

/-- A price is named by its alias everywhere. -/
theorem price_under_alias : snakeCase "unit_price" = "unit_price" ∧
    (∃ r, VisibilityRule.ofObj priceRule = .ok r ∧ r.ifKey = "unit_price" ∧
      VisibilityRule.targetKeys [.str "note", .str "unit_price"] = .ok r.targets) ∧
    Layout.resolve priceFields (FieldRef.key (.str "unitPrice")) =
      .obj [("key", .str "unit_price")] ∧
    Service.SameOptions "unitPrice" "unit_price" := by
  have hkey : snakeCase "unit_price" = "unit_price" := by decide +kernel
  have halias : camelCase "unit_price" = "unitPrice" := by decide +kernel
  have hreadable : HasReadableAlias "unit_price" := by decide +kernel
  have hnote : IsKey "note" := ⟨"note", by decide +kernel⟩
  have hfields : Layout.DeclaresKeys priceFields := by
    refine ⟨?_, List.forall_mem_cons.mpr ⟨⟨_, ⟨_, hkey.symm⟩, rfl⟩,
      List.forall_mem_cons.mpr ⟨⟨_, hnote, rfl⟩, nofun⟩⟩⟩
    have hkeys : (priceFields.map fun f => Obj.get f "key") =
        [.str "unit_price", .str "note"] := rfl
    rw [hkeys]
    simp
  have hrule : VisibilityRule.ofObj priceRule =
      .ok ⟨"unit_price", "equals", .null, .reveal, ["note", "unit_price"]⟩ := by cbv
  obtain ⟨-, hrules, hrefs, hoptions⟩ := alias_leads_back_iff hkey (by decide)
  rw [halias] at hrules hrefs hoptions
  obtain ⟨hifKey, htargets⟩ := hrules _ _ hrule
  exact ⟨hkey, ⟨_, hrule, (hifKey rfl).mpr hreadable,
      (htargets [.str "note"] [] rfl).mpr hreadable⟩,
    (hrefs _ _ (.str "unitPrice") hfields List.mem_cons_self rfl rfl).mpr hreadable,
    hoptions.mpr hreadable⟩

/-- A row takes the cost of a plan under the alias of its key, and a rule that names the cost in the
same way reads something else. -/
theorem plan_cost_not_under_alias : snakeCase "plan_b_cost" = "plan_b_cost" ∧
    alignKey [("planBCost", .str "9")] "plan_b_cost" = [("plan_b_cost", .str "9")] ∧
    snakeCase (camelCase "plan_b_cost") ≠ "plan_b_cost" ∧
    ∃ r, VisibilityRule.ofObj [("ifKey", .str "planBCost")] = .ok r ∧
      r.ifKey = "plan_bcost" := by
  refine ⟨by decide +kernel, ?_, by decide +kernel,
    ⟨"plan_bcost", "equals", .null, .reveal, []⟩, ?_, rfl⟩
  · cbv
  · cbv

end ContentEngine
