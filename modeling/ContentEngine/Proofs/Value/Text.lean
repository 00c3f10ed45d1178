import ContentEngine.Key
import ContentEngine.Proofs.Number
import ContentEngine.Proofs.Outcome
import ContentEngine.Proofs.Text.Case

/-!
# The parts of a value, and which values have a text

`Value.parts` are the values that stand directly in a value, and `Value.Holds` says that one value
stands anywhere in another. Recursions over values go by parts (`Value.induction_parts`).

The only thing that keeps a value from having a text is an integer with too many digits, wherever
in the value it stands (`Value.hasResult_text`). The text of what counts as present is not empty
(`Value.text_ne_empty`), and it is blank only if the value is a blank text itself
(`Value.isBlankText_text`).
-/

namespace ContentEngine

namespace Value

/-! ### Parts -/

/-- The values that stand directly in a value. -/
def parts : Value → List Value
  | list items | tuple items | set items => items
  | obj members => members.map (·.2)
  | table rows => rows.flatMap fun row => [row.1, row.2]
  | _ => []

/-- Whether one value is another one or stands somewhere in it. -/
inductive Holds : Value → Value → Prop
  | self (v : Value) : Holds v v
  | part {v p u : Value} : p ∈ v.parts → Holds p u → Holds v u

theorem sizeOf_lt_of_mem_parts {v p : Value} (h : p ∈ v.parts) : sizeOf p < sizeOf v := by
  cases v with
  | list items | tuple items | set items =>
    have hitem : sizeOf p < sizeOf items := List.sizeOf_lt_of_mem h
    simp
    omega
  | obj members =>
    obtain ⟨member, hmem, rfl⟩ := List.mem_map.mp h
    have hmember : sizeOf member < sizeOf members := List.sizeOf_lt_of_mem hmem
    obtain ⟨key, value⟩ := member
    simp at hmember ⊢
    omega
  | table rows =>
    obtain ⟨row, hmem, hp⟩ := List.mem_flatMap.mp h
    have hrow : sizeOf row < sizeOf rows := List.sizeOf_lt_of_mem hmem
    obtain ⟨key, value⟩ := row
    simp only [List.mem_cons, List.not_mem_nil, or_false] at hp
    rcases hp with rfl | rfl <;>
    · simp at hrow ⊢
      omega
  | _ => cases h

/-- What holds of a value whenever it holds of its parts holds of every value. -/
@[elab_as_elim]
theorem induction_parts {motive : Value → Prop}
    (h : ∀ v, (∀ p ∈ v.parts, motive p) → motive v) (v : Value) : motive v :=
  h v fun p _ => induction_parts h p
termination_by sizeOf v
decreasing_by exact sizeOf_lt_of_mem_parts ‹_›

theorem holds_iff {v u : Value} : v.Holds u ↔ u = v ∨ ∃ p ∈ v.parts, p.Holds u := by
  constructor
  · rintro (_ | ⟨hp, hu⟩)
    · exact .inl rfl
    · exact .inr ⟨_, hp, hu⟩
  · rintro (rfl | ⟨p, hp, hu⟩)
    · exact .self u
    · exact .part hp hu

/-- What holds of everything in a value holds of the value and of everything in its parts. -/
theorem forall_holds_iff {v : Value} {q : Value → Prop} :
    (∀ u, v.Holds u → q u) ↔ q v ∧ ∀ p ∈ v.parts, ∀ u, p.Holds u → q u := by
  constructor
  · exact fun h => ⟨h v (.self v), fun p hp u hu => h u (.part hp hu)⟩
  · rintro ⟨hv, hparts⟩ u hu
    rcases holds_iff.mp hu with rfl | ⟨p, hp, hu⟩
    · exact hv
    · exact hparts p hp u hu

/-! ### Values that have a text -/

/-- Whether a value is no integer with more digits than a text may have. -/
def IsShort : Value → Prop
  | int n => (digitText n.natAbs).length ≤ maxIntegerDigits
  | _ => True

/-- Whether every integer in a value is short enough to be written. -/
def HasText (v : Value) : Prop :=
  ∀ u, v.Holds u → u.IsShort

theorem hasText_iff {v : Value} : v.HasText ↔ v.IsShort ∧ ∀ p ∈ v.parts, p.HasText :=
  forall_holds_iff

/-- A value without parts other than itself has a text if it is no long integer. -/
theorem hasText_of_parts_eq_nil {v : Value} (hparts : v.parts = []) (h : v.IsShort) : v.HasText :=
  hasText_iff.mpr ⟨h, by simp [hparts]⟩

@[simp] theorem hasText_null : null.HasText := hasText_of_parts_eq_nil rfl trivial

@[simp] theorem hasText_str (text : String) : (str text).HasText :=
  hasText_of_parts_eq_nil rfl trivial

@[simp] theorem hasText_bool (b : Bool) : (bool b).HasText := hasText_of_parts_eq_nil rfl trivial

theorem hasText_int {n : Int} : (int n).HasText ↔ (int n).IsShort :=
  hasText_iff.trans (and_iff_left fun _ hp => absurd hp List.not_mem_nil)

open Outcome (HasResult hasResult_bind_iff hasResult_bind_left hasResult_bind_pure hasResult_ok)

theorem hasResult_integerText {n : Int} : HasResult (integerText n) ↔ (int n).IsShort := by
  rw [IsShort]
  by_cases hshort : (digitText n.natAbs).length ≤ maxIntegerDigits <;>
    simp [integerText, integerText?, hshort]

theorem hasResult_literalItems {items : List Value} :
    HasResult (literalItems items) ↔ ∀ item ∈ items, HasResult (literal item) := by
  induction items with
  | nil => simp [literalItems]
  | cons item rest ih =>
    rw [literalItems, List.forall_mem_cons, ← ih]
    exact hasResult_bind_iff fun _ _ => hasResult_bind_pure

theorem hasResult_literalMembers {members : List (String × Value)} :
    HasResult (literalMembers members) ↔ ∀ v ∈ members.map (·.2), HasResult (literal v) := by
  induction members with
  | nil => simp [literalMembers]
  | cons member rest ih =>
    obtain ⟨key, value⟩ := member
    rw [literalMembers, List.map_cons, List.forall_mem_cons, ← ih]
    exact hasResult_bind_iff fun _ _ => hasResult_bind_pure

theorem hasResult_literalRows {rows : List (Value × Value)} :
    HasResult (literalRows rows) ↔
      ∀ v ∈ rows.flatMap fun row => [row.1, row.2], HasResult (literal v) := by
  induction rows with
  | nil => simp [literalRows]
  | cons row rest ih =>
    obtain ⟨key, value⟩ := row
    rw [List.flatMap_cons, List.forall_mem_append, ← ih, List.forall_mem_cons,
      List.forall_mem_singleton, and_assoc, literalRows]
    exact hasResult_bind_iff fun _ _ => hasResult_bind_iff fun _ _ =>
      hasResult_bind_pure

theorem hasResult_literal {v : Value} : HasResult (literal v) ↔ v.HasText := by
  induction v using induction_parts with
  | h v ih =>
    rw [hasText_iff, ← forall₂_congr ih]
    cases v with
    | int n =>
      rw [literal, hasResult_integerText]
      simp [parts]
    | list items =>
      rw [literal, hasResult_bind_pure, hasResult_literalItems]
      simp [parts, IsShort]
    | obj members =>
      rw [literal, hasResult_bind_pure, hasResult_literalMembers]
      simp [parts, IsShort]
    | table rows =>
      rw [literal, hasResult_bind_pure, hasResult_literalRows]
      simp [parts, IsShort]
    | tuple items =>
      rw [literal, hasResult_bind_left fun _ => by split <;> simp, hasResult_literalItems]
      simp [parts, IsShort]
    | set items =>
      rw [literal, hasResult_bind_left fun _ => by split <;> simp, hasResult_literalItems]
      simp [parts, IsShort]
    | _ => simp [literal, parts, IsShort]

/-- A value has a text exactly if no integer in it is too long. -/
theorem hasResult_text {v : Value} : HasResult v.text ↔ v.HasText := by
  cases v with
  | str _ | identifier _ | moment _ | day _ | decimal _ =>
    exact iff_of_true (hasResult_ok _) (hasText_of_parts_eq_nil rfl trivial)
  | _ => exact hasResult_literal

/-- What does not count as present has a text. -/
theorem hasText_of_not_truthy {v : Value} (h : v.truthy = false) : v.HasText := by
  refine hasText_iff.mpr ?_
  cases v with
  | int n =>
    obtain rfl : n = 0 := by simpa [truthy] using h
    have hzero : (digitText 0).length ≤ maxIntegerDigits := by decide
    exact ⟨hzero, by simp [parts]⟩
  | list items | tuple items | set items | obj items | table items =>
    obtain rfl : items = [] := by simpa [truthy] using h
    exact ⟨trivial, by simp [parts]⟩
  | _ => exact ⟨trivial, by simp [parts]⟩

theorem hasResult_presentText {v : Value} : HasResult v.presentText ↔ v.HasText := by
  rw [presentText]
  split
  · exact hasResult_text
  · next hempty => simp [hasText_of_not_truthy (Bool.eq_false_iff.mpr hempty)]

/-- A value with a text to stand in for it. -/
theorem hasResult_text_orElse {v : Value} (other : String) :
    HasResult (v.orElse (.str other)).text ↔ v.HasText := by
  rw [orElse]
  split
  · exact hasResult_text
  · next hempty => simp [text, hasText_of_not_truthy (Bool.eq_false_iff.mpr hempty)]

theorem hasResult_snakeCase {v : Value} : HasResult v.snakeCase ↔ v.HasText := by
  rw [snakeCase, hasResult_bind_pure, hasResult_presentText]

end Value

/-! ### Texts that are not blank -/

@[simp] theorem isBlankText_append (a b : String) :
    isBlankText (a ++ b) = (isBlankText a && isBlankText b) := by
  rw [isBlankText, String.toList_append, List.all_append, isBlankText, isBlankText]

@[simp] theorem isBlankText_ofList (text : List Char) :
    isBlankText (String.ofList text) = text.all isBlank := by
  rw [isBlankText, String.toList_ofList]

theorem ne_empty_of_isBlankText {text : String} (h : isBlankText text = false) : text ≠ "" := by
  rintro rfl
  contradiction

theorem isBlank_of_isAsciiDigit {c : Char} (h : isAsciiDigit c = true) : isBlank c = false := by
  have hall : ∀ n < 128, isAsciiDigit (Char.ofNat n) = true → isBlank (Char.ofNat n) = false := by
    decide +kernel
  exact ascii_induction (P := fun c => isAsciiDigit c = true → isBlank c = false) hall
    (toNat_lt_of_isAscii (.inr (.inr h))) h

@[simp] theorem all_isBlank_digitText (n : Nat) : (digitText n).all isBlank = false := by
  obtain ⟨c, hc⟩ := List.exists_mem_of_ne_nil _ (digitText_ne_nil n)
  exact List.all_eq_false.mpr
    ⟨c, hc, by simp [isBlank_of_isAsciiDigit (isAsciiDigit_of_mem_digitText hc)]⟩

/-- A sign in front of a text that is not blank makes no difference. -/
theorem all_isBlank_signed {negative : Bool} {body : List Char} (h : body.all isBlank = false) :
    (if negative then '-' :: body else body).all isBlank = false := by
  split <;> simp [h]

theorem isBlankText_paddedText (width n : Nat) : isBlankText (paddedText width n) = false := by
  simp [paddedText]

theorem Day.isBlankText_text (d : Day) : isBlankText d.text = false := by
  simp [Day.text, isBlankText_paddedText]

theorem FloatLayout.all_isBlank_lay (layout : FloatLayout) (d : DecimalDigits) :
    (layout.lay d).all isBlank = false := by
  have hdigits := all_isBlank_digitText d.digits
  have hpoint : isBlank '.' = false := by decide
  have hmark : isBlank 'e' = false := by decide
  simp only [FloatLayout.lay]
  split
  · split
    · simp [hpoint]
    · split <;> simp [hpoint]
  · split
    · next hnil => exact absurd hnil (digitText_ne_nil _)
    · simp [hmark]

theorem BinaryValue.isBlankText_text (b : BinaryValue) : isBlankText b.text = false := by
  cases b with
  | notANumber => decide
  | infinite negative => cases negative <;> decide
  | finite negative mantissa exponent =>
    rw [BinaryValue.text, isBlankText_ofList]
    refine all_isBlank_signed ?_
    split
    · decide
    · exact FloatLayout.all_isBlank_lay _ _

theorem all_isBlank_decimalDigitsText (digits : Nat) (exponent : Int) :
    (decimalDigitsText digits exponent).all isBlank = false := by
  have hdigits := all_isBlank_digitText digits
  have hpoint : isBlank '.' = false := by decide
  have hmark : isBlank 'E' = false := by decide
  simp only [decimalDigitsText]
  split
  · split
    · exact hdigits
    · split <;> simp [hpoint]
  · split
    · next hnil => exact absurd hnil (digitText_ne_nil _)
    · simp [hmark]

theorem Decimal.isBlankText_text (d : Decimal) : isBlankText d.text = false := by
  cases d with
  | finite negative digits exponent =>
    rw [Decimal.text, isBlankText_ofList]
    exact all_isBlank_signed (all_isBlank_decimalDigitsText digits exponent)
  | infinite negative => cases negative <;> decide
  | undefinedResult negative signaling payload =>
    have hname : isBlankText (if signaling then "sNaN" else "NaN") = false := by
      cases signaling <;> decide
    simp [Decimal.text, hname]

namespace Value

theorem isBlankText_callText (name : String) (arguments : List String) :
    isBlankText (callText name arguments) = false := by
  have hclose : isBlankText ")" = false := by decide
  simp [callText, hclose]

/-- The literal of a value is not blank: it starts with a letter, a digit, a sign, a quote or a
bracket. -/
theorem isBlankText_literal {v : Value} {s : String} (h : literal v = .ok s) :
    isBlankText s = false := by
  cases v with
  | null => exact Except.ok.inj h ▸ by decide
  | bool b => exact Except.ok.inj h ▸ by cases b <;> decide
  | int n =>
    simp only [literal, integerText, integerText?] at h
    split at h
    · next digits hdigits =>
      rw [Except.ok.injEq] at h
      subst h
      split at hdigits
      · rw [← Option.some.inj hdigits, isBlankText_ofList]
        split <;> simp
      · contradiction
    · contradiction
  | float x => exact Except.ok.inj h ▸ BinaryValue.isBlankText_text _
  | str text =>
    have hquote : isBlank (quoteFor text.toList) = false := by
      rw [quoteFor]
      split <;> decide
    rw [literal, Except.ok.injEq] at h
    rw [← h, quoted, isBlankText_ofList, List.all_cons, hquote, Bool.false_and]
  | bytes data =>
    have hmark : isBlank 'b' = false := by decide
    rw [literal, Except.ok.injEq] at h
    rw [← h, quotedBytes, isBlankText_ofList, List.all_cons, hmark, Bool.false_and]
  | identifier u | moment m | day d | decimal d =>
    rw [literal, Except.ok.injEq] at h
    exact h ▸ isBlankText_callText _ _
  | list items | obj members | table rows =>
    simp only [literal, Outcome.bind_eq_ok_iff, Outcome.pure_eq_ok_iff] at h
    obtain ⟨texts, -, rfl⟩ := h
    have hbracket : isBlankText "[" = false ∧ isBlankText "\x7b" = false := by decide
    simp [hbracket]
  | tuple items | set items =>
    simp only [literal, Outcome.bind_eq_ok_iff] at h
    obtain ⟨texts, -, h⟩ := h
    have hbracket : isBlankText "(" = false ∧ isBlankText "\x7b" = false ∧
        isBlankText "set()" = false := by decide
    split at h <;> rw [Outcome.pure_eq_ok_iff] at h <;> subst h <;> simp [hbracket]

/-- Only a text can be shown as a blank text. -/
theorem isBlankText_text {v : Value} {s : String} (hv : ∀ text, v ≠ .str text)
    (h : v.text = .ok s) : isBlankText s = false := by
  cases v with
  | str text => exact absurd rfl (hv text)
  | identifier u =>
    have hdash : isBlank '-' = false := by decide
    rw [Value.text, Except.ok.injEq] at h
    rw [← h, Identifier.text, isBlankText_ofList]
    simp [hdash]
  | moment m =>
    rw [Value.text, Except.ok.injEq] at h
    subst h
    simp [Moment.textWith, Day.isBlankText_text]
  | day d => exact Except.ok.inj h ▸ d.isBlankText_text
  | decimal d => exact Except.ok.inj h ▸ d.isBlankText_text
  | _ => exact isBlankText_literal h

/-- The text of a value that counts as present is not empty. -/
theorem text_ne_empty {v : Value} {s : String} (hv : v.truthy = true) (h : v.text = .ok s) :
    s ≠ "" := by
  by_cases hstr : ∃ text, v = .str text
  · obtain ⟨text, rfl⟩ := hstr
    rw [Value.text, Except.ok.injEq] at h
    subst h
    simpa [truthy] using hv
  · exact ne_empty_of_isBlankText (isBlankText_text (fun text heq => hstr ⟨text, heq⟩) h)

end Value

end ContentEngine
