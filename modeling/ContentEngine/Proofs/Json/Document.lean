import Mathlib.Data.List.Forall2
import ContentEngine.Proofs.Json.Scalar
import ContentEngine.Proofs.Outcome

/-!
# Documents are read as they are written

A text denotes a value (`Denotes`) if the reader finds the value in it, whatever follows, and stops
where the text ends. Texts that denote the items of a list or the values of members denote the list
or the object as soon as they stand between brackets, with any blanks after the separators
(`denotes_list`, `denotes_obj`).
-/

namespace ContentEngine

/-! ### What a text denotes -/

/-- Whether a text starts with a character that is no blank and does not end a list. -/
def StartsValue (text : List Char) : Prop :=
  ∃ c rest, text = c :: rest ∧ isJsonBlank c = false ∧ c ≠ ']'

/-- Whether the reader finds a value in a text and stops at its end. Every part of a value takes at
least one character, so that no more fuel is needed than there are characters. -/
structure Denotes (text : List Char) (v : Value) : Prop where
  starts : StartsValue text
  read : ∀ fuel rest, text.length ≤ fuel → EndsNumber rest →
    readValue maxIntegerDigits fuel (text ++ rest) = some (v, rest)

/-- Whether a text is a mark with blanks after it. -/
def IsSeparator (mark : Char) (text : List Char) : Prop :=
  ∃ blanks, text = mark :: blanks ∧ ∀ c ∈ blanks, isJsonBlank c = true

theorem skipJsonBlanks_blanks {blanks : List Char} (h : ∀ c ∈ blanks, isJsonBlank c = true)
    (text : List Char) : skipJsonBlanks (blanks ++ text) = skipJsonBlanks text :=
  List.dropWhile_append_of_pos h

theorem skipJsonBlanks_cons {c : Char} (h : isJsonBlank c = false) (text : List Char) :
    skipJsonBlanks (c :: text) = c :: text := by
  rw [skipJsonBlanks, List.dropWhile_cons_of_neg (by simp [h])]

theorem StartsValue.skipJsonBlanks_eq {text : List Char} (h : StartsValue text)
    (rest : List Char) : skipJsonBlanks (text ++ rest) = text ++ rest := by
  obtain ⟨c, more, rfl, hblank, -⟩ := h
  exact skipJsonBlanks_cons hblank _

/-- After a separator, what follows its blanks is found. -/
theorem IsSeparator.exists_skip {mark : Char} {separator text : List Char}
    (h : IsSeparator mark separator) (hstart : StartsValue text) (rest : List Char) :
    ∃ more, separator ++ (text ++ rest) = mark :: more ∧ skipJsonBlanks more = text ++ rest := by
  obtain ⟨blanks, rfl, hblanks⟩ := h
  exact ⟨blanks ++ (text ++ rest), rfl, by
    rw [skipJsonBlanks_blanks hblanks, hstart.skipJsonBlanks_eq]⟩

theorem IsSeparator.length_pos {mark : Char} {separator : List Char}
    (h : IsSeparator mark separator) : 0 < separator.length := by
  obtain ⟨blanks, rfl, -⟩ := h
  exact Nat.succ_pos _

/-- Texts that are joined are the first one, and each of the others after a separator. -/
theorem intercalate_cons_eq {α : Type} (separator first : List α) (rest : List (List α)) :
    separator.intercalate (first :: rest) = first ++ rest.flatMap (separator ++ ·) := by
  induction rest generalizing first with
  | nil => simp
  | cons next rest ih =>
    rw [List.intercalate_cons_cons, ih, List.flatMap_cons, List.append_assoc, List.append_assoc]

/-! ### Lists -/

/-- Items are read one after the other, up to the bracket. -/
theorem readItems_written {separator : List Char} (hsep : IsSeparator ',' separator)
    {text : List Char} {v : Value} {texts : List (List Char)} {vs : List Value}
    (hfirst : Denotes text v) (h : List.Forall₂ Denotes texts vs) (fuel : Nat)
    (hfuel : (text ++ texts.flatMap (separator ++ ·)).length < fuel) (rest : List Char) :
    readItems maxIntegerDigits fuel (text ++ (texts.flatMap (separator ++ ·) ++ ']' :: rest)) =
      some (v :: vs, rest) := by
  induction h generalizing text v fuel with
  | nil =>
    obtain ⟨fuel, rfl⟩ := Nat.exists_eq_succ_of_ne_zero (Nat.ne_zero_of_lt hfuel)
    rw [List.flatMap_nil, List.append_nil] at hfuel
    rw [readItems, List.flatMap_nil, List.nil_append,
      hfirst.read fuel _ (Nat.lt_succ_iff.mp hfuel) (endsNumber_cons (by simp) rest)]
    rfl
  | @cons next u texts vs hnext _ ih =>
    obtain ⟨fuel, rfl⟩ := Nat.exists_eq_succ_of_ne_zero (Nat.ne_zero_of_lt hfuel)
    rw [List.flatMap_cons] at hfuel ⊢
    simp only [List.length_append] at hfuel ih
    have hpos := hsep.length_pos
    have hmore := ih hnext fuel (by omega)
    obtain ⟨more, hcomma, hskip⟩ := hsep.exists_skip hnext.starts
      (texts.flatMap (separator ++ ·) ++ ']' :: rest)
    rw [readItems, List.append_assoc, List.append_assoc, hcomma,
      hfirst.read fuel _ (by omega) (endsNumber_cons (by simp) more)]
    simp only [skipJsonBlanks_cons (show isJsonBlank ',' = false from rfl), hskip, hmore,
      Option.map_some]

/-- Items between brackets denote a list. -/
theorem denotes_list {separator : List Char} (hsep : IsSeparator ',' separator)
    {texts : List (List Char)} {vs : List Value} (h : List.Forall₂ Denotes texts vs) :
    Denotes (bracketed '[' ']' separator texts) (.list vs) where
  starts := ⟨'[', _, rfl, rfl, by decide⟩
  read fuel rest hfuel _ := by
    rw [bracketed, List.length_cons, List.length_append, List.length_singleton] at hfuel
    obtain ⟨fuel, rfl⟩ := Nat.exists_eq_succ_of_ne_zero (Nat.ne_zero_of_lt hfuel)
    rw [bracketed, List.cons_append, List.append_assoc, readValue]
    cases h with
    | nil => rfl
    | @cons text v texts vs hfirst hrest =>
      rw [intercalate_cons_eq] at hfuel ⊢
      have hitems := readItems_written hsep hfirst hrest fuel (by omega) rest
      obtain ⟨c, more, rfl, hblank, hend⟩ := hfirst.starts
      rw [List.append_assoc, List.singleton_append, List.cons_append,
        skipJsonBlanks_cons hblank, ← List.cons_append]
      split
      · next heq => exact absurd (List.cons.inj heq).1 hend
      · rw [hitems, Option.map_some]

/-! ### Objects -/

/-- The text of a member: its key, a separator and the text of its value. -/
def memberText (separator : List Char) (member : String × List Char) : List Char :=
  jsonString member.1 ++ separator ++ member.2

/-- Whether a text with a key denotes a member. -/
def DenotesMember (text : String × List Char) (member : String × Value) : Prop :=
  text.1 = member.1 ∧ Denotes text.2 member.2

theorem startsValue_memberText (separator : List Char) (member : String × List Char) :
    StartsValue (memberText separator member) :=
  ⟨'"', _, rfl, rfl, by decide⟩

/-- Members are read one after the other, up to the brace. -/
theorem readMembers_written {separator keySeparator : List Char} (hsep : IsSeparator ',' separator)
    (hkey : IsSeparator ':' keySeparator) {text : String × List Char} {member : String × Value}
    {texts : List (String × List Char)} {members : List (String × Value)}
    (hfirst : DenotesMember text member) (h : List.Forall₂ DenotesMember texts members) (fuel : Nat)
    (hfuel : (memberText keySeparator text ++
      (texts.map (memberText keySeparator)).flatMap (separator ++ ·)).length < fuel)
    (rest : List Char) :
    readMembers maxIntegerDigits fuel (memberText keySeparator text ++
        ((texts.map (memberText keySeparator)).flatMap (separator ++ ·) ++ '\x7d' :: rest)) =
      some (member :: members, rest) := by
  -- the key of a member is read up to the text of its value
  have hstart {text : String × List Char} {member : String × Value}
      (hmember : DenotesMember text member) (after : List Char) :
      ∃ body more, memberText keySeparator text ++ after = '"' :: body ∧
        readString body = some (member.1, ':' :: more) ∧
        skipJsonBlanks more = text.2 ++ after ∧
        text.2.length < (memberText keySeparator text).length := by
    obtain ⟨key, chars⟩ := text
    obtain ⟨rfl, hvalue⟩ := hmember
    obtain ⟨more, hcolon, hskip⟩ := hkey.exists_skip hvalue.starts after
    refine ⟨member.1.toList.flatMap jsonChar ++ '"' :: (keySeparator ++ (chars ++ after)), more,
      ?_, ?_, hskip, ?_⟩
    · simp [memberText, jsonString]
    · rw [readString_written, hcolon]
    · simp only [memberText, jsonString, List.length_append, List.length_cons]
      omega
  induction h generalizing text member fuel with
  | nil =>
    obtain ⟨fuel, rfl⟩ := Nat.exists_eq_succ_of_ne_zero (Nat.ne_zero_of_lt hfuel)
    rw [List.map_nil, List.flatMap_nil, List.append_nil] at hfuel
    rw [List.map_nil, List.flatMap_nil, List.nil_append]
    obtain ⟨body, more, htext, hread, hskip, hlength⟩ := hstart hfirst ('\x7d' :: rest)
    have hvalue := hfirst.2.read fuel ('\x7d' :: rest) (by omega) (endsNumber_cons (by simp) rest)
    rw [htext, readMembers]
    simp only [hread, skipJsonBlanks_cons (show isJsonBlank ':' = false from rfl), hskip, hvalue,
      skipJsonBlanks_cons (show isJsonBlank '\x7d' = false from rfl)]
  | @cons next nextMember texts members hnext _ ih =>
    obtain ⟨fuel, rfl⟩ := Nat.exists_eq_succ_of_ne_zero (Nat.ne_zero_of_lt hfuel)
    rw [List.map_cons, List.flatMap_cons] at hfuel ⊢
    simp only [List.length_append] at hfuel ih
    have hpos := hsep.length_pos
    have hothers := ih hnext fuel (by omega)
    obtain ⟨others, hcomma, hskipComma⟩ := hsep.exists_skip (startsValue_memberText keySeparator next)
      ((texts.map (memberText keySeparator)).flatMap (separator ++ ·) ++ '\x7d' :: rest)
    obtain ⟨body, more, htext, hread, hskip, hlength⟩ := hstart hfirst (',' :: others)
    have hvalue := hfirst.2.read fuel (',' :: others) (by omega) (endsNumber_cons (by simp) others)
    rw [List.append_assoc, List.append_assoc, hcomma, htext, readMembers]
    simp only [hread, skipJsonBlanks_cons (show isJsonBlank ':' = false from rfl), hskip, hvalue,
      skipJsonBlanks_cons (show isJsonBlank ',' = false from rfl), hskipComma, hothers,
      Option.map_some]

/-- Members with distinct keys make up the object that they are. -/
theorem Obj.ofMembers_eq_self {members : Obj} (h : (members.map (·.1)).Nodup) :
    Obj.ofMembers members = members :=
  Obj.merge_of_prefix List.nil_prefix h

/-- Members with distinct keys denote an object when they stand between braces. -/
theorem denotes_obj {separator keySeparator : List Char} (hsep : IsSeparator ',' separator)
    (hkey : IsSeparator ':' keySeparator) {texts : List (String × List Char)} {members : Obj}
    (hnodup : (members.map (·.1)).Nodup) (h : List.Forall₂ DenotesMember texts members) :
    Denotes (bracketed '\x7b' '\x7d' separator (texts.map (memberText keySeparator)))
      (.obj members) where
  starts := ⟨'\x7b', _, rfl, rfl, by decide⟩
  read fuel rest hfuel _ := by
    rw [bracketed, List.length_cons, List.length_append, List.length_singleton] at hfuel
    obtain ⟨fuel, rfl⟩ := Nat.exists_eq_succ_of_ne_zero (Nat.ne_zero_of_lt hfuel)
    rw [bracketed, List.cons_append, List.append_assoc, readValue]
    cases h with
    | nil => rfl
    | @cons text member texts members hfirst hrest =>
      rw [List.map_cons, intercalate_cons_eq] at hfuel ⊢
      have hmembers := readMembers_written hsep hkey hfirst hrest fuel (by omega) rest
      rw [List.append_assoc, List.singleton_append,
        (startsValue_memberText keySeparator text).skipJsonBlanks_eq]
      split
      · next heq => exact absurd (List.cons.inj heq).1 (by decide)
      · simp only [hmembers, Option.map_some, Obj.ofMembers_eq_self hnodup]

end ContentEngine
