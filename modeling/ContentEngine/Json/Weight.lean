import ContentEngine.Json.Reader
import ContentEngine.Json.Stored
import ContentEngine.Value.Weight
/-!
# The weight of what is read

What the JSON reader makes of a text weighs no more than the characters it has used up. Therefore a
document that is unpacked from a text weighs less than that text does as a value, and a recursion
that unpacks texts ends.
-/

namespace ContentEngine

theorem length_dropWhile_le {α : Type} (p : α → Bool) (l : List α) :
    (l.dropWhile p).length ≤ l.length := by
  induction l with
  | nil => simp
  | cons a l ih =>
    simp only [List.dropWhile_cons]
    split
    · simp only [List.length_cons]; omega
    · exact Nat.le_refl _

theorem length_skipJsonBlanks_le (text : List Char) :
    (skipJsonBlanks text).length ≤ text.length :=
  length_dropWhile_le _ _

/-- A string has fewer characters than are used up for it. -/
theorem length_readStringFrom (pending : Option Nat) (text : List Char) :
    ∀ chars rest, readStringFrom pending text = some (chars, rest) →
      chars.length + rest.length < text.length + (if pending.isSome then 1 else 0) := by
  fun_induction readStringFrom pending text with
  | case1 => simp
  | case2 pending rest =>
    intro chars after h
    simp only [Option.some.injEq, Prod.mk.injEq] at h
    obtain ⟨rfl, rfl⟩ := h
    cases pending with
    | none => simp [lonePending]
    | some _ =>
      simp [lonePending]
      omega
  | case3 => simp
  | case4 pending a b c d rest code hcode step ih =>
    intro chars after h
    simp only [Option.map_eq_some_iff, Prod.exists, Prod.mk.injEq] at h
    obtain ⟨text, after', htext, rfl, rfl⟩ := h
    have := ih _ _ htext
    have hstep : step.written.length + (if step.pending.isSome then 1 else 0) ≤
        2 + (if pending.isSome then 1 else 0) := by
      simp only [step, EscapeStep.of]
      split
      · split
        · simp
        · split <;> simp
      · split <;> simp
    simp only [List.length_append, List.length_cons]
    omega
  | case5 => simp
  | case6 pending c rest _ plain hplain ih =>
    intro chars after h
    simp only [Option.map_eq_some_iff, Prod.exists, Prod.mk.injEq] at h
    obtain ⟨text, after', htext, rfl, rfl⟩ := h
    have := ih _ _ htext
    cases pending <;> simp_all [lonePending] <;> omega
  | case7 => simp
  | case8 pending c rest _ _ _ _ ih =>
    intro chars after h
    simp only [Option.map_eq_some_iff, Prod.exists, Prod.mk.injEq] at h
    obtain ⟨text, after', htext, rfl, rfl⟩ := h
    have := ih _ _ htext
    cases pending <;> simp_all [lonePending] <;> omega

theorem length_readString {text : List Char} {s : String} {rest : List Char}
    (h : readString text = some (s, rest)) : s.length + rest.length < text.length := by
  simp only [readString, Option.map_eq_some_iff, Prod.exists, Prod.mk.injEq] at h
  obtain ⟨chars, after, hchars, rfl, rfl⟩ := h
  have := length_readStringFrom none text _ _ hchars
  simpa [String.length_ofList] using this

theorem length_takeWhole {text digits rest : List Char}
    (h : takeWhole? text = some (digits, rest)) : rest.length ≤ text.length := by
  unfold takeWhole? at h
  split at h
  · simp at h
  · split at h
    · simp only [Option.some.injEq, Prod.mk.injEq] at h
      obtain ⟨_, rfl⟩ := h
      simp
    · split at h
      · rename_i cs _ _
        simp only [Option.some.injEq, Prod.mk.injEq] at h
        obtain ⟨_, rfl⟩ := h
        have := length_dropWhile_le isAsciiDigit cs
        simp only [List.length_cons]
        omega
      · simp at h

theorem length_takeFraction {text digits rest : List Char}
    (h : takeFraction? text = some (digits, rest)) : rest.length ≤ text.length := by
  unfold takeFraction? at h
  split at h
  · rename_i cs
    split at h
    · simp at h
    · simp only [Option.some.injEq, Prod.mk.injEq] at h
      obtain ⟨_, rfl⟩ := h
      have := length_dropWhile_le isAsciiDigit cs
      simp only [List.length_cons]
      omega
  · simp at h

theorem length_cutSign (text : List Char) : (cutSign text).2.length ≤ text.length := by
  unfold cutSign
  split <;> simp

theorem length_takeExponent {text rest : List Char} {e : Int}
    (h : takeExponent? text = some (e, rest)) : rest.length ≤ text.length := by
  unfold takeExponent? at h
  split at h
  · rename_i mark cs
    split at h
    · dsimp only at h
      split at h
      · simp at h
      · simp only [Option.some.injEq, Prod.mk.injEq] at h
        obtain ⟨_, rfl⟩ := h
        have := length_dropWhile_le isAsciiDigit (cutSign cs).2
        have := length_cutSign cs
        simp only [List.length_cons]
        omega
    · simp at h
  · simp at h

theorem weight_readNumber {limit : Nat} {negative : Bool} {text rest : List Char} {v : Value}
    (h : readNumber limit negative text = some (v, rest)) :
    v.weight + rest.length ≤ text.length := by
  unfold readNumber at h
  split at h
  · simp at h
  · rename_i whole after hwhole
    have hlen := length_takeWhole hwhole
    split at h
    · split at h
      · simp only [Option.some.injEq, Prod.mk.injEq] at h
        obtain ⟨rfl, rfl⟩ := h
        simpa [Value.weight] using hlen
      · simp at h
    · rename_i hexp
      have := length_takeExponent hexp
      simp only [Option.some.injEq, Prod.mk.injEq] at h
      obtain ⟨rfl, rfl⟩ := h
      simp only [Value.weight]
      omega
    · rename_i part after' hpart
      have := length_takeFraction hpart
      simp only [Option.some.injEq, Prod.mk.injEq] at h
      obtain ⟨rfl, rfl⟩ := h
      simp only [Value.weight]
      cases hexp : takeExponent? after' with
      | none => simp only [Option.getD_none]; omega
      | some pair =>
        have := @length_takeExponent _ pair.2 pair.1 hexp
        simp only [Option.getD_some]
        omega

theorem length_dropPrefix {word text rest : List Char} (h : dropPrefix? word text = some rest) :
    rest.length ≤ text.length := by
  unfold dropPrefix? at h
  split at h
  · cases h; simp
  · simp at h

theorem weight_readScalar {limit : Nat} {text rest : List Char} {v : Value}
    (h : readScalar limit text = some (v, rest)) : v.weight + rest.length ≤ text.length := by
  unfold readScalar at h
  split at h
  · rename_i found hfound
    simp only [Option.some.injEq] at h
    subst h
    obtain ⟨⟨word, value⟩, hmem, hdrop⟩ := List.exists_of_findSome?_eq_some hfound
    simp only [Option.map_eq_some_iff, Prod.mk.injEq] at hdrop
    obtain ⟨after, hafter, rfl, rfl⟩ := hdrop
    have := length_dropPrefix hafter
    have hweight : value.weight = 0 := by
      simp only [namedValues, List.mem_cons, Prod.mk.injEq, List.not_mem_nil, or_false] at hmem
      rcases hmem with ⟨_, rfl⟩ | ⟨_, rfl⟩ | ⟨_, rfl⟩ | ⟨_, rfl⟩ | ⟨_, rfl⟩ | ⟨_, rfl⟩ <;>
        simp [Value.weight]
    omega
  · split at h
    · have := weight_readNumber h
      simp only [List.length_cons]
      omega
    · exact weight_readNumber h

/-- A value weighs no more than the characters that are used up for it, and so do the items of a
list and the members of an object with the brackets that close them. -/
theorem weight_readValue (limit fuel : Nat) :
    (∀ text v rest, readValue limit fuel text = some (v, rest) →
      v.weight + rest.length ≤ text.length) ∧
    (∀ text vs rest, readItems limit fuel text = some (vs, rest) →
      Value.itemsWeight vs + rest.length ≤ text.length) ∧
    (∀ text ms rest, readMembers limit fuel text = some (ms, rest) →
      Value.membersWeight ms + rest.length ≤ text.length) := by
  induction fuel with
  | zero => simp [readValue, readItems, readMembers]
  | succ fuel ih =>
    obtain ⟨ihValue, ihItems, ihMembers⟩ := ih
    refine ⟨?_, ?_, ?_⟩
    · intro text v rest h
      unfold readValue at h
      split at h
      · simp only [Option.map_eq_some_iff, Prod.exists, Prod.mk.injEq] at h
        obtain ⟨s, after, hs, rfl, rfl⟩ := h
        have := length_readString hs
        simp only [Value.weight, List.length_cons]
        omega
      · rename_i cs
        have hskip := length_skipJsonBlanks_le cs
        split at h
        · rename_i after hcs
          simp only [Option.some.injEq, Prod.mk.injEq] at h
          obtain ⟨rfl, rfl⟩ := h
          rw [hcs] at hskip
          simp only [Value.weight, Value.itemsWeight, List.length_cons] at *
          omega
        · simp only [Option.map_eq_some_iff, Prod.exists, Prod.mk.injEq] at h
          obtain ⟨vs, after, hvs, rfl, rfl⟩ := h
          have := ihItems _ _ _ hvs
          simp only [Value.weight, List.length_cons]
          omega
      · rename_i cs
        have hskip := length_skipJsonBlanks_le cs
        split at h
        · rename_i after hcs
          simp only [Option.some.injEq, Prod.mk.injEq] at h
          obtain ⟨rfl, rfl⟩ := h
          rw [hcs] at hskip
          simp only [Value.weight, Value.membersWeight, List.length_cons] at *
          omega
        · simp only [Option.map_eq_some_iff, Prod.exists, Prod.mk.injEq] at h
          obtain ⟨ms, after, hms, rfl, rfl⟩ := h
          have := ihMembers _ _ _ hms
          have := Value.membersWeight_ofMembers_le ms
          simp only [Value.weight, List.length_cons]
          omega
      · exact weight_readScalar h
    · intro text vs rest h
      unfold readItems at h
      split at h
      · simp at h
      · rename_i value after hvalue
        have := ihValue _ _ _ hvalue
        have hskip := length_skipJsonBlanks_le after
        split at h
        · rename_i more hmore
          simp only [Option.some.injEq, Prod.mk.injEq] at h
          obtain ⟨rfl, rfl⟩ := h
          rw [hmore] at hskip
          simp only [Value.itemsWeight, List.length_cons] at *
          omega
        · rename_i more hmore
          simp only [Option.map_eq_some_iff, Prod.exists, Prod.mk.injEq] at h
          obtain ⟨vs', after', hvs, rfl, rfl⟩ := h
          have := ihItems _ _ _ hvs
          have := length_skipJsonBlanks_le more
          rw [hmore] at hskip
          simp only [Value.itemsWeight, List.length_cons] at *
          omega
        · simp at h
    · intro text ms rest h
      unfold readMembers at h
      split at h
      · rename_i cs
        split at h
        · simp at h
        · rename_i key afterKey hkey
          have := length_readString hkey
          have hskip := length_skipJsonBlanks_le afterKey
          split at h
          · rename_i valueText hcolon
            rw [hcolon] at hskip
            have := length_skipJsonBlanks_le valueText
            split at h
            · simp at h
            · rename_i value afterValue hvalue
              have := ihValue _ _ _ hvalue
              have hskip' := length_skipJsonBlanks_le afterValue
              split at h
              · rename_i more hmore
                simp only [Option.some.injEq, Prod.mk.injEq] at h
                obtain ⟨rfl, rfl⟩ := h
                rw [hmore] at hskip'
                simp only [Value.membersWeight, List.length_cons] at *
                omega
              · rename_i more hmore
                simp only [Option.map_eq_some_iff, Prod.exists, Prod.mk.injEq] at h
                obtain ⟨ms', after', hms, rfl, rfl⟩ := h
                have := ihMembers _ _ _ hms
                have := length_skipJsonBlanks_le more
                rw [hmore] at hskip'
                simp only [Value.membersWeight, List.length_cons] at *
                omega
              · simp at h
          · simp at h
      · simp at h

/-- The value that a JSON text denotes weighs no more than the text has characters. -/
theorem weight_readJson {text : List Char} {v : Value} (h : readJson text = some v) :
    v.weight ≤ text.length := by
  unfold readJson readJsonWithin at h
  split at h
  · rename_i value rest hread
    split at h
    · cases h
      have := (weight_readValue _ _).1 _ _ _ hread
      have := length_skipJsonBlanks_le text
      omega
    · simp at h
  · simp at h

/-- The value that a stored text denotes weighs less than the text does as a value. -/
theorem weight_parseJson_lt {text : String} {v : Value} (h : parseJson text = some v) :
    v.weight < (Value.str text).weight := by
  unfold parseJson at h
  split at h
  · simp at h
  · have := weight_readJson h
    simp only [Value.weight, String.length_toList] at *
    omega

end ContentEngine
