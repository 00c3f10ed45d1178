import ContentEngine.Path
import ContentEngine.Proofs.Value.Integer
import ContentEngine.Proofs.Value.Fault

/-!
# Where a path leads

A segment names a member of an object by its key and an item of a list by its index, written in
decimal digits of any script. `Value.Leads` says which value the segments of a path lead to, without
running the walk. The only thing that can go wrong on the way is that a list is reached with a
segment which looks like an integer and is none (`Value.Stumbles`). So the value at a path is the
one that the path leads to, or the default if it leads nowhere, unless the path stumbles
(`Value.atPath_spec`).
-/

namespace ContentEngine

open Outcome (OnlyFault onlyFault_ok onlyFault_pure onlyFault_error)

/-! ### Indexes -/

/-- The number that a run of decimal digits of any script denotes. -/
def decimalValue (digits : List Char) : Nat :=
  digits.foldl (fun n c => 10 * n + (digitValue? c).getD 0) 0

/-- Whether a segment is the text of an integer: decimal digits, which may have a dash before them,
and not too many of them. -/
def IsIndexText (segment : String) (n : Int) : Prop :=
  ∃ negative digits, segment.toList = (if negative then ['-'] else []) ++ digits ∧ digits ≠ [] ∧
    (∀ c ∈ digits, isDecimalDigit c = true) ∧ digits.length ≤ maxIntegerDigits ∧
    n = signed negative (decimalValue digits)

/-- A decimal digit of any script keeps its value in ASCII. -/
theorem baseDigit?_asciiNumberChar {c : Char} {d : Nat} (h : digitValue? c = some d) :
    baseDigit? 10 (asciiNumberChar c) = some d := by
  have hdecimal : isDecimalDigit c = true := Option.isSome_iff_exists.mpr ⟨d, h⟩
  have hblank := Format.isBlank_of_isDecimalDigit hdecimal
  by_cases hcode : c.toNat < 128
  · rw [asciiNumberChar, if_pos hcode]
    rw [digitValue?, if_pos hcode] at h
    split at h
    · next hrange =>
      have hdigit : isAsciiDigit c = true := by simpa [isAsciiDigit] using hrange
      obtain ⟨e, he⟩ := baseDigit?_of_isAsciiDigit hdigit
      have hvalue := he
      simp only [baseDigit?, hdigit, if_true, Option.filter_eq_some_iff] at hvalue
      rw [he, ← h, hvalue.1]
    · cases h
  · rw [asciiNumberChar, if_neg hcode, hblank, if_neg Bool.false_ne_true, h]
    rw [digitValue?, if_neg hcode, Option.map_eq_some_iff] at h
    obtain ⟨r, -, rfl⟩ := h
    have hdigits : ∀ d < 10, baseDigit? 10 (Char.ofNat (48 + d)) = some d := by decide
    exact hdigits _ (Nat.mod_lt _ (by decide))

/-- Decimal digits of any script are read as the number that they denote. -/
theorem readDigits_map_asciiNumberChar {digits : List Char}
    (h : ∀ c ∈ digits, isDecimalDigit c = true) (afterDigit : Bool)
    (hne : afterDigit = true ∨ digits ≠ []) (value count : Nat) :
    readDigits 10 afterDigit value count (digits.map asciiNumberChar) =
      some (digits.foldl (fun n c => 10 * n + (digitValue? c).getD 0) value,
        count + digits.length) := by
  induction digits generalizing afterDigit value count with
  | nil =>
    obtain rfl : afterDigit = true := hne.resolve_right (by simp)
    rfl
  | cons c rest ih =>
    rw [List.forall_mem_cons] at h
    obtain ⟨d, hd⟩ := Option.isSome_iff_exists.mp h.1
    simp only [List.map_cons, readDigits, baseDigit?_asciiNumberChar hd]
    rw [ih h.2 true (.inl rfl), List.foldl_cons, hd, Option.getD_some, List.length_cons,
      Nat.add_assoc, Nat.add_comm 1]

theorem readInteger?_of_digits {negative : Bool} {digits : List Char} (hne : digits ≠ [])
    (hdigits : ∀ c ∈ digits, isDecimalDigit c = true) (hlength : digits.length ≤ maxIntegerDigits) :
    readInteger? ((if negative then ['-'] else []) ++ digits) =
      some (signed negative (decimalValue digits)) := by
  have hascii : asciiNumber ((if negative then ['-'] else []) ++ digits) =
      (if negative then ['-'] else []) ++ digits.map asciiNumberChar := by
    have hmap (dashes : Nat) : asciiNumber (List.replicate dashes '-' ++ digits) =
        List.replicate dashes '-' ++ digits.map asciiNumberChar :=
      asciiNumber_eq_map fun c hc => .inl (hdigits c hc)
    cases negative
    · exact hmap 0
    · exact hmap 1
  have hcut : cutSign ((if negative then ['-'] else []) ++ digits.map asciiNumberChar) =
      (negative, digits.map asciiNumberChar) := by
    cases negative
    · refine cutSign_of_head? fun c hc => ?_
      obtain ⟨d, hd, rfl⟩ := List.mem_map.mp (List.mem_of_mem_head? hc)
      have hdigit := isAsciiDigit_asciiNumberChar (hdigits d hd)
      constructor <;> intro heq <;> rw [heq] at hdigit <;> contradiction
    · rfl
  have hread := readDigits_map_asciiNumberChar hdigits false (.inr hne) 0 0
  rw [readInteger?, hascii, hcut]
  simp only [hread, Nat.zero_add, hlength, if_true]
  rfl

theorem isDigitText_of_forall {digits : List Char} (hne : digits ≠ [])
    (hdigits : ∀ c ∈ digits, isDecimalDigit c = true) : isDigitText digits = true := by
  simp only [isDigitText, Bool.and_eq_true, Bool.not_eq_true', List.isEmpty_eq_false_iff,
    List.all_eq_true, Bool.or_eq_true]
  exact ⟨hne, fun c hc => .inl (hdigits c hc)⟩

theorem ne_nil_of_isDigitText {digits : List Char} (h : isDigitText digits = true) :
    digits ≠ [] := by
  rintro rfl
  contradiction

/-- The index that a segment denotes is the integer that it is the text of. -/
theorem segmentIndex?_eq_ok_some_iff {segment : String} {n : Int} :
    segmentIndex? segment = .ok (some n) ↔ IsIndexText segment n := by
  rw [segmentIndex?]
  constructor
  · intro h
    split at h
    · next hlooks =>
      obtain ⟨dashes, hsplit⟩ := Value.exists_dashes segment.toList
      generalize segment.toList.dropWhile (· == '-') = digits at hlooks hsplit
      rw [hsplit] at h
      cases hread : readInteger? (List.replicate dashes '-' ++ digits) with
      | none => simp [hread] at h
      | some m =>
        obtain rfl : m = n := by simpa [hread] using h
        obtain ⟨hdashes, hdigits, hlength⟩ :=
          (isSome_readInteger?_iff hlooks).mp (Option.isSome_iff_exists.mpr ⟨m, hread⟩)
        obtain ⟨negative, hsign⟩ : ∃ negative : Bool,
            List.replicate dashes '-' = if negative then ['-'] else [] := by
          obtain rfl | rfl : dashes = 0 ∨ dashes = 1 := by omega
          · exact ⟨false, rfl⟩
          · exact ⟨true, rfl⟩
        have hne := ne_nil_of_isDigitText hlooks
        rw [hsign] at hsplit hread
        rw [readInteger?_of_digits hne hdigits hlength, Option.some.injEq] at hread
        exact ⟨negative, digits, hsplit, hne, hdigits, hlength, hread.symm⟩
    · cases h
  · rintro ⟨negative, digits, hsplit, hne, hdigits, hlength, rfl⟩
    have hlooks := isDigitText_of_forall hne hdigits
    have hcut : ((if negative then ['-'] else []) ++ digits).dropWhile (· == '-') = digits := by
      have hdash := Value.dash_notMem_of_isDigitText hlooks
      cases negative
      · exact (Value.cut_dashes 0 hdash).2
      · exact (Value.cut_dashes 1 hdash).2
    rw [hsplit, hcut, if_pos hlooks, readInteger?_of_digits hne hdigits hlength]

/-- A segment without blanks at its ends is at fault as an index exactly if it looks like an integer
and is none. -/
theorem segmentIndex?_eq_error_iff {segment : String} {fault : Fault}
    (htrim : trimBy isBlank segment.toList = segment.toList) :
    segmentIndex? segment = .error fault ↔
      fault = .badInteger ∧ (Value.str segment).IsMisleading := by
  have hinteger : segmentIndex? segment = (Value.str segment).toInteger := by
    rw [Value.toInteger, htrim]
    rfl
  have hfault : segmentIndex? segment = .error fault ↔
      fault = .badInteger ∧ ¬Outcome.HasResult (segmentIndex? segment) := by
    rw [segmentIndex?]
    split
    · cases readInteger? segment.toList <;> simp [eq_comm]
    · simp
  rw [hfault, hinteger, Value.hasResult_toInteger, not_not]

/-! ### Walks -/

namespace Value

/-- Whether some segments lead from one value to another one: a segment names the member of an
object that has it as its key, and the item of a list that has it as its index. -/
inductive Leads : Value → List String → Value → Prop
  | done (v : Value) : Leads v [] v
  | member {v part w : Value} {o : Obj} {segment : String} {rest : List String}
      (obj : v.asObj? = some o) (named : Obj.get? o segment = some part)
      (onwards : Leads part rest w) : Leads v (segment :: rest) w
  | item {v part w : Value} {items : List Value} {i : Nat} {segment : String} {rest : List String}
      (list : v.asItems? = some items) (index : IsIndexText segment i)
      (named : items[i]? = some part) (onwards : Leads part rest w) : Leads v (segment :: rest) w

/-- Whether some segments lead to a list with a segment that looks like an integer and is none. -/
def Stumbles (v : Value) (segments : List String) : Prop :=
  ∃ front segment rest u, segments = front ++ segment :: rest ∧ v.Leads front u ∧
    u.asItems?.isSome = true ∧ (str segment).IsMisleading

variable {v w : Value} {segment : String} {rest : List String}

/-- A path stumbles only over a segment that looks like an integer and is none. -/
theorem not_stumbles {segments : List String} (h : ∀ s ∈ segments, ¬(str s).IsMisleading) :
    ¬v.Stumbles segments := by
  rintro ⟨front, segment, rest, u, rfl, -, -, hmisleading⟩
  exact h segment (by simp) hmisleading

theorem leads_nil_iff : v.Leads [] w ↔ v = w := by
  constructor
  · rintro ⟨⟩
    rfl
  · rintro rfl
    exact .done v

theorem asItems?_eq_none_of_asObj? {o : Obj} (h : v.asObj? = some o) : v.asItems? = none := by
  cases v <;> first | rfl | cases h

/-- The part that a segment names is a member of an object or an item of a list. -/
theorem part?_eq_ok_some_iff {part : Value} :
    v.part? segment = .ok (some part) ↔
      (∃ o, v.asObj? = some o ∧ Obj.get? o segment = some part) ∨
        ∃ items, ∃ i : Nat, v.asItems? = some items ∧ IsIndexText segment i ∧
          items[i]? = some part := by
  rw [part?]
  cases hobj : v.asObj? with
  | some o => simp [asItems?_eq_none_of_asObj? hobj]
  | none =>
    cases v.asItems? with
    | none => simp
    | some items =>
      simp only [Outcome.bind_eq_ok_iff, Outcome.pure_eq_ok_iff, Option.bind_eq_some_iff,
        reduceCtorEq, false_and, exists_false, false_or, Option.some.injEq]
      constructor
      · rintro ⟨_, hindex, n, rfl, hitem⟩
        rw [itemAt?] at hitem
        split at hitem
        · cases hitem
        · next hn =>
          refine ⟨items, n.toNat, rfl, ?_, hitem⟩
          rw [Int.toNat_of_nonneg (by omega)]
          exact segmentIndex?_eq_ok_some_iff.mp hindex
      · rintro ⟨_, i, rfl, hindex, hitem⟩
        exact ⟨_, segmentIndex?_eq_ok_some_iff.mpr hindex, i, rfl, by simp [itemAt?, hitem]⟩

theorem part?_eq_error_iff {fault : Fault}
    (htrim : trimBy isBlank segment.toList = segment.toList) :
    v.part? segment = .error fault ↔
      fault = .badInteger ∧ v.asItems?.isSome = true ∧ (str segment).IsMisleading := by
  have hindex (items : List Value) :
      (segmentIndex? segment >>= fun index => pure (index.bind (itemAt? items))) = .error fault ↔
        segmentIndex? segment = .error fault := by
    cases segmentIndex? segment with
    | error e =>
      exact ⟨fun h => congrArg _ (Except.error.inj h), fun h => congrArg _ (Except.error.inj h)⟩
    | ok index => exact iff_of_false nofun nofun
  rw [part?]
  cases hobj : v.asObj? with
  | some o => simp [asItems?_eq_none_of_asObj? hobj]
  | none =>
    cases v.asItems? with
    | none => simp
    | some items =>
      simp only [hindex, segmentIndex?_eq_error_iff htrim, Option.isSome_some, true_and]

/-- Nothing is below null, so that it need not be told from other values without parts. -/
theorem walk_cons (v : Value) (segment : String) (rest : List String) :
    v.walk (segment :: rest) =
      v.part? segment >>= fun part? => part?.elim (.ok none) fun part => part.walk rest := by
  rw [walk]
  split
  · next hnull =>
    obtain rfl : v = .null := by
      cases v <;> first | rfl | cases hnull
    rfl
  · refine Outcome.bind_congr fun part? _ => ?_
    cases part? <;> rfl

theorem leads_cons_iff :
    v.Leads (segment :: rest) w ↔
      ∃ part, v.part? segment = .ok (some part) ∧ part.Leads rest w := by
  constructor
  · rintro (_ | ⟨hobj, hpart, hrest⟩ | ⟨hlist, hindex, hpart, hrest⟩)
    · exact ⟨_, part?_eq_ok_some_iff.mpr (.inl ⟨_, hobj, hpart⟩), hrest⟩
    · exact ⟨_, part?_eq_ok_some_iff.mpr (.inr ⟨_, _, hlist, hindex, hpart⟩), hrest⟩
  · rintro ⟨part, hpart, hrest⟩
    rcases part?_eq_ok_some_iff.mp hpart with ⟨o, hobj, hpart⟩ | ⟨items, i, hlist, hindex, hpart⟩
    · exact .member hobj hpart hrest
    · exact .item hlist hindex hpart hrest

theorem stumbles_cons_iff (htrim : trimBy isBlank segment.toList = segment.toList) :
    v.Stumbles (segment :: rest) ↔ v.part? segment = .error .badInteger ∨
      ∃ part, v.part? segment = .ok (some part) ∧ part.Stumbles rest := by
  constructor
  · rintro ⟨_ | ⟨first, front⟩, stone, back, u, hsplit, hleads, hlist, hmisleading⟩
    · obtain ⟨rfl, rfl⟩ := List.cons.inj hsplit
      obtain rfl := leads_nil_iff.mp hleads
      exact .inl ((part?_eq_error_iff htrim).mpr ⟨rfl, hlist, hmisleading⟩)
    · obtain ⟨rfl, rfl⟩ := List.cons.inj hsplit
      obtain ⟨part, hpart, hleads⟩ := leads_cons_iff.mp hleads
      exact .inr ⟨part, hpart, front, stone, back, u, rfl, hleads, hlist, hmisleading⟩
  · rintro (herror | ⟨part, hpart, front, stone, back, u, rfl, hleads, hstone⟩)
    · obtain ⟨-, hstone⟩ := (part?_eq_error_iff htrim).mp herror
      exact ⟨[], segment, rest, v, rfl, .done v, hstone⟩
    · exact ⟨segment :: front, stone, back, u, rfl, leads_cons_iff.mpr ⟨part, hpart, hleads⟩,
        hstone⟩

/-- A walk reaches what its segments lead to. -/
theorem walk_eq_ok_some_iff {segments : List String} :
    v.walk segments = .ok (some w) ↔ v.Leads segments w := by
  induction segments generalizing v with
  | nil => simp [walk, leads_nil_iff]
  | cons segment rest ih =>
    rw [walk_cons, leads_cons_iff, Outcome.bind_eq_ok_iff]
    constructor
    · rintro ⟨_ | part, hpart, hrest⟩
      · cases hrest
      · exact ⟨part, hpart, ih.mp hrest⟩
    · rintro ⟨part, hpart, hrest⟩
      exact ⟨some part, hpart, ih.mpr hrest⟩

/-- A walk is at fault exactly if its segments stumble. -/
theorem walk_eq_error_iff {segments : List String} {fault : Fault}
    (htrim : ∀ s ∈ segments, trimBy isBlank s.toList = s.toList) :
    v.walk segments = .error fault ↔ fault = .badInteger ∧ v.Stumbles segments := by
  induction segments generalizing v with
  | nil =>
    refine iff_of_false nofun ?_
    rintro ⟨-, front, segment, rest, u, hsplit, -⟩
    simp at hsplit
  | cons segment rest ih =>
    rw [List.forall_mem_cons] at htrim
    rw [walk_cons, stumbles_cons_iff htrim.1]
    cases hpart : v.part? segment with
    | error e =>
      obtain ⟨rfl, -⟩ := (part?_eq_error_iff htrim.1).mp hpart
      exact ⟨fun h => ⟨(Except.error.inj h).symm, .inl rfl⟩, fun h => by rw [h.1]; rfl⟩
    | ok part? =>
      cases part? with
      | none => simp
      | some part => simpa using ih htrim.2

end Value

/-! ### Paths -/

/-- The segments of a path have no blanks at their ends. -/
theorem trimBy_of_mem_pathSegments {path segment : String} (h : segment ∈ pathSegments path) :
    trimBy isBlank segment.toList = segment.toList := by
  obtain ⟨chars, hchars, rfl⟩ := List.mem_map.mp h
  obtain ⟨piece, -, rfl⟩ := List.mem_map.mp (List.mem_of_mem_filter hchars)
  rw [String.toList_ofList, trimBy_trimBy]

namespace Value

/-- A path has segments exactly if it has a text. -/
theorem hasResult_pathSegments {path : Value} :
    Outcome.HasResult path.pathSegments ↔ path.HasText := by
  unfold pathSegments
  split
  · simp
  · rw [Outcome.hasResult_bind_pure, hasResult_text]

theorem trimBy_of_pathSegments {path : Value} {segments : List String}
    (h : path.pathSegments = .ok segments) :
    ∀ s ∈ segments, trimBy isBlank s.toList = s.toList := by
  unfold pathSegments at h
  split at h
  · rw [Except.ok.injEq] at h
    simp [← h]
  · simp only [Outcome.bind_eq_ok_iff, Outcome.pure_eq_ok_iff] at h
    obtain ⟨text, -, rfl⟩ := h
    exact fun s hs => trimBy_of_mem_pathSegments hs

/-- The value at a path is the one that its segments lead to, or the default if they lead nowhere or
there are none, unless they stumble. -/
theorem atPath_spec (doc default : Value) {path : Value} {segments : List String}
    (hpath : path.pathSegments = .ok segments) :
    (doc.Stumbles segments → doc.atPath path default = .error .badInteger) ∧
      (∀ w, segments ≠ [] → doc.Leads segments w → doc.atPath path default = .ok w) ∧
      (¬doc.Stumbles segments → (∀ w, segments ≠ [] → ¬doc.Leads segments w) →
        doc.atPath path default = .ok default) := by
  have htrim := trimBy_of_pathSegments hpath
  rw [atPath, hpath, Outcome.ok_bind]
  cases segments with
  | nil =>
    refine ⟨?_, fun _ hne => absurd rfl hne, fun _ _ => rfl⟩
    rintro ⟨front, segment, rest, u, hsplit, -⟩
    simp at hsplit
  | cons segment rest =>
    simp only
    refine ⟨fun hstumbles => ?_, fun w _ hleads => ?_, fun hclear hnone => ?_⟩
    · rw [(walk_eq_error_iff htrim).mpr ⟨rfl, hstumbles⟩]
      rfl
    · rw [walk_eq_ok_some_iff.mpr hleads]
      rfl
    · cases hwalk : doc.walk (segment :: rest) with
      | error fault => exact absurd ((walk_eq_error_iff htrim).mp hwalk).2 hclear
      | ok reached =>
        cases reached with
        | none => rfl
        | some w => exact absurd (walk_eq_ok_some_iff.mp hwalk) (hnone w (List.cons_ne_nil _ _))

theorem onlyFault_part? (v : Value) (segment : String) :
    OnlyFault .badInteger (v.part? segment) := by
  unfold part?
  split
  · exact onlyFault_ok _ _
  · split
    · refine OnlyFault.bind ?_ fun _ => onlyFault_pure _ _
      rw [segmentIndex?]
      split
      · split
        · exact onlyFault_ok _ _
        · exact onlyFault_error _
      · exact onlyFault_ok _ _
    · exact onlyFault_ok _ _

theorem onlyFault_walk (v : Value) (segments : List String) :
    OnlyFault .badInteger (v.walk segments) := by
  induction segments generalizing v with
  | nil => exact onlyFault_ok _ _
  | cons segment rest ih =>
    rw [walk_cons]
    refine (onlyFault_part? v segment).bind fun part? => ?_
    cases part? with
    | none => exact onlyFault_ok _ _
    | some part => exact ih part

theorem onlyFault_atPath (doc path default : Value) :
    OnlyFault .badInteger (doc.atPath path default) := by
  have hpath : OnlyFault .badInteger path.pathSegments := by
    unfold pathSegments
    split
    · exact onlyFault_ok _ _
    · exact (onlyFault_text path).bind fun _ => onlyFault_pure _ _
  refine hpath.bind fun segments => ?_
  split
  · exact onlyFault_pure _ _
  · exact (onlyFault_walk doc _).bind fun _ => onlyFault_pure _ _

/-- A path has no value, nor a default in its place, exactly if it has no text or it stumbles. -/
theorem atPath_eq_error_iff {doc path default : Value} :
    doc.atPath path default = .error .badInteger ↔
      ¬path.HasText ∨ ∃ segments, path.pathSegments = .ok segments ∧ doc.Stumbles segments := by
  by_cases hpath : path.HasText
  · obtain ⟨segments, hsegments⟩ := hasResult_pathSegments.mpr hpath
    obtain ⟨hstumbles, hleads, hnone⟩ := atPath_spec doc default hsegments
    simp only [hpath, not_true_eq_false, false_or, hsegments, Except.ok.injEq, exists_eq_left']
    refine (Outcome.iff_of_fails hstumbles fun hclear => ?_).1
    by_cases hw : ∃ w, segments ≠ [] ∧ doc.Leads segments w
    · obtain ⟨w, hne, hw⟩ := hw
      exact ⟨w, hleads w hne hw⟩
    · simp only [not_exists, not_and] at hw
      exact ⟨default, hnone hclear hw⟩
  · refine iff_of_true ((onlyFault_atPath _ _ _).eq_error_iff.mpr ?_) (.inl hpath)
    rintro ⟨w, hw⟩
    rw [atPath, Outcome.bind_eq_ok_iff] at hw
    obtain ⟨segments, hsegments, -⟩ := hw
    exact hpath (hasResult_pathSegments.mp ⟨segments, hsegments⟩)

end Value

end ContentEngine
