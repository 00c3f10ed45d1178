import ContentEngine.Proofs.Key
import ContentEngine.Repeater.Basic

/-!
# Rows under the keys of their subfields

`get?_alignKey` says what one step of `alignRow` does, and everything else follows from it: an
aligned row holds no alias any more (`alignRow_alignRow`), and a value that stands under a key
stays there, unless the key is the alias of another one, in which case it is gone
(`get?_alignRow`). `get?_alignRow_eq` says what an aligned row holds under any text, so that two
rows are aligned alike wherever they agree on what is moved there (`get?_alignRow_congr`).
-/

namespace ContentEngine

variable {subfields : List Subfield} {row : Obj} {key k : String}

/-! ### One key -/

theorem get?_alignKey (row : Obj) (key k : String) :
    Obj.get? (alignKey row key) k =
      if hasAlias key = true ∧ Obj.has row (camelCase key) = true then
        if k = key then some ((Obj.get? row key).getD (Obj.get row (camelCase key)))
        else if k = camelCase key then none
        else Obj.get? row k
      else Obj.get? row k := by
  by_cases hmoved : hasAlias key = true ∧ Obj.has row (camelCase key) = true
  · -- the alias is another key, so that taking it out leaves the key alone
    have hne : key ≠ camelCase key := Ne.symm (hasAlias_iff.mp hmoved.1)
    have hrow : alignKey row key =
        Obj.setDefault (Obj.erase row (camelCase key)) key (Obj.get row (camelCase key)) := by
      rw [alignKey]
      exact if_pos (by rw [Bool.and_eq_true]; exact hmoved)
    rw [hrow, if_pos hmoved, Obj.get?_setDefault, Obj.get?_erase, Obj.get?_erase, if_neg hne]
  · have hrow : alignKey row key = row := by
      rw [alignKey]
      exact if_neg (by rw [Bool.and_eq_true]; exact hmoved)
    rw [hrow, if_neg hmoved]

/-- Without an alias there is nothing to move. -/
theorem alignKey_eq_self (h : hasAlias key = true → Obj.has row (camelCase key) = false) :
    alignKey row key = row := by
  rw [alignKey]
  refine if_neg ?_
  rw [Bool.and_eq_true]
  rintro ⟨halias, hhas⟩
  rw [h halias] at hhas
  contradiction

/-- Once a key has been aligned, its alias is gone. -/
theorem get?_alignKey_camelCase (row : Obj) (h : hasAlias key = true) :
    Obj.get? (alignKey row key) (camelCase key) = none := by
  rw [get?_alignKey]
  by_cases hhas : Obj.has row (camelCase key) = true
  · rw [if_pos ⟨h, hhas⟩, if_neg (hasAlias_iff.mp h), if_pos rfl]
  · rw [if_neg fun hmoved => hhas hmoved.2]
    rw [Obj.has_eq_isSome] at hhas
    simpa using hhas

/-- A key that is not there and has no alias does not come to be there. -/
theorem get?_alignKey_eq_none (hk : hasAlias k = false ∨ k ≠ key)
    (hnone : Obj.get? row k = none) : Obj.get? (alignKey row key) k = none := by
  rw [get?_alignKey]
  split
  · next hmoved =>
    have hne : k ≠ key := by
      rintro rfl
      rcases hk with hk | hk
      · rw [hk] at hmoved
        exact absurd hmoved.1 (by decide)
      · exact hk rfl
    rw [if_neg hne]
    split
    · rfl
    · exact hnone
  · exact hnone

/-- A value stays under a key that is not the alias. -/
theorem get?_alignKey_of_some {v : Value} (hne : hasAlias key = true → k ≠ camelCase key)
    (hk : Obj.get? row k = some v) : Obj.get? (alignKey row key) k = some v := by
  rw [get?_alignKey]
  split
  · next hmoved =>
    split
    · next heq =>
      subst heq
      rw [hk, Option.getD_some]
    · rw [if_neg (hne hmoved.1)]
      exact hk
  · exact hk

/-! ### All keys -/

theorem alignRow_cons (s : Subfield) (rest : List Subfield) (row : Obj) :
    alignRow (s :: rest) row = alignRow rest (alignKey row s.key) := rfl

/-- An alias that is not there does not come back. -/
theorem get?_alignRow_camelCase_of_none (hkeys : ∀ s ∈ subfields, IsKey s.key) (hkey : IsKey key)
    (hnone : Obj.get? row (camelCase key) = none) :
    Obj.get? (alignRow subfields row) (camelCase key) = none := by
  induction subfields generalizing row with
  | nil => exact hnone
  | cons s rest ih =>
    rw [alignRow_cons]
    exact ih (fun t ht => hkeys t (List.mem_cons_of_mem s ht))
      (get?_alignKey_eq_none (.inl (hasAlias_camelCase hkey)) hnone)

/-- No alias of a subfield is left in an aligned row. -/
theorem get?_alignRow_camelCase (hkeys : ∀ s ∈ subfields, IsKey s.key) (row : Obj)
    {s : Subfield} (hs : s ∈ subfields) (halias : hasAlias s.key = true) :
    Obj.get? (alignRow subfields row) (camelCase s.key) = none := by
  induction subfields generalizing row with
  | nil => simp at hs
  | cons t rest ih =>
    have hrest : ∀ u ∈ rest, IsKey u.key := fun u hu => hkeys u (List.mem_cons_of_mem t hu)
    rw [alignRow_cons]
    rcases List.mem_cons.mp hs with rfl | hs
    · -- its own step takes the alias out, and no later one brings it back
      exact get?_alignRow_camelCase_of_none hrest (hkeys s List.mem_cons_self)
        (get?_alignKey_camelCase row halias)
    · exact ih hrest _ hs

/-- A row in which no alias of a subfield is left is aligned. -/
theorem alignRow_eq_self
    (h : ∀ s ∈ subfields, hasAlias s.key = true → Obj.has row (camelCase s.key) = false) :
    alignRow subfields row = row := by
  induction subfields with
  | nil => rfl
  | cons s rest ih =>
    rw [alignRow_cons, alignKey_eq_self (h s List.mem_cons_self)]
    exact ih fun t ht => h t (List.mem_cons_of_mem s ht)

theorem alignRow_alignRow (hkeys : ∀ s ∈ subfields, IsKey s.key) (row : Obj) :
    alignRow subfields (alignRow subfields row) = alignRow subfields row := by
  refine alignRow_eq_self fun s hs halias => ?_
  exact Obj.has_of_get?_eq_none (get?_alignRow_camelCase hkeys row hs halias)

/-- A value stays under its key. -/
theorem get?_alignRow_of_some {v : Value}
    (hne : ∀ s ∈ subfields, hasAlias s.key = true → k ≠ camelCase s.key)
    (hk : Obj.get? row k = some v) : Obj.get? (alignRow subfields row) k = some v := by
  induction subfields generalizing row with
  | nil => exact hk
  | cons s rest ih =>
    rw [alignRow_cons]
    exact ih (fun t ht => hne t (List.mem_cons_of_mem s ht))
      (get?_alignKey_of_some (hne s List.mem_cons_self) hk)

/-- What an aligned row holds under a key that the row has: the value that is there, or nothing if
the key is the alias of another one. -/
theorem get?_alignRow (hkeys : ∀ s ∈ subfields, IsKey s.key) (hk : Obj.has row k = true) :
    Obj.get? (alignRow subfields row) k =
      if HasRival (subfields.map (·.key)) k then none else Obj.get? row k := by
  obtain ⟨v, hv⟩ : ∃ v, Obj.get? row k = some v := ⟨_, Obj.get?_eq_some_get hk⟩
  split
  · next hrival =>
    obtain ⟨other, hother, hne, rfl⟩ := hrival
    obtain ⟨s, hs, rfl⟩ := List.mem_map.mp hother
    exact get?_alignRow_camelCase hkeys row hs (hasAlias_iff.mpr hne.symm)
  · next hrival =>
    rw [hv]
    refine get?_alignRow_of_some (fun s hs halias heq => hrival ⟨s.key, ?_, ?_, heq.symm⟩) hv
    · exact List.mem_map.mpr ⟨s, hs, rfl⟩
    · rw [heq]
      exact Ne.symm (hasAlias_iff.mp halias)

/-! ### Where a value comes from -/

/-- The key to which the value under a text is moved: the first one of which the text is the
alias. -/
def aliasOwner? (subfields : List Subfield) (k : String) : Option String :=
  (subfields.map (·.key)).find? fun key => hasAlias key && camelCase key == k

theorem aliasOwner?_cons_of_not {s : Subfield} {rest : List Subfield}
    (h : ¬(hasAlias s.key = true ∧ camelCase s.key = k)) :
    aliasOwner? (s :: rest) k = aliasOwner? rest k := by
  rw [aliasOwner?, List.map_cons, List.find?_cons_of_neg (by simpa using h), aliasOwner?]

theorem aliasOwner?_cons_of_eq {s : Subfield} {rest : List Subfield} (h : hasAlias s.key = true) :
    aliasOwner? (s :: rest) (camelCase s.key) = some s.key := by
  rw [aliasOwner?, List.map_cons, List.find?_cons_of_pos (by simpa using h)]

/-- Only keys own an alias. -/
theorem isKey_of_aliasOwner? (hkeys : ∀ s ∈ subfields, IsKey s.key)
    (h : aliasOwner? subfields k = some key) : IsKey key ∧ camelCase key = k := by
  obtain ⟨s, hs, rfl⟩ := List.mem_map.mp (List.mem_of_find?_eq_some h)
  have hfound := List.find?_some h
  rw [Bool.and_eq_true, beq_iff_eq] at hfound
  exact ⟨hkeys s hs, hfound.2⟩

/-- A key with an alias is itself no alias of a key. -/
theorem aliasOwner?_eq_none (hkeys : ∀ s ∈ subfields, IsKey s.key) (h : hasAlias k = true) :
    aliasOwner? subfields k = none := by
  rw [Option.eq_none_iff_forall_ne_some]
  intro key howner
  obtain ⟨hkey, heq⟩ := isKey_of_aliasOwner? hkeys howner
  exact ne_camelCase_of_hasAlias h hkey heq.symm

theorem get?_alignKey_of_hasAlias (row : Obj) (h : hasAlias key = true) (k : String) :
    Obj.get? (alignKey row key) k =
      if k = key then (Obj.get? row key).or (Obj.get? row (camelCase key))
      else if k = camelCase key then none
      else Obj.get? row k := by
  rw [get?_alignKey]
  by_cases hhas : Obj.has row (camelCase key) = true
  · rw [if_pos ⟨h, hhas⟩, Obj.get?_eq_some_get hhas]
    cases Obj.get? row key <;> rfl
  · have hnone : Obj.get? row (camelCase key) = none := by
      rw [Obj.has_eq_isSome] at hhas
      simpa using hhas
    rw [if_neg fun hmoved => hhas hmoved.2, hnone, Option.or_none]
    split
    · next heq => rw [heq]
    · split
      · next heq => rw [heq, hnone]
      · rfl

/-- What an aligned row holds under any text: nothing under an alias, under a key that owns its
alias also what was given under the alias, and otherwise what was given. -/
theorem get?_alignRow_eq (hkeys : ∀ s ∈ subfields, IsKey s.key) (row : Obj) (k : String) :
    Obj.get? (alignRow subfields row) k =
      if (aliasOwner? subfields k).isSome then none
      else if aliasOwner? subfields (camelCase k) = some k then
        (Obj.get? row k).or (Obj.get? row (camelCase k))
      else Obj.get? row k := by
  induction subfields generalizing row with
  | nil => rfl
  | cons s rest ih =>
    have hrest : ∀ t ∈ rest, IsKey t.key := fun t ht => hkeys t (List.mem_cons_of_mem s ht)
    have hs : IsKey s.key := hkeys s List.mem_cons_self
    rw [alignRow_cons, ih hrest]
    cases halias : hasAlias s.key with
    | false =>
      have hnot : ∀ j, ¬(hasAlias s.key = true ∧ camelCase s.key = j) := by simp [halias]
      rw [alignKey_eq_self (by simp [halias]), aliasOwner?_cons_of_not (hnot _),
        aliasOwner?_cons_of_not (hnot _)]
    | true =>
      have hget := get?_alignKey_of_hasAlias row halias
      have hne := hasAlias_iff.mp halias
      by_cases hown : k = s.key
      · -- the key takes what is under its alias; later keys with the same alias find nothing
        subst hown
        rw [aliasOwner?_eq_none hrest halias, aliasOwner?_eq_none hkeys halias,
          aliasOwner?_cons_of_eq halias, if_pos rfl, hget, hget, if_pos rfl, if_neg hne, if_pos rfl,
          Option.or_none, ite_self]
      · by_cases hgone : k = camelCase s.key
        · -- the alias is gone, and it is not brought back, since it has no alias itself
          subst hgone
          have hself : camelCase (camelCase s.key) = camelCase s.key := by
            simpa [hasAlias] using hasAlias_camelCase hs
          rw [aliasOwner?_cons_of_eq halias, hself, hget, if_neg hne, if_pos rfl, Option.or_none,
            ite_self, ite_self]
          rfl
        · -- any other text is out of reach of this step
          rw [aliasOwner?_cons_of_not fun h => hgone h.2.symm, hget, if_neg hown, if_neg hgone]
          by_cases hshared : camelCase k = camelCase s.key
          · have hnone : Obj.get? (alignKey row s.key) (camelCase k) = none := by
              rw [hshared]
              exact get?_alignKey_camelCase row halias
            rw [hnone, Option.or_none, ite_self, hshared, aliasOwner?_cons_of_eq halias,
              if_neg fun h => hown (Option.some.inj h).symm]
          · rw [aliasOwner?_cons_of_not fun h => hshared h.2.symm]
            by_cases howner : aliasOwner? rest (camelCase k) = some k
            · have hk : s.key ≠ camelCase k :=
                ne_camelCase_of_hasAlias halias (isKey_of_aliasOwner? hrest howner).1
              rw [hget, if_neg hk.symm, if_neg hshared]
            · rw [if_neg howner, if_neg howner]

/-- The texts under which a row may give the value that its aligned row holds under a text. -/
def alignSources (subfields : List Subfield) (k : String) : List String :=
  if (aliasOwner? subfields k).isSome then []
  else if aliasOwner? subfields (camelCase k) = some k then [k, camelCase k]
  else [k]

/-- Rows that agree on the sources of a text are aligned to rows that agree on it. -/
theorem get?_alignRow_congr (hkeys : ∀ s ∈ subfields, IsKey s.key) {a b : Obj}
    (h : ∀ source ∈ alignSources subfields k, Obj.get? a source = Obj.get? b source) :
    Obj.get? (alignRow subfields a) k = Obj.get? (alignRow subfields b) k := by
  rw [get?_alignRow_eq hkeys, get?_alignRow_eq hkeys]
  rw [alignSources] at h
  split
  · rfl
  · next hnone =>
    rw [if_neg hnone] at h
    split
    · next howner =>
      rw [if_pos howner] at h
      rw [h k (by simp), h (camelCase k) (by simp)]
    · next howner =>
      rw [if_neg howner] at h
      exact h k (by simp)

end ContentEngine
