import Mathlib.Algebra.Group.Nat.Defs
import Mathlib.Data.List.Induction
import ContentEngine.Json.Reader
import ContentEngine.Proofs.Value.Text

/-!
# What is told in JSON has a text

The reader for JSON takes no integer that has more digits than an integer may have to be written
again. So whatever a JSON text denotes has a text (`Value.hasText_of_readJson`).
-/

namespace ContentEngine

/-! ### Integers -/

theorem digitsValue_lt_pow {digits : List Char} (h : ∀ c ∈ digits, isAsciiDigit c = true) :
    digitsValue digits < 10 ^ digits.length := by
  induction digits using List.reverseRecOn with
  | nil => decide
  | append_singleton init c ih =>
    have hinit := ih fun d hd => h d (List.mem_append_left _ hd)
    have hc : c.toNat - 48 ≤ 9 := by
      have hdigit := h c (List.mem_append_right _ (List.mem_singleton_self c))
      simp only [isAsciiDigit, Bool.and_eq_true, decide_eq_true_eq, Char.le_def] at hdigit
      have hle : c.toNat ≤ 57 := hdigit.2
      omega
    rw [digitsValue_append_singleton, List.length_append, List.length_singleton, Nat.pow_succ]
    omega

/-- A whole number is read from digits, at least one of them. -/
theorem digits_of_takeWhole? {text digits rest : List Char}
    (h : takeWhole? text = some (digits, rest)) :
    digits ≠ [] ∧ ∀ c ∈ digits, isAsciiDigit c = true := by
  unfold takeWhole? at h
  split at h
  · cases h
  · next c cs =>
    split at h
    · obtain ⟨rfl, -⟩ := Prod.mk.inj (Option.some.inj h)
      exact ⟨by simp, List.forall_mem_singleton.mpr (by decide)⟩
    · split at h
      · next hdigit =>
        obtain ⟨rfl, -⟩ := Prod.mk.inj (Option.some.inj h)
        refine ⟨by simp, List.forall_mem_cons.mpr ⟨hdigit, fun d hd => ?_⟩⟩
        exact List.all_eq_true.mp List.all_takeWhile d hd
      · cases h

namespace Value

theorem hasText_obj {members : Obj} :
    (obj members).HasText ↔ ∀ m ∈ members, m.2.HasText := by
  rw [hasText_iff, parts, List.forall_mem_map]
  exact and_iff_right trivial

theorem hasText_list {items : List Value} : (list items).HasText ↔ ∀ v ∈ items, v.HasText :=
  hasText_iff.trans (and_iff_right trivial)

theorem hasText_float (x : Float) : (float x).HasText := hasText_of_parts_eq_nil rfl trivial

theorem hasText_int_of_digits {negative : Bool} {digits : List Char} (hne : digits ≠ [])
    (hdigits : ∀ c ∈ digits, isAsciiDigit c = true) (hlength : digits.length ≤ maxIntegerDigits) :
    (int (signed negative (digitsValue digits))).HasText := by
  have habs : (signed negative (digitsValue digits)).natAbs = digitsValue digits := by
    cases negative <;> simp [signed]
  rw [hasText_int, IsShort, habs, digitText]
  refine le_trans ?_ hlength
  exact (Nat.length_toDigits_le_iff (by decide) (List.length_pos_iff.mpr hne)).mpr
    (digitsValue_lt_pow hdigits)

end Value

/-! ### Objects -/

theorem Obj.mem_set {o : Obj} {key : String} {v : Value} {m : String × Value}
    (h : m ∈ set o key v) : m = (key, v) ∨ m ∈ o := by
  induction o with
  | nil => exact .inl (List.mem_singleton.mp h)
  | cons first rest ih =>
    obtain ⟨k, old⟩ := first
    have hset : set ((k, old) :: rest) key v =
        if k = key then (k, v) :: rest else (k, old) :: set rest key v := rfl
    rw [hset] at h
    split at h
    · next hk =>
      subst hk
      exact (List.mem_cons.mp h).imp_right (List.mem_cons_of_mem _)
    · rcases List.mem_cons.mp h with rfl | h
      · exact .inr List.mem_cons_self
      · exact (ih h).imp_right (List.mem_cons_of_mem _)

theorem Obj.mem_merge {o members : Obj} {m : String × Value} (h : m ∈ merge o members) :
    m ∈ o ∨ m ∈ members := by
  induction members generalizing o with
  | nil => exact .inl h
  | cons first rest ih =>
    rcases ih h with hset | hrest
    · exact (mem_set hset).elim (fun hm => .inr (hm ▸ List.mem_cons_self)) .inl
    · exact .inr (List.mem_cons_of_mem _ hrest)

theorem Table.set_append_of_not_mem {α : Type} {front : Table α} {key : String}
    (h : key ∉ Table.keys front) (t : Table α) (a : α) :
    Table.set (front ++ t) key a = front ++ Table.set t key a := by
  induction front with
  | nil => rfl
  | cons row rest ih =>
    obtain ⟨k, old⟩ := row
    rw [Table.keys, List.map_cons, List.mem_cons, not_or] at h
    rw [List.cons_append, Table.set, if_neg (Ne.symm h.1), ih h.2, List.cons_append]

/-- Members that start with all keys of an object take its place when they are written into it. -/
theorem Obj.merge_append_of_prefix {front base o : Obj} (hkeys : keys base <+: keys o)
    (hnodup : (keys (front ++ o)).Nodup) : merge (front ++ base) o = front ++ o := by
  induction o generalizing front base with
  | nil =>
    have hnil : base = [] := List.map_eq_nil_iff.mp (List.prefix_nil.mp hkeys)
    rw [hnil]
    rfl
  | cons member rest ih =>
    have hnew : member.1 ∉ Table.keys front := by
      intro hmem
      rw [keys, Table.keys, List.map_append] at hnodup
      exact (List.nodup_append.mp hnodup).2.2 _ hmem _ List.mem_cons_self rfl
    have hstep : merge (front ++ base) (member :: rest) =
        merge (Table.set (front ++ base) member.1 member.2) rest := rfl
    obtain ⟨others, hset, hothers⟩ : ∃ others, Table.set base member.1 member.2 = member :: others ∧
        keys others <+: keys rest := by
      cases base with
      | nil => exact ⟨[], rfl, List.nil_prefix⟩
      | cons first others =>
        obtain ⟨hkey, hrest⟩ := List.cons_prefix_cons.mp hkeys
        refine ⟨others, ?_, hrest⟩
        obtain ⟨k, old⟩ := first
        obtain rfl : k = member.1 := hkey
        rw [Table.set, if_pos rfl]
    rw [hstep, Table.set_append_of_not_mem hnew, hset, List.append_cons, ih hothers,
      ← List.append_cons]
    rwa [← List.append_cons]

theorem Obj.merge_of_prefix {base o : Obj} (hkeys : keys base <+: keys o)
    (hnodup : (keys o).Nodup) : merge base o = o :=
  (List.nil_append base).symm ▸ merge_append_of_prefix hkeys hnodup

theorem Obj.mem_of_mem_ofMembers {members : Obj} {m : String × Value} (h : m ∈ ofMembers members) :
    m ∈ members :=
  (mem_merge h).resolve_left List.not_mem_nil

theorem Obj.exists_of_get? {o : Obj} {key : String} {v : Value} (h : Obj.get? o key = some v) :
    ∃ m ∈ o, m.2 = v := by
  induction o with
  | nil => cases h
  | cons first rest ih =>
    rw [Obj.get?_cons first.1 first.2 rest] at h
    split at h
    · exact ⟨first, List.mem_cons_self, Option.some.inj h⟩
    · obtain ⟨m, hm, hv⟩ := ih h
      exact ⟨m, List.mem_cons_of_mem _ hm, hv⟩

/-- Whatever an object holds has a text if the object has one. -/
theorem Value.HasText.get {o : Obj} (h : (obj o).HasText) (key : String) :
    (Obj.get o key).HasText := by
  rw [Obj.get]
  cases hkey : Obj.get? o key with
  | none => exact hasText_null
  | some v =>
    obtain ⟨m, hm, rfl⟩ := Obj.exists_of_get? hkey
    exact hasText_obj.mp h m hm

theorem Value.mem_of_mem_textRows {rows : List (Value × Value)} {m : String × Value}
    (h : m ∈ textRows rows) : (str m.1, m.2) ∈ rows := by
  induction rows with
  | nil => contradiction
  | cons row rest ih =>
    obtain ⟨key, value⟩ := row
    cases key with
    | str text =>
      rcases List.mem_cons.mp h with rfl | h
      · exact List.mem_cons_self
      · exact List.mem_cons_of_mem _ (ih h)
    | _ => exact List.mem_cons_of_mem _ (ih h)

/-- The members of a value that has a text have one as an object, too. -/
theorem Value.HasText.asObj? {v : Value} {o : Obj} (h : v.HasText) (ho : v.asObj? = some o) :
    (obj o).HasText := by
  unfold Value.asObj? at ho
  split at ho
  · exact Option.some.inj ho ▸ h
  · next rows =>
    obtain rfl := Option.some.inj ho
    refine hasText_obj.mpr fun m hm => (hasText_iff.mp h).2 m.2 ?_
    exact List.mem_flatMap.mpr ⟨_, mem_of_mem_textRows hm, by simp⟩
  · contradiction

/-! ### Reading -/

open Value (HasText)

theorem hasText_of_readNumber {negative : Bool} {text rest : List Char} {v : Value}
    (h : readNumber maxIntegerDigits negative text = some (v, rest)) : v.HasText := by
  unfold readNumber at h
  split at h
  · cases h
  · next whole after hwhole =>
    obtain ⟨hne, hdigits⟩ := digits_of_takeWhole? hwhole
    split at h
    · split at h
      · next hlength =>
        obtain ⟨rfl, -⟩ := Prod.mk.inj (Option.some.inj h)
        exact Value.hasText_int_of_digits hne hdigits hlength
      · cases h
    all_goals
      obtain ⟨rfl, -⟩ := Prod.mk.inj (Option.some.inj h)
      exact Value.hasText_float _

theorem hasText_of_readScalar {text rest : List Char} {v : Value}
    (h : readScalar maxIntegerDigits text = some (v, rest)) : v.HasText := by
  have hnamed : ∀ named ∈ namedValues, named.2.HasText := by
    simp [namedValues, Value.hasText_float]
  unfold readScalar at h
  split at h
  · next found hfound =>
    obtain rfl := Option.some.inj h
    obtain ⟨named, hmem, hdrop⟩ := List.exists_of_findSome?_eq_some hfound
    obtain ⟨after, -, hpair⟩ := Option.map_eq_some_iff.mp hdrop
    exact (Prod.mk.inj hpair).1 ▸ hnamed named hmem
  · split at h <;> exact hasText_of_readNumber h

/-- Values, items and members that are read have texts. -/
theorem hasText_of_readValue (fuel : Nat) :
    (∀ text v rest, readValue maxIntegerDigits fuel text = some (v, rest) → v.HasText) ∧
    (∀ text vs rest, readItems maxIntegerDigits fuel text = some (vs, rest) →
      ∀ v ∈ vs, v.HasText) ∧
    (∀ text ms rest, readMembers maxIntegerDigits fuel text = some (ms, rest) →
      ∀ m ∈ ms, m.2.HasText) := by
  induction fuel with
  | zero => simp [readValue, readItems, readMembers]
  | succ fuel ih =>
    obtain ⟨ihValue, ihItems, ihMembers⟩ := ih
    refine ⟨?_, ?_, ?_⟩
    · intro text v rest h
      unfold readValue at h
      split at h
      · simp only [Option.map_eq_some_iff, Prod.exists, Prod.mk.injEq] at h
        obtain ⟨s, -, -, rfl, -⟩ := h
        exact Value.hasText_str s
      · split at h
        · obtain ⟨rfl, -⟩ := Prod.mk.inj (Option.some.inj h)
          exact Value.hasText_list.mpr (by simp)
        · simp only [Option.map_eq_some_iff, Prod.exists, Prod.mk.injEq] at h
          obtain ⟨vs, after, hvs, rfl, -⟩ := h
          exact Value.hasText_list.mpr (ihItems _ _ _ hvs)
      · split at h
        · obtain ⟨rfl, -⟩ := Prod.mk.inj (Option.some.inj h)
          exact Value.hasText_obj.mpr (by simp)
        · simp only [Option.map_eq_some_iff, Prod.exists, Prod.mk.injEq] at h
          obtain ⟨ms, after, hms, rfl, -⟩ := h
          exact Value.hasText_obj.mpr fun m hm =>
            ihMembers _ _ _ hms m (Obj.mem_of_mem_ofMembers hm)
      · exact hasText_of_readScalar h
    · intro text vs rest h
      unfold readItems at h
      split at h
      · cases h
      · next value after hvalue =>
        have hfirst := ihValue _ _ _ hvalue
        split at h
        · obtain ⟨rfl, -⟩ := Prod.mk.inj (Option.some.inj h)
          exact List.forall_mem_singleton.mpr hfirst
        · simp only [Option.map_eq_some_iff, Prod.exists, Prod.mk.injEq] at h
          obtain ⟨others, after', hothers, rfl, -⟩ := h
          exact List.forall_mem_cons.mpr ⟨hfirst, ihItems _ _ _ hothers⟩
        · cases h
    · intro text ms rest h
      unfold readMembers at h
      split at h
      · split at h
        · cases h
        · split at h
          · split at h
            · cases h
            · next value after hvalue =>
              have hfirst := ihValue _ _ _ hvalue
              split at h
              · obtain ⟨rfl, -⟩ := Prod.mk.inj (Option.some.inj h)
                exact List.forall_mem_singleton.mpr hfirst
              · simp only [Option.map_eq_some_iff, Prod.exists, Prod.mk.injEq] at h
                obtain ⟨others, after', hothers, rfl, -⟩ := h
                exact List.forall_mem_cons.mpr ⟨hfirst, ihMembers _ _ _ hothers⟩
              · cases h
          · cases h
      · cases h

/-- Whatever a JSON text denotes has a text. -/
theorem Value.hasText_of_readJson {text : List Char} {v : Value} (h : readJson text = some v) :
    v.HasText := by
  unfold readJson readJsonWithin at h
  split at h
  · next value rest hread =>
    split at h
    · exact Option.some.inj h ▸ (hasText_of_readValue _).1 _ _ _ hread
    · cases h
  · cases h

end ContentEngine
