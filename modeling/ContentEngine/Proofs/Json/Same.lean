import Mathlib.Data.List.Forall2
import ContentEngine.Json.Writer
import ContentEngine.Proofs.Value.Text
import ContentEngine.Value.Equal

/-!
# Documents that differ in the order of keys alone

`Value.SameDocument` says that two documents have the same keys in every object, in whatever order,
and the same values otherwise. It is an equivalence, and between documents that JSON can hold as
they are (`Value.IsExact`) it is finer than the equality of values (`Value.SameDocument.same`),
which takes the boolean `true` for the integer 1.

Members with distinct keys have one order by their keys, whatever order they come in
(`sortMembers_eq_of_get?`).
-/

namespace ContentEngine

/-! ### Members in the order of their keys -/

section Sorted

variable {α β : Type}

theorem Table.get?_map (f : α → β) (t : Table α) (key : String) :
    Table.get? (t.map fun m => (m.1, f m.2)) key = (t.get? key).map f := by
  induction t with
  | nil => rfl
  | cons m t ih =>
    rw [List.map_cons, Table.get?_cons, Table.get?_cons m.1 m.2, ih]
    split <;> rfl

theorem sortMembers_perm (members : List (String × α)) : (sortMembers members).Perm members :=
  List.mergeSort_perm _ _

theorem sortMembers_map (f : α → β) (members : List (String × α)) :
    sortMembers (members.map fun m => (m.1, f m.2)) =
      (sortMembers members).map fun m => (m.1, f m.2) := by
  rw [sortMembers, sortMembers, List.map_mergeSort]
  exact fun _ _ _ _ => rfl

theorem pairwise_sortMembers (members : List (String × α)) :
    (sortMembers members).Pairwise fun m n => m.1 ≤ n.1 := by
  have hsorted := List.pairwise_mergeSort
    (fun (m n o : String × α) (hmn : decide (m.1 ≤ n.1) = true)
        (hno : decide (n.1 ≤ o.1) = true) =>
      decide_eq_true (String.le_trans (of_decide_eq_true hmn) (of_decide_eq_true hno)))
    (fun m n => by simp [String.le_total m.1 n.1]) members
  exact hsorted.imp of_decide_eq_true

theorem nodup_keys_sortMembers {members : Table α} (h : members.keys.Nodup) :
    (Table.keys (sortMembers members)).Nodup :=
  ((sortMembers_perm members).map _).nodup_iff.mpr h

/-- What stands under a key does not depend on the order of the members. -/
theorem get?_sortMembers {members : Table α} (h : members.keys.Nodup) (key : String) :
    Table.get? (sortMembers members) key = Table.get? members key := by
  ext a
  rw [← Table.mem_iff_get? h, ← Table.mem_iff_get? (nodup_keys_sortMembers h)]
  exact (sortMembers_perm members).mem_iff

/-- Tables that hold the same have one order. -/
theorem sortMembers_eq_of_get? {a b : Table α} (ha : a.keys.Nodup) (hb : b.keys.Nodup)
    (h : ∀ key, a.get? key = b.get? key) : sortMembers a = sortMembers b := by
  have hperm : a.Perm b := by
    have hnodup {t : Table α} (ht : t.keys.Nodup) : t.Nodup :=
      (List.pairwise_map.mp ht).imp fun hne heq => hne (congrArg _ heq)
    refine (List.perm_ext_iff_of_nodup (hnodup ha) (hnodup hb)).mpr fun (key, v) => ?_
    rw [Table.mem_iff_get? ha, Table.mem_iff_get? hb, h]
  refine List.Perm.eq_of_pairwise (fun m n hm hn hmn hnm => ?_) (pairwise_sortMembers a)
    (pairwise_sortMembers b) ((sortMembers_perm a).trans (hperm.trans (sortMembers_perm b).symm))
  -- members with one key stand in both tables, which hold one value under it
  have hkey : m.1 = n.1 := String.le_antisymm hmn hnm
  have hm' : a.get? m.1 = some m.2 :=
    (Table.mem_iff_get? ha).mp ((sortMembers_perm a).mem_iff.mp hm)
  have hn' : b.get? n.1 = some n.2 :=
    (Table.mem_iff_get? hb).mp ((sortMembers_perm b).mem_iff.mp hn)
  rw [h, hkey, hn', Option.some.injEq] at hm'
  exact Prod.ext hkey hm'.symm

/-- Members whose keys are the same one by one stay so when they are sorted. -/
theorem forall₂_sortMembers {r : α → β → Prop} {as : List (String × α)} {bs : List (String × β)}
    (h : List.Forall₂ (fun a b => a.1 = b.1 ∧ r a.2 b.2) as bs) :
    List.Forall₂ (fun a b => a.1 = b.1 ∧ r a.2 b.2) (sortMembers as) (sortMembers bs) := by
  obtain ⟨pairs, rfl, rfl, hr⟩ : ∃ pairs : List (String × (α × β)),
      as = pairs.map (fun p => (p.1, p.2.1)) ∧ bs = pairs.map (fun p => (p.1, p.2.2)) ∧
        ∀ p ∈ pairs, r p.2.1 p.2.2 := by
    induction h with
    | nil => exact ⟨[], rfl, rfl, by simp⟩
    | @cons a b as bs hab _ ih =>
      obtain ⟨pairs, rfl, rfl, hr⟩ := ih
      exact ⟨(a.1, a.2, b.2) :: pairs, rfl, by simp [hab.1],
        List.forall_mem_cons.mpr ⟨hab.2, hr⟩⟩
  rw [sortMembers_map Prod.fst, sortMembers_map Prod.snd, List.forall₂_map_left_iff,
    List.forall₂_map_right_iff, List.forall₂_same]
  exact fun p hp => ⟨rfl, hr p ((sortMembers_perm pairs).mem_iff.mp hp)⟩

end Sorted

/-! ### The same document -/

namespace Value

/-- Whether two documents are the same up to the order of keys in the objects in them. -/
inductive SameDocument : Value → Value → Prop
  | refl (v : Value) : SameDocument v v
  | list {a b : List Value} (length : a.length = b.length)
      (items : ∀ (i : Nat) (ha : i < a.length) (hb : i < b.length), SameDocument a[i] b[i]) :
      SameDocument (list a) (list b)
  | obj {a b : Obj} (has : ∀ key, Obj.has a key = Obj.has b key)
      (values : ∀ key x y, Obj.get? a key = some x → Obj.get? b key = some y →
        SameDocument x y) :
      SameDocument (obj a) (obj b)

namespace SameDocument

theorem symm {v w : Value} (h : v.SameDocument w) : w.SameDocument v := by
  induction h with
  | refl v => exact .refl v
  | list length _ ih => exact .list length.symm fun i ha hb => ih i hb ha
  | obj has _ ih => exact .obj (fun key => (has key).symm) fun key x y hx hy => ih key y x hy hx

theorem trans {u v w : Value} (h : u.SameDocument v) (h' : v.SameDocument w) :
    u.SameDocument w := by
  induction h generalizing w with
  | refl v => exact h'
  | @list a b length items ih =>
    cases h' with
    | refl => exact .list length items
    | list length' items' =>
      exact .list (length.trans length') fun i ha hc =>
        ih i ha (length ▸ ha) (items' i (length ▸ ha) hc)
  | @obj a b has values ih =>
    cases h' with
    | refl => exact .obj has values
    | @obj _ c has' values' =>
      refine .obj (fun key => (has key).trans (has' key)) fun key x z hx hz => ?_
      obtain ⟨y, hy⟩ : ∃ y, Obj.get? b key = some y :=
        Option.isSome_iff_exists.mp ((has key).symm.trans (Obj.has_of_get?_eq_some hx))
      exact ih key x y hx hy (values' key y z hy hz)

/-- Objects whose members are the same documents one by one. -/
theorem obj_of_forall₂ {a b : Obj}
    (h : List.Forall₂ (fun m n : String × Value => m.1 = n.1 ∧ SameDocument m.2 n.2) a b) :
    SameDocument (Value.obj a) (Value.obj b) := by
  have hkeys (key : String) : Obj.has a key = Obj.has b key ∧
      ∀ x y, Obj.get? a key = some x → Obj.get? b key = some y → SameDocument x y := by
    induction h with
    | nil => exact ⟨rfl, fun x y hx => nomatch hx⟩
    | @cons m n a b hmn _ ih =>
      obtain ⟨k, v⟩ := m
      obtain ⟨k', w⟩ := n
      obtain ⟨rfl, hvalue⟩ := hmn
      rw [Obj.has_eq_isSome, Obj.has_eq_isSome] at ih ⊢
      simp only [Obj.get?_cons]
      split
      · exact ⟨rfl, fun x y hx hy => Option.some.inj hx ▸ Option.some.inj hy ▸ hvalue⟩
      · exact ih
  exact .obj (fun key => (hkeys key).1) fun key => (hkeys key).2

/-- Objects that hold the same are the same document. -/
theorem obj_of_get? {a b : Obj} (h : ∀ key, Obj.get? a key = Obj.get? b key) :
    SameDocument (Value.obj a) (Value.obj b) :=
  .obj (fun key => by rw [Obj.has_eq_isSome, Obj.has_eq_isSome, h]) fun key x y hx hy => by
    rw [h, hy, Option.some.injEq] at hx
    exact hx ▸ .refl x

end SameDocument

/-! ### Exact documents -/

/-- Whether JSON can hold a document as it is: there are no doubles and no long integers in it, and
the keys of each object are distinct. -/
inductive IsExact : Value → Prop
  | null : IsExact null
  | bool (b : Bool) : IsExact (bool b)
  | int {n : Int} (short : (int n).IsShort) : IsExact (int n)
  | str (text : String) : IsExact (str text)
  | list {items : List Value} (items_exact : ∀ v ∈ items, IsExact v) : IsExact (list items)
  | obj {members : Obj} (nodup : members.keys.Nodup) (values_exact : ∀ m ∈ members, IsExact m.2) :
      IsExact (obj members)

theorem sameItems_iff {a b : List Value} :
    sameItems a b = true ↔ List.Forall₂ (fun v w => same v w = true) a b := by
  induction a generalizing b with
  | nil => cases b <;> simp [sameItems]
  | cons v a ih => cases b <;> simp [sameItems, ih]

theorem sameMembers_iff {a b : Obj} :
    sameMembers a b = true ↔ ∀ m ∈ a, ∃ w, Obj.get? b m.1 = some w ∧ same m.2 w = true := by
  induction a with
  | nil => simp [sameMembers]
  | cons m a ih =>
    obtain ⟨key, v⟩ := m
    rw [List.forall_mem_cons, ← ih, sameMembers, Bool.and_eq_true]
    cases Obj.get? b key <;> simp

/-- Objects with the same keys have equally many of them. -/
theorem length_eq_of_has {a b : Obj} (ha : a.keys.Nodup) (hb : b.keys.Nodup)
    (h : ∀ key, Obj.has a key = Obj.has b key) : a.length = b.length := by
  have hkeys : (Table.keys a).Perm (Table.keys b) := by
    refine (List.perm_ext_iff_of_nodup ha hb).mpr fun key => ?_
    exact Table.mem_keys_iff.trans ((Bool.eq_iff_iff.mp (h key)).trans Table.mem_keys_iff.symm)
  simpa [Table.keys] using hkeys.length_eq

theorem IsExact.same_self {v : Value} (h : v.IsExact) : v.same v = true := by
  induction h with
  | null | str text => simp [same, sameScalar]
  | bool b | @int n _ => simp [same, sameScalar, magnitude?, Magnitude.eq]
  | list _ ih =>
    rw [same, sameItems_iff]
    exact List.forall₂_same.mpr ih
  | @obj members nodup _ ih =>
    rw [same, sameMembers_iff.mpr fun m hm => ⟨m.2, (Table.mem_iff_get? nodup).mp hm, ih m hm⟩]
    simp

/-- Documents that differ in the order of keys alone are equal. -/
theorem SameDocument.same {v w : Value} (h : v.SameDocument w) (hv : v.IsExact) (hw : w.IsExact) :
    v.same w = true := by
  induction h with
  | refl v => exact hv.same_self
  | @list a b length items ih =>
    obtain _ | _ | _ | _ | ha | _ := hv
    obtain _ | _ | _ | _ | hb | _ := hw
    rw [Value.same, sameItems_iff, List.forall₂_iff_get]
    exact ⟨length, fun i hi hj =>
      ih i hi hj (ha _ (List.getElem_mem hi)) (hb _ (List.getElem_mem hj))⟩
  | @obj a b has values ih =>
    obtain _ | _ | _ | _ | _ | ⟨ha, hvalues⟩ := hv
    obtain _ | _ | _ | _ | _ | ⟨hb, hvalues'⟩ := hw
    rw [Value.same, Bool.and_eq_true, beq_iff_eq, sameMembers_iff]
    refine ⟨length_eq_of_has ha hb has, fun m hm => ?_⟩
    have hget : Obj.get? a m.1 = some m.2 := (Table.mem_iff_get? ha).mp hm
    obtain ⟨w, hw⟩ : ∃ w, Obj.get? b m.1 = some w :=
      Option.isSome_iff_exists.mp ((has m.1).symm.trans (Obj.has_of_get?_eq_some hget))
    exact ⟨w, hw, ih m.1 m.2 w hget hw (hvalues m hm)
      (hvalues' (m.1, w) ((Table.mem_iff_get? hb).mpr hw))⟩

end Value

end ContentEngine
