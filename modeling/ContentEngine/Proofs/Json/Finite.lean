import ContentEngine.Proofs.Json.Canonical
import ContentEngine.Proofs.Json.Text

/-!
# Documents with finite numbers

JSON has no form for a double that is not finite, for an integer with too many digits, and for
anything that only a database hands out. A document can be written exactly if nothing in it is of
that kind (`Value.hasResult_writeJson`).

`Value.IsJson` says that a value is a JSON document whose doubles are finite and whose objects have
distinct keys. Such a document is its own plain form (`Value.IsJson.plain_eq`), and documents that
differ in the order of keys alone have one canonical text, if they have one at all
(`Value.SameDocument.canonicalText_eq`).

Where no object has more than one key there is no order of keys, so that documents which differ in
it alone do not differ (`Value.SameDocument.eq_of_isOrderless`).
-/

namespace ContentEngine

open Outcome (HasResult hasResult_bind_iff hasResult_bind_pure)

namespace Value

/-! ### Which documents can be written -/

/-- Whether a value, whatever its parts are, has a form in JSON. -/
def IsWritable : Value → Prop
  | int n => (int n).IsShort
  | float x => isFiniteFloat x = true
  | null | bool _ | str _ | list _ | obj _ => True
  | _ => False

theorem hasResult_writeJsonItems {style : JsonStyle} {items : List Value} :
    HasResult (writeJsonItems style items) ↔ ∀ item ∈ items, HasResult (writeJson style item) := by
  induction items with
  | nil => simp [writeJsonItems]
  | cons item rest ih =>
    rw [writeJsonItems, List.forall_mem_cons, ← ih]
    exact hasResult_bind_iff fun _ _ => hasResult_bind_pure

theorem hasResult_writeJsonMembers {style : JsonStyle} {members : List (String × Value)} :
    HasResult (writeJsonMembers style members) ↔
      ∀ v ∈ members.map (·.2), HasResult (writeJson style v) := by
  induction members with
  | nil => simp [writeJsonMembers]
  | cons member rest ih =>
    obtain ⟨key, value⟩ := member
    rw [writeJsonMembers, List.map_cons, List.forall_mem_cons, ← ih]
    exact hasResult_bind_iff fun _ _ => hasResult_bind_pure

/-- A value can be written exactly if everything in it can. -/
theorem hasResult_writeJson (style : JsonStyle) {v : Value} :
    HasResult (writeJson style v) ↔ ∀ u, v.Holds u → u.IsWritable := by
  induction v using induction_parts with
  | h v ih =>
    rw [forall_holds_iff, ← forall₂_congr ih]
    cases v with
    | int n =>
      rw [writeJson, hasResult_bind_pure, hasResult_integerText]
      simp [parts, IsWritable]
    | float x => by_cases hx : isFiniteFloat x <;> simp [writeJson, parts, IsWritable, hx]
    | list items =>
      rw [writeJson, hasResult_bind_pure, hasResult_writeJsonItems]
      simp [parts, IsWritable]
    | obj members =>
      rw [writeJson, hasResult_bind_pure, hasResult_writeJsonMembers]
      simp [parts, IsWritable]
    | null | bool b | str s => simp [writeJson, parts, IsWritable]
    | _ => simp [writeJson, IsWritable]

/-! ### Documents -/

/-- Whether a value is a JSON document with finite numbers. Its integers may have any length. -/
inductive IsJson : Value → Prop
  | null : IsJson null
  | bool (b : Bool) : IsJson (bool b)
  | int (n : Int) : IsJson (int n)
  | float {x : Float} (finite : isFiniteFloat x = true) : IsJson (float x)
  | str (text : String) : IsJson (str text)
  | list {items : List Value} (items_json : ∀ v ∈ items, IsJson v) : IsJson (list items)
  | obj {members : Obj} (nodup : members.keys.Nodup) (values_json : ∀ m ∈ members, IsJson m.2) :
      IsJson (obj members)

namespace IsJson

variable {v : Value} {members : Obj} {items : List Value}

theorem item (h : (Value.list items).IsJson) : ∀ v ∈ items, v.IsJson := by
  rcases h with _ | _ | _ | _ | _ | h | _
  exact h

theorem nodup (h : (Value.obj members).IsJson) : members.keys.Nodup := by
  rcases h with _ | _ | _ | _ | _ | _ | ⟨h, -⟩
  exact h

theorem member (h : (Value.obj members).IsJson) : ∀ m ∈ members, m.2.IsJson := by
  rcases h with _ | _ | _ | _ | _ | _ | ⟨-, h⟩
  exact h

theorem get? (h : (Value.obj members).IsJson) {key : String}
    (hget : Obj.get? members key = some v) : v.IsJson := by
  obtain ⟨m, hm, rfl⟩ := Obj.exists_of_get? hget
  exact h.member m hm

theorem plainItems_eq (h : ∀ v ∈ items, ∀ path, plain path v = .ok v) (path : String)
    (index : Nat) : plainItems path index items = .ok items := by
  induction items generalizing index with
  | nil => rfl
  | cons v rest ih =>
    rw [List.forall_mem_cons] at h
    rw [plainItems, h.1, ih h.2]
    rfl

theorem plainMembers_eq (h : ∀ m ∈ members, ∀ path, plain path m.2 = .ok m.2) (path : String) :
    plainMembers path members = .ok members := by
  induction members with
  | nil => rfl
  | cons m rest ih =>
    rw [List.forall_mem_cons] at h
    rw [plainMembers, h.1, ih h.2]
    rfl

/-- A JSON document is its own plain form. -/
theorem plain_eq (h : v.IsJson) (path : String) : plain path v = .ok v := by
  induction h generalizing path with
  | null | bool b | int n | str text => rfl
  | float finite => rw [plain, if_pos finite]
  | list _ ih =>
    rw [plain, plainItems_eq ih]
    rfl
  | obj _ _ ih =>
    rw [plain, plainMembers_eq ih]
    rfl

theorem holds {u : Value} (h : v.IsJson) (hu : v.Holds u) : u.IsJson := by
  induction hu with
  | self v => exact h
  | @part v p u hp _ ih =>
    cases h with
    | list items_json => exact ih (items_json p hp)
    | obj _ values_json => exact ih (List.forall_mem_map.mpr values_json p hp)
    | _ => cases hp

/-- A JSON document can be written exactly if it has a text. -/
theorem hasResult_writeJson (h : v.IsJson) (style : JsonStyle) :
    Outcome.HasResult (writeJson style v) ↔ v.HasText := by
  have hshort : ∀ u, v.Holds u → (u.IsWritable ↔ u.IsShort) := by
    intro u hu
    cases h.holds hu <;> simp_all [IsWritable, IsShort]
  rw [Value.hasResult_writeJson]
  exact forall₂_congr hshort

theorem hasResult_canonicalText (h : v.IsJson) : Outcome.HasResult v.canonicalText ↔ v.HasText := by
  rw [canonicalText, jsonText, h.plain_eq, Outcome.ok_bind,
    Outcome.hasResult_bind_pure, h.hasResult_writeJson]

/-- Every style writes the JSON documents that have a text. -/
theorem writes (style : JsonStyle) : style.Writes fun v => v.IsJson ∧ v.HasText where
  item h v hv := ⟨h.1.item v hv, hasText_list.mp h.2 v hv⟩
  nodup h := h.1.nodup
  member h m hm := ⟨h.1.member m hm, hasText_obj.mp h.2 m hm⟩
  written h := (h.1.hasResult_writeJson style).mpr h.2

end IsJson

namespace SameDocument

variable {v w : Value}

theorem hasText (h : v.SameDocument w) (hw : w.IsJson) (htext : v.HasText) : w.HasText := by
  induction h with
  | refl v => exact htext
  | @list a b length items ih =>
    refine hasText_list.mpr fun u hu => ?_
    obtain ⟨i, hi, rfl⟩ := List.mem_iff_getElem.mp hu
    have hi' : i < a.length := length ▸ hi
    exact ih i hi' hi (hw.item _ hu) (hasText_list.mp htext _ (List.getElem_mem hi'))
  | @obj a b has values ih =>
    refine hasText_obj.mpr fun m hm => ?_
    have hget : Obj.get? b m.1 = some m.2 := (Table.mem_iff_get? hw.nodup).mp hm
    obtain ⟨x, hx⟩ : ∃ x, Obj.get? a m.1 = some x :=
      Option.isSome_iff_exists.mp ((has m.1).trans (Obj.has_of_get?_eq_some hget))
    obtain ⟨n, hn, rfl⟩ := Obj.exists_of_get? hx
    exact ih m.1 n.2 m.2 hx hget (hw.member m hm) (hasText_obj.mp htext n hn)

theorem hasText_iff (h : v.SameDocument w) (hv : v.IsJson) (hw : w.IsJson) :
    v.HasText ↔ w.HasText :=
  ⟨h.hasText hw, h.symm.hasText hv⟩

/-- Documents that differ in the order of keys alone have one canonical text. -/
theorem canonicalText_eq (h : v.SameDocument w) (hv : v.IsJson) (hw : w.IsJson)
    (htext : v.HasText) : v.canonicalText = w.canonicalText := by
  rw [canonicalText, canonicalText, jsonText, jsonText, hv.plain_eq, hw.plain_eq, Outcome.ok_bind,
    Outcome.ok_bind, h.writeJson_eq (IsJson.writes _) rfl ⟨hv, htext⟩ ⟨hw, h.hasText hw htext⟩]

end SameDocument

/-! ### Documents without an order of keys -/

/-- Whether no object in a value has more than one key. -/
def IsOrderless (v : Value) : Prop :=
  ∀ u, v.Holds u → u.members.length ≤ 1

theorem isOrderless_iff {v : Value} :
    v.IsOrderless ↔ v.members.length ≤ 1 ∧ ∀ p ∈ v.parts, p.IsOrderless :=
  forall_holds_iff

theorem isOrderless_of_scalar {v : Value} (hmembers : v.members = []) (hparts : v.parts = []) :
    v.IsOrderless :=
  isOrderless_iff.mpr ⟨by simp [hmembers], by simp [hparts]⟩

theorem SameDocument.eq_of_isOrderless {v w : Value} (h : v.SameDocument w) (hv : v.IsJson)
    (hw : w.IsJson) (horderless : v.IsOrderless) : v = w := by
  induction h with
  | refl v => rfl
  | @list a b length items ih =>
    refine congrArg Value.list (List.ext_getElem length fun i hi hj => ?_)
    have ha := List.getElem_mem hi
    exact ih i hi hj (hv.item _ ha) (hw.item _ (List.getElem_mem hj))
      ((isOrderless_iff.mp horderless).2 _ ha)
  | @obj a b has values ih =>
    obtain ⟨hone, hparts⟩ := isOrderless_iff.mp horderless
    have hlength := length_eq_of_has hv.nodup hw.nodup has
    match a, b with
    | [], [] => rfl
    | [], n :: b => simp at hlength
    | m :: a, [] => simp at hlength
    | m :: m' :: a, _ => simp [members, asObj?] at hone
    | [m], n :: n' :: b => simp at hlength
    | [(key, x)], [(key', y)] =>
      have hkey := has key
      have hmem : x ∈ (Value.obj [(key, x)]).parts := List.mem_singleton_self x
      simp only [Obj.has_eq_isSome, Obj.get?_cons, if_true, Option.isSome_some] at hkey
      split at hkey
      · next heq =>
        subst heq
        rw [ih key x y (by simp [Obj.get?_cons]) (by simp [Obj.get?_cons])
          (hv.member _ (List.mem_singleton_self _)) (hw.member _ (List.mem_singleton_self _))
          (hparts x hmem)]
      · simp at hkey

end Value

end ContentEngine
