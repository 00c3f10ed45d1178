import ContentEngine.Display.Value
import ContentEngine.Proofs.TwoRuns
import ContentEngine.Proofs.Value.Text

/-!
# How much of a list depends on users

The values of an entry are shown as texts twice: with what is known about users, and with nothing
known. If every user that is known has a label, both end in the same fault or both succeed, and then
the texts differ for fields that refer to users only (`Display.agree_entryTexts`). Inside repeaters
nothing is known about users in the first place.
-/

namespace ContentEngine

open Outcome (Agree HasResult hasResult_bind_iff hasResult_bind_pure)

/-! ### Objects that differ under some keys -/

namespace Obj

/-- Whether two objects have the same keys, in one order, and hold the same under all keys that are
not excepted. -/
def AgreesBut (excepted : String → Prop) (o o' : Obj) : Prop :=
  keys o = keys o' ∧ ∀ key, ¬excepted key → get? o key = get? o' key

namespace AgreesBut

variable {excepted : String → Prop} {o o' : Obj}

theorem refl (o : Obj) : AgreesBut excepted o o := ⟨rfl, fun _ _ => rfl⟩

theorem symm (h : AgreesBut excepted o o') : AgreesBut excepted o' o :=
  ⟨h.1.symm, fun key hkey => (h.2 key hkey).symm⟩

theorem trans {o'' : Obj} (h : AgreesBut excepted o o') (h' : AgreesBut excepted o' o'') :
    AgreesBut excepted o o'' :=
  ⟨h.1.trans h'.1, fun key hkey => (h.2 key hkey).trans (h'.2 key hkey)⟩

theorem mono {excepted' : String → Prop} (h : AgreesBut excepted o o')
    (hkeys : ∀ key, excepted key → excepted' key) : AgreesBut excepted' o o' :=
  ⟨h.1, fun key hkey => h.2 key fun hold => hkey (hkeys key hold)⟩

theorem set (h : AgreesBut excepted o o') {key : String} {v v' : Value}
    (hv : excepted key ∨ v = v') : AgreesBut excepted (Obj.set o key v) (Obj.set o' key v') := by
  obtain ⟨hkeys, hget⟩ := h
  constructor
  · have hhas : Table.has o key = Table.has o' key :=
      Bool.eq_iff_iff.mpr (by rw [← Table.mem_keys_iff, ← Table.mem_keys_iff, ← keys, ← keys, hkeys])
    cases hkey : Table.has o key with
    | true =>
      exact (Table.keys_set_of_has v hkey).trans
        (hkeys.trans (Table.keys_set_of_has v' (hhas ▸ hkey)).symm)
    | false =>
      exact (Table.keys_set_of_not_has v hkey).trans
        ((congrArg (· ++ [key]) hkeys).trans
          (Table.keys_set_of_not_has v' (hhas ▸ hkey)).symm)
  · intro k hk
    rw [get?_set, get?_set, hget k hk]
    split
    · next hsame => rw [hv.resolve_left (hsame ▸ hk)]
    · rfl

theorem merge {members members' : Obj} (h : AgreesBut excepted o o')
    (hmembers : List.Forall₂ (fun m m' => m.1 = m'.1 ∧ (excepted m.1 ∨ m.2 = m'.2))
      members members') :
    AgreesBut excepted (Obj.merge o members) (Obj.merge o' members') := by
  induction hmembers generalizing o o' with
  | nil => exact h
  | @cons m m' _ _ hfirst _ ih =>
    obtain ⟨key, v⟩ := m
    obtain ⟨key', v'⟩ := m'
    obtain ⟨rfl, hv⟩ := hfirst
    exact ih (h.set hv)

end AgreesBut

end Obj

namespace Display

/-! ### Labels -/

theorem hasResult_userLabel {user : Value} {display : UserDisplay} :
    HasResult (userLabel user display) ↔
      ∀ o, user.asObj? = some o → (Obj.get o "name").HasText ∧ (Obj.get o "email").HasText := by
  have hlabel (v : Value) : HasResult v.labelText ↔ v.HasText := by
    rw [Value.labelText, hasResult_bind_pure,
      Value.hasResult_presentText]
  rw [userLabel]
  cases user.asObj? with
  | none => simp
  | some o =>
    simp only [Option.some.injEq, forall_eq']
    rw [← hlabel, ← hlabel]
    exact hasResult_bind_iff fun _ _ => hasResult_bind_pure

namespace UserContext

/-- The same settings, with no user known. -/
def withoutUsers (c : UserContext) : UserContext := ⟨c.fields, []⟩

/-- Whether every user that is known has a label. -/
def HasLabels (c : UserContext) : Prop :=
  ∀ id o, (Obj.get c.users id).asObj? = some o →
    (Obj.get o "name").HasText ∧ (Obj.get o "email").HasText

end UserContext

variable {c : UserContext} {field v : Value}

theorem agree_userText (h : c.HasLabels) (display : UserDisplay) (id : Value) :
    Agree (fun _ _ => True) (userText c.users display id) (userText [] display id) := by
  rw [userText, userText]
  refine Agree.bind (.refl _ fun _ _ => rfl) fun text _ heq => ?_
  subst heq
  split
  · exact .refl _ fun _ _ => trivial
  · have hnone : HasResult (userLabel (Obj.get [] text) display) := ⟨"", rfl⟩
    obtain ⟨label, hlabel⟩ : HasResult (userLabel (Obj.get c.users text) display) :=
      hasResult_userLabel.mpr (h text)
    obtain ⟨other, hother⟩ := hnone
    rw [hlabel, hother]
    exact .result trivial

theorem agree_userTexts (h : c.HasLabels) :
    Agree (fun _ _ => True) (userTexts c field v) (userTexts c.withoutUsers field v) := by
  rw [userTexts, userTexts]
  refine Agree.bind (.mapM (List.forall₂_same.mpr fun id _ => agree_userText h _ id))
    fun _ _ _ => .result trivial

/-! ### Values -/

theorem plainValue_eq {kind : FieldKind} (hkind : kind ≠ .relationUser) (c c' : UserContext)
    (field v : Value) : plainValue kind c field v = plainValue kind c' field v := by
  cases kind <;> first | rfl | exact absurd rfl hkind

/-- How a value is shown depends on users only if its field refers to them. -/
theorem agree_valueText (h : c.HasLabels) (e : Extent) :
    Agree (fun text text' =>
        FieldKind.ofValue (Obj.get field.members "type") = .ok .relationUser ∨ text = text')
      (valueText c e field v) (valueText c.withoutUsers e field v) := by
  unfold valueText
  split
  · exact .refl _ fun _ _ => .inr rfl
  · cases hkind : FieldKind.ofValue (Obj.get field.members "type") with
    | error e => exact .fault e
    | ok kind =>
      simp only [Outcome.ok_bind, Except.ok.injEq]
      by_cases huser : kind = .relationUser
      · subst huser
        exact (agree_userTexts h).mono fun _ _ _ => .inl rfl
      · cases kind with
        | relationUser => exact absurd rfl huser
        | repeater => exact .refl _ fun _ _ => .inr rfl
        | _ => exact .of_eq (plainValue_eq huser c c.withoutUsers field v) fun _ => .inr rfl

/-- The texts of an entry differ under the keys of fields that refer to users only. -/
theorem agree_entryTexts (h : c.HasLabels) (data : Obj) (fields : List Obj) :
    Agree (Obj.AgreesBut fun key => ∃ f ∈ fields, (Obj.get f "key").asText?.getD "" = key ∧
        FieldKind.ofValue (Obj.get f "type") = .ok .relationUser)
      (entryTexts c data fields) (entryTexts c.withoutUsers data fields) := by
  rw [entryTexts, entryTexts]
  refine Agree.bind (.mapM (List.forall₂_same.mpr fun f hf => ?_)) fun _ _ hmembers =>
    .result ((Obj.AgreesBut.refl []).merge hmembers)
  refine (agree_valueText h .usual).bind fun text text' htext => .result ⟨rfl, ?_⟩
  rcases htext with huser | rfl
  · exact .inl ⟨f, List.mem_of_mem_filter hf, rfl, huser⟩
  · exact .inr rfl

end Display

end ContentEngine
