import ContentEngine.Proofs.Title.Line
import ContentEngine.Proofs.View.Rank

/-!
# Which view comes first

Told of the records of views, one view beats another by the first of six criteria by which one of
them wins (`ViewRecord.Beats`). Each criterion goes by a part of the rank, so that the view that
beats another one is that with the lower place (`ViewRecord.beats_iff`). If no two views have the
same identifier there is one that beats all others, and it is the one that is chosen, whatever the
order of the list is (`selection_total_and_orderless`).
-/

namespace ContentEngine

open Outcome (HasResult OnlyFault hasResult_bind_iff hasResult_bind_left hasResult_bind_pure
  hasResult_mapM hasResult_ok hasResult_pure onlyFault_ok onlyFault_pure onlyFault_mapM)

/-! ### Stamps -/

/-- The stamp that a value is, if it is one. -/
def stampOf? (v : Value) : Option String :=
  v.asText?.filter (· ≠ "")

/-- Whether a value is a stamp of a certain length, or is missing. -/
def IsStamp (length : Nat) (v : Value) : Prop :=
  v.isVoid = true ∨ ∃ text, v = .str text ∧ text.length = length

/-- Whether a stamp is later than another one. Any stamp counts as later than a missing one. -/
def IsLater : Option String → Option String → Prop
  | some a, some b => b < a
  | some _, none => True
  | none, _ => False

theorem hasResult_stampText? {v : Value} : HasResult (stampText? v) ↔ v.HasText := by
  unfold stampText?
  split
  · next hvoid => exact iff_of_true (hasResult_ok _) (Value.hasText_of_isVoid hvoid)
  · split
    · exact iff_of_true (hasResult_ok _) (Value.hasText_of_parts_eq_nil rfl trivial)
    · rw [hasResult_bind_pure, Value.hasResult_text]

theorem onlyFault_stampText? (v : Value) : OnlyFault .badInteger (stampText? v) := by
  unfold stampText?
  split
  · exact onlyFault_ok _ _
  · split
    · exact onlyFault_ok _ _
    · exact (Value.onlyFault_text _).bind fun _ => onlyFault_pure _ _

theorem stampText?_str (text : String) : stampText? (.str text) = .ok (stampOf? (.str text)) := by
  by_cases h : text = ""
  · rw [h]
    rfl
  · have hvoid : ¬(Value.str text).isVoid = true := by simp [Value.isVoid, h]
    have hstamp : stampOf? (.str text) = some text := by simp [stampOf?, Value.asText?, h]
    unfold stampText?
    rw [if_neg hvoid, hstamp]
    rfl

theorem stampText?_of_isStamp {length : Nat} {v : Value} (h : IsStamp length v) :
    stampText? v = .ok (stampOf? v) := by
  rcases h with h | ⟨text, rfl, -⟩
  · cases v with
    | null => rfl
    | str text => exact stampText?_str text
    | _ => cases h
  · exact stampText?_str text

theorem length_of_isStamp {length : Nat} {v : Value} (h : IsStamp length v) {text : String}
    (htext : stampOf? v = some text) : text.toList.length = length := by
  obtain ⟨hv, hne⟩ := Option.filter_eq_some_iff.mp htext
  have hne : text ≠ "" := of_decide_eq_true hne
  rcases h with h | ⟨text', rfl, hlength⟩
  · cases v with
    | str given =>
      obtain rfl := Option.some.inj hv
      exact absurd (eq_of_beq h) hne
    | _ => cases hv
  · obtain rfl := Option.some.inj hv
    rw [String.length_toList, hlength]

/-- Of stamps of one length the later one has the lower place. -/
theorem stampPlace_lt_iff {length : Nat} {v w : Value} (hv : IsStamp length v)
    (hw : IsStamp length w) :
    stampPlace (stampOf? v) < stampPlace (stampOf? w) ↔ IsLater (stampOf? v) (stampOf? w) := by
  cases hsv : stampOf? v with
  | none => exact iff_of_false not_top_lt id
  | some text =>
    cases hsw : stampOf? w with
    | none => exact iff_of_true (WithTop.coe_lt_top _) trivial
    | some text' =>
      have hlength : text.toList.length = text'.toList.length :=
        (length_of_isStamp hv hsv).trans (length_of_isStamp hw hsw).symm
      exact WithTop.coe_lt_coe.trans ((map_toDual_lt_iff hlength).trans
        String.lt_iff_toList_lt.symm)

/-! ### Criteria -/

/-- Whether one thing wins by the first of some criteria by which one of the two does. -/
def WinsBy {α : Type} : List (α → α → Prop) → α → α → Prop
  | [], _, _ => False
  | wins :: rest, a, b => wins a b ∨ ¬wins b a ∧ WinsBy rest a b

/-- A criterion that goes by a key comes first in a lexicographic order. -/
theorem winsBy_cons_iff {α β γ : Type} [LinearOrder β] [LT γ] {wins : α → α → Prop}
    {rest : List (α → α → Prop)} {a b : α} {x x' : β} {y y' : γ}
    (hwins : wins a b ↔ x < x') (hloses : wins b a ↔ x' < x)
    (hrest : x = x' → (WinsBy rest a b ↔ y < y')) :
    WinsBy (wins :: rest) a b ↔ toLex (x, y) < toLex (x', y') := by
  rw [WinsBy, hwins, hloses, Prod.Lex.toLex_lt_toLex]
  rcases lt_trichotomy x x' with h | rfl | h
  · simp [h]
  · simp [hrest rfl]
  · simp [h, h.not_gt, h.ne']

namespace ViewRecord

variable {role : String} {a b o : Obj} {r s : ViewRank}

/-- The default roles that a record of a view lists: its own, or else those in its configuration. -/
def defaultRoles (o : Obj) : List Value :=
  ((Obj.get o "default_roles").orElse
    (Obj.get (Obj.getObj o "config") "default_roles")).asList?.getD []

/-- Whether a view is a default for a role. -/
def IsDefaultFor (role : String) (o : Obj) : Prop :=
  role ≠ "" ∧ ∃ item ∈ defaultRoles o, roleName item = .ok role

/-- The priority of a view, which is zero if its record has no integer there. -/
def priority (o : Obj) : Int :=
  (Obj.get o "priority").asIndex?.getD 0

/-- The text of the identifier of a record. -/
def idText (o : Obj) : Outcome String :=
  (Obj.get o "id").presentText

/-- What decides between two views, in this order: only one of them is a default for the role; both
are, and one has the higher priority; one is marked as the default; the later update; the later
creation; the lower identifier. -/
def criteria (role : String) : List (Obj → Obj → Prop) :=
  [fun a b => IsDefaultFor role a ∧ ¬IsDefaultFor role b,
    fun a b => IsDefaultFor role a ∧ IsDefaultFor role b ∧ priority b < priority a,
    fun a b => (Obj.get a "is_default").truthy = true ∧ (Obj.get b "is_default").truthy = false,
    fun a b => IsLater (stampOf? (Obj.get a "updated_at")) (stampOf? (Obj.get b "updated_at")),
    fun a b => IsLater (stampOf? (Obj.get a "created_at")) (stampOf? (Obj.get b "created_at")),
    fun a b => ∃ id id', idText a = .ok id ∧ idText b = .ok id' ∧ id < id']

/-- Whether a view comes before another one for a role. -/
def Beats (role : String) (a b : Obj) : Prop :=
  WinsBy (criteria role) a b

/-- Whether the times of a view are stamps of certain lengths, or missing. -/
structure HasStamps (updated created : Nat) (o : Obj) : Prop where
  updated : IsStamp updated (Obj.get o "updated_at")
  created : IsStamp created (Obj.get o "created_at")

/-! ### The rank of a record -/

/-- Whether a rank is that of a view for a role. -/
structure IsRankOf (r : ViewRank) (role : String) (o : Obj) : Prop where
  forRole : r.forRole = true ↔ IsDefaultFor role o
  priority : r.priority = if r.forRole then priority o else 0
  isDefault : r.isDefault = (Obj.get o "is_default").truthy
  updated : stampText? (Obj.get o "updated_at") = .ok r.updated
  created : stampText? (Obj.get o "created_at") = .ok r.created
  id : idText o = .ok r.id

theorem isRankOf_of_ofRecord (h : ViewRank.ofRecord role o = .ok r) : IsRankOf r role o := by
  simp only [ViewRank.ofRecord, Outcome.bind_eq_ok_iff, Outcome.pure_eq_ok_iff] at h
  obtain ⟨names, hnames, updated, hupdated, created, hcreated, id, hid, rfl⟩ := h
  refine ⟨?_, rfl, rfl, hupdated, hcreated, hid⟩
  rw [Bool.and_eq_true, bne_iff_ne, List.contains_iff_mem, Outcome.mem_mapM_iff hnames]
  rfl

theorem hasResult_roleName {v : Value} : HasResult (roleName v) ↔ v.HasText := by
  rw [roleName, hasResult_bind_pure, Value.hasResult_presentText]

/-- A view has a rank exactly if its default roles, its times and its identifier have texts. -/
theorem hasResult_ofRecord : HasResult (ViewRank.ofRecord role o) ↔
    (∀ item ∈ defaultRoles o, item.HasText) ∧ (Obj.get o "updated_at").HasText ∧
      (Obj.get o "created_at").HasText ∧ (Obj.get o "id").HasText := by
  rw [ViewRank.ofRecord]
  refine (hasResult_bind_iff fun names _ => (hasResult_bind_iff fun updated _ =>
    (hasResult_bind_iff fun created _ => (hasResult_bind_left fun id =>
      hasResult_pure _).trans Value.hasResult_presentText))).trans ?_
  rw [hasResult_mapM, hasResult_stampText?, hasResult_stampText?]
  exact and_congr_left fun _ => forall₂_congr fun _ _ => hasResult_roleName

/-- A view with an identifier, whose times are stamps or missing, has a rank exactly if its default
roles have texts. -/
theorem hasResult_ofRecord_iff {updated created : Nat} (ho : HasStamps updated created o)
    (hid : HasResult (idText o)) :
    HasResult (ViewRank.ofRecord role o) ↔ ∀ item ∈ defaultRoles o, item.HasText := by
  have hupdated := hasResult_stampText?.mp ⟨_, stampText?_of_isStamp ho.updated⟩
  have hcreated := hasResult_stampText?.mp ⟨_, stampText?_of_isStamp ho.created⟩
  rw [hasResult_ofRecord]
  exact and_iff_left ⟨hupdated, hcreated, Value.hasResult_presentText.mp hid⟩

theorem onlyFault_ofRecord (role : String) (o : Obj) :
    OnlyFault .badInteger (ViewRank.ofRecord role o) :=
  have hname (v : Value) : OnlyFault .badInteger (roleName v) :=
    (Value.onlyFault_presentText v).bind fun _ => onlyFault_pure _ _
  (onlyFault_mapM fun item _ => hname item).bind fun _ =>
    (onlyFault_stampText? _).bind fun _ => (onlyFault_stampText? _).bind fun _ =>
      (Value.onlyFault_presentText _).bind fun _ => onlyFault_pure _ _

section Criteria

variable (hr : IsRankOf r role a) (hs : IsRankOf s role b)

include hr hs

theorem forRole_lt_iff :
    IsDefaultFor role a ∧ ¬IsDefaultFor role b ↔ (!r.forRole) < (!s.forRole) := by
  rw [← hr.forRole, ← hs.forRole]
  cases r.forRole <;> cases s.forRole <;> decide

theorem priority_lt_iff (h : (!r.forRole) = (!s.forRole)) :
    IsDefaultFor role a ∧ IsDefaultFor role b ∧ priority b < priority a ↔
      -r.priority < -s.priority := by
  rw [← hr.forRole, ← hs.forRole, hr.priority, hs.priority, Int.neg_lt_neg_iff]
  obtain h : r.forRole = s.forRole := by simpa using h
  rw [h]
  cases s.forRole <;> simp

theorem isDefault_lt_iff :
    (Obj.get a "is_default").truthy = true ∧ (Obj.get b "is_default").truthy = false ↔
      (!r.isDefault) < (!s.isDefault) := by
  rw [hr.isDefault, hs.isDefault]
  cases (Obj.get a "is_default").truthy <;> cases (Obj.get b "is_default").truthy <;> decide

theorem updated_lt_iff {length : Nat} (ha : IsStamp length (Obj.get a "updated_at"))
    (hb : IsStamp length (Obj.get b "updated_at")) :
    IsLater (stampOf? (Obj.get a "updated_at")) (stampOf? (Obj.get b "updated_at")) ↔
      stampPlace r.updated < stampPlace s.updated := by
  have hra := Except.ok.inj (hr.updated.symm.trans (stampText?_of_isStamp ha))
  have hsb := Except.ok.inj (hs.updated.symm.trans (stampText?_of_isStamp hb))
  rw [hra, hsb, stampPlace_lt_iff ha hb]

theorem created_lt_iff {length : Nat} (ha : IsStamp length (Obj.get a "created_at"))
    (hb : IsStamp length (Obj.get b "created_at")) :
    IsLater (stampOf? (Obj.get a "created_at")) (stampOf? (Obj.get b "created_at")) ↔
      stampPlace r.created < stampPlace s.created := by
  have hra := Except.ok.inj (hr.created.symm.trans (stampText?_of_isStamp ha))
  have hsb := Except.ok.inj (hs.created.symm.trans (stampText?_of_isStamp hb))
  rw [hra, hsb, stampPlace_lt_iff ha hb]

theorem id_lt_iff :
    (∃ id id', idText a = .ok id ∧ idText b = .ok id' ∧ id < id') ↔ r.id < s.id := by
  rw [hr.id, hs.id]
  simp

end Criteria

/-- One view beats another one exactly if its rank has the lower place. -/
theorem beats_iff (hr : IsRankOf r role a) (hs : IsRankOf s role b) {updated created : Nat}
    (ha : HasStamps updated created a) (hb : HasStamps updated created b) :
    Beats role a b ↔ r.place < s.place := by
  refine winsBy_cons_iff (forRole_lt_iff hr hs) (forRole_lt_iff hs hr) fun hrole => ?_
  -- the priority decides only if both views are defaults for the role, or neither is
  have hloses : IsDefaultFor role b ∧ IsDefaultFor role a ∧ priority a < priority b ↔
      -s.priority < -r.priority := priority_lt_iff hs hr hrole.symm
  refine winsBy_cons_iff (priority_lt_iff hr hs hrole) hloses fun _ => ?_
  refine winsBy_cons_iff (isDefault_lt_iff hr hs) (isDefault_lt_iff hs hr) fun _ => ?_
  refine winsBy_cons_iff (updated_lt_iff hr hs ha.updated hb.updated)
    (updated_lt_iff hs hr hb.updated ha.updated) fun _ => ?_
  refine winsBy_cons_iff (created_lt_iff hr hs ha.created hb.created)
    (created_lt_iff hs hr hb.created ha.created) fun _ => ?_
  rw [WinsBy, WinsBy, and_false, or_false, id_lt_iff hr hs]

end ViewRecord

/-! ### The choice -/

open ViewRecord

variable {role : String} {views : List Obj} {updated created : Nat}

/-- Whether no two views have the same identifier, and their times are stamps of certain lengths
where they are not missing. -/
structure AreComparable (updated created : Nat) (views : List Obj) : Prop where
  eq_of_id : ∀ a ∈ views, ∀ b ∈ views, ∀ id, idText a = .ok id → idText b = .ok id → a = b
  stamps : ∀ o ∈ views, HasStamps updated created o

theorem AreComparable.of_perm {listed : List Obj} (h : AreComparable updated created views)
    (hperm : listed.Perm views) : AreComparable updated created listed where
  eq_of_id a ha b hb := h.eq_of_id a (hperm.mem_iff.mp ha) b (hperm.mem_iff.mp hb)
  stamps o ho := h.stamps o (hperm.mem_iff.mp ho)

/-- Of views that can be compared and that all have a rank the one that is chosen beats all
others. -/
theorem exists_beats_all (hne : views ≠ []) (h : AreComparable updated created views)
    (hranks : ∀ o ∈ views, HasResult (ViewRank.ofRecord role o)) :
    ∃ best ∈ views, firstView? role views = .ok (some best) ∧
      ∀ o ∈ views, o ≠ best → Beats role best o ∧ ¬Beats role o best := by
  obtain ⟨first, hfirst⟩ := hasResult_firstRanked?.mpr hranks
  cases first with
  | none => exact absurd (eq_nil_of_firstRanked? hfirst) hne
  | some best =>
    obtain ⟨hbest, r, hr, hleast⟩ := firstRanked?_eq_some hfirst
    refine ⟨best, hbest, (firstView?_eq role views).trans hfirst, fun o ho hother => ?_⟩
    obtain ⟨s, hs⟩ := hranks o ho
    have hrank := isRankOf_of_ofRecord hr
    have hrank' := isRankOf_of_ofRecord hs
    have hlt : r.place < s.place := by
      refine lt_of_le_of_ne (hleast o ho s hs) fun hplace => hother ?_
      exact h.eq_of_id o ho best hbest r.id (ViewRank.id_eq_of_place_eq hplace ▸ hrank'.id) hrank.id
    rw [beats_iff hrank hrank' (h.stamps best hbest) (h.stamps o ho),
      beats_iff hrank' hrank (h.stamps o ho) (h.stamps best hbest)]
    exact ⟨hlt, hlt.not_gt⟩

/-- A view that no other one beats comes first in whatever order the views are listed: what comes
first in that order beats all others. -/
theorem firstView?_of_perm {listed : List Obj} {best : Obj}
    (h : AreComparable updated created views)
    (hranks : ∀ o ∈ views, HasResult (ViewRank.ofRecord role o)) (hbest : best ∈ views)
    (hunbeaten : ∀ o ∈ views, o ≠ best → ¬Beats role o best) (hperm : listed.Perm views) :
    firstView? role listed = .ok (some best) := by
  have hlisted : best ∈ listed := hperm.mem_iff.mpr hbest
  obtain ⟨first, hmem, hfirst, hbeats⟩ := exists_beats_all (List.ne_nil_of_mem hlisted)
    (h.of_perm hperm) fun o ho => hranks o (hperm.mem_iff.mp ho)
  by_cases hsame : first = best
  · rw [← hsame, hfirst]
  · have hwins := (hbeats best hlisted (Ne.symm hsame)).1
    exact absurd hwins (hunbeaten first (hperm.mem_iff.mp hmem) hsame)

/-- Of views no two of which have the same identifier, and whose times are stamps of one length
where they are not missing, there is one that beats all others for a role, and in whatever order the
views are listed it is the one that comes first. There is one exception: a default role that is, or
holds, an integer with more digits than a text may have keeps any view from being chosen, in every
order. -/
theorem selection_total_and_orderless (role : String) (hne : views ≠ []) {ids : List String}
    (hids : views.mapM idText = .ok ids) (hnodup : ids.Nodup)
    (hstamps : ∀ key ∈ ["updated_at", "created_at"], ∃ length, ∀ o ∈ views,
      IsStamp length (Obj.get o key)) :
    (∃ best ∈ views, (∀ o ∈ views, o ≠ best → Beats role best o ∧ ¬Beats role o best) ∧
      ∀ listed, listed.Perm views → firstView? role listed = .ok (some best)) ∨
    (∃ o ∈ views, ∃ item ∈ defaultRoles o, ¬item.HasText) ∧
      ∀ listed, listed.Perm views → firstView? role listed = .error .badInteger := by
  obtain ⟨updated, hupdated⟩ := hstamps "updated_at" (by simp)
  obtain ⟨created, hcreated⟩ := hstamps "created_at" (by simp)
  have hviews : AreComparable updated created views :=
    ⟨fun a ha b hb id => Outcome.eq_of_nodup_mapM hids hnodup ha hb,
      fun o ho => ⟨hupdated o ho, hcreated o ho⟩⟩
  by_cases hranks : ∀ o ∈ views, HasResult (ViewRank.ofRecord role o)
  · left
    obtain ⟨best, hbest, -, hbeats⟩ := exists_beats_all hne hviews hranks
    exact ⟨best, hbest, hbeats, fun listed hperm => firstView?_of_perm hviews hranks hbest
      (fun o ho hother => (hbeats o ho hother).2) hperm⟩
  · right
    obtain ⟨o, ho, hrank⟩ := by simpa only [not_forall, exists_prop] using hranks
    refine ⟨⟨o, ho, ?_⟩, fun listed hperm => ?_⟩
    · have hid := hasResult_mapM.mp ⟨ids, hids⟩ o ho
      rw [hasResult_ofRecord_iff (hviews.stamps o ho) hid] at hrank
      simpa only [not_forall, exists_prop] using hrank
    · rw [firstView?_eq, firstRanked?_eq_error_iff (onlyFault_ofRecord role)]
      exact ⟨rfl, o, hperm.mem_iff.mpr ho, hrank⟩

/-! ### Four forms -/

/-- Records of four forms. Two of them are defaults for editors, of which one has the higher
priority, and a third one is the default. -/
def editorForms : List Obj :=
  [[("id", .str "c"), ("updated_at", .str "2024-02-01T00:00:00Z")],
    [("id", .str "a"), ("is_default", .bool true), ("updated_at", .str "2024-01-01T00:00:00Z")],
    [("id", .int 7), ("config", .obj [("default_roles", .list [.str " editor "])]),
      ("priority", .int 2)],
    [("id", .str "d"), ("default_roles", .list [.str "Editor", .null]), ("priority", .bool true),
      ("updated_at", .str "2024-03-01T00:00:00Z"), ("created_at", .str "2024-03-01")]]

/-- The form for editors with the higher priority comes first, also if the list is turned round. -/
theorem editor_form_in_any_order : ∃ best ∈ editorForms, idText best = .ok "7" ∧
    (∀ o ∈ editorForms, o ≠ best → Beats "EDITOR" best o ∧ ¬Beats "EDITOR" o best) ∧
    firstView? "EDITOR" editorForms.reverse = .ok (some best) := by
  have hids : editorForms.mapM idText = .ok ["c", "a", "7", "d"] :=
    Outcome.eq_ok_of_toOption (by decide +kernel)
  have hnodup : ["c", "a", "7", "d"].Nodup := by decide
  have hstamps : ∀ key ∈ ["updated_at", "created_at"], ∃ length, ∀ o ∈ editorForms,
      IsStamp length (Obj.get o key) := by
    simp only [editorForms, List.forall_mem_cons]
    exact ⟨⟨20, .inr ⟨_, rfl, rfl⟩, .inr ⟨_, rfl, rfl⟩, .inl rfl, .inr ⟨_, rfl, rfl⟩, nofun⟩,
      ⟨10, .inl rfl, .inl rfl, .inl rfl, .inr ⟨_, rfl, rfl⟩, nofun⟩, nofun⟩
  have htexts : ∀ items ∈ editorForms.map defaultRoles, ∀ item ∈ items, item.HasText := by
    have hlisted : editorForms.map defaultRoles =
        [[], [], [.str " editor "], [.str "Editor", .null]] := rfl
    simp [hlisted]
  have hfirst : (firstView? "EDITOR" editorForms.reverse).toOption.map (fun best =>
      best.map fun o => (idText o).toOption) = some (some (some "7")) := by decide +kernel
  rcases selection_total_and_orderless "EDITOR" (List.cons_ne_nil _ _) hids hnodup hstamps with
    ⟨best, hbest, hbeats, hlisted⟩ | ⟨⟨o, ho, item, hitem, hnone⟩, -⟩
  · have hreverse := hlisted editorForms.reverse (List.reverse_perm _)
    rw [hreverse] at hfirst
    have hid := Outcome.eq_ok_of_toOption (Option.some.inj (Option.some.inj hfirst))
    exact ⟨best, hbest, hid, hbeats, hreverse⟩
  · exact absurd (htexts _ (List.mem_map_of_mem ho) item hitem) hnone

end ContentEngine
