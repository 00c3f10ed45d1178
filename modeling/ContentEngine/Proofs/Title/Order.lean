import ContentEngine.Proofs.Json.Finite
import ContentEngine.Proofs.Title.Tokens

/-!
# Titles and the order of keys

Where data is stored, the order of the keys in an object is lost. A path leads to the same documents
whatever that order is (`Value.SameDocument.leads`), and an object is shown as canonical JSON, in
which the keys are sorted. But the parts of a name are shown as they are, so that an object in one
of them shows its keys in their order. A title does not depend on the order of keys if that does not
happen in a value that it shows (`deriveTitle_of_sameDocument`).
-/

namespace ContentEngine

open Outcome (HasResult hasResult_bind_pure)

namespace Value

variable {v w : Value}

/-! ### Walks -/

theorem IsJson.eq_obj {o : Obj} (h : v.IsJson) (ho : v.asObj? = some o) : v = Value.obj o := by
  cases h <;> cases ho
  rfl

theorem IsJson.eq_list {items : List Value} (h : v.IsJson) (hlist : v.asItems? = some items) :
    v = Value.list items := by
  cases h <;> cases hlist
  rfl

/-- What segments lead to in a JSON document is one. -/
theorem IsJson.leads {x : Value} {segments : List String} (h : v.IsJson)
    (hleads : v.Leads segments x) : x.IsJson := by
  induction hleads with
  | done v => exact h
  | member hobj hget _ ih =>
    obtain rfl := h.eq_obj hobj
    exact ih (h.get? hget)
  | item hlist _ hget _ ih =>
    obtain rfl := h.eq_list hlist
    exact ih (h.item _ (List.mem_of_getElem? hget))

namespace SameDocument

/-- Segments lead to the same documents. -/
theorem leads {x : Value} {segments : List String} (h : v.SameDocument w)
    (hleads : v.Leads segments x) : ∃ y, w.Leads segments y ∧ x.SameDocument y := by
  induction hleads generalizing w with
  | done v => exact ⟨w, .done w, h⟩
  | @member v part x o segment rest hobj hget hrest ih =>
    cases h with
    | refl => exact ⟨x, .member hobj hget hrest, .refl x⟩
    | list => cases hobj
    | @obj a b has values =>
      obtain rfl := Option.some.inj hobj
      obtain ⟨other, hother⟩ : ∃ y, Obj.get? b segment = some y :=
        Option.isSome_iff_exists.mp ((has segment).symm.trans (Obj.has_of_get?_eq_some hget))
      obtain ⟨y, hy, hsame⟩ := ih (values segment part other hget hother)
      exact ⟨y, .member rfl hother hy, hsame⟩
  | @item v part x items i segment rest hlist hindex hget hrest ih =>
    cases h with
    | refl => exact ⟨x, .item hlist hindex hget hrest, .refl x⟩
    | obj => cases hlist
    | @list a b length same =>
      obtain rfl := Option.some.inj hlist
      obtain ⟨hi, rfl⟩ := List.getElem?_eq_some_iff.mp hget
      have hi' : i < b.length := length ▸ hi
      obtain ⟨y, hy, hsame⟩ := ih (same i hi hi')
      exact ⟨y, .item rfl hindex (List.getElem?_eq_getElem hi') hy, hsame⟩

theorem isSome_asItems? (h : v.SameDocument w) : w.asItems?.isSome = v.asItems?.isSome := by
  cases h <;> rfl

/-- Segments stumble alike. -/
theorem stumbles {segments : List String} (h : v.SameDocument w) (hv : v.Stumbles segments) :
    w.Stumbles segments := by
  obtain ⟨front, segment, rest, u, hsplit, hleads, hlist, hmisleading⟩ := hv
  obtain ⟨u', hleads', hsame⟩ := h.leads hleads
  exact ⟨front, segment, rest, u', hsplit, hleads', hsame.isSome_asItems?.trans hlist, hmisleading⟩

end SameDocument

/-! ### Values on one line -/

/-- Whether a value is another one, or stands in it as an item of a list, at any depth. -/
inductive Lists : Value → Value → Prop
  | self (v : Value) : Lists v v
  | item {items : List Value} {p u : Value} : p ∈ items → Lists p u → Lists (list items) u

/-- Whether no part of a name that a value shows on one line has an object with more than one
key. -/
def HasPlainNames (v : Value) : Prop :=
  ∀ o, v.Lists (obj o) → ∀ key ∈ nameParts, (Obj.get o key).IsOrderless

theorem hasPlainNames_obj {o : Obj} (h : ∀ m ∈ o, m.2.IsOrderless) :
    (Value.obj o).HasPlainNames := by
  rintro o' (_ | _) key -
  rw [Obj.get]
  cases hget : Obj.get? o key with
  | none => exact isOrderless_of_scalar rfl rfl
  | some v =>
    obtain ⟨m, hm, rfl⟩ := Obj.exists_of_get? hget
    exact h m hm

variable {a b : Obj}

theorem SameDocument.get {key : String} (h : (Value.obj a).SameDocument (Value.obj b)) :
    (Obj.get a key).SameDocument (Obj.get b key) := by
  cases h with
  | refl => exact .refl _
  | obj has values =>
    have hkey := has key
    rw [Obj.has_eq_isSome, Obj.has_eq_isSome] at hkey
    rw [Obj.get, Obj.get]
    cases hx : Obj.get? a key with
    | none =>
      rw [hx, Option.isSome_none, eq_comm, Option.isSome_eq_false_iff, Option.isNone_iff_eq_none]
        at hkey
      rw [hkey]
      exact .refl _
    | some x =>
      rw [hx, Option.isSome_some, eq_comm] at hkey
      obtain ⟨y, hy⟩ := Option.isSome_iff_exists.mp hkey
      rw [hy]
      exact values key x y hx hy

theorem IsJson.get (h : (Value.obj a).IsJson) (key : String) : (Obj.get a key).IsJson := by
  rw [Obj.get]
  cases hx : Obj.get? a key with
  | none => exact .null
  | some x => exact h.get? hx

/-- A JSON document without a canonical text has no text. -/
theorem IsJson.canonicalText_fails (h : v.IsJson) (htext : ¬v.HasText) :
    ∃ e, v.canonicalText = .error e ∧ v.text = .error .badInteger := by
  have hnone := mt h.hasResult_canonicalText.mp htext
  cases hcanonical : v.canonicalText with
  | error e => exact ⟨e, rfl, (onlyFault_text v).eq_error_iff.mpr (mt hasResult_text.mp htext)⟩
  | ok text => exact absurd ⟨text, hcanonical⟩ hnone

/-- Documents that differ in the order of keys alone have one canonical text, or none of them has one,
nor any other text that could stand in for it. -/
theorem SameDocument.canonicalText_cases (h : v.SameDocument w) (hv : v.IsJson) (hw : w.IsJson) :
    (∃ text, v.canonicalText = .ok text ∧ w.canonicalText = .ok text) ∨
      ∃ e f, v.canonicalText = .error e ∧ w.canonicalText = .error f ∧ v.text = w.text := by
  by_cases htext : v.HasText
  · obtain ⟨text, hcanonical⟩ := hv.hasResult_canonicalText.mpr htext
    exact .inl ⟨text, hcanonical, (h.canonicalText_eq hv hw htext).symm.trans hcanonical⟩
  · obtain ⟨e, he, htext'⟩ := hv.canonicalText_fails htext
    obtain ⟨f, hf, htext''⟩ := hw.canonicalText_fails ((h.hasText_iff hv hw).not.mp htext)
    exact .inr ⟨e, f, he, hf, htext'.trans htext''.symm⟩

/-- A name is shown alike if no part of it has an object with more than one key. -/
theorem SameDocument.nameLine_eq (h : (Value.obj a).SameDocument (Value.obj b))
    (ha : (Value.obj a).IsJson) (hb : (Value.obj b).IsJson)
    (hparts : ∀ key ∈ nameParts, (Obj.get a key).IsOrderless) : nameLine a = nameLine b := by
  have hget : ∀ key ∈ nameParts, Obj.get a key = Obj.get b key := fun key hkey =>
    h.get.eq_of_isOrderless (ha.get key) (hb.get key) (hparts key hkey)
  have htexts : ∀ keys ⊆ nameParts, voidlessTexts a keys = voidlessTexts b keys := by
    intro keys hkeys
    induction keys with
    | nil => rfl
    | cons key keys ih =>
      rw [List.cons_subset] at hkeys
      rw [voidlessTexts, voidlessTexts, hget key hkeys.1, ih hkeys.2]
  rw [nameLine, nameLine, htexts _ (by decide), hget "suffix" (by decide)]

theorem SameDocument.objectLine_eq (h : (Value.obj a).SameDocument (Value.obj b))
    (ha : (Value.obj a).IsJson) (hb : (Value.obj b).IsJson)
    (hparts : ∀ key ∈ nameParts, (Obj.get a key).IsOrderless) :
    objectLine (.obj a) a = objectLine (.obj b) b := by
  have hhas : Obj.has a = Obj.has b := by
    cases h with
    | refl => rfl
    | obj has _ => exact funext has
  rw [objectLine, objectLine, hhas, h.nameLine_eq ha hb hparts]
  split
  · rfl
  · obtain ⟨text, htext, htext'⟩ | ⟨e, f, he, hf, htext⟩ := h.canonicalText_cases ha hb
    · rw [htext, htext']
    · rw [he, hf]
      exact htext

theorem inlineItems_congr {xs ys : List Value}
    (h : List.Forall₂ (fun x y => inlineText x = inlineText y) xs ys) :
    inlineItems xs = inlineItems ys := by
  induction h with
  | nil => rfl
  | cons hfirst _ ih => rw [inlineItems, inlineItems, hfirst, ih]

/-- Documents that differ in the order of keys alone are shown alike, unless a name in them has an
object with more than one key in a part of it. -/
theorem SameDocument.inlineText_eq (h : v.SameDocument w) (hv : v.IsJson) (hw : w.IsJson)
    (hnames : v.HasPlainNames) : inlineText v = inlineText w := by
  induction h with
  | refl v => rfl
  | @list a b length items ih =>
    have hitems : List.Forall₂ (fun x y => inlineText x = inlineText y) a b := by
      refine List.forall₂_iff_get.mpr ⟨length, fun i hi hj => ?_⟩
      have hmem := List.getElem_mem hi
      exact ih i hi hj (hv.item _ hmem) (hw.item _ (List.getElem_mem hj))
        fun o ho => hnames o (.item hmem ho)
    rw [inlineText, inlineText, inlineItems_congr hitems]
  | @obj a b has values ih =>
    rw [inlineText, inlineText]
    exact (SameDocument.obj has values).objectLine_eq hv hw (hnames a (.self _))

/-- An object that is no name can be shown exactly if it has a text. -/
theorem IsJson.hasResult_objectLine (ha : (Value.obj a).IsJson)
    (hname : nameParts.any (Obj.has a) = false) :
    HasResult (objectLine (.obj a) a) ↔ (Value.obj a).HasText := by
  rw [objectLine, hname, if_neg Bool.false_ne_true, ← ha.hasResult_canonicalText]
  cases hcanonical : (Value.obj a).canonicalText with
  | ok text => simp
  | error e =>
    rw [hasResult_text, ← ha.hasResult_canonicalText, hcanonical]

/-- Documents that differ in the order of keys alone can be shown on the same occasions. -/
theorem SameDocument.hasResult_inlineText (h : v.SameDocument w) (hv : v.IsJson) (hw : w.IsJson)
    (hresult : HasResult (inlineText v)) : HasResult (inlineText w) := by
  induction h with
  | refl v => exact hresult
  | @list a b length items ih =>
    rw [inlineText, hasResult_bind_pure, hasResult_inlineItems]
      at hresult ⊢
    intro item hitem
    obtain ⟨i, hi', rfl⟩ := List.mem_iff_getElem.mp hitem
    have hi : i < a.length := length ▸ hi'
    have hmem : a[i] ∈ a := List.getElem_mem hi
    exact ih i hi hi' (hv.item _ hmem) (hw.item _ hitem) (hresult _ hmem)
  | @obj a b has values ih =>
    have hsame := SameDocument.obj has values
    rw [inlineText] at hresult ⊢
    cases hname : nameParts.any (Obj.has a) with
    | true =>
      have hname' : nameParts.any (Obj.has b) = true := funext has ▸ hname
      rw [objectLine, hname, if_pos rfl, hasResult_nameLine] at hresult
      rw [objectLine, hname', if_pos rfl, hasResult_nameLine]
      exact fun key hkey => hsame.get.hasText (hw.get key) (hresult key hkey)
    | false =>
      have hname' : nameParts.any (Obj.has b) = false := funext has ▸ hname
      rw [hv.hasResult_objectLine hname] at hresult
      exact (hw.hasResult_objectLine hname').mpr (hsame.hasText hw hresult)

end Value

/-! ### Titles -/

variable {template a b : Value}

/-- What two documents that differ in the order of keys alone hold at a path: both are at fault, or
they hold documents that differ in the order of keys alone. -/
theorem atPath_of_sameDocument (ha : a.IsJson) (hb : b.IsJson) (h : a.SameDocument b)
    {path : Value} {segments : List String} (hpath : path.pathSegments = .ok segments) :
    (a.atPath path .null = .error .badInteger ∧ b.atPath path .null = .error .badInteger) ∨
      ∃ v w, a.atPath path .null = .ok v ∧ b.atPath path .null = .ok w ∧ v.SameDocument w ∧
        v.IsJson ∧ w.IsJson ∧ (v = .null ∨ a.Leads segments v) := by
  obtain ⟨hstumbles, hleads, hnone⟩ := a.atPath_spec .null hpath
  obtain ⟨hstumbles', hleads', hnone'⟩ := b.atPath_spec .null hpath
  by_cases hstumble : a.Stumbles segments
  · exact .inl ⟨hstumbles hstumble, hstumbles' (h.stumbles hstumble)⟩
  · have hclear : ¬b.Stumbles segments := fun hb => hstumble (h.symm.stumbles hb)
    refine .inr ?_
    by_cases hv : ∃ v, segments ≠ [] ∧ a.Leads segments v
    · obtain ⟨v, hne, hv⟩ := hv
      obtain ⟨w, hw, hsame⟩ := h.leads hv
      exact ⟨v, w, hleads v hne hv, hleads' w hne hw, hsame, ha.leads hv, hb.leads hw, .inr hv⟩
    · simp only [not_exists, not_and] at hv
      refine ⟨.null, .null, hnone hstumble hv, hnone' hclear fun w hne hw => ?_, .refl _, .null,
        .null, .inl rfl⟩
      obtain ⟨v, hv', -⟩ := h.symm.leads hw
      exact hv v hne hv'

theorem titleToken_eq_of_sameDocument {content : String} (ha : a.IsJson) (hb : b.IsJson)
    (h : a.SameDocument b) (hnames : ∀ w, a.Leads (tokenPath content) w → w.HasPlainNames) :
    titleToken a content = titleToken b content := by
  rw [titleToken_eq, titleToken_eq]
  obtain ⟨hv, hw⟩ | ⟨v, w, hv, hw, hsame, hvjson, hwjson, hfrom⟩ :=
    atPath_of_sameDocument ha hb h (pathSegments_trim content)
  · rw [hv, hw]
  · rw [hv, hw, Outcome.ok_bind, Outcome.ok_bind]
    obtain rfl | hleads := hfrom
    · cases hsame
      rfl
    · exact hsame.inlineText_eq hvjson hwjson (hnames v hleads)

theorem hasResult_titleToken_of_sameDocument {content : String} (ha : a.IsJson) (hb : b.IsJson)
    (h : a.SameDocument b) (hresult : HasResult (titleToken a content)) :
    HasResult (titleToken b content) := by
  rw [titleToken_eq] at hresult ⊢
  obtain ⟨hv, hw⟩ | ⟨v, w, hv, hw, hsame, hvjson, hwjson, -⟩ :=
    atPath_of_sameDocument ha hb h (pathSegments_trim content)
  · rw [hv] at hresult
    rw [hw]
    exact hresult
  · rw [hv, Outcome.ok_bind] at hresult
    rw [hw, Outcome.ok_bind]
    exact hsame.hasResult_inlineText hvjson hwjson hresult

theorem hasResult_deriveTitle_of_sameDocument (ha : a.IsJson) (hb : b.IsJson) (h : a.SameDocument b)
    (hresult : HasResult (deriveTitle template a)) : HasResult (deriveTitle template b) := by
  obtain ⟨text, htext⟩ :=
    Value.hasResult_presentText.mpr (hasText_of_hasResult_deriveTitle hresult)
  rw [hasResult_deriveTitle htext] at hresult ⊢
  exact fun content hmem => hasResult_titleToken_of_sameDocument ha hb h (hresult content hmem)

/-- Deriving a title fails alike for two documents that differ in the order of keys alone, and the
titles that a template gives for them are the same, unless a value that it shows has an object with
more than one key in a part of a name. -/
theorem deriveTitle_of_sameDocument (template : Value) (ha : a.IsJson) (hb : b.IsJson)
    (h : a.SameDocument b) :
    (∀ fault, deriveTitle template a = .error fault ↔ deriveTitle template b = .error fault) ∧
      ((∀ text content w, template.presentText = .ok text →
          .token content ∈ Template.pieces text → a.Leads (tokenPath (String.ofList content)) w →
          w.HasPlainNames) →
        deriveTitle template a = deriveTitle template b) := by
  constructor
  · exact (onlyFault_deriveTitle template a).error_iff (onlyFault_deriveTitle template b)
      ⟨hasResult_deriveTitle_of_sameDocument ha hb h,
        hasResult_deriveTitle_of_sameDocument hb ha h.symm⟩
  · intro hnames
    rw [deriveTitle, deriveTitle]
    refine Outcome.bind_congr fun text htext => ?_
    have hrender : Template.render (titleToken a) (Template.pieces text) =
        Template.render (titleToken b) (Template.pieces text) :=
      Template.render_congr fun content hmem =>
        titleToken_eq_of_sameDocument ha hb h fun w hw => hnames text content w htext hmem hw
    rw [hrender]

/-- Data with an author and two sizes, in either order. -/
def authorData (author sizes : Obj) : Value :=
  .obj [("author", .obj author), ("sizes", .obj sizes)]

theorem isJson_authorData {author sizes : Obj} (hauthor : (Value.obj author).IsJson)
    (hsizes : (Value.obj sizes).IsJson) : (authorData author sizes).IsJson :=
  .obj (by simp [Obj.keys, Table.keys]) (by simp [hauthor, hsizes])

theorem sameDocument_authorData {author author' sizes sizes' : Obj}
    (hauthor : (Value.obj author).SameDocument (.obj author'))
    (hsizes : (Value.obj sizes).SameDocument (.obj sizes')) :
    (authorData author sizes).SameDocument (authorData author' sizes') :=
  .obj_of_forall₂ (.cons ⟨rfl, hauthor⟩ (.cons ⟨rfl, hsizes⟩ .nil))

/-- Two members come in either order. -/
theorem sameDocument_swap {key key' : String} (hne : key ≠ key') (v w : Value) :
    (Value.obj [(key, v), (key', w)]).SameDocument (.obj [(key', w), (key, v)]) := by
  refine .obj_of_get? fun k => ?_
  simp only [Obj.get?_cons, Obj.get?_nil]
  split <;> split <;> simp_all

theorem isJson_pair {key key' : String} (hne : key ≠ key') {v w : Value} (hv : v.IsJson)
    (hw : w.IsJson) : (Value.obj [(key, v), (key', w)]).IsJson :=
  .obj (by simp [Obj.keys, Table.keys, hne]) (by simp [hv, hw])

/-- A name and an object with two keys, in either order. -/
theorem author_titled :
    let template := "\x7bauthor\x7d: \x7bsizes\x7d"
    let a := authorData [("first", .str "Ann"), ("last", .str "Bell")]
      [("wide", .int 4), ("tall", .int 3)]
    let b := authorData [("last", .str "Bell"), ("first", .str "Ann")]
      [("tall", .int 3), ("wide", .int 4)]
    deriveTitle (.str template) a = deriveTitle (.str template) b := by
  intro template a b
  have hpieces : Template.pieces template =
      [.token "author".toList, .char ':', .char ' ', .token "sizes".toList] := by
    decide +kernel
  have hauthor : tokenPath "author" = ["author"] := by decide +kernel
  have hsizes : tokenPath "sizes" = ["sizes"] := by decide +kernel
  refine (deriveTitle_of_sameDocument (.str template)
    (isJson_authorData (isJson_pair (by decide) (.str _) (.str _))
      (isJson_pair (by decide) (.int _) (.int _)))
    (isJson_authorData (isJson_pair (by decide) (.str _) (.str _))
      (isJson_pair (by decide) (.int _) (.int _)))
    (sameDocument_authorData (sameDocument_swap (by decide) _ _)
      (sameDocument_swap (by decide) _ _))).2 ?_
  intro text content w htext hmem hleads
  obtain rfl := Except.ok.inj htext
  rw [hpieces] at hmem
  have hwalk := Value.walk_eq_ok_some_iff.mpr hleads
  simp only [List.mem_cons, TemplatePiece.token.injEq, reduceCtorEq, false_or, List.not_mem_nil,
    or_false] at hmem
  obtain rfl | rfl := hmem
  · rw [String.ofList_toList, hauthor] at hwalk
    obtain rfl := Option.some.inj (Except.ok.inj hwalk)
    have htext (text : String) : (Value.str text).IsOrderless := Value.isOrderless_of_scalar rfl rfl
    exact Value.hasPlainNames_obj (by simp [htext])
  · rw [String.ofList_toList, hsizes] at hwalk
    obtain rfl := Option.some.inj (Except.ok.inj hwalk)
    have hint (n : Int) : (Value.int n).IsOrderless := Value.isOrderless_of_scalar rfl rfl
    exact Value.hasPlainNames_obj (by simp [hint])

/-- A part of a name that is an object with two keys, in either order. -/
theorem title_shows_order :
    let a := authorData [("first", .obj [("wide", .int 4), ("tall", .int 3)])] []
    let b := authorData [("first", .obj [("tall", .int 3), ("wide", .int 4)])] []
    a.IsJson ∧ b.IsJson ∧ a.SameDocument b ∧
      deriveTitle (.str "\x7bauthor\x7d") a ≠ deriveTitle (.str "\x7bauthor\x7d") b := by
  intro a b
  have hempty : (Value.obj []).IsJson := .obj List.nodup_nil (by simp)
  have hname {part : Value} (hpart : part.IsJson) : (Value.obj [("first", part)]).IsJson :=
    .obj (List.nodup_singleton _) (by simpa using hpart)
  have ha : deriveTitle (.str "\x7bauthor\x7d") a = .ok "\x7b'wide': 4, 'tall': 3\x7d" :=
    Outcome.eq_ok_of_toOption (by decide +kernel)
  have hb : deriveTitle (.str "\x7bauthor\x7d") b = .ok "\x7b'tall': 3, 'wide': 4\x7d" :=
    Outcome.eq_ok_of_toOption (by decide +kernel)
  rw [ha, hb]
  refine ⟨isJson_authorData (hname (isJson_pair (by decide) (.int _) (.int _))) hempty,
    isJson_authorData (hname (isJson_pair (by decide) (.int _) (.int _))) hempty,
    sameDocument_authorData (.obj_of_forall₂ (.cons ⟨rfl, sameDocument_swap (by decide) _ _⟩ .nil))
      (.refl _), by simp⟩

end ContentEngine
