import Mathlib
import ContentEngine.Proofs.Repeater.View
import ContentEngine.Proofs.Template
import ContentEngine.Proofs.Visibility.Order

/-!
# What an evaluation reads of a row

An evaluation reads the cells of the subfields that are not inert, the keys that its rules name, and
the keys that the tokens of its label name (`Repeater.Reads`). Rows that agree on what is moved
under these are shown alike (`viewRows_congr`). Rules and labels may name an inert subfield, or a
text under which its data is given; where they do not, the data of inert subfields is not read at
all (`viewRows_of_agree_off_inert`).
-/

namespace ContentEngine

/-! ### Rules -/

variable {a b : Obj}

/-- Rules have the same effect on rows that agree under the keys that the rules name. -/
theorem applyRules_of_agree {rules : List Value} (shown : VisibilityMap)
    (h : ∀ raw ∈ rules, ∀ rule, VisibilityRule.ofValue? raw = .ok (some rule) → rule.ifKey ≠ "" →
      Obj.get a rule.ifKey = Obj.get b rule.ifKey) :
    applyRules shown a rules = applyRules shown b rules := by
  refine applyRules_congr shown (List.forall₂_same.mpr fun raw hraw => ⟨.refl raw, ?_⟩)
  intro rule hrule hkey
  rw [h raw hraw rule hrule hkey]
  exact .refl _

/-! ### Labels -/

theorem rowToken_congr {content : String}
    (h : trim content ≠ "" → Obj.get a (trim content) = Obj.get b (trim content)) :
    rowToken a content = rowToken b content := by
  rw [rowToken, rowToken]
  by_cases hkey : trim content = ""
  · simp only [hkey, true_or, if_true]
  · rw [h hkey]

/-- The pieces of a label's template once the number of the row is put in. -/
def labelPieces (text number : String) : List TemplatePiece :=
  Template.piecesFrom none (replaceAll ['\x7b', '#', '\x7d'] number.toList text.toList)

theorem rowLabel_congr {template : Value} {index : Int}
    (h : ∀ text number content, template.presentText = .ok text →
      integerText (index + 1) = .ok number → .token content ∈ labelPieces (trim text) number →
      trim (String.ofList content) ≠ "" →
      Obj.get a (trim (String.ofList content)) = Obj.get b (trim (String.ofList content))) :
    rowLabel template a index = rowLabel template b index := by
  rw [rowLabel, rowLabel]
  refine Outcome.bind_congr fun text htext => ?_
  dsimp only
  refine Outcome.bind_congr fun number hnumber => ?_
  have hrender := Template.render_congr fun content hmem =>
    rowToken_congr (h text number content htext hnumber hmem)
  rw [labelPieces] at hrender
  rw [hrender]

namespace Repeater

/-! ### Cells and rows -/

variable {r : Repeater} {depth : Depth}

theorem viewCell_congr {shown : VisibilityMap} {s : Subfield}
    (h : r.isInert depth.level s = false → Obj.get a s.key = Obj.get b s.key) :
    viewCell r depth a shown s = viewCell r depth b shown s := by
  rw [viewCell, viewCell]
  cases hinert : r.isInert depth.level s with
  | true => rfl
  | false => rw [h hinert]

theorem viewCells_congr {shown : VisibilityMap} {subfields : List Subfield}
    (h : ∀ s ∈ subfields, r.isInert depth.level s = false → Obj.get a s.key = Obj.get b s.key) :
    viewCells r depth a shown subfields = viewCells r depth b shown subfields := by
  induction subfields with
  | nil => rw [viewCells, viewCells]
  | cons s rest ih =>
    rw [viewCells, viewCells, viewCell_congr (h s List.mem_cons_self),
      ih fun t ht => h t (List.mem_cons_of_mem s ht)]

/-- The keys that are read of the aligned row with an index. -/
inductive Reads (r : Repeater) (level index : Int) : String → Prop
  | cell {s} : s ∈ r.subfields → r.isInert level s = false → Reads r level index s.key
  | rule {raw rule} : raw ∈ r.rules → VisibilityRule.ofValue? raw = .ok (some rule) →
      rule.ifKey ≠ "" → Reads r level index rule.ifKey
  | label {text number content} : r.labelTemplate.presentText = .ok text →
      integerText (index + 1) = .ok number → .token content ∈ labelPieces (trim text) number →
      trim (String.ofList content) ≠ "" → Reads r level index (trim (String.ofList content))

/-- The texts under which the row with an index may give what is read of it. -/
def ReadsFrom (r : Repeater) (level index : Int) (source : String) : Prop :=
  ∃ k, r.Reads level index k ∧ source ∈ alignSources r.subfields k

/-- Rows that agree wherever they are read are shown alike. -/
theorem viewRows_congr (hr : r.IsStrict) {P : String → Prop} {index : Nat} {as bs : List Obj}
    (hrows : List.Forall₂ (fun a b => ∀ k, P k → Obj.get? a k = Obj.get? b k) as bs)
    (hreads : ∀ i : Nat, index ≤ i → i < index + as.length →
      ∀ k, r.ReadsFrom depth.level i k → P k) :
    viewRows r depth index as = viewRows r depth index bs := by
  induction hrows generalizing index with
  | nil => rfl
  | @cons a b as bs hagree hrest ih =>
    rw [List.length_cons] at hreads
    have hread : ∀ k, r.Reads depth.level index k →
        Obj.get (alignRow r.subfields a) k = Obj.get (alignRow r.subfields b) k := by
      intro k hk
      rw [Obj.get, Obj.get, get?_alignRow_congr hr.isKey fun source hsource => hagree source
        (hreads index (Nat.le_refl _) (by omega) source ⟨k, hk, hsource⟩)]
    have hshown : r.visibility (alignRow r.subfields a) =
        r.visibility (alignRow r.subfields b) := by
      have hrules : ∀ shown, applyRules shown (alignRow r.subfields a) r.rules =
          applyRules shown (alignRow r.subfields b) r.rules := fun _ =>
        applyRules_of_agree _ fun _ hraw _ hrule hkey => hread _ (.rule hraw hrule hkey)
      simp only [visibility, visibilityOf, hrules]
    have hcells : ∀ shown, viewCells r depth (alignRow r.subfields a) shown r.subfields =
        viewCells r depth (alignRow r.subfields b) shown r.subfields := fun _ =>
      viewCells_congr fun _ hs hinert => hread _ (.cell hs hinert)
    have hlabel : rowLabel r.labelTemplate (alignRow r.subfields a) index =
        rowLabel r.labelTemplate (alignRow r.subfields b) index :=
      rowLabel_congr fun _ _ _ htext hnumber hmem hkey => hread _ (.label htext hnumber hmem hkey)
    have hothers : viewRows r depth (index + 1) as = viewRows r depth (index + 1) bs :=
      ih fun i hfrom hto => hreads i (by omega) (by omega)
    rw [viewRows, viewRows, hshown, hlabel, hothers]
    simp only [hcells]

/-! ### Inert subfields -/

/-- The texts under which the data of inert subfields is given: their keys and aliases. -/
def inertNames (r : Repeater) (level : Int) : List String :=
  (r.subfields.filter (r.isInert level)).flatMap fun s => [s.key, camelCase s.key]

/-- Rows that agree on all but the data of inert subfields are shown alike, if no rule, no label and
no other subfield reads under the keys and aliases of these. -/
theorem viewRows_of_agree_off_inert {given config : Obj}
    (hconfig : FieldDef.repeaterConfigOf given = .ok config) {as bs : List Obj}
    (hrows : List.Forall₂ (fun a b => ∀ k, k ∉ (ofConfig config).inertNames depth.level →
      Obj.get? a k = Obj.get? b k) as bs)
    (hunread : ∀ i : Nat, i < as.length → ∀ k ∈ (ofConfig config).inertNames depth.level,
      ¬(ofConfig config).ReadsFrom depth.level i k) :
    viewRows (ofConfig config) depth 0 as = viewRows (ofConfig config) depth 0 bs := by
  refine viewRows_congr (isStrict_of_repeaterConfigOf hconfig) hrows fun i _ hi k hk hinert => ?_
  exact hunread i (by omega) k hinert hk

/-! ### Notes and items -/

/-- The rule that hides the note if there is something under a key. -/
def hideNote (ifKey : String) : VisibilityRule where
  ifKey := ifKey
  operator := "truthy"
  value := .null
  action := .hide
  targets := ["note"]

/-- Rows with items, which are too deep, and with a note that the rule about a key may hide. -/
def notesConfig (ifKey : String) : Obj :=
  usualConfig 1 [hideNote ifKey] [usualField "items" .repeater 0 (usualConfig 3 [] []),
    usualField "note" .text 1 []]

/-- A row with items and a note. -/
def itemsRow : Obj := [("items", .list [.obj []]), ("note", .str "n")]

/-- The same row without its items. -/
def noteRow : Obj := [("note", .str "n")]

theorem subfields_notesConfig (ifKey : String) : (ofConfig (notesConfig ifKey)).subfields =
    [(usualField "items" .repeater 0 (usualConfig 3 [] [])).toSubfield,
      (usualField "note" .text 1 []).toSubfield] := rfl

theorem inertNames_notesConfig (ifKey : String) :
    (ofConfig (notesConfig ifKey)).inertNames 1 = ["items", "items"] := by
  cbv

theorem rows_agree_off_items {ifKey k : String}
    (hk : k ∉ (ofConfig (notesConfig ifKey)).inertNames 1) :
    Obj.get? itemsRow k = Obj.get? noteRow k := by
  rw [inertNames_notesConfig] at hk
  rw [itemsRow, Obj.get?_cons, if_neg fun h => hk (by simp [h])]
  rfl

/-- A rule about the note reads no items. -/
theorem not_readsFrom_items {index : Int} {k : String}
    (hk : k ∈ (ofConfig (notesConfig "note")).inertNames 1) :
    ¬(ofConfig (notesConfig "note")).ReadsFrom 1 index k := by
  have hitems : k = "items" := by simpa [inertNames_notesConfig] using hk
  subst hitems
  have hnote : "items" ∉ alignSources (ofConfig (notesConfig "note")).subfields "note" := by
    rw [subfields_notesConfig]
    decide
  rintro ⟨key, hreads, hsource⟩
  cases hreads with
  | @cell s hs hinert =>
    rw [subfields_notesConfig, List.mem_pair] at hs
    rcases hs with rfl | rfl
    · exact absurd hinert (by decide)
    · exact hnote hsource
  | @rule raw rule hraw hrule hkey =>
    have hraw : raw = (hideNote "note").toValue := List.mem_singleton.mp hraw
    have hread : VisibilityRule.ofValue? raw = .ok (some (hideNote "note")) := by
      rw [hraw]
      cbv
    rw [hread, Except.ok.injEq, Option.some.injEq] at hrule
    rw [← hrule] at hsource
    exact hnote hsource
  | @label text number content htext hnumber hmem hkey =>
    -- the label has no template, and so no tokens
    have hempty : text = "" := (Except.ok.inj htext).symm
    subst hempty
    have hpieces : labelPieces (trim "") number = [] := rfl
    rw [hpieces] at hmem
    exact List.not_mem_nil hmem

/-- Where the rule reads the note, it does not matter whether there are items. -/
theorem items_do_not_hide_note :
    viewRows (ofConfig (notesConfig "note")) (.ofInt 1) 0 [itemsRow] =
      viewRows (ofConfig (notesConfig "note")) (.ofInt 1) 0 [noteRow] := by
  have hconfig : FieldDef.repeaterConfigOf (notesConfig "note") = .ok (notesConfig "note") := by
    cbv
  exact viewRows_of_agree_off_inert hconfig (.cons (fun _ => rows_agree_off_items) .nil)
    fun _ _ _ => not_readsFrom_items

/-- A rule may read what is under the key of an inert subfield: items that are too deep to be
evaluated hide the note. -/
theorem inert_items_hide_note :
    FieldDef.repeaterConfigOf (notesConfig "items") = .ok (notesConfig "items") ∧
      (∀ k ∉ (ofConfig (notesConfig "items")).inertNames 1,
        Obj.get? itemsRow k = Obj.get? noteRow k) ∧
      viewRows (ofConfig (notesConfig "items")) (.ofInt 1) 0 [itemsRow] =
        .ok [.row 0 "Row 1" [.inert "items" (.ofInt 1), .hidden "note" (.str "text")]] ∧
      viewRows (ofConfig (notesConfig "items")) (.ofInt 1) 0 [noteRow] =
        .ok [.row 0 "Row 1" [.inert "items" (.ofInt 1), .plain "note" (.str "text") (.str "n")]] := by
  refine ⟨by cbv, fun _ => rows_agree_off_items, ?_, ?_⟩
  · rw [viewRows, viewRows]
    simp only [show alignRow (ofConfig (notesConfig "items")).subfields itemsRow = itemsRow from
      rfl]
    simp only [subfields_notesConfig, viewCells, viewCell]
    rfl
  · rw [viewRows, viewRows]
    simp only [show alignRow (ofConfig (notesConfig "items")).subfields noteRow = noteRow from
      rfl]
    simp only [subfields_notesConfig, viewCells, viewCell]
    rfl

end Repeater

end ContentEngine
