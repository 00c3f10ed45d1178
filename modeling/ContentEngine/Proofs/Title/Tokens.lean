import ContentEngine.Proofs.Path
import ContentEngine.Proofs.Template
import ContentEngine.Proofs.Text.Blank
import ContentEngine.Proofs.Title.Line

/-!
# What the tokens of a title stand for

A token of a title template is a path into the data. It stands for the value that its path leads to,
shown on one line, or for nothing if its path leads nowhere (`IsFilling`). A title is what the
template becomes when its tokens are replaced, as one line of text. The only thing that keeps data
with a text from having a title is a token whose path stumbles, and so it is for paths in general
(`titles_fail_iff`).
-/

namespace ContentEngine

open Outcome (HasResult OnlyFault onlyFault_pure)

/-! ### Tokens -/

/-- The segments of the path that a token consists of. -/
def tokenPath (content : String) : List String :=
  pathSegments (trim content)

theorem pathSegments_trim (content : String) :
    (Value.str (trim content)).pathSegments = .ok (tokenPath content) :=
  rfl

/-- Whether a text is what a token stands for: the value that its path leads to on one line, or
nothing if it leads nowhere. -/
def IsFilling (data : Value) (content text : String) : Prop :=
  (∃ w, tokenPath content ≠ [] ∧ data.Leads (tokenPath content) w ∧ inlineText w = .ok text) ∨
    (∀ w, tokenPath content ≠ [] → ¬data.Leads (tokenPath content) w) ∧ text = ""

/-- What a path leads to has a text if the document has one. -/
theorem Value.HasText.leads {v w : Value} {segments : List String} (h : v.HasText)
    (hleads : v.Leads segments w) : w.HasText := by
  induction hleads with
  | done v => exact h
  | member hobj hget _ ih =>
    refine ih ?_
    obtain ⟨m, hm, rfl⟩ := Obj.exists_of_get? hget
    exact hasText_obj.mp (h.asObj? hobj) m hm
  | @item v _ _ items _ _ _ hlist _ hget _ ih =>
    have hparts : v.parts = items := by
      cases v <;> cases hlist <;> rfl
    exact ih (h.part (hparts ▸ List.mem_of_getElem? hget))

/-- A blank token stands for what an empty path leads to, which is nothing. -/
theorem titleToken_eq (data : Value) (content : String) :
    titleToken data content = data.atPath (.str (trim content)) .null >>= inlineText := by
  rw [titleToken]
  split
  · next hblank =>
    rw [hblank]
    rfl
  · rfl

/-- A token fails exactly if its path stumbles, and otherwise it is replaced by what it stands
for. -/
theorem titleToken_spec {data : Value} (hdata : data.HasText) (content : String) :
    (data.Stumbles (tokenPath content) → titleToken data content = .error .badInteger) ∧
      (¬data.Stumbles (tokenPath content) →
        ∃ text, titleToken data content = .ok text ∧ IsFilling data content text) := by
  obtain ⟨hstumbles, hleads, hnone⟩ :=
    data.atPath_spec .null (pathSegments_trim content)
  rw [titleToken_eq]
  refine ⟨fun h => by rw [hstumbles h]; rfl, fun hclear => ?_⟩
  by_cases hw : ∃ w, tokenPath content ≠ [] ∧ data.Leads (tokenPath content) w
  · obtain ⟨w, hne, hw⟩ := hw
    obtain ⟨text, htext⟩ := Value.hasResult_inlineText (hdata.leads hw)
    rw [hleads w hne hw]
    exact ⟨text, htext, .inl ⟨w, hne, hw, htext⟩⟩
  · simp only [not_exists, not_and] at hw
    rw [hnone hclear hw]
    exact ⟨"", rfl, .inr ⟨hw, rfl⟩⟩

theorem hasResult_titleToken {data : Value} (hdata : data.HasText) {content : String} :
    HasResult (titleToken data content) ↔ ¬data.Stumbles (tokenPath content) := by
  obtain ⟨hfails, hresult⟩ := titleToken_spec hdata content
  refine (Outcome.iff_of_fails hfails fun hclear => ?_).2
  obtain ⟨text, htext, -⟩ := hresult hclear
  exact ⟨text, htext⟩

theorem onlyFault_titleToken (data : Value) (content : String) :
    OnlyFault .badInteger (titleToken data content) := by
  rw [titleToken_eq]
  exact (Value.onlyFault_atPath _ _ _).bind Value.onlyFault_inlineText

/-! ### Titles -/

/-- What a template gives, be it blank or not, is what becomes of its pieces. -/
theorem deriveTitle_eq {template : Value} {text : String} (h : template.presentText = .ok text)
    (data : Value) : deriveTitle template data =
      Template.render (titleToken data) (Template.pieces text) >>= fun chars =>
        pure (collapse (String.ofList chars)) := by
  rw [deriveTitle, h, Outcome.ok_bind]
  split
  · next hblank =>
    have hbrace : '\x7b' ∉ text.toList := fun hmem =>
      absurd (List.all_eq_true.mp hblank _ hmem) (by decide)
    have hfill : Template.render (titleToken data) (Template.plain text.toList) =
        .ok (Template.fill (fun _ => "") (Template.plain text.toList)) :=
      Template.render_eq_ok_fill (by simp [Template.plain])
    have hrender : Template.render (titleToken data) (Template.plain text.toList) =
        .ok text.toList := by
      rw [hfill, Template.fill_plain]
    rw [Template.pieces, Template.piecesFrom_eq_plain hbrace, hrender, Outcome.ok_bind,
      String.ofList_toList, collapse_of_isBlankText hblank]
  · rfl

variable {template data : Value} {text : String}

theorem onlyFault_deriveTitle (template data : Value) :
    OnlyFault .badInteger (deriveTitle template data) := by
  refine (Value.onlyFault_presentText template).bind fun text => ?_
  split
  · exact onlyFault_pure _ _
  · exact (Template.onlyFault_render (onlyFault_titleToken data)).bind fun _ => onlyFault_pure _ _

/-- A title can be derived exactly if each of its tokens can be replaced. -/
theorem hasResult_deriveTitle (h : template.presentText = .ok text) :
    HasResult (deriveTitle template data) ↔ ∀ content, .token content ∈ Template.pieces text →
      HasResult (titleToken data (String.ofList content)) := by
  rw [deriveTitle_eq h, Outcome.hasResult_bind_pure,
    Template.hasResult_render]

theorem hasText_of_hasResult_deriveTitle (h : HasResult (deriveTitle template data)) :
    template.HasText := by
  obtain ⟨title, htitle⟩ := h
  rw [deriveTitle, Outcome.bind_eq_ok_iff] at htitle
  obtain ⟨text, htext, -⟩ := htitle
  exact Value.hasResult_presentText.mp ⟨text, htext⟩

theorem exists_deriveTitle_of_not_stumbles (h : template.presentText = .ok text)
    (hdata : data.HasText) (hclear : ∀ content, .token content ∈ Template.pieces text →
      ¬data.Stumbles (tokenPath (String.ofList content))) :
    ∃ token : String → String,
      deriveTitle template data =
        .ok (collapse (String.ofList (Template.fill token (Template.pieces text)))) ∧
      ∀ content, .token content ∈ Template.pieces text →
        IsFilling data (String.ofList content) (token (String.ofList content)) := by
  have htokens : ∀ content : String, ∃ filling, .token content.toList ∈ Template.pieces text →
      titleToken data content = .ok filling ∧ IsFilling data content filling := by
    intro content
    by_cases hmem : .token content.toList ∈ Template.pieces text
    · have hnot := hclear _ hmem
      rw [String.ofList_toList] at hnot
      obtain ⟨filling, hfilling⟩ := (titleToken_spec hdata content).2 hnot
      exact ⟨filling, fun _ => hfilling⟩
    · exact ⟨"", fun h => absurd h hmem⟩
  choose token htoken using htokens
  have hpieces : ∀ content, .token content ∈ Template.pieces text →
      titleToken data (String.ofList content) = .ok (token (String.ofList content)) ∧
        IsFilling data (String.ofList content) (token (String.ofList content)) :=
    fun content hmem => htoken _ (by rwa [String.toList_ofList])
  refine ⟨token, ?_, fun content hmem => (hpieces content hmem).2⟩
  rw [deriveTitle_eq h, Template.render_eq_ok_fill fun content hmem => (hpieces content hmem).1]
  rfl

/-- A title cannot be derived exactly if the template has no text or one of its tokens stumbles. -/
theorem deriveTitle_eq_error_iff (hdata : data.HasText) :
    deriveTitle template data = .error .badInteger ↔
      ¬template.HasText ∨ ∃ text content, template.presentText = .ok text ∧
        .token content ∈ Template.pieces text ∧
        data.Stumbles (tokenPath (String.ofList content)) := by
  rw [(onlyFault_deriveTitle template data).eq_error_iff]
  by_cases htemplate : template.HasText
  · obtain ⟨text, htext⟩ := Value.hasResult_presentText.mpr htemplate
    simp only [hasResult_deriveTitle htext, hasResult_titleToken hdata, htemplate, htext]
    simp
  · exact iff_of_true (mt hasText_of_hasResult_deriveTitle htemplate) (.inl htemplate)

/-- The value at a path is the one that the path leads to, or the default if it leads nowhere, and a
title is its template with each token replaced by what it stands for. What is no integer and looks
like one, where a list is reached, is all that can keep a path from having a value and a title from
being derived, apart from a path or a template that has no text. -/
theorem titles_fail_iff (doc path default template : Value) (hdata : data.HasText) :
    ((doc.atPath path default = .error .badInteger ↔
          ¬path.HasText ∨ ∃ segments, path.pathSegments = .ok segments ∧ doc.Stumbles segments) ∧
        ∀ segments, path.pathSegments = .ok segments → ¬doc.Stumbles segments →
          (∀ w, segments ≠ [] → doc.Leads segments w → doc.atPath path default = .ok w) ∧
          ((∀ w, segments ≠ [] → ¬doc.Leads segments w) →
            doc.atPath path default = .ok default)) ∧
      (deriveTitle template data = .error .badInteger ↔
        ¬template.HasText ∨ ∃ text content, template.presentText = .ok text ∧
          .token content ∈ Template.pieces text ∧
          data.Stumbles (tokenPath (String.ofList content))) ∧
      ∀ text, template.presentText = .ok text →
        (∀ content, .token content ∈ Template.pieces text →
          ¬data.Stumbles (tokenPath (String.ofList content))) →
        ∃ token : String → String,
          deriveTitle template data =
            .ok (collapse (String.ofList (Template.fill token (Template.pieces text)))) ∧
          ∀ content, .token content ∈ Template.pieces text →
            IsFilling data (String.ofList content) (token (String.ofList content)) := by
  refine ⟨⟨Value.atPath_eq_error_iff, fun segments hsegments hclear => ?_⟩,
    deriveTitle_eq_error_iff hdata,
    fun text htext hclear => exists_deriveTitle_of_not_stumbles htext hdata hclear⟩
  obtain ⟨-, hleads, hnone⟩ := doc.atPath_spec default hsegments
  exact ⟨hleads, hnone hclear⟩

/-- Data with a list of two tags. -/
def taggedData : Value :=
  .obj [("tags", .list [.str "old", .str "new"])]

theorem hasText_taggedData : taggedData.HasText := by
  simp [taggedData, Value.hasText_obj, Value.hasText_list]

theorem stumbles_taggedData : taggedData.Stumbles (tokenPath "tags.--1") := by
  have hpath : tokenPath "tags.--1" = ["tags", "--1"] := by decide +kernel
  have hlooks : trimBy isBlank "--1".toList = List.replicate 2 '-' ++ ['1'] := by decide +kernel
  rw [hpath]
  exact ⟨["tags"], "--1", [], _, rfl, .member rfl rfl (.done _), rfl, 2, ['1'], hlooks, by decide,
    .inl (by decide)⟩

theorem pieces_dashes :
    Template.pieces "\x7btags.--1\x7d" = [.token "tags.--1".toList] := by
  decide +kernel

/-- Tokens with an index, an index out of range, and a text that looks like an index and is none. -/
theorem tags_titled :
    let template := "\x7btags.1\x7d, \x7btags.7\x7d"
    deriveTitle (.str "\x7btags.--1\x7d") taggedData = .error .badInteger ∧
      ∃ token : String → String,
        deriveTitle (.str template) taggedData =
          .ok (collapse (String.ofList (Template.fill token (Template.pieces template)))) ∧
        IsFilling taggedData "tags.1" (token "tags.1") ∧
        IsFilling taggedData "tags.7" (token "tags.7") := by
  intro template
  have hpieces : Template.pieces template =
      [.token "tags.1".toList, .char ',', .char ' ', .token "tags.7".toList] := by
    decide +kernel
  have hpath : tokenPath "tags.1" = ["tags", "1"] := by decide +kernel
  have hpath' : tokenPath "tags.7" = ["tags", "7"] := by decide +kernel
  have hinteger (s : String) (n : Option Int) (h : (Value.str s).toInteger.toOption = some n) :
      ¬(Value.str s).IsMisleading :=
    Value.hasResult_toInteger.mp ⟨n, Outcome.eq_ok_of_toOption h⟩
  have htags := hinteger "tags" none (by decide +kernel)
  have hone := hinteger "1" (some 1) (by decide +kernel)
  have hseven := hinteger "7" (some 7) (by decide +kernel)
  have hclear : ∀ content, .token content ∈ Template.pieces template →
      ¬taggedData.Stumbles (tokenPath (String.ofList content)) := by
    intro content hmem
    simp only [hpieces, List.mem_cons, TemplatePiece.token.injEq, reduceCtorEq, false_or,
      List.not_mem_nil, or_false] at hmem
    obtain rfl | rfl := hmem <;> rw [String.ofList_toList]
    · exact Value.not_stumbles (by simp [hpath, htags, hone])
    · exact Value.not_stumbles (by simp [hpath', htags, hseven])
  obtain ⟨-, hfails, -⟩ :=
    titles_fail_iff taggedData .null .null (.str "\x7btags.--1\x7d") hasText_taggedData
  obtain ⟨-, -, hderives⟩ :=
    titles_fail_iff taggedData .null .null (.str template) hasText_taggedData
  obtain ⟨token, htitle, hfilling⟩ := hderives template rfl hclear
  have hdashes : ∃ text content, Value.presentText (.str "\x7btags.--1\x7d") = .ok text ∧
      .token content ∈ Template.pieces text ∧
      taggedData.Stumbles (tokenPath (String.ofList content)) :=
    ⟨_, "tags.--1".toList, rfl, by simp [pieces_dashes], stumbles_taggedData⟩
  refine ⟨hfails.mpr (.inr hdashes), token, htitle, hfilling "tags.1".toList ?_,
    hfilling "tags.7".toList ?_⟩ <;>
    simp [hpieces]

/-- A template and data that a document can hold, and no title. -/
theorem tags_not_titled :
    taggedData.HasText ∧
      (¬∃ found, taggedData.atPath (.str "tags.--1") .null = .ok found) ∧
      ¬∃ title, deriveTitle (.str "\x7btags.--1\x7d") taggedData = .ok title := by
  have hpath : taggedData.atPath (.str "tags.--1") .null = .error .badInteger :=
    Value.atPath_eq_error_iff.mpr (.inr ⟨_, rfl, stumbles_taggedData⟩)
  have htitle : deriveTitle (.str "\x7btags.--1\x7d") taggedData = .error .badInteger :=
    (deriveTitle_eq_error_iff hasText_taggedData).mpr
      (.inr ⟨_, "tags.--1".toList, rfl, by simp [pieces_dashes], stumbles_taggedData⟩)
  rw [hpath, htitle]
  exact ⟨hasText_taggedData, nofun, nofun⟩

end ContentEngine
