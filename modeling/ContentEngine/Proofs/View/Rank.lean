import ContentEngine.Proofs.Value.Fault
import ContentEngine.View.Selection
import Mathlib.Data.List.Lex
import Mathlib.Data.Prod.Lex
import Mathlib.Data.String.Basic
import Mathlib.Order.WithBot

/-!
# The order of ranks

Ranks are compared part by part, which is a lexicographic order: `ViewRank.place` is the place of a
rank in it (`ViewRank.isBefore_iff`), with the parts that are better when they are higher turned
round. It is a linear order, so going through a list finds a thing that none comes before
(`bestRanked_least`). `firstRanked?` is that search for things of any kind; it fails exactly if one
of them has no rank (`hasResult_firstRanked?`).
-/

namespace ContentEngine

open OrderDual (toDual)
open Outcome (HasResult OnlyFault hasResult_bind_left hasResult_bind_pure hasResult_mapM)

/-! ### Stamps -/

theorem compareLater_eq_eq {a b : List Char} : compareLater a b = .eq ↔ a = b := by
  fun_induction compareLater a b with
  | case1 => simp
  | case2 b hb => simp [Ne.symm hb]
  | case3 a ha => simp [show a ≠ [] from ha]
  | case4 a as b bs h => simp [h.ne']
  | case5 a as b bs _ h => simp [h.ne]
  | case6 a as b bs hba hab ih =>
    obtain rfl : a = b := le_antisymm (not_lt.mp hba) (not_lt.mp hab)
    simp [ih]

theorem compareLater_eq_lt {a b : List Char} :
    compareLater a b = .lt ↔ a.map toDual < b.map toDual := by
  fun_induction compareLater a b with
  | case1 => simp
  | case2 b hb =>
    obtain ⟨c, cs, rfl⟩ := List.exists_cons_of_ne_nil hb
    simp
  | case3 => simp
  | case4 a as b bs h => simp [List.cons_lt_cons_iff, h]
  | case5 a as b bs hba h => simp [List.cons_lt_cons_iff, hba, h.ne]
  | case6 a as b bs hba hab ih =>
    obtain rfl : a = b := le_antisymm (not_lt.mp hba) (not_lt.mp hab)
    simp [ih]

/-- Of texts of one length the later one comes first. Of a text and one that it is the start of the
former does, though the latter is later. -/
theorem map_toDual_lt_iff {a b : List Char} (h : a.length = b.length) :
    a.map toDual < b.map toDual ↔ b < a := by
  induction a generalizing b with
  | nil =>
    obtain rfl : b = [] := List.eq_nil_of_length_eq_zero h.symm
    simp
  | cons c cs ih =>
    cases b with
    | nil => contradiction
    | cons d ds =>
      have hlength : cs.length = ds.length := Nat.succ.inj h
      simp only [List.map_cons, List.cons_lt_cons_iff, ih hlength, OrderDual.toDual_lt_toDual,
        EmbeddingLike.apply_eq_iff_eq, eq_comm]

/-- The place of a stamp among others. A missing one comes last. -/
def stampPlace (stamp : Option String) : WithTop (List Charᵒᵈ) :=
  stamp.map fun text => text.toList.map toDual

theorem stampPlace_injective : Function.Injective stampPlace := by
  refine Option.map_injective fun a b h => String.toList_inj.mp ?_
  exact List.map_injective_iff.mpr toDual.injective h

theorem compareStamps_eq_eq {a b : Option String} : compareStamps a b = .eq ↔ a = b := by
  cases a <;> cases b <;> simp [compareStamps, compareLater_eq_eq, String.toList_inj]

theorem compareStamps_eq_lt {a b : Option String} :
    compareStamps a b = .lt ↔ stampPlace a < stampPlace b := by
  rcases a with _ | a <;> rcases b with _ | b
  · exact iff_of_false nofun (lt_irrefl _)
  · exact iff_of_false nofun not_top_lt
  · exact iff_of_true rfl (WithTop.coe_lt_top _)
  · exact compareLater_eq_lt.trans WithTop.coe_lt_coe.symm

/-! ### Ranks -/

theorem compareHolding_eq_lt {a b : Bool} : compareHolding a b = .lt ↔ (!a) < (!b) := by
  cases a <;> cases b <;> decide

theorem compareHolding_eq_eq {a b : Bool} : compareHolding a b = .eq ↔ (!a) = (!b) := by
  cases a <;> cases b <;> decide

theorem compareTexts_eq_lt {a b : String} : compareTexts a b = .lt ↔ a < b := by
  rw [compareTexts]
  split
  · next h => simp [h]
  · next h => simp [h, ite_eq_iff]

namespace ViewRank

/-- The place of a rank among others. -/
def place (r : ViewRank) :
    Bool ×ₗ ℤ ×ₗ Bool ×ₗ WithTop (List Charᵒᵈ) ×ₗ WithTop (List Charᵒᵈ) ×ₗ String :=
  toLex (!r.forRole, toLex (-r.priority, toLex (!r.isDefault,
    toLex (stampPlace r.updated, toLex (stampPlace r.created, r.id)))))

/-- One rank comes before another one exactly if its place does. -/
theorem isBefore_iff {a b : ViewRank} : a.isBefore b = true ↔ a.place < b.place := by
  have hpriority : Ord.compare b.priority a.priority = .lt ↔ -a.priority < -b.priority := by
    rw [compare_lt_iff_lt, Int.neg_lt_neg_iff]
  have hpriorityEq : Ord.compare b.priority a.priority = .eq ↔ -a.priority = -b.priority := by
    rw [compare_eq_iff_eq, Int.neg_inj, eq_comm]
  simp only [isBefore, ViewRank.compare, place, beq_iff_eq, Ordering.then_eq_lt,
    Prod.Lex.toLex_lt_toLex, compareHolding_eq_lt, compareHolding_eq_eq, hpriority, hpriorityEq,
    compareStamps_eq_lt, compareStamps_eq_eq, stampPlace_injective.eq_iff, compareTexts_eq_lt]

theorem id_eq_of_place_eq {a b : ViewRank} (h : a.place = b.place) : a.id = b.id := by
  simp only [place, EmbeddingLike.apply_eq_iff_eq, Prod.mk.injEq] at h
  exact h.2.2.2.2.2

end ViewRank

/-! ### Ranked things -/

section

variable {α : Type}

/-- What is chosen among ranked things is one of them, and none comes before it. -/
theorem bestRanked_least (best : ViewRank × α) (rest : List (ViewRank × α)) :
    bestRanked best rest ∈ best :: rest ∧
      ∀ item ∈ best :: rest, (bestRanked best rest).1.place ≤ item.1.place := by
  induction rest generalizing best with
  | nil => exact ⟨List.mem_cons_self, fun item hitem => by rw [List.mem_singleton.mp hitem]; rfl⟩
  | cons first rest ih =>
    rw [bestRanked]
    obtain ⟨hmem, hleast⟩ := ih (if first.1.isBefore best.1 then first else best)
    rw [List.forall_mem_cons] at hleast
    obtain ⟨hchosen, hrest⟩ := hleast
    have hboth : (if first.1.isBefore best.1 then first else best).1.place ≤ best.1.place ∧
        (if first.1.isBefore best.1 then first else best).1.place ≤ first.1.place := by
      split
      · next h => exact ⟨(ViewRank.isBefore_iff.mp h).le, le_rfl⟩
      · next h => exact ⟨le_rfl, not_lt.mp (mt ViewRank.isBefore_iff.mpr h)⟩
    refine ⟨?_, List.forall_mem_cons.mpr ⟨hchosen.trans hboth.1,
      List.forall_mem_cons.mpr ⟨hchosen.trans hboth.2, hrest⟩⟩⟩
    rcases List.mem_cons.mp hmem with heq | hmem
    · rw [heq]
      split <;> simp
    · exact List.mem_cons_of_mem best (List.mem_cons_of_mem first hmem)

variable {rankOf : α → Outcome ViewRank} {items : List α}

/-- Of things that have a rank, the one that comes first. -/
def firstRanked? (rankOf : α → Outcome ViewRank) (items : List α) : Outcome (Option α) := do
  match ← items.mapM fun a => do return (← rankOf a, a) with
  | [] => return none
  | best :: rest => return some (bestRanked best rest).2

theorem firstView?_eq (role : String) (views : List Obj) :
    firstView? role views = firstRanked? (ViewRank.ofRecord role) views :=
  bind_congr fun ranked => by cases ranked <;> rfl

theorem EditorView.first?_eq (role : String) (views : List EditorView) :
    first? role views = firstRanked? (fun v => ViewRank.ofRecord role v.toRecord) views :=
  bind_congr fun ranked => by cases ranked <;> rfl

/-- One can be chosen exactly if each has a rank. -/
theorem hasResult_firstRanked? :
    HasResult (firstRanked? rankOf items) ↔ ∀ a ∈ items, HasResult (rankOf a) := by
  rw [firstRanked?, hasResult_bind_left fun ranked => by split <;> exact ⟨_, rfl⟩, hasResult_mapM]
  exact forall₂_congr fun a _ => hasResult_bind_pure

/-- If ranks can only fail with one fault, so does the choice, and it does exactly if a thing has no
rank. -/
theorem firstRanked?_eq_error_iff {fault e : Fault} (h : ∀ a, OnlyFault fault (rankOf a)) :
    firstRanked? rankOf items = .error e ↔ e = fault ∧ ∃ a ∈ items, ¬HasResult (rankOf a) := by
  have honly : OnlyFault fault (firstRanked? rankOf items) :=
    (Outcome.onlyFault_mapM fun a _ => (h a).bind fun _ => Outcome.onlyFault_pure _ _).bind
      fun ranked => by split <;> exact Outcome.onlyFault_pure _ _
  have hfails : firstRanked? rankOf items = .error fault ↔ ∃ a ∈ items, ¬HasResult (rankOf a) := by
    rw [honly.eq_error_iff, hasResult_firstRanked?]
    simp only [not_forall, exists_prop]
  constructor
  · intro herror
    obtain rfl := honly e herror
    exact ⟨rfl, hfails.mp herror⟩
  · rintro ⟨rfl, hsome⟩
    exact hfails.mpr hsome

theorem mapM_rank {ranked : List (ViewRank × α)}
    (h : items.mapM (fun a => do return (← rankOf a, a)) = .ok ranked) :
    ranked.map (·.2) = items ∧ ∀ item ∈ ranked, rankOf item.2 = .ok item.1 := by
  induction items generalizing ranked with
  | nil =>
    obtain rfl := Except.ok.inj h
    exact ⟨rfl, nofun⟩
  | cons a rest ih =>
    simp only [List.mapM_cons, Outcome.bind_eq_ok_iff, Outcome.pure_eq_ok_iff] at h
    obtain ⟨_, ⟨r, hr, rfl⟩, others, hothers, rfl⟩ := h
    obtain ⟨hitems, hranks⟩ := ih hothers
    exact ⟨by rw [List.map_cons, hitems], List.forall_mem_cons.mpr ⟨hr, hranks⟩⟩

/-- None is chosen only if there is none. -/
theorem eq_nil_of_firstRanked? (h : firstRanked? rankOf items = .ok none) : items = [] := by
  rw [firstRanked?, Outcome.bind_eq_ok_iff] at h
  obtain ⟨ranked, hranked, h⟩ := h
  cases ranked with
  | nil => exact (Outcome.eq_nil_iff_of_mapM hranked).mp rfl
  | cons best rest => cases h

/-- The one that is chosen is one of them, and none comes before it. -/
theorem firstRanked?_eq_some {found : α} (h : firstRanked? rankOf items = .ok (some found)) :
    found ∈ items ∧ ∃ r, rankOf found = .ok r ∧
      ∀ a ∈ items, ∀ s, rankOf a = .ok s → r.place ≤ s.place := by
  rw [firstRanked?, Outcome.bind_eq_ok_iff] at h
  obtain ⟨ranked, hranked, h⟩ := h
  obtain ⟨rfl, hranks⟩ := mapM_rank hranked
  cases ranked with
  | nil => cases h
  | cons best rest =>
    obtain rfl := Option.some.inj (Except.ok.inj h)
    obtain ⟨hmem, hleast⟩ := bestRanked_least best rest
    refine ⟨List.mem_map_of_mem hmem, _, hranks _ hmem, fun a ha s hs => ?_⟩
    obtain ⟨item, hitem, rfl⟩ := List.mem_map.mp ha
    obtain rfl := Except.ok.inj ((hranks item hitem).symm.trans hs)
    exact hleast item hitem

end

end ContentEngine
