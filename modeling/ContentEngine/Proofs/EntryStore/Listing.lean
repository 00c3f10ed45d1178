import Mathlib.Data.Prod.Lex
import ContentEngine.Proofs.EntryStore.History
import ContentEngine.Proofs.Service.Calls

/-!
# The newest entries are listed first

`entryRoll` is the list of the entries of a type as the calls of a run and their answers tell it: an
entry goes to the end when it is made, goes away when it is taken out, and stays where it is when it
is changed. No store is looked at for that.

`list_newest_first` is the main statement: as long as the clock does not go back (`ClockGoesOn`),
the entries of a type are listed in the reverse order of the roll, whichever times they share. Two
invariants carry it. The entries of a type stand in the store as the roll has them
(`ids_ofType_next`), and from each entry to the next neither times nor places go down
(`World.Timed`, `EntryStore.Ordered`). So the order of the list, by time and then by place, is the
reverse of the order in which entries stand in the store (`mergeSort_newerFirst`).
-/

namespace ContentEngine

/-! ### What a run tells of the entries of a type -/

/-- The entries of a type that are there after one more call that is about the type, in the order in
which they were made. -/
def rollAfterOwn (roll : List String) : EntryCall → Outcome EntryAnswer → List String
  | .create _ _, .ok (.created e) => roll ++ [e.id]
  | .delete _ id, .ok (.deleted true) => roll.filter (· != id)
  | .deleteType _, .ok (.cleared _) => []
  | _, _ => roll

/-- The entries of a type that are there after one more call, in the order in which they were
made. -/
def rollAfter (typeId : String) (roll : List String) (c : EntryCall)
    (answer : Outcome EntryAnswer) : List String :=
  if c.typeId = typeId then rollAfterOwn roll c answer else roll

/-- The entries of a type that are there after some calls, in the order in which they were made. -/
def entryRoll (typeId : String) (log : List (EntryCall × Outcome EntryAnswer)) : List String :=
  log.foldl (fun roll entry => rollAfter typeId roll entry.1 entry.2) []

/-- Whether the clock never goes back during a run that starts at a time. -/
def ClockGoesOn (now : String) : List EntryStep → Prop
  | [] => True
  | .call _ :: rest => ClockGoesOn now rest
  | .elsewhere other _ :: rest => now ≤ other.origin.now ∧ ClockGoesOn other.origin.now rest

/-! ### Values that are replaced -/

/-- Writing a value in the place of one that is picked alike and reads alike changes nothing of what
is read off the values that are picked. -/
theorem Table.map_filter_values_set {α β : Type} {p : α → Bool} {f : α → β} {t : Table α}
    {key : String} {a old : α} (hold : t.get? key = some old) (hp : p a = p old)
    (hf : f a = f old) :
    ((t.set key a).values.filter p).map f = (t.values.filter p).map f := by
  induction t with
  | nil => simp at hold
  | cons row t ih =>
    obtain ⟨k, b⟩ := row
    rw [Table.get?_cons] at hold
    rw [Table.set]
    split
    · next hk =>
      rw [if_pos hk.symm, Option.some.injEq] at hold
      subst hold
      by_cases hb : p b = true <;> simp [Table.values, hp, hf, hb]
    · next hk =>
      rw [if_neg (Ne.symm hk)] at hold
      have hrest : ((List.map (·.2) (Table.set t key a)).filter p).map f =
          ((List.map (·.2) t).filter p).map f := ih hold
      by_cases hb : p b = true <;>
        simp only [Table.values, List.map_cons, List.filter_cons, hb, if_true, if_false,
          Bool.false_eq_true, hrest]

namespace EntryStore

variable {s : EntryStore} {typeId : String}

/-- A new entry stands at the end. -/
theorem values_add {e : Entry} (hid : s.entries.has e.id = false) :
    (s.add e).entries.values = s.entries.values ++ [e] :=
  Table.values_set_of_not_has e hid

theorem ofType_add {e : Entry} (hid : s.entries.has e.id = false) :
    (s.add e).ofType e.typeId = s.ofType e.typeId ++ [e] := by
  simp [ofType, values_add hid]

/-- An entry that is taken out leaves the others of its type in their order. -/
theorem ofType_drop (hs : s.Sound) (typeId id : String) :
    (s.drop id).ofType typeId = (s.ofType typeId).filter fun e => e.id != id := by
  have hrows : s.entries.filter (fun row => row.1 != id) =
      s.entries.filter (fun row => row.2.id != id) := by
    refine List.filter_congr fun row hrow => ?_
    rw [hs.id_eq ((Table.mem_iff_get? hs.nodup_keys).mp hrow)]
  have hvalues : (s.drop id).entries.values = s.entries.values.filter fun e => e.id != id := by
    rw [Table.values, Table.values, List.filter_map]
    exact congrArg (List.map (·.2)) hrows
  rw [ofType, ofType, hvalues, List.filter_filter, List.filter_filter]
  simp only [Bool.and_comm]

theorem ofType_deleteType (hs : s.Sound) (typeId : String) :
    (s.deleteType typeId).ofType typeId = [] := by
  refine List.eq_nil_iff_forall_not_mem.mpr fun e he => ?_
  obtain ⟨hget, htype⟩ := (mem_ofType_iff (hs.deleteType typeId)).mp he
  rw [get?_deleteType hs, Option.filter_eq_some_iff] at hget
  simp [htype] at hget

theorem nodup_ids_ofType (hs : s.Sound) (typeId : String) :
    ((s.ofType typeId).map (·.id)).Nodup := by
  have hids : s.entries.values.map (·.id) = s.entries.keys := by
    rw [Table.values, Table.keys, List.map_map]
    exact List.map_congr_left fun row hrow => hs.id_eq ((Table.mem_iff_get? hs.nodup_keys).mp hrow)
  have hsub : ((s.ofType typeId).map (·.id)).Sublist (s.entries.values.map (·.id)) :=
    List.filter_sublist.map _
  exact hsub.nodup (hids ▸ hs.nodup_keys)

theorem values_delete_sublist (s : EntryStore) (typeId id : String) :
    (s.delete typeId id).entries.values.Sublist s.entries.values := by
  rw [EntryStore.delete]
  split
  · exact Table.values_erase_sublist s.entries id
  · exact .refl _

theorem values_deleteType_sublist (s : EntryStore) (typeId : String) :
    (s.deleteType typeId).entries.values.Sublist s.entries.values := by
  rw [EntryStore.deleteType]
  generalize (s.ofType typeId).map (·.id) = ids
  induction ids generalizing s with
  | nil => exact .refl _
  | cons id ids ih => exact (ih _).trans (values_delete_sublist s typeId id)

/-! ### The order of a list -/

/-- By what entries are ordered in a list. -/
def rank (s : EntryStore) (e : Entry) : Lex (String × Nat) :=
  toLex (e.createdAt, s.place e)

theorem newerFirst_iff_rank_le {a b : Entry} :
    s.newerFirst a b = true ↔ s.rank b ≤ s.rank a := by
  simp only [newerFirst, rank, Bool.or_eq_true, Bool.and_eq_true, decide_eq_true_eq, beq_iff_eq,
    Prod.Lex.toLex_le_toLex, @eq_comm _ a.createdAt]

/-- Entries whose times do not go down and whose places go up are listed in reverse. -/
theorem mergeSort_newerFirst {entries : List Entry}
    (htimes : (entries.map (·.createdAt)).Pairwise (· ≤ ·))
    (hplaces : entries.Pairwise fun a b => s.place a < s.place b) :
    entries.mergeSort s.newerFirst = entries.reverse := by
  have hrank : entries.Pairwise fun a b => s.rank a < s.rank b := by
    refine (List.pairwise_map.mp htimes).imp₂ (fun a b htime hplace => ?_) hplaces
    rw [rank, rank, Prod.Lex.toLex_lt_toLex]
    exact htime.lt_or_eq.imp_right fun heq => ⟨heq, hplace⟩
  have hsorted : (entries.mergeSort s.newerFirst).Pairwise fun a b => s.rank b ≤ s.rank a := by
    refine (List.pairwise_mergeSort (fun a b c hab hbc => ?_) (fun a b => ?_) entries).imp
      newerFirst_iff_rank_le.mp
    · rw [newerFirst_iff_rank_le] at hab hbc ⊢
      exact hbc.trans hab
    · rw [Bool.or_eq_true, newerFirst_iff_rank_le, newerFirst_iff_rank_le]
      exact le_total (s.rank b) (s.rank a)
  have hreverse : entries.reverse.Pairwise fun a b => s.rank b ≤ s.rank a :=
    List.pairwise_reverse.mpr (hrank.imp le_of_lt)
  -- two lists of the same entries that both go down are one, as no two entries have one rank
  refine List.Perm.eq_of_pairwise (fun a b ha hb hab hba => ?_) hsorted hreverse
    ((List.mergeSort_perm _ _).trans (List.reverse_perm _).symm)
  have hnodup : (entries.map s.rank).Nodup := (List.pairwise_map.mpr hrank).imp ne_of_lt
  have hmem : a ∈ entries := (List.mergeSort_perm _ _).mem_iff.mp ha
  exact List.inj_on_of_nodup_map hnodup hmem (List.mem_reverse.mp hb) (le_antisymm hba hab)

end EntryStore

variable {w : World} {typeId : String}

/-! ### Times -/

/-- Whether the entries stand in the store in the order of the times at which they were made, none
of which is to come. -/
structure World.Timed (w : World) : Prop where
  times : (w.entries.entries.values.map (·.createdAt)).Pairwise (· ≤ ·)
  past : ∀ time ∈ w.entries.entries.values.map (·.createdAt), time ≤ w.origin.now

namespace World.Timed

theorem withoutEntries (w : World) : w.withoutEntries.Timed := ⟨.nil, by
  simp [World.withoutEntries, EntryStore.empty, Table.values]⟩

/-- Some entries may go, and time may go on. -/
theorem of_sublist (h : w.Timed) {w' : World}
    (hentries : (w'.entries.entries.values.map (·.createdAt)).Sublist
      (w.entries.entries.values.map (·.createdAt)))
    (hnow : w.origin.now ≤ w'.origin.now) : w'.Timed where
  times := h.times.sublist hentries
  past time htime := (h.past time (hentries.subset htime)).trans hnow

theorem create (h : w.Timed) (hw : w.EntriesSound) (typeId : String) (values : EntryValues) :
    ((EntryCall.create typeId values).next w).Timed := by
  rw [EntryCall.next, run_create]
  split
  · exact h
  · -- the new entry has the present time
    have hmap : (w.entries.add (w.newEntry typeId values)).entries.values.map (·.createdAt) =
        w.entries.entries.values.map (·.createdAt) ++ [w.origin.now] := by
      rw [EntryStore.values_add hw.has_latest, List.map_append]
      rfl
    constructor
    · rw [hmap]
      refine List.pairwise_append.mpr ⟨h.times, List.pairwise_singleton _ _, ?_⟩
      intro time htime now hnow
      rw [List.mem_singleton.mp hnow]
      exact h.past time htime
    · rw [hmap]
      intro time htime
      rcases List.mem_append.mp htime with htime | htime
      · exact h.past time htime
      · exact (List.mem_singleton.mp htime).le

theorem update (h : w.Timed) (typeId id : String) (values : EntryValues) :
    ((EntryCall.update typeId id values).next w).Timed := by
  rw [EntryCall.next]
  cases hfind : w.entries.find? typeId id with
  | none => rwa [run_update_of_find?_eq_none values hfind]
  | some e =>
    rw [run_update values hfind]
    split
    · exact h
    · have hsame := Table.map_filter_values_set (p := fun _ => true) (f := Entry.createdAt)
        (EntryStore.find?_eq_some_iff.mp hfind).1 rfl
        (show (w.changedEntry e values).createdAt = e.createdAt from rfl)
      rw [List.filter_true, List.filter_true] at hsame
      exact h.of_sublist (by rw [← hsame]; exact .refl _) le_rfl

/-- A call keeps entries in the order of their times. -/
theorem call (h : w.Timed) (hw : w.EntriesSound) (c : EntryCall) : (c.next w).Timed := by
  cases c with
  | create typeId values => exact h.create hw typeId values
  | update typeId id values => exact h.update typeId id values
  | delete typeId id =>
    exact h.of_sublist ((EntryStore.values_delete_sublist _ typeId id).map _) le_rfl
  | deleteType typeId =>
    exact h.of_sublist ((EntryStore.values_deleteType_sublist _ typeId).map _) le_rfl

end World.Timed

/-! ### Calls and runs -/

/-- A call makes of the entries of a type what is told of them. -/
theorem ids_ofType_next (hw : w.EntriesSound) (c : EntryCall) (typeId : String) :
    ((c.next w).entries.ofType typeId).map (·.id) =
      rollAfter typeId ((w.entries.ofType typeId).map (·.id)) c (c.outcome w) := by
  by_cases htype : c.typeId = typeId
  · subst htype
    rw [rollAfter, if_pos rfl]
    cases c with
    | create typeId values =>
      rw [EntryCall.next, EntryCall.outcome, run_create]
      split
      · rfl
      · have hnew : w.entries.entries.has (w.newEntry typeId values).id = false := hw.has_latest
        have hids := congrArg (List.map (·.id)) (EntryStore.ofType_add hnew)
        rwa [List.map_append] at hids
    | update typeId id values =>
      rw [EntryCall.next, EntryCall.outcome]
      cases hfind : w.entries.find? typeId id with
      | none =>
        rw [run_update_of_find?_eq_none values hfind]
        rfl
      | some e =>
        rw [run_update values hfind]
        split
        · rfl
        · exact Table.map_filter_values_set (EntryStore.find?_eq_some_iff.mp hfind).1 rfl rfl
    | delete typeId id =>
      rw [EntryCall.next, EntryCall.outcome, run_delete]
      cases hfind : w.entries.find? typeId id with
      | none =>
        simp only [EntryStore.delete_of_find?_eq_none hfind]
        rfl
      | some e =>
        have hdrop : w.entries.delete typeId id = w.entries.drop id := by
          rw [EntryStore.delete, hfind, Option.isSome_some, if_pos rfl]
        have hids : ((w.entries.drop id).ofType typeId).map (·.id) =
            ((w.entries.ofType typeId).map (·.id)).filter (· != id) := by
          rw [EntryStore.ofType_drop hw.sound, List.filter_map]
          rfl
        rw [hdrop]
        exact hids
    | deleteType typeId =>
      exact congrArg (List.map (·.id)) (EntryStore.ofType_deleteType hw.sound typeId)
  · rw [rollAfter, if_neg htype, (EntryCall.keeps_next hw htype).ofType]

/-- What is known of the entries during a run: the tables are in step, places and times do not go
down, and the entries of a type are those that have been told of. -/
structure World.Follows (w : World) (typeId : String) (roll : List String) : Prop where
  sound : w.EntriesSound
  ordered : w.entries.Ordered
  timed : w.Timed
  ids : (w.entries.ofType typeId).map (·.id) = roll

namespace World.Follows

variable {roll : List String}

theorem withoutEntries (w : World) (typeId : String) : w.withoutEntries.Follows typeId [] :=
  ⟨.withoutEntries w, EntryStore.ordered_empty, .withoutEntries w, rfl⟩

theorem call (h : w.Follows typeId roll) (c : EntryCall) :
    (c.next w).Follows typeId (rollAfter typeId roll c (c.outcome w)) where
  sound := h.sound.call c
  ordered := c.ordered_next h.sound h.ordered
  timed := h.timed.call h.sound c
  ids := by rw [ids_ofType_next h.sound, h.ids]

theorem elsewhere (h : w.Follows typeId roll) {other : World} (hnow : w.origin.now ≤ other.origin.now)
    (issued : Nat) : ((EntryStep.elsewhere other issued).next w).Follows typeId roll where
  sound := h.sound.elsewhere other issued
  ordered := h.ordered
  timed := h.timed.of_sublist (.refl _) hnow
  ids := h.ids

/-- A call does not change the time. -/
theorem now_next (c : EntryCall) (w : World) : (c.next w).origin.now = w.origin.now := by
  obtain ⟨issued, entries, hnext⟩ := World.next_eq c w
  rw [hnext]

/-- A run follows what is told of it, as long as the clock does not go back. -/
theorem run (h : w.Follows typeId roll) {steps : List EntryStep}
    (hclock : ClockGoesOn w.origin.now steps) :
    (steps.foldl EntryStep.next w).Follows typeId
      ((entryLog w steps).foldl (fun roll entry => rollAfter typeId roll entry.1 entry.2) roll) := by
  induction steps generalizing w roll with
  | nil => exact h
  | cons step rest ih =>
    cases step with
    | call c => exact ih (h.call c) ((now_next c w).symm ▸ hclock)
    | elsewhere other issued => exact ih (h.elsewhere hclock.1 issued) hclock.2

end World.Follows

/-- After any run during which the clock does not go back, the list of a type holds each entry of the
type that is there, once, in the reverse of the order in which they were made. -/
theorem list_newest_first (start : World) {steps : List EntryStep}
    (hclock : ClockGoesOn start.origin.now steps) (typeId : String) :
    ∃ entries,
      (Memory.listEntries typeId).run (runEntries start steps) =
        (.ok entries, runEntries start steps) ∧
      entries.map (·.id) = (entryRoll typeId (entryLog start.withoutEntries steps)).reverse ∧
      (entries.map (·.id)).Nodup ∧
      ∀ e, e ∈ entries ↔ (runEntries start steps).entries.find? typeId e.id = some e := by
  have h : (runEntries start steps).Follows typeId
      (entryRoll typeId (entryLog start.withoutEntries steps)) :=
    (World.Follows.withoutEntries start typeId).run hclock
  have hsound := h.sound.sound
  have htimes : (((runEntries start steps).entries.ofType typeId).map (·.createdAt)).Pairwise
      (· ≤ ·) := h.timed.times.sublist (List.filter_sublist.map _)
  have hlist := EntryStore.mergeSort_newerFirst htimes
    (h.ordered.pairwise_place_ofType hsound typeId)
  refine ⟨((runEntries start steps).entries.ofType typeId).reverse, ?_, ?_, ?_, fun e => ?_⟩
  · rw [← hlist]
    rfl
  · rw [List.map_reverse, h.ids]
  · rw [List.map_reverse, List.nodup_reverse]
    exact EntryStore.nodup_ids_ofType hsound typeId
  · rw [List.mem_reverse, EntryStore.mem_ofType_iff hsound, EntryStore.find?_eq_some_iff]

/-- Of three pages that were made at one time the second one is taken out a day later, when the first
one has been changed. The third page is listed before the first. -/
theorem third_page_before_first :
    let values (slug : String) : EntryValues := ⟨.str slug, slug, .str "draft", .obj []⟩
    let later : World := { World.empty with origin := ⟨"2024-01-02T00:00:00Z", 0⟩ }
    let steps : List EntryStep :=
      [.call (.create "page" (values "home")), .call (.create "page" (values "about")),
        .call (.create "page" (values "news")), .elsewhere later 0,
        .call (.update "page" (Origin.identifier 1) (values "start")),
        .call (.delete "page" (Origin.identifier 2))]
    ClockGoesOn World.empty.origin.now steps ∧
      ∃ entries, (Memory.listEntries "page").run (runEntries .empty steps) =
          (.ok entries, runEntries .empty steps) ∧
        entries.map (·.id) = [Origin.identifier 3, Origin.identifier 1] := by
  intro values later steps
  have hclock : ClockGoesOn World.empty.origin.now steps :=
    ⟨(String.le_total _ _).resolve_right (by decide), trivial⟩
  obtain ⟨entries, hrun, hids, -⟩ := list_newest_first .empty hclock "page"
  have hroll : entryRoll "page" (entryLog World.empty.withoutEntries steps) =
      [Origin.identifier 1, Origin.identifier 3] := by decide +kernel
  rw [hroll] at hids
  exact ⟨hclock, entries, hrun, hids⟩

end ContentEngine
