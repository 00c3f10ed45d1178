import ContentEngine.Proofs.Server.Settled
import ContentEngine.Proofs.View.Parts

/-!
# Requests to change one view that overlap

A request to change a view reads the view first and changes it later, when its body has come
(`Server.ViewChange.next`). In between another request may do the same, and time may go on: all that
is told by a list of turns (`Server.Overlap.after`).

Of two requests that are answered with success, the one that changes the view later makes its change
of the view as it has read it. If it has read what the other one has left, the requests have been
run one after the other. If both have read the view before it was changed, the earlier change is
lost, and the view is left as the later request alone would have left it
(`Server.overlapping_changes`). That comes to the same if the later request gives every part of the
view that the earlier one has changed.
-/

namespace ContentEngine

/-! ### Worlds in which a view has other values -/

namespace World

variable {w w' : World} {v : StoredView} {values : Obj} {time : String}

/-- A view that has been stored is found. -/
theorem IsWithView.viewWithId?_eq (h : w.IsWithView v w') :
    w'.viewWithId? v.typeId v.id = some v := by
  cases hfind : w'.viewWithId? v.typeId v.id with
  | none =>
    have hnot := List.find?_eq_none.mp hfind v h.mem
    simp at hnot
  | some u =>
    have hsame := List.find?_some hfind
    rw [Bool.and_eq_true, beq_iff_eq, beq_iff_eq] at hsame
    rw [h.only u (List.mem_of_find?_eq_some hfind) hsame.2]

/-- Whether a slug is taken depends on the other views. -/
theorem viewSlugTaken_eq_any (w : World) (typeId slug id : String) :
    w.viewSlugTaken typeId slug id =
      (w.views.filter (·.id ≠ id)).any fun u => u.typeId == typeId && u.slug == slug := by
  rw [viewSlugTaken, List.any_filter]
  congr 1
  funext u
  by_cases hid : u.id = id <;> simp [hid]

/-- Storing a view leaves the slugs of the other ones as they are. -/
theorem IsWithView.viewSlugTaken_eq (h : w.IsWithView v w') (typeId slug : String) :
    w'.viewSlugTaken typeId slug v.id = w.viewSlugTaken typeId slug v.id := by
  rw [viewSlugTaken_eq_any, viewSlugTaken_eq_any, h.others, List.any_map]
  simp only [Function.comp_def, StoredView.typeId_yieldTo, StoredView.slug_yieldTo]

/-- Whether a world is another one in which a view may have other values, as far as requests to
change the view can tell. -/
structure IsWithValues (w : World) (v : StoredView) (values : Obj) (time : String) (w' : World) :
    Prop where
  settled : w'.Settled
  types : w'.types = w.types
  found : w'.viewWithId? v.typeId v.id = some (v.renewed values time)
  taken : ∀ slug, w'.viewSlugTaken v.typeId slug v.id = w.viewSlugTaken v.typeId slug v.id

namespace IsWithValues

theorem refl (hw : w.Settled) (hfound : w.viewWithId? v.typeId v.id = some v) :
    w.IsWithValues v v.values v.updatedAt w :=
  ⟨hw, rfl, hfound, fun _ => rfl⟩

theorem isSettled (h : w.IsWithValues v values time w') : (v.renewed values time).IsSettled :=
  h.settled.stored _ (List.mem_of_find?_eq_some h.found)

/-- Time may go on. -/
theorem later (h : w.IsWithValues v values time w') (now : String) :
    w.IsWithValues v values time { w' with origin := { w'.origin with now } } where
  settled := h.settled.ofStep (.elsewhere now 0 w'.users w'.usersDown)
  types := h.types
  found := h.found
  taken := h.taken

/-- The view may be stored with the values of a view that a request has made of anything, as long as
the slug is free. -/
theorem store (h : w.IsWithValues v values time w') {body : Value} {base : Obj} {view : EditorView}
    (hview : EditorView.prepare body base = .ok view)
    (hfree : w.viewSlugTaken v.typeId view.slug v.id = false) (now : String) :
    w.IsWithValues v view.stored now
      ((w'.putView (v.renewed view.stored now)).settleDefault (v.renewed view.stored now)) := by
  have hmem := List.mem_of_find?_eq_some h.found
  have hwith := isWithView_putView (v := v.renewed view.stored now) hmem rfl
  have hnew : (v.renewed view.stored now).IsSettled :=
    ⟨view, rfl, EditorView.isSettled_of_prepare hview⟩
  have hcomplete : (v.renewed view.stored now).IsComplete :=
    ⟨view, rfl, (EditorView.of_prepare hview).1⟩
  have hslug : (v.renewed view.stored now).slug = view.slug := rfl
  have hfree' : ∀ old ∈ w'.views, old.typeId = v.typeId →
      old.slug = (v.renewed view.stored now).slug → old.id = v.id :=
    viewSlugTaken_eq_false_iff.mp (by rw [hslug, h.taken, hfree])
  obtain ⟨views, hsettle, -⟩ := settleDefault_eq (w'.putView (v.renewed view.stored now))
    (v.renewed view.stored now)
  have htypes : ((w'.putView (v.renewed view.stored now)).settleDefault
      (v.renewed view.stored now)).types = w'.types := by
    rw [hsettle]
    rfl
  exact {
    settled := {
      types := h.settled.types.of_types_eq htypes (by rw [hsettle]; exact Nat.le_refl _)
      views := (h.settled.views.putView _).settleDefault _
      strict := h.settled.strict.isWithView hwith hcomplete hfree'
      values := by
        rw [htypes]
        exact h.settled.values
      stored := hwith.settled hnew h.settled.stored }
    types := htypes.trans h.types
    found := hwith.viewWithId?_eq
    taken := fun slug => (hwith.viewSlugTaken_eq v.typeId slug).trans (h.taken slug) }

end IsWithValues

end World

namespace Server

variable {w w' : World} {v : StoredView} {values old : Obj} {time since : String}

/-! ### Requests to change a view -/

/-- A request to change a view of a type. -/
structure ViewChange where
  typeName : String
  viewId : String
  request : Request

namespace ViewChange

variable {c other : ViewChange} {view : EditorView}

/-- Whether a request finds a view in a world. -/
def Finds (c : ViewChange) (w : World) (v : StoredView) : Prop :=
  (viewToChange c.typeName c.viewId).run w = (.ok v, w)

/-- Whether a request that has read a view makes another one of it. Its slug must be free. -/
def Makes (c : ViewChange) (w : World) (v : StoredView) (view : EditorView) : Prop :=
  ∃ body, c.request.json = .ok body ∧ EditorView.prepare body v.toObj = .ok view ∧
    w.viewSlugTaken v.typeId view.slug v.id = false

/-- A request that finds a view finds it with other values as well. -/
theorem Finds.isWithValues (hfinds : c.Finds w v) (h : w.IsWithValues v values time w') :
    c.Finds w' (v.renewed values time) := by
  obtain ⟨t, ht, hview, -⟩ := of_run_viewToChange hfinds
  have hfound := List.find?_some hview
  rw [Bool.and_eq_true, beq_iff_eq, beq_iff_eq] at hfound
  have ht' : w'.findType? c.typeName = some t := by
    rw [World.findType?, h.types]
    exact ht
  have hview' : w'.viewWithId? t.id c.viewId = some (v.renewed values time) := by
    rw [← hfound.1, ← hfound.2, h.found]
  rw [Finds, viewToChange, Action.run_bind, Memory.run_requireType_of_some ht']
  dsimp only
  rw [Action.run_bind, Memory.run_getView?, hview']
  rfl

/-- What a request makes of a view that it has read is stored, whatever values the view has by
then. -/
theorem Makes.run_changeView (hmakes : c.Makes w (v.renewed old since) view)
    (h : w.IsWithValues v values time w') : ∃ response w'',
      (changeView (v.renewed old since) c.request).run w' = (.ok response, w'') ∧
      w.IsWithValues v view.stored w'.origin.now w'' := by
  obtain ⟨body, hbody, hview, hfree⟩ := hmakes
  have hrun := Server.run_changeView h.settled hbody hview h.found
  rw [StoredView.typeId_renewed, StoredView.id_renewed] at hfree hrun
  rw [h.taken, hfree, if_neg Bool.false_ne_true] at hrun
  exact ⟨_, _, hrun, h.store hview hfree w'.origin.now⟩

/-- A request that makes nothing of the view that it has read is refused, and changes nothing. -/
theorem exists_makes_or_run_changeView (h : w.IsWithValues v values time w') :
    (∃ view, c.Makes w (v.renewed old since) view) ∨
      ∃ e, (changeView (v.renewed old since) c.request).run w' = (.error e, w') := by
  cases hbody : c.request.json with
  | error e => exact .inr ⟨e, by simp only [changeView, Action.run_bind, Action.run_lift, hbody]⟩
  | ok body =>
    cases hview : EditorView.prepare body (v.renewed old since).toObj with
    | error e =>
      exact .inr ⟨e, by simp only [changeView, Action.run_bind, Action.run_lift, hbody, hview]⟩
    | ok view =>
      cases htaken : w.viewSlugTaken v.typeId view.slug v.id with
      | false => exact .inl ⟨view, body, hbody, hview, htaken⟩
      | true =>
        have hrun := Server.run_changeView h.settled hbody hview h.found
        rw [StoredView.typeId_renewed, StoredView.id_renewed, h.taken, htaken, if_pos rfl] at hrun
        exact .inr ⟨_, hrun⟩

/-- Whether it makes no difference to a request that another one has changed the view before: each
part is given by the request, or left as it was by the other one. -/
def Indifferent (c : ViewChange) (old values : Obj) : Prop :=
  ∀ body request, c.request.json = .ok body → body.asObj? = some request →
    ∀ key ∈ EditorView.parts, EditorView.Gives request key ∨ Obj.get? old key = Obj.get? values key

theorem indifferent_self (c : ViewChange) (values : Obj) : c.Indifferent values values :=
  fun _ _ _ _ _ _ => .inr rfl

/-- A request that is indifferent to a change makes the same of the view before and after it. -/
theorem Makes.congr (hmakes : c.Makes w (v.renewed old since) view)
    (hold : (v.renewed old since).IsSettled) (hvalues : (v.renewed values time).IsSettled)
    (h : c.Indifferent old values) :
    ∃ view', c.Makes w (v.renewed values time) view' ∧ view'.stored = view.stored := by
  obtain ⟨body, hbody, hview, hfree⟩ := hmakes
  obtain ⟨request, hrequest⟩ := EditorView.exists_asObj?_of_prepare hview
  obtain ⟨view', hview', hstored⟩ := StoredView.prepare_congr hrequest hold hvalues
    (h body request hbody hrequest) hview
  have hslug := EditorView.slug_eq_of_stored_eq hstored
  exact ⟨view', ⟨body, hbody, hview', by rw [hslug]; exact hfree⟩, hstored⟩

/-- The label of what a request makes is the one that it gives, or the one that there has been. -/
theorem Makes.label (hmakes : c.Makes w v view) (hv : v.IsSettled) {request : Obj}
    (hjson : c.request.json = .ok (.obj request)) :
    EditorView.requestedText request v.toObj "label" = .ok view.label := by
  obtain ⟨body, hbody, hview, -⟩ := hmakes
  obtain rfl := Except.ok.inj (hjson.symm.trans hbody)
  obtain ⟨old, hrecord, -, hold, -⟩ := hv.prepare_nothing
  rw [← hrecord] at hview ⊢
  exact EditorView.label_of_prepare rfl hold hview

/-! ### One request after the other -/

/-- A request that is run as a whole stores what it makes of the view. -/
theorem run_updateView_of_makes (hfinds : c.Finds w v) (h : w.IsWithValues v values time w')
    (hmakes : c.Makes w (v.renewed values time) view) : ∃ response w'',
      (updateView c.typeName c.viewId c.request).run w' = (.ok response, w'') ∧
      w.IsWithValues v view.stored w'.origin.now w'' := by
  rw [updateView, Action.run_bind, hfinds.isWithValues h]
  exact hmakes.run_changeView h

/-- A request that is run as a whole and succeeds makes something of the view. -/
theorem exists_makes_of_run_updateView (hfinds : c.Finds w v)
    (h : w.IsWithValues v values time w') {response : Response} {w'' : World}
    (hrun : (updateView c.typeName c.viewId c.request).run w' = (.ok response, w'')) :
    ∃ view, c.Makes w (v.renewed values time) view ∧
      w.IsWithValues v view.stored w'.origin.now w'' := by
  rcases exists_makes_or_run_changeView (c := c) h with ⟨view, hmakes⟩ | ⟨e, hfault⟩
  · obtain ⟨_, after, hafter, hstored⟩ := run_updateView_of_makes hfinds h hmakes
    rw [hrun, Prod.mk.injEq] at hafter
    exact ⟨view, hmakes, hafter.2 ▸ hstored⟩
  · rw [updateView, Action.run_bind, hfinds.isWithValues h] at hrun
    dsimp only at hrun
    rw [hfault] at hrun
    cases hrun

end ViewChange

/-- Whether requests to change a view that are run one after the other, each as a whole, succeed and
leave a view behind. The time of its last change does not count. -/
def LeaveView : List ViewChange → World → StoredView → Prop
  | [], w, v => ∃ time, w.viewWithId? v.typeId v.id = some (v.renewed v.values time)
  | c :: rest, w, v => ∃ response w',
      (updateView c.typeName c.viewId c.request).run w = (.ok response, w') ∧ LeaveView rest w' v

section

variable {c other : ViewChange} {first view : EditorView}

/-- A request that is run alone leaves what it makes of the view. -/
theorem leaveView_alone (hw : w.IsWithValues v v.values v.updatedAt w) (hfinds : c.Finds w v)
    (hmakes : c.Makes w v view) : LeaveView [c] w (v.renewed view.stored time) := by
  obtain ⟨response, w', hrun, h⟩ := ViewChange.run_updateView_of_makes hfinds hw hmakes
  exact ⟨response, w', hrun, _, h.found⟩

/-- Of two requests that are run one after the other, the second one leaves what it makes of what
the first one has left. -/
theorem leaveView_pair (hw : w.IsWithValues v v.values v.updatedAt w) (hother : other.Finds w v)
    (hfinds : c.Finds w v) (hfirst : other.Makes w v first)
    (hmakes : c.Makes w (v.renewed first.stored since) view) :
    LeaveView [other, c] w (v.renewed view.stored time) := by
  obtain ⟨response, w₁, hrun, h₁⟩ := ViewChange.run_updateView_of_makes hother hw hfirst
  obtain ⟨view', hmakes', hstored⟩ : ∃ view',
      c.Makes w (v.renewed first.stored w.origin.now) view' ∧ view'.stored = view.stored :=
    hmakes.congr h₁.isSettled h₁.isSettled (c.indifferent_self _)
  obtain ⟨response', w₂, hrun', h₂⟩ := ViewChange.run_updateView_of_makes hfinds h₁ hmakes'
  rw [hstored] at h₂
  exact ⟨response, w₁, hrun, response', w₂, hrun', _, h₂.found⟩

/-- What two requests leave that are run one after the other is what the second one makes of what
the first one has made. -/
theorem exists_makes_of_leaveView (hw : w.IsWithValues v v.values v.updatedAt w)
    (hother : other.Finds w v) (hfinds : c.Finds w v) {v' : StoredView}
    (hsame : v'.typeId = v.typeId ∧ v'.id = v.id) (h : LeaveView [other, c] w v') :
    ∃ first view, other.Makes w v first ∧ c.Makes w (v.renewed first.stored w.origin.now) view ∧
      v'.values = view.stored := by
  obtain ⟨response, w₁, hrun, response', w₂, hrun', last, hfound⟩ := h
  obtain ⟨first, hfirst, h₁⟩ := ViewChange.exists_makes_of_run_updateView hother hw hrun
  obtain ⟨view, hmakes, h₂⟩ := ViewChange.exists_makes_of_run_updateView hfinds h₁ hrun'
  rw [hsame.1, hsame.2, h₂.found, Option.some.injEq] at hfound
  exact ⟨first, view, hfirst, hmakes, (congrArg StoredView.values hfound).symm⟩

end

/-! ### Requests that overlap -/

/-- How far a request to change a view has got. -/
inductive Progress
  | waiting
  /-- It has read the view, and its body has not come yet. -/
  | read (current : StoredView)
  | answered (response : Response)

/-- Whether a request has been answered. -/
def Progress.IsAnswered (p : Progress) : Prop :=
  ∃ response, p = .answered response

/-- Whether a request has been refused. -/
def Progress.IsRefused (p : Progress) : Prop :=
  ∃ response, p = .answered response ∧ 400 ≤ response.status

/-- Whether a request that has read a view, if any, has not changed it. -/
def Progress.IsUnwritten (v : StoredView) (p : Progress) : Prop :=
  p = .waiting ∨ p = .read v ∨ p.IsRefused

/-- The status with which a request has been answered. -/
def Progress.status? : Progress → Option Nat
  | .answered response => some response.status
  | _ => none

/-- Whether a request has been answered with success. -/
def Progress.IsSuccess (p : Progress) : Prop :=
  p.status? = some 200

instance (p : Progress) : Decidable p.IsSuccess :=
  inferInstanceAs (Decidable (p.status? = some 200))

theorem Progress.IsSuccess.not_refused {p : Progress} (h : p.IsSuccess) :
    p ≠ .waiting ∧ (∀ v, p ≠ .read v) ∧ ¬p.IsRefused := by
  refine ⟨fun hp => ?_, fun v hp => ?_, fun ⟨response, hp, hle⟩ => ?_⟩
  · rw [hp] at h
    cases h
  · rw [hp] at h
    cases h
  · rw [hp, IsSuccess, status?, Option.some.injEq] at h
    omega

theorem Progress.IsRefused.isAnswered {p : Progress} (h : p.IsRefused) : p.IsAnswered := by
  obtain ⟨response, hp, -⟩ := h
  exact ⟨response, hp⟩

/-- The next half of a request: it reads the view, or changes what it has read. -/
def ViewChange.next (c : ViewChange) (w : World) : Progress → Progress × World
  | .waiting =>
    match (viewToChange c.typeName c.viewId).run w with
    | (.ok current, after) => (.read current, after)
    | (.error e, after) => (.answered (.ofOutcome (.error e)), after)
  | .read current =>
    let ran := (changeView current c.request).run w
    (.answered (.ofOutcome ran.1), ran.2)
  | .answered response => (.answered response, w)

/-- Two requests under way. -/
structure Overlap where
  progress : Bool → Progress
  world : World

/-- What happens next: the next half of one of the requests is run, or time goes on. -/
inductive Turn
  | half (i : Bool)
  | later (now : String)

namespace Overlap

/-- What a turn leads to. -/
def next (changes : Bool → ViewChange) (s : Overlap) : Turn → Overlap
  | .half i =>
    let ran := (changes i).next s.world (s.progress i)
    ⟨Function.update s.progress i ran.1, ran.2⟩
  | .later now => { s with world := { s.world with origin := { s.world.origin with now } } }

/-- Two requests that start in a world, after some turns. -/
def after (changes : Bool → ViewChange) (w : World) (turns : List Turn) : Overlap :=
  turns.foldl (next changes) ⟨fun _ => .waiting, w⟩

theorem after_concat (changes : Bool → ViewChange) (w : World) (turns : List Turn) (turn : Turn) :
    after changes w (turns ++ [turn]) = (after changes w turns).next changes turn := by
  rw [after, List.foldl_concat, after]

/-- Whether at some time both requests have read a view and none has changed it yet. -/
def Crossed (changes : Bool → ViewChange) (w : World) (v : StoredView) (turns : List Turn) : Prop :=
  ∃ earlier, earlier <+: turns ∧ ∀ i, (after changes w earlier).progress i = .read v

theorem crossed_concat_iff {changes : Bool → ViewChange} {turns : List Turn} {turn : Turn} :
    Crossed changes w v (turns ++ [turn]) ↔ Crossed changes w v turns ∨
      ∀ i, ((after changes w turns).next changes turn).progress i = .read v := by
  simp only [Crossed, List.prefix_concat_iff, or_and_right, exists_or, exists_eq_left,
    after_concat, or_comm]

section

variable {changes : Bool → ViewChange} {s : Overlap} {k : Bool}

theorem next_of_isAnswered (h : (s.progress k).IsAnswered) : s.next changes (.half k) = s := by
  obtain ⟨response, hk⟩ := h
  have hsame : Function.update s.progress k (.answered response) = s.progress := by
    rw [← hk, Function.update_eq_self]
  rw [next, hk]
  exact congrArg (fun progress => Overlap.mk progress s.world) hsame

theorem next_of_waiting (hk : s.progress k = .waiting) (h : (changes k).Finds s.world v) :
    s.next changes (.half k) = ⟨Function.update s.progress k (.read v), s.world⟩ := by
  rw [ViewChange.Finds] at h
  rw [next, hk, ViewChange.next, h]

theorem next_of_read (hk : s.progress k = .read v) {outcome : Outcome Response}
    (h : (changeView v (changes k).request).run s.world = (outcome, w')) :
    s.next changes (.half k) =
      ⟨Function.update s.progress k (.answered (.ofOutcome outcome)), w'⟩ := by
  rw [next, hk, ViewChange.next, h]

/-- An answer stands. -/
theorem isAnswered_next {i : Bool} (h : (s.progress i).IsAnswered) (turn : Turn) :
    ((s.next changes turn).progress i).IsAnswered := by
  cases turn with
  | later now => exact h
  | half k =>
    by_cases hik : i = k
    · subst hik
      rwa [next_of_isAnswered h]
    · rw [next]
      dsimp only
      rwa [Function.update_of_ne hik]

end

end Overlap

/-! ### What two requests do to a view -/

/-- How far two requests have got with a view that both find. It is told whether both have read the
view before any has changed it. -/
inductive Stage (changes : Bool → ViewChange) (w : World) (v : StoredView) (crossed : Prop)
    (s : Overlap) : Prop
  | untouched : w.IsWithValues v v.values v.updatedAt s.world →
      (∀ i, (s.progress i).IsUnwritten v) →
      ((∀ i, s.progress i = .read v) → crossed) → (crossed → ∀ i, s.progress i ≠ .waiting) →
      Stage changes w v crossed s
  /-- One request has changed the view. The other one has read it before that, or will read or has
  read what the change has made of it. -/
  | once (i : Bool) {view : EditorView} {time : String} :
      w.IsWithValues v view.stored time s.world → (changes i).Makes w v view →
      (s.progress i).IsAnswered →
      (¬crossed ∧ s.progress (!i) = .waiting ∨
        ¬crossed ∧ s.progress (!i) = .read (v.renewed view.stored time) ∨
        crossed ∧ s.progress (!i) = .read v ∨ (s.progress (!i)).IsRefused) →
      Stage changes w v crossed s
  | twice (i : Bool) {first view : EditorView} {since time : String} :
      w.IsWithValues v view.stored time s.world → (changes (!i)).Makes w v first →
      (¬crossed ∧ (changes i).Makes w (v.renewed first.stored since) view ∨
        crossed ∧ (changes i).Makes w v view) →
      (∀ j, (s.progress j).IsAnswered) →
      Stage changes w v crossed s

namespace Stage

variable {changes : Bool → ViewChange} {crossed crossed' : Prop} {s s' : Overlap}

/-- Requests of which one has been answered do not cross any more. -/
theorem crossed_iff {i : Bool} (hi : (s'.progress i).IsAnswered)
    (hcrossed : crossed' ↔ crossed ∨ ∀ i, s'.progress i = .read v) : crossed' ↔ crossed := by
  rw [hcrossed]
  refine or_iff_left fun hread => ?_
  obtain ⟨response, hanswered⟩ := hi
  rw [hread i] at hanswered
  cases hanswered

/-- What holds of the request that goes on, and has held of both, holds of both. -/
theorem forall_update (motive : Progress → Prop) {k : Bool} {p : Progress} (hp : motive p)
    (h : ∀ i, motive (s.progress i)) (i : Bool) : motive (Function.update s.progress k p i) :=
  (Function.forall_update_iff s.progress fun _ => motive).mpr ⟨hp, fun i _ => h i⟩ i

theorem later (h : Stage changes w v crossed s) (now : String) :
    Stage changes w v crossed (s.next changes (.later now)) := by
  cases h with
  | untouched hw hprogress hread hwaiting =>
    exact .untouched (hw.later now) hprogress hread hwaiting
  | once i hw hmakes hanswered hother => exact .once i (hw.later now) hmakes hanswered hother
  | twice i hw hfirst hmakes hanswered => exact .twice i (hw.later now) hfirst hmakes hanswered

/-- A request that has read the view goes on while none has changed it. -/
theorem half_of_read {k : Bool} (hk : s.progress k = .read v)
    (hcrossed : crossed' ↔ crossed ∨ ∀ i, (s.next changes (.half k)).progress i = .read v)
    (hw : w.IsWithValues v v.values v.updatedAt s.world)
    (hprogress : ∀ i, (s.progress i).IsUnwritten v)
    (hread : (∀ i, s.progress i = .read v) → crossed)
    (hwaiting : crossed → ∀ i, s.progress i ≠ .waiting) :
    Stage changes w v crossed' (s.next changes (.half k)) := by
  rcases ViewChange.exists_makes_or_run_changeView (c := changes k) hw with
    ⟨view, hmakes⟩ | ⟨e, hrun⟩
  · obtain ⟨response, w'', hrun, hstored⟩ := hmakes.run_changeView hw
    rw [Overlap.next_of_read hk hrun] at hcrossed ⊢
    have hanswered : (Function.update s.progress k (.answered (.ofOutcome (.ok response)))
        k).IsAnswered := ⟨_, Function.update_self _ _ _⟩
    have hiff := crossed_iff hanswered hcrossed
    refine .once k hstored hmakes hanswered ?_
    dsimp only
    rw [Function.update_of_ne (Bool.not_ne_self k)]
    rcases hprogress (!k) with hother | hother | hother
    · exact .inl ⟨fun hcross => hwaiting (hiff.mp hcross) _ hother, hother⟩
    · refine .inr (.inr (.inl ⟨hiff.mpr (hread fun i => ?_), hother⟩))
      rcases Bool.eq_or_eq_not i k with rfl | rfl
      · exact hk
      · exact hother
    · exact .inr (.inr (.inr hother))
  · rw [Overlap.next_of_read hk hrun] at hcrossed ⊢
    have hiff := crossed_iff (i := k) ⟨_, Function.update_self _ _ _⟩ hcrossed
    refine .untouched hw ?_ (fun hall => hcrossed.mpr (.inr hall)) fun hcross => ?_
    · exact forall_update (·.IsUnwritten v)
        (.inr (.inr ⟨_, rfl, Response.le_status_ofOutcome_error e⟩)) hprogress
    · exact forall_update (· ≠ .waiting) nofun (hwaiting (hiff.mp hcross))

/-- A request goes on while none has changed the view. -/
theorem half_of_untouched (hfinds : ∀ i, (changes i).Finds w v) {k : Bool}
    (hcrossed : crossed' ↔ crossed ∨ ∀ i, (s.next changes (.half k)).progress i = .read v)
    (hw : w.IsWithValues v v.values v.updatedAt s.world)
    (hprogress : ∀ i, (s.progress i).IsUnwritten v)
    (hread : (∀ i, s.progress i = .read v) → crossed)
    (hwaiting : crossed → ∀ i, s.progress i ≠ .waiting) :
    Stage changes w v crossed' (s.next changes (.half k)) := by
  rcases hprogress k with hk | hk | hk
  · rw [Overlap.next_of_waiting hk ((hfinds k).isWithValues hw)] at hcrossed ⊢
    refine .untouched hw (forall_update (·.IsUnwritten v) (.inr (.inl rfl)) hprogress)
      (fun hall => hcrossed.mpr (.inr hall)) fun hcross i => ?_
    rcases hcrossed.mp hcross with hbefore | hall
    · exact absurd hk (hwaiting hbefore k)
    · rw [hall i]
      nofun
  · exact half_of_read hk hcrossed hw hprogress hread hwaiting
  · rw [Overlap.next_of_isAnswered hk.isAnswered] at hcrossed ⊢
    exact .untouched hw hprogress (fun hall => hcrossed.mpr (.inr hall))
      fun hcross => hwaiting ((crossed_iff hk.isAnswered hcrossed).mp hcross)

/-- The second request goes on when the first one has changed the view. -/
theorem half_of_once (hfinds : ∀ i, (changes i).Finds w v) {i : Bool} {view : EditorView}
    (hw : w.IsWithValues v view.stored time s.world) (hmakes : (changes i).Makes w v view)
    (hanswered : (s.progress i).IsAnswered)
    (hother : ¬crossed ∧ s.progress (!i) = .waiting ∨
      ¬crossed ∧ s.progress (!i) = .read (v.renewed view.stored time) ∨
      crossed ∧ s.progress (!i) = .read v ∨ (s.progress (!i)).IsRefused) :
    Stage changes w v crossed (s.next changes (.half !i)) := by
  have hkept (p : Progress) : (Function.update s.progress (!i) p i).IsAnswered := by
    rwa [Function.update_of_ne (Bool.self_ne_not i)]
  -- the request has read some view, and makes another one of it or is refused
  have hchange {old : Obj} {since : String}
      (hread : s.progress (!i) = .read (v.renewed old since))
      (hcase : ∀ second, (changes !i).Makes w (v.renewed old since) second →
        ¬crossed ∧ (changes !i).Makes w (v.renewed view.stored time) second ∨
          crossed ∧ (changes !i).Makes w v second) :
      Stage changes w v crossed (s.next changes (.half !i)) := by
    rcases ViewChange.exists_makes_or_run_changeView (c := changes !i) hw with
      ⟨second, hsecond⟩ | ⟨e, hrun⟩
    · obtain ⟨response, w'', hrun, hstored⟩ := hsecond.run_changeView hw
      rw [Overlap.next_of_read hread hrun]
      refine .twice (!i) hstored (by rwa [Bool.not_not]) (hcase second hsecond) fun j => ?_
      rcases Bool.eq_or_eq_not j i with rfl | rfl
      · exact hkept _
      · exact ⟨_, Function.update_self _ _ _⟩
    · rw [Overlap.next_of_read hread hrun]
      refine .once i hw hmakes (hkept _) (.inr (.inr (.inr ?_)))
      dsimp only
      rw [Function.update_self]
      exact ⟨_, rfl, Response.le_status_ofOutcome_error e⟩
  rcases hother with ⟨hcrossed, hwaiting⟩ | ⟨hcrossed, hread⟩ | ⟨hcrossed, hread⟩ | hrefused
  · rw [Overlap.next_of_waiting hwaiting ((hfinds !i).isWithValues hw)]
    exact .once i hw hmakes (hkept _) (.inr (.inl ⟨hcrossed, Function.update_self _ _ _⟩))
  · exact hchange hread fun second hsecond => .inl ⟨hcrossed, hsecond⟩
  · have hself : s.progress (!i) = .read (v.renewed v.values v.updatedAt) := hread
    exact hchange hself fun second hsecond => .inr ⟨hcrossed, hsecond⟩
  · rw [Overlap.next_of_isAnswered hrefused.isAnswered]
    exact .once i hw hmakes hanswered (.inr (.inr (.inr hrefused)))

/-- Where both requests have read the view, they cross. -/
theorem crossed_of_read (h : Stage changes w v crossed s) (hread : ∀ i, s.progress i = .read v) :
    crossed := by
  have hnot {i : Bool} {q : Prop} (hi : (s.progress i).IsAnswered) : q := by
    obtain ⟨response, hanswered⟩ := hi
    rw [hread i] at hanswered
    cases hanswered
  cases h with
  | untouched _ _ hcrossed _ => exact hcrossed hread
  | once i _ _ hanswered _ => exact hnot hanswered
  | twice i _ _ _ hanswered => exact hnot (hanswered i)

/-- A turn leads from stage to stage. -/
theorem next (hfinds : ∀ i, (changes i).Finds w v) (h : Stage changes w v crossed s) {turn : Turn}
    (hcrossed : crossed' ↔ crossed ∨ ∀ i, (s.next changes turn).progress i = .read v) :
    Stage changes w v crossed' (s.next changes turn) := by
  cases turn with
  | later now =>
    rw [propext (hcrossed.trans (or_iff_left_of_imp h.crossed_of_read))]
    exact h.later now
  | half k =>
    cases h with
    | untouched hw hprogress hread hwaiting =>
      exact half_of_untouched hfinds hcrossed hw hprogress hread hwaiting
    | once i hw hmakes hanswered hother =>
      rw [propext (crossed_iff (Overlap.isAnswered_next hanswered _) hcrossed)]
      rcases Bool.eq_or_eq_not k i with rfl | rfl
      · rw [Overlap.next_of_isAnswered hanswered]
        exact .once k hw hmakes hanswered hother
      · exact half_of_once hfinds hw hmakes hanswered hother
    | twice i hw hfirst hmakes hanswered =>
      rw [propext (crossed_iff (Overlap.isAnswered_next (hanswered i) _) hcrossed),
        Overlap.next_of_isAnswered (hanswered k)]
      exact .twice i hw hfirst hmakes hanswered

/-- After any turns the requests are at some stage. -/
theorem after (hw : w.IsWithValues v v.values v.updatedAt w) (hfinds : ∀ i, (changes i).Finds w v)
    (turns : List Turn) :
    Stage changes w v (Overlap.Crossed changes w v turns) (Overlap.after changes w turns) := by
  induction turns using List.reverseRecOn with
  | nil =>
    refine .untouched hw (fun _ => .inl rfl) (fun hread => nomatch hread true) ?_
    rintro ⟨earlier, hprefix, hread⟩
    obtain rfl := List.prefix_nil.mp hprefix
    exact nomatch hread true
  | append_singleton turns turn ih =>
    rw [Overlap.after_concat]
    exact ih.next hfinds Overlap.crossed_concat_iff

/-- When both requests have succeeded, both have changed the view. -/
theorem twice_of_isSuccess (h : Stage changes w v crossed s)
    (hsuccess : ∀ i, (s.progress i).IsSuccess) :
    ∃ i first view since time, w.IsWithValues v view.stored time s.world ∧
      (changes (!i)).Makes w v first ∧
      (¬crossed ∧ (changes i).Makes w (v.renewed first.stored since) view ∨
        crossed ∧ (changes i).Makes w v view) := by
  cases h with
  | untouched _ hprogress _ _ =>
    obtain ⟨hwaiting, hread, hrefused⟩ := (hsuccess true).not_refused
    rcases hprogress true with hp | hp | hp
    · exact absurd hp hwaiting
    · exact absurd hp (hread v)
    · exact absurd hp hrefused
  | once i _ _ _ hother =>
    obtain ⟨hwaiting, hread, hrefused⟩ := (hsuccess !i).not_refused
    rcases hother with ⟨-, hp⟩ | ⟨-, hp⟩ | ⟨-, hp⟩ | hp
    · exact absurd hp hwaiting
    · exact absurd hp (hread _)
    · exact absurd hp (hread v)
    · exact absurd hp hrefused
  | twice i hw hfirst hmakes _ => exact ⟨i, _, _, _, _, hw, hfirst, hmakes⟩

end Stage

/-- Two requests to change a view, of which both find it, may overlap in any way, with time going on
in between. If both are answered with success, some request is the later one to change the view.
Unless both have read the view before it was changed, the view is left as if the requests had been
run one after the other. If they have, it is left as if the later one had been run alone. That is
the same if the later one is indifferent to the change that the earlier one has made. -/
theorem overlapping_changes (hw : w.Arises) {changes : Bool → ViewChange}
    (hfinds : ∀ i, (changes i).Finds w v) {turns : List Turn}
    (hsuccess : ∀ i, ((Overlap.after changes w turns).progress i).IsSuccess) :
    ∃ i v', (Overlap.after changes w turns).world.viewWithId? v.typeId v.id = some v' ∧
      (¬Overlap.Crossed changes w v turns → LeaveView [changes !i, changes i] w v') ∧
      (Overlap.Crossed changes w v turns → LeaveView [changes i] w v' ∧
        ∀ first, (changes !i).Makes w v first → (changes i).Indifferent v.values first.stored →
          LeaveView [changes !i, changes i] w v') := by
  obtain ⟨t, -, -, hfound⟩ := of_run_viewToChange (hfinds true)
  have hself := World.IsWithValues.refl hw.settled hfound
  obtain ⟨i, first, view, since, time, hafter, hfirst, hmakes⟩ :=
    (Stage.after hself hfinds turns).twice_of_isSuccess hsuccess
  refine ⟨i, v.renewed view.stored time, hafter.found, fun hcrossed => ?_, fun hcrossed => ?_⟩
  · have hmakes := (hmakes.resolve_right fun h => hcrossed h.1).2
    exact leaveView_pair hself (hfinds _) (hfinds i) hfirst hmakes
  · have hmakes := (hmakes.resolve_left fun h => h.1 hcrossed).2
    refine ⟨leaveView_alone hself (hfinds i) hmakes, fun first' hfirst' hindifferent => ?_⟩
    have hsettled : (v.renewed first'.stored v.updatedAt).IsSettled := by
      obtain ⟨body, -, hview, -⟩ := hfirst'
      exact ⟨first', rfl, EditorView.isSettled_of_prepare hview⟩
    obtain ⟨view', hmakes', hstored⟩ := hmakes.congr hself.isSettled hsettled hindifferent
    rw [← hstored]
    exact leaveView_pair hself (hfinds _) (hfinds i) hfirst' hmakes'

/-! ### The short form for books -/

/-- A request to change the short form for books. -/
def changeShortForm (body : String) : ViewChange where
  typeName := "books"
  viewId := "00000000-0000-4000-8000-000000000002"
  request := ⟨"PUT", "/api/content-types/books/editor-views/00000000-0000-4000-8000-000000000002",
    [], [], body⟩

/-- Two requests of which one gives the short form another label, and the other one other roles. -/
def shortFormChanges : Bool → ViewChange
  | false => changeShortForm "\x7b\"label\":\"Brief\"\x7d"
  | true => changeShortForm "\x7b\"roles\":[\"EDITOR\"]\x7d"

/-- Both requests read the short form before any changes it. -/
def crossingTurns : List Turn :=
  [.half false, .half true, .half false, .half true]

theorem json_label (path : String) :
    Request.json ⟨"PUT", path, [], [], "\x7b\"label\":\"Brief\"\x7d"⟩ =
      .ok (.obj [("label", .str "Brief")]) := by cbv

theorem json_roles (path : String) :
    Request.json ⟨"PUT", path, [], [], "\x7b\"roles\":[\"EDITOR\"]\x7d"⟩ =
      .ok (.obj [("roles", .list [.str "EDITOR"])]) := by cbv

theorem exists_finds_shortForm : ∃ v, v ∈ (runServer bookSteps).views ∧
    ∀ i, (shortFormChanges i).Finds (runServer bookSteps) v := by
  have hread : ((viewToChange "books" "00000000-0000-4000-8000-000000000002").run
      (runServer bookSteps)).1.toOption.isSome := by decide +kernel
  generalize runServer bookSteps = w at *
  obtain ⟨v, hv⟩ := Option.isSome_iff_exists.mp hread
  have hfinds : (viewToChange "books" "00000000-0000-4000-8000-000000000002").run w = (.ok v, w) :=
    Prod.ext (Outcome.eq_ok_of_toOption hv) (isReadOnly_viewToChange _ _ w)
  obtain ⟨t, -, hfound, -⟩ := of_run_viewToChange hfinds
  refine ⟨v, List.mem_of_find?_eq_some hfound, fun i => ?_⟩
  cases i <;> exact hfinds

theorem isSuccess_shortFormChanges (i : Bool) :
    ((Overlap.after shortFormChanges (runServer bookSteps) crossingTurns).progress
      i).IsSuccess := by
  cases i <;> decide +kernel

theorem crossed_shortFormChanges {v : StoredView}
    (hfinds : ∀ i, (shortFormChanges i).Finds w v) :
    Overlap.Crossed shortFormChanges w v crossingTurns := by
  refine ⟨[.half false, .half true], by simp [crossingTurns], ?_⟩
  have hafter : Overlap.after shortFormChanges w [.half false, .half true] =
      ⟨Function.update (Function.update (fun _ => .waiting) false (.read v)) true (.read v),
        w⟩ := by
    rw [Overlap.after, List.foldl_cons, Overlap.next_of_waiting rfl (hfinds false), List.foldl_cons,
      Overlap.next_of_waiting rfl (hfinds true), List.foldl_nil]
  intro i
  rw [hafter]
  cases i <;> rfl

/-- Both requests succeed, and the short form is left as one of them alone would have left it. -/
theorem short_form_crossed : ∃ v, (runServer bookSteps).Arises ∧
    (∀ i, (shortFormChanges i).Finds (runServer bookSteps) v) ∧
    (∀ i, ((Overlap.after shortFormChanges (runServer bookSteps) crossingTurns).progress
      i).IsSuccess) ∧
    ∃ i v', (Overlap.after shortFormChanges (runServer bookSteps) crossingTurns).world.viewWithId?
        v.typeId v.id = some v' ∧
      LeaveView [shortFormChanges i] (runServer bookSteps) v' := by
  obtain ⟨v, -, hfinds⟩ := exists_finds_shortForm
  have hw := World.arises_runServer bookSteps
  obtain ⟨i, v', hfound, -, hcrossed⟩ :=
    overlapping_changes hw hfinds isSuccess_shortFormChanges
  exact ⟨v, hw, hfinds, isSuccess_shortFormChanges, i, v', hfound,
    (hcrossed (crossed_shortFormChanges hfinds)).1⟩

/-- The label of a stored view. -/
def labelOf (v : StoredView) : Option String :=
  (Obj.get v.values "label").asText?

/-- Run one after the other, the requests leave the new label behind, whatever is their order. -/
theorem labelOf_of_leaveView (hw : w.IsWithValues v v.values v.updatedAt w)
    (hfinds : ∀ i, (shortFormChanges i).Finds w v) {v' : StoredView}
    (hsame : v'.typeId = v.typeId ∧ v'.id = v.id) {i : Bool}
    (h : LeaveView [shortFormChanges !i, shortFormChanges i] w v') : labelOf v' = some "Brief" := by
  obtain ⟨first, view, hfirst, hmakes, hvalues⟩ :=
    exists_makes_of_leaveView hw (hfinds _) (hfinds i) hsame h
  have hsettled : (v.renewed first.stored w.origin.now).IsSettled := by
    obtain ⟨body, -, hview, -⟩ := hfirst
    exact ⟨first, rfl, EditorView.isSettled_of_prepare hview⟩
  have hgiven (o : Obj) :
      EditorView.requestedText [("label", .str "Brief")] o "label" = .ok "Brief" := by
    have htrim : trim "Brief" = "Brief" := by decide +kernel
    rw [EditorView.requestedText_of_given rfl (by decide), htrim]
  have hkept : EditorView.requestedText [("roles", .list [.str "EDITOR"])]
      (v.renewed first.stored w.origin.now).toObj "label" = .ok (trim first.label) :=
    EditorView.requestedText_of_missing rfl rfl
  have hbrief : view.label = "Brief" := by
    cases i with
    | false =>
      have hlabel := hmakes.label hsettled (json_label _)
      rw [hgiven, Except.ok.injEq] at hlabel
      exact hlabel.symm
    | true =>
      have hlabel := hfirst.label hw.isSettled (json_label _)
      have hlabel' := hmakes.label hsettled (json_roles _)
      rw [hgiven, Except.ok.injEq] at hlabel
      rw [hkept, ← hlabel, Except.ok.injEq] at hlabel'
      exact hlabel'.symm.trans (by decide +kernel)
  have hshown : labelOf v' = some view.label := by
    rw [labelOf, hvalues]
    rfl
  rw [hshown, hbrief]

/-- The new label is lost, whatever is the order in which the requests are run one after the
other. -/
theorem label_lost : ∃ v, (runServer bookSteps).Arises ∧
    (∀ i, (shortFormChanges i).Finds (runServer bookSteps) v) ∧
    (∀ i, ((Overlap.after shortFormChanges (runServer bookSteps) crossingTurns).progress
      i).IsSuccess) ∧
    ∃ v', (Overlap.after shortFormChanges (runServer bookSteps) crossingTurns).world.viewWithId?
        v.typeId v.id = some v' ∧
      ∀ i, ¬LeaveView [shortFormChanges !i, shortFormChanges i] (runServer bookSteps) v' := by
  have hafter : (Overlap.after shortFormChanges (runServer bookSteps) crossingTurns).world.views.map
      labelOf = [some "Short"] := by decide +kernel
  obtain ⟨v, -, hfinds⟩ := exists_finds_shortForm
  have hw := World.arises_runServer bookSteps
  have hsuccess := isSuccess_shortFormChanges
  generalize runServer bookSteps = w at *
  obtain ⟨t, -, -, hread⟩ := of_run_viewToChange (hfinds true)
  have hself := World.IsWithValues.refl hw.settled hread
  obtain ⟨-, -, view, -, time, hvalues, -, -⟩ :=
    (Stage.after hself hfinds crossingTurns).twice_of_isSuccess hsuccess
  have hfound := hvalues.found
  refine ⟨v, hw, hfinds, hsuccess, _, hfound, fun i h => ?_⟩
  have hsame := List.find?_some hfound
  rw [Bool.and_eq_true, beq_iff_eq, beq_iff_eq] at hsame
  have hbrief := labelOf_of_leaveView hself hfinds hsame h
  have hmem : labelOf (v.renewed view.stored time) ∈ [some "Short"] :=
    hafter ▸ List.mem_map_of_mem (List.mem_of_find?_eq_some hfound)
  rw [hbrief] at hmem
  exact absurd hmem (by decide)

end Server

end ContentEngine
