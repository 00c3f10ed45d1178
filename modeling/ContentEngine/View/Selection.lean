import ContentEngine.View.Basic
import ContentEngine.Title
/-!
# The view in effect

The view that an editor gets: the one that is asked for by its slug, if the editor's role may use
it, and otherwise the first of those that the role may use. If the role may use none of them, all
count.
-/

namespace ContentEngine

/-!
### Which view comes first

Of several views that a role may use, the first is the one that has the role among its default roles
(of several, the one with the highest priority), then the one that is marked as default, then the
one that was updated last, then the one that was made last, and then the one with the least
identifier. `ViewRank` holds what this depends on, and `ViewRank.compare` is the order.
-/

/-- What decides the place of a view. A priority counts only for a view that is a default for the
role. -/
structure ViewRank where
  forRole : Bool
  priority : Int
  isDefault : Bool
  updated : Option String
  created : Option String
  id : String
deriving Repr, DecidableEq

/-- How two facts stand: the one that holds comes first. -/
def compareHolding (a b : Bool) : Ordering :=
  match a, b with
  | true, false => .lt
  | false, true => .gt
  | _, _ => .eq

/-- How two stamps stand: where they first differ, the one with the later character comes first, and
a stamp comes before those that it is the start of. -/
def compareLater : List Char → List Char → Ordering
  | [], [] => .eq
  | [], _ => .lt
  | _, [] => .gt
  | a :: as, b :: bs => if b < a then .lt else if a < b then .gt else compareLater as bs

/-- How two stamps stand of which either may be missing. A missing one comes last. -/
def compareStamps (a b : Option String) : Ordering :=
  match a, b with
  | some a, some b => compareLater a.toList b.toList
  | some _, none => .lt
  | none, some _ => .gt
  | none, none => .eq

/-- How two texts stand by code point. -/
def compareTexts (a b : String) : Ordering :=
  if a < b then .lt else if b < a then .gt else .eq

/-- The text of a stamp, if there is one. -/
def stampText? (v : Value) : Outcome (Option String) :=
  if v.isVoid then .ok none
  else
    match v with
    | .moment m => .ok (some m.text)
    | v => do return some (← v.text)

namespace ViewRank

/-- The rank of a view for a role. -/
def ofRecord (role : String) (o : Obj) : Outcome ViewRank := do
  let listed := (Obj.get o "default_roles").orElse (Obj.get (Obj.getObj o "config") "default_roles")
  let defaultRoles ← (listed.asList?.getD []).mapM roleName
  let forRole := role != "" && defaultRoles.contains role
  let updated ← stampText? (Obj.get o "updated_at")
  let created ← stampText? (Obj.get o "created_at")
  let id ← (Obj.get o "id").presentText
  return {
    forRole
    priority := if forRole then ((Obj.get o "priority").asIndex?).getD 0 else 0
    isDefault := (Obj.get o "is_default").truthy
    updated
    created
    id }

/-- How two ranks stand. -/
def compare (a b : ViewRank) : Ordering :=
  (compareHolding a.forRole b.forRole).then <|
  (Ord.compare b.priority a.priority).then <|
  (compareHolding a.isDefault b.isDefault).then <|
  (compareStamps a.updated b.updated).then <|
  (compareStamps a.created b.created).then <|
  compareTexts a.id b.id

/-- Whether a rank comes before another. -/
def isBefore (a b : ViewRank) : Bool :=
  compare a b == .lt

end ViewRank

/-- Of some ranked things, the one whose rank no other comes before, and of several the first. -/
def bestRanked {α : Type} (best : ViewRank × α) : List (ViewRank × α) → ViewRank × α
  | [] => best
  | item :: rest => bestRanked (if item.1.isBefore best.1 then item else best) rest

/-- The view record that comes first for a role. -/
def firstView? (role : String) (views : List Obj) : Outcome (Option Obj) := do
  match ← views.mapM fun o => do return (← ViewRank.ofRecord role o, o) with
  | [] => return none
  | best :: rest => return some (bestRanked best rest).2

/-! ### Selection -/

/-- Of the things with a slug, in any case of letters, the first that has sections, or else the
first. A thing is given with its slug and with whether it has sections. -/
def pickBySlug? {α : Type} (slug : String) (views : List (String × Bool × α)) : Option α :=
  let hits := views.filter fun view => lowerText view.1 == lowerText (trim slug)
  ((hits.find? fun view => view.2.1).or hits.head?).map fun view => view.2.2

namespace EditorView

/-- Whether a view has a section. -/
def hasSections (v : EditorView) : Bool :=
  match v.sections with
  | some items => !items.isEmpty
  | none => false

/-- The view with a slug. -/
def withSlug? (views : List EditorView) (slug : String) : Option EditorView :=
  pickBySlug? slug (views.map fun v => (v.slug, v.hasSections, v))

/-- The view that comes first for a role. -/
def first? (role : String) (views : List EditorView) : Outcome (Option EditorView) := do
  match ← views.mapM fun v => do return (← ViewRank.ofRecord role v.toRecord, v) with
  | [] => return none
  | best :: rest => return some (bestRanked best rest).2

/-- The views that a role may use, or all if there are none. -/
def allowed (role : String) (views : List EditorView) : List EditorView :=
  let usable := views.filter (·.allows role)
  if usable.isEmpty then views else usable

/-- The view in effect for a role, when a slug is asked for or none. -/
def inEffect? (views : List EditorView) (role : String) (slug : Option String) :
    Outcome (Option EditorView) :=
  match (slug.bind (withSlug? views)).filter (·.allows role) with
  | some view => .ok (some view)
  | none => first? role (allowed role views)

/-- The view in effect among those that some records describe. -/
def effective? (records : List Obj) (role slug : Value) : Outcome (Option EditorView) := do
  let role ← roleName role
  let views ← records.mapM ofRecord
  let slug ← if slug.truthy then some <$> slug.text else pure none
  inEffect? views role slug

/-- The settings in effect for a role. -/
def effectiveCore (records : List Obj) (role : Value) : Outcome Obj := do
  match ← effective? records role .null with
  | some view => return view.core
  | none => return ViewCore.usual

end EditorView

end ContentEngine
