import Mathlib
import ContentEngine.Proofs.Server.Steps
import ContentEngine.Proofs.World.Linked

/-!
# Taking a content type out

After any run of the server, whatever is kept belongs to something that is there. A request to take
a content type out then takes out exactly that type with its fields, entries, versions and views:
`World.IsWithout` says of every record of the world whether it is still there.
-/

namespace ContentEngine

/-- Whether a world is another one without a type and everything that belongs to it, and with every
other record as it was. -/
structure World.IsWithout (w : World) (t : ContentType) (w' : World) : Prop where
  types : w'.types = w.types.filter (· ≠ t)
  fields : ∀ id, w'.fields.get? id = if id = t.id then none else w.fields.get? id
  entries : ∀ id, w'.entries.entries.get? id =
    (w.entries.entries.get? id).filter fun e => e.typeId != t.id
  versions : ∀ id, w'.entries.versionsOf id =
    if (w.entries.find? t.id id).isSome then [] else w.entries.versionsOf id
  places : ∀ id, w'.entries.places.get? id =
    if (w.entries.find? t.id id).isSome then none else w.entries.places.get? id
  views : w'.views = w.views.filter fun v => v.typeId != t.id
  origin : w'.origin = w.origin
  users : w'.users = w.users
  usersDown : w'.usersDown = w.usersDown

namespace World

variable {w : World}

/-- Taking a type out takes out nothing that belongs to another type. -/
theorem isWithout_removeType (h : w.Sound) {t : ContentType} (ht : t ∈ w.types) :
    w.IsWithout t (w.removeType t.id) where
  types := by
    refine List.filter_congr fun u hu => ?_
    have hiff : u.id = t.id ↔ u = t := ⟨h.types.eq_of_id_eq hu ht, congrArg ContentType.id⟩
    rw [Bool.eq_iff_iff, bne_iff_ne, decide_eq_true_iff]
    exact not_congr hiff
  fields id := Table.get?_erase _ _ _
  entries id := EntryStore.get?_deleteType h.entries.sound _ _
  versions id := EntryStore.versionsOf_deleteType h.entries.sound _ _
  places id := EntryStore.places_deleteType h.entries.sound _ _
  views := rfl
  origin := rfl
  users := rfl
  usersDown := rfl

end World

namespace Server

variable {w : World}

/-- The answer to a request to take a type out, and the world that it leaves behind. -/
theorem run_respond_deleteType {secret? : Option (List UInt8)} {r : Request} {role name : String}
    {t : ContentType} (hsender : senderRole secret? (secondsNow w) r = .ok role)
    (hroute : findRoute r.method r.path = .route (.deleteType name))
    (ht : w.findType? name = some t) :
    (respond secret? r).run w = (.shown [("id", .str t.id)], w.removeType t.id) := by
  have hperform : (perform role r (.deleteType name)).run w =
      (.ok (.shown [("id", .str t.id)]), w.removeType t.id) := run_deleteType ht
  rw [run_respond_of_sender hsender, run_serve_of_route role w hroute, hperform]
  rfl

end Server

/-- After any run of the server, also of requests that were turned away or failed, whatever is kept
belongs to something that is there; and a request to take out a type that is there, by its
identifier or by its slug, is answered with the status of a success and takes out exactly that type
with its fields, entries, versions and views. -/
theorem runServer_linked (steps : List ServerStep) :
    (runServer steps).Linked ∧
    ∀ t ∈ (runServer steps).types, ∀ name, name = t.id ∨ name = t.values.slug →
      ∀ (secret? : Option (List UInt8)) (r : Server.Request) (role : String),
        Server.senderRole secret? (Server.secondsNow (runServer steps)) r = .ok role →
        Server.findRoute r.method r.path = .route (.deleteType name) →
        ((Server.respond secret? r).run (runServer steps)).1.status = 200 ∧
          (runServer steps).IsWithout t ((Server.respond secret? r).run (runServer steps)).2 := by
  have hsound : (runServer steps).Sound := (reaches_runServer steps).sound World.sound_empty
  refine ⟨hsound.linked, fun t ht name hname secret? r role hsender hroute => ?_⟩
  have hfind : (runServer steps).findType? name = some t := by
    rcases hname with rfl | rfl
    · exact hsound.types.findType?_id ht
    · exact hsound.types.findType?_slug ht
  rw [Server.run_respond_deleteType hsender hroute hfind]
  exact ⟨rfl, World.isWithout_removeType hsound ht⟩

/-! ### Pages -/

namespace Server

/-- A request to make the type of pages. -/
def makePages : Request :=
  ⟨"POST", "/api/content-types", [], [], "\x7b\"label_singular\":\"Page\"\x7d"⟩

/-- A request to take the type of pages out. -/
def dropPages : Request :=
  ⟨"DELETE", "/api/content-types/pages", [], [], ""⟩

/-- What is stored of the type of pages. -/
def pageValues : TypeValues := ⟨"pages", .content, "Page", "Pages", "", ""⟩

theorem json_makePages : makePages.json = .ok (.obj [("label_singular", .str "Page")]) := by cbv

theorem prepare_makePages :
    ContentType.prepare (.obj [("label_singular", .str "Page")]) [] = .ok pageValues :=
  Outcome.eq_ok_of_toOption (by decide +kernel)

theorem next_makePages : (ServerStep.request none makePages).next .empty =
    World.empty.issue.addType (World.empty.newType pageValues) := by
  have htype : typeRequest makePages = .ok (.obj [("label_singular", .str "Page")]) := by
    rw [typeRequest, json_makePages]
    rfl
  exact snd_run_respond_createType rfl (by decide) htype prepare_makePages rfl fun _ => rfl

end Server

/-- A run of the server in which the type of pages is made. -/
def pageSteps : List ServerStep := [.request none Server.makePages]

theorem types_runServer_pageSteps :
    (runServer pageSteps).types = [World.empty.newType Server.pageValues] := by
  rw [pageSteps, runServer, List.foldl_cons, List.foldl_nil, Server.next_makePages]
  rfl

/-- The type of pages is taken out by its slug. -/
theorem pages_taken_out : ∃ t ∈ (runServer pageSteps).types, t.values.slug = "pages" ∧
    ((Server.respond none Server.dropPages).run (runServer pageSteps)).1.status = 200 ∧
    (runServer pageSteps).IsWithout t
      ((Server.respond none Server.dropPages).run (runServer pageSteps)).2 := by
  have hmem : World.empty.newType Server.pageValues ∈ (runServer pageSteps).types := by
    rw [types_runServer_pageSteps]
    exact List.mem_singleton_self _
  have hsender : Server.senderRole none (Server.secondsNow (runServer pageSteps)) Server.dropPages =
      .ok Server.usualRole := rfl
  have hroute : Server.findRoute Server.dropPages.method Server.dropPages.path =
      .route (.deleteType "pages") := by decide
  refine ⟨_, hmem, rfl, ?_⟩
  exact (runServer_linked pageSteps).2 _ hmem "pages" (.inr rfl) none Server.dropPages
    Server.usualRole hsender hroute

end ContentEngine
