import ContentEngine.Memory.Stores
import ContentEngine.Service.Entries
import ContentEngine.Server.Request
import ContentEngine.Server.Response
/-!
# Requests about entries

Entries are read and written by the entry service over the stores in memory.
-/

namespace ContentEngine

namespace Server

/-- Shows the entries of a type. -/
def listEntries (typeSlug : String) (r : Request) : Action World Response := do
  let entries ← Service.listEntries Memory.stores typeSlug (r.flag "display")
  return .shown [("entries", .list (entries.map .obj))]

/-- Shows the options of a type, or of one of its fields. -/
def options (typeSlug : String) (r : Request) : Action World Response := do
  return .shown (← Service.options Memory.stores typeSlug (r.parameter "field"))

/-- Shows an entry. -/
def getEntry (typeSlug entryName : String) : Action World Response := do
  let entry ← Service.getEntry Memory.stores typeSlug (.str entryName)
  return .shown [("entry", .obj entry)]

/-- Shows the versions of an entry. -/
def listVersions (typeSlug entryName : String) : Action World Response := do
  let versions ← Service.listVersions Memory.stores typeSlug (.str entryName)
  return .shown [("versions", .list (versions.map .obj))]

/-- Makes an entry. -/
def createEntry (typeSlug role : String) (r : Request) : Action World Response := do
  let body ← (r.json : Outcome Value)
  let entry ← Service.createEntry Memory.stores typeSlug body (.str role)
  return .created [("entry", .obj entry)]

/-- Changes an entry. -/
def updateEntry (typeSlug entryName role : String) (r : Request) : Action World Response := do
  let body ← (r.json : Outcome Value)
  let entry ← Service.updateEntry Memory.stores typeSlug (.str entryName) body (.str role)
  return .shown [("entry", .obj entry)]

/-- Takes an entry out. -/
def deleteEntry (typeSlug entryName : String) : Action World Response := do
  Service.deleteEntry Memory.stores typeSlug (.str entryName)
  return .shown [("id_or_slug", .str entryName)]

end Server

end ContentEngine
