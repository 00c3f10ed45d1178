import ContentEngine.Entry.Basic
/-!
# The store of entries

Entries are kept under their identifiers. Three things stand beside them and go with them: the
versions of an entry, the place of an entry in the order in which all of them were made, and the
place that the next entry takes. Places are never taken twice, so they decide the order of entries
that were made at one time.
-/

namespace ContentEngine

/-- The entries that are kept in memory. -/
structure EntryStore where
  entries : Table Entry
  versions : Table (List EntryVersion)
  places : Table Nat
  nextPlace : Nat

namespace EntryStore

/-- The store that holds nothing. -/
def empty : EntryStore := ⟨[], [], [], 1⟩

/-! ### Looking -/

/-- Whether a slug belongs to an entry of a type. The entry with a given identifier does
not count. -/
def slugTaken (s : EntryStore) (typeId slug : String) (ownId : Option String) : Bool :=
  s.entries.values.any fun e => e.typeId == typeId && e.values.slug == slug && ownId != some e.id

/-- The entry with an identifier, if it is one of a type. -/
def find? (s : EntryStore) (typeId id : String) : Option Entry :=
  (s.entries.get? id).filter fun e => e.typeId == typeId

/-- The entries of a type. -/
def ofType (s : EntryStore) (typeId : String) : List Entry :=
  s.entries.values.filter fun e => e.typeId == typeId

/-- The versions of an entry, the newest first. -/
def versionsOf (s : EntryStore) (id : String) : List EntryVersion :=
  (s.versions.get? id).getD []

/-- The place of an entry in the order in which all were made. -/
def place (s : EntryStore) (e : Entry) : Nat :=
  (s.places.get? e.id).getD 0

/-- Whether an entry comes no later than another where the newest are listed first: by the time it
was made, then by its place. -/
def newerFirst (s : EntryStore) (a b : Entry) : Bool :=
  decide (b.createdAt < a.createdAt)
    || (a.createdAt == b.createdAt && decide (s.place b ≤ s.place a))

/-! ### Changing -/

/-- The store with one more entry. -/
def add (s : EntryStore) (e : Entry) : EntryStore :=
  { s with
    entries := s.entries.set e.id e
    places := s.places.set e.id s.nextPlace
    nextPlace := s.nextPlace + 1 }

/-- The store in which another entry stands under an identifier, and `version` is the newest of its
versions. -/
def replace (s : EntryStore) (id : String) (e : Entry) (version : EntryVersion) : EntryStore :=
  { s with
    entries := s.entries.set id e
    versions := s.versions.set id (version :: s.versionsOf id) }

/-- The store without an entry and what goes with it. -/
def drop (s : EntryStore) (id : String) : EntryStore :=
  { s with
    entries := s.entries.erase id
    versions := s.versions.erase id
    places := s.places.erase id }

/-- The store without an entry, if it is one of a type. -/
def delete (typeId : String) (s : EntryStore) (id : String) : EntryStore :=
  if (s.find? typeId id).isSome then s.drop id else s

/-- The store without the entries of a type. -/
def deleteType (s : EntryStore) (typeId : String) : EntryStore :=
  ((s.ofType typeId).map (·.id)).foldl (delete typeId) s

end EntryStore

end ContentEngine
