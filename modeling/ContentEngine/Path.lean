import ContentEngine.Text.Search
import ContentEngine.Value.Literal
/-!
# Paths into documents

A path such as `author.links.0.url` names a place in a document: the keys of objects and the indexes
of lists on the way there, joined by dots. Blanks around a segment do not count, and blank segments
are left out. A path that leads nowhere has no value; that is no error, except that a segment which
looks like an integer without being one has no meaning as an index.
-/

namespace ContentEngine

/-- The segments of a path that is given as text. -/
def pathSegments (path : String) : List String :=
  (((splitAtChar '.' path.toList).map (trimBy isBlank)).filter (!·.isEmpty)).map String.ofList

/-- The segments of a path. -/
def Value.pathSegments (path : Value) : Outcome (List String) :=
  match path with
  | .null => .ok []
  | v => do return ContentEngine.pathSegments (← v.text)

/-- The index that a segment denotes, if it looks like an integer. -/
def segmentIndex? (segment : String) : Outcome (Option Int) :=
  if isDigitText (segment.toList.dropWhile (· == '-')) then
    match readInteger? segment.toList with
    | some n => .ok (some n)
    | none => .error .badInteger
  else .ok none

/-- The item at an index of a list. -/
def itemAt? (items : List Value) (index : Int) : Option Value :=
  if index < 0 then none else items[index.toNat]?

/-- The part of a value that a segment names. -/
def Value.part? (v : Value) (segment : String) : Outcome (Option Value) :=
  match v.asObj? with
  | some members => .ok (Obj.get? members segment)
  | none =>
    match v.asItems? with
    | some items => do return (← segmentIndex? segment).bind (itemAt? items)
    | none => .ok none

/-- The value at the end of some segments. Nothing is below null. -/
def Value.walk (v : Value) : List String → Outcome (Option Value)
  | [] => .ok (some v)
  | segment :: rest =>
    if v.isNull then .ok none
    else do
      match ← v.part? segment with
      | some part => part.walk rest
      | none => return none

/-- The value at a path of a document, or another one if the path leads nowhere. -/
def Value.atPath (doc path default : Value) : Outcome Value := do
  match ← path.pathSegments with
  | [] => return default
  | segments => return (← doc.walk segments).getD default

end ContentEngine
