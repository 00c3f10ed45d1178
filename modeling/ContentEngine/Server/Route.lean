import ContentEngine.Text.Search
/-!
# Routes

What can be asked for at which path. `Route.served` lists the routes of a path, at most one for each
method. In the place of an entry the word `options` names the options of the type, so an entry with
that slug can only be read by its identifier; in the place of a view the word `effective` names the
view that is in effect.
-/

namespace ContentEngine

namespace Server

/-- What a request asks for. Types, entries and views are named as in the path. -/
inductive Route where
  | health
  | listTypes
  | createType
  | getType (typeName : String)
  | updateType (typeName : String)
  | deleteType (typeName : String)
  | getFields (typeName : String)
  | replaceFields (typeName : String)
  | effectiveView (typeName : String)
  | listViews (typeName : String)
  | createView (typeName : String)
  | updateView (typeName viewId : String)
  | deleteView (typeName viewId : String)
  | listEntries (typeSlug : String)
  | createEntry (typeSlug : String)
  | options (typeSlug : String)
  | getEntry (typeSlug entryName : String)
  | updateEntry (typeSlug entryName : String)
  | deleteEntry (typeSlug entryName : String)
  | listVersions (typeSlug entryName : String)
  | evaluateRows
deriving Repr, DecidableEq

namespace Route

/-- The routes about content types, by what follows in the path. -/
def typeRoutes : List String → List (String × Route)
  | [] => [("GET", listTypes), ("POST", createType)]
  | [t] => [("GET", getType t), ("PUT", updateType t), ("DELETE", deleteType t)]
  | [t, "fields"] => [("GET", getFields t), ("PUT", replaceFields t)]
  | [t, "editor-views"] => [("GET", listViews t), ("POST", createView t)]
  | [t, "editor-views", v] =>
    (if v = "effective" then [("GET", effectiveView t)] else [])
      ++ [("PUT", updateView t v), ("DELETE", deleteView t v)]
  | _ => []

/-- The routes about entries, by what follows in the path. -/
def entryRoutes : List String → List (String × Route)
  | [t] => [("GET", listEntries t), ("POST", createEntry t)]
  | [t, e] =>
    [("GET", if e = "options" then options t else getEntry t e), ("PUT", updateEntry t e),
      ("DELETE", deleteEntry t e)]
  | [t, e, "versions"] => [("GET", listVersions t e)]
  | _ => []

/-- The routes of a path that is given by its parts, each with its method. -/
def served : List String → List (String × Route)
  | ["health"] => [("GET", health)]
  | "api" :: "content-types" :: rest => typeRoutes rest
  | "api" :: "content" :: rest => entryRoutes rest
  | ["api", "repeater", "evaluate"] => [("POST", evaluateRows)]
  | _ => []

end Route

/-- The parts of a path between its slashes. A path that does not start with a slash, or that has an
empty part, has none. -/
def pathParts (path : List Char) : List String :=
  match path with
  | '/' :: rest =>
    let parts := (splitAtChar '/' rest).map String.ofList
    if parts.contains "" then [] else parts
  | _ => []

/-- What is found at a path for a method. -/
inductive Finding where
  /-- A route. -/
  | route (r : Route)
  /-- Routes for other methods only. -/
  | otherMethod
  /-- Nothing, but there are routes at the path without the slashes at its end. -/
  | elsewhere
  /-- Nothing at all. -/
  | nothing
deriving Repr, DecidableEq

/-- A path without the slashes at its end. -/
def withoutEndSlashes (path : List Char) : List Char :=
  (path.reverse.dropWhile (· == '/')).reverse

/-- What is found at a path for a method. -/
def findRoute (method path : String) : Finding :=
  let routes := Route.served (pathParts path.toList)
  match routes.lookup method with
  | some r => .route r
  | none =>
    if !routes.isEmpty then .otherMethod
    else if (Route.served (pathParts (withoutEndSlashes path.toList))).isEmpty then .nothing
    else .elsewhere

end Server

end ContentEngine
