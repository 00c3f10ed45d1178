import ContentEngine.Repeater.Rows
import ContentEngine.Repeater.View
import ContentEngine.Repeater.Prune
import ContentEngine.Server.Request
import ContentEngine.Server.Response
/-!
# Requests about rows

An editor that has changed a row of a repeater asks what the repeater looks like now. Nothing is
stored: the request carries the field, or its configuration, with the rows and perhaps an operation
on them.
-/

namespace ContentEngine

namespace Server

/-- The field or the configuration that a request is about. -/
def repeaterSource (body : Obj) : Outcome Value :=
  let field := Obj.get body "field"
  let source := if field.isObj then field else Obj.get body "config"
  if source.isObj then .ok source
  else .error (.validation "field or config is required" (some "field") .null)

/-- The rows that a request carries, after its operation if it has one. -/
def requestedRows (repeater : Repeater) (body : Obj) : Value :=
  let rows := Obj.getEither body "rows" "value"
  let op := Obj.get body "op"
  if op.isNull then rows else .list ((repeater.applyOp (rowsOf rows) (.ofValue op)).map .obj)

/-- The depth that a request names. It must be a positive integer, and is 1 otherwise. -/
def requestedDepth (body : Obj) : Value :=
  let depth := Obj.get body "depth"
  if depth.asIndex?.any (0 < ·) then depth else .int 1

/-- Shows the rows of a repeater, and the repeater with them. -/
def evaluateRows (r : Request) : Outcome Response := do
  let body ← r.json
  match body.asObj? with
  | none => throw (.validation "Request body must be an object" (some "body") .null)
  | some body =>
    let config ← Repeater.configOf (← repeaterSource body)
    let repeater := Repeater.ofConfig config
    let rows := requestedRows repeater body
    let depth := requestedDepth body
    let pruned ← repeater.prune (depth.asIndex?.getD 1) (.list (rows.asList?.getD []))
    let view ← Repeater.view (.obj config) rows (.ofValue depth)
    return .shown [("rows", pruned), ("repeater", view.toValue)]

end Server

end ContentEngine
