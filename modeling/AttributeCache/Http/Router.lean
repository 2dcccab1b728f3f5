import AttributeCache.Http.MediaType
import AttributeCache.Http.Message
import AttributeCache.Http.Query
import AttributeCache.Http.Route
import AttributeCache.Node
/-!
# What a node answers over HTTP

Four routes. A path is matched as it is written. A route that can be read
can also be asked for its head, which is answered the same without the
body. A JSON body needs a content type that announces it; text that is no
JSON is a bad request, JSON of another shape is unprocessable.
-/

namespace AttributeCache.Http

/-! ## Bodies -/

/-- A body read as a value, or the response that refuses it. -/
def readBody (read : Nat → Json.Tree → Except Json.Fault α) (r : Request) : Except Response α :=
  if !r.contentType.any isJson then .error (.ofStatus 415)
  else
    match Json.decodeBytes read r.body with
    | .ok a => .ok a
    | .error .grammar => .error (.ofStatus 400)
    | .error .shape => .error (.ofStatus 422)

/-- The body that asks for a log threshold. -/
def thresholdRecord : Json.Record (Option String) String where
  names := ["threshold"]
  strict := false
  field _ name :=
    match name with
    | "threshold" => some fun t d => Json.Record.once d t.asString
    | _ => none
  blank := none
  finish := Json.Record.need

/-! ## Answers -/

/-- The stamp a caller has: the epoch if it names none. -/
def sinceOf (r : Request) : Except Response Stamp :=
  match queryValues r.query "since" with
  | [] => .ok Stamp.epoch
  | [s] => (Stamp.parse s).mapError fun e => .ofError 400 e.message
  | _ => .error (.ofStatus 400)

/-- The snapshot, if it is later than what the caller has. -/
def getAttributes (n : Node) (r : Request) : Response :=
  match sinceOf r with
  | .error refusal => refusal
  | .ok since =>
    match n.manager.newerThan? since with
    | some snapshot => .ofValue snapshot.json
    | none => .ofStatus 304

/-- What is said of a load that failed. -/
def failureText : CacheError → String
  | .taskFailed => "task panicked"
  | e => e.message

/-- Loads on request. -/
def postReload (now : UInt64) (n : Node) : Node × Response :=
  match n.load now with
  | (n, .ok _) => (n, .ofStatus 204)
  | (n, .error e) => (n, .ofError 500 (failureText e))

/-- The threshold in force. -/
def getThreshold (n : Node) : Response :=
  .ofValue (.object [("threshold", n.log.threshold.json)])

/-- Sets the threshold by name. -/
def putThreshold (n : Node) (r : Request) : Node × Response :=
  match readBody thresholdRecord.read r with
  | .error refusal => (n, refusal)
  | .ok name =>
    match n.log.setByName name with
    | .ok log => ({ n with log }, .ofStatus 204)
    | .error e => (n, .ofError 400 e.message)

/-- Puts the message of another node on the bus. -/
def postInvalidation (n : Node) (r : Request) : Node × Response :=
  match readBody Invalidation.ofTree r with
  | .error refusal => (n, refusal)
  | .ok message => ({ n with bus := (n.bus.publish message).1 }, .ofStatus 202)

/-- Answers a request. -/
def handle (now : UInt64) (n : Node) (r : Request) : Node × Response :=
  match Route.ofPath? r.path, r.method with
  | none, _ => (n, .ofStatus 404)
  | some .attributes, "GET" => (n, getAttributes n r)
  | some .attributes, "HEAD" => (n, (getAttributes n r).withoutBody)
  | some .reload, "POST" => postReload now n
  | some .threshold, "GET" => (n, getThreshold n)
  | some .threshold, "HEAD" => (n, (getThreshold n).withoutBody)
  | some .threshold, "PUT" => putThreshold n r
  | some .invalidate, "POST" => postInvalidation n r
  | some _, _ => (n, .ofStatus 405)

end AttributeCache.Http
