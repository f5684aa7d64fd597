import DepLock.Server.Route
import DepLock.Error
import DepLock.Uuid
import DepLock.Manifest.Document
import DepLock.Tree.Document
import DepLock.Lock.Store
import DepLock.Json.Write
/-!
# The resolution server

The server answers four kinds of request: a liveness check, resolving a posted
manifest into a tree, resolving one and storing the lock made from it, and loading a
stored lock. `Service.handle` takes one request and gives the response and the service
after it: creating a lock adds to the store and uses up one lock id.

Every answer is one JSON document followed by a line break, indented by two spaces
when the query says `pretty=true`. A failure answers `{"code", "message"}`, where the
message is the one meant for people (`Error.userMessage`) and the status comes from
`statusFor`: bad input is 400, a missing lock 404, a missing capability 501, a failed
resolution 429, 501, 400 or 502 after what caused it, and anything else 500.

A request carries an id; an id that is a UUID is echoed, and any other is replaced by a
fresh one (`Response.echoedId` is then none).
-/

set_option autoImplicit false

namespace DepLock.Server

open DepLock.Json

/-- The largest request body, in bytes. -/
def maxBodyBytes : Nat := 1024 * 1024

/-- The status of a failure with code `code`. -/
def statusFor (code : Code) (e : Error) : Nat :=
  match code with
  | .invalidInput | .invalidManifest | .invalidPackage | .invalidSpecifier | .invalidFormat => 400
  | .notFound => 404
  | .unsupported => 501
  | .resolutionFailed | .depthExceeded =>
    if e.has .rateLimited then 429
    else if e.has .unsupported then 501
    else if e.has .invalidSpecifier then 400
    else 502
  | _ => 500

/-- A request: method, target, body, and the id it carries (empty when none). -/
structure Request where
  method : String
  target : String
  body : String := ""
  requestId : String := ""
deriving Repr

/-- A response: status, content type, location, the echoed request id (none when a
fresh one was assigned) and body. -/
structure Response where
  status : Nat
  contentType : String := ""
  location : String := ""
  echoedId : Option String := none
  body : String := ""
deriving Repr, DecidableEq

/-- The service behind the routes: how it resolves a manifest, its lock store if any,
how it names the n-th lock it creates, the time it stamps locks with, and how many
locks it created. -/
structure Service where
  resolve : Manifest → Except Error Tree
  store : Option LockStore
  lockId : Nat → String
  now : Timestamp
  created : Nat := 0

/-- A JSON answer. -/
def jsonResponse (pretty : Bool) (status : Nat) (v : Value) : Response :=
  { status, contentType := "application/json",
    body := (if pretty then writeIndented "  " v else write v) ++ "\n" }

/-- A JSON answer of a document that may fail to be written; the status and type are
sent either way, and a failed document leaves the body empty. -/
def documentResponse (pretty : Bool) (status : Nat) (v : Except String Value) : Response :=
  match v with
  | .ok v => jsonResponse pretty status v
  | .error _ => { status, contentType := "application/json" }

/-- The answer to a failure. -/
def errorResponse (pretty : Bool) (e : Error) : Response :=
  let code := e.code?.getD .internal
  jsonResponse pretty (statusFor code e)
    (.object [("code", .string code.name), ("message", .string e.userMessage)])

/-- The answer to a path with no route. -/
def notFoundResponse : Response :=
  { status := 404, contentType := "text/plain; charset=utf-8", body := "404 page not found\n" }

/-- The answer to a method a route does not take. -/
def notAllowedResponse : Response := { status := 405 }

/-- The answer when handling fails outright. -/
def crashResponse : Response := { status := 500 }

/-- The failure for a server without a lock store. -/
def noStore : Error := .make .unsupported "no lock store configured"

/-- Reads the posted manifest and resolves it. -/
def Service.resolveBody (srv : Service) (body : String) : Except Error (Manifest × Tree) := do
  if body.utf8ByteSize > maxBodyBytes then
    .error (.wrap .invalidInput (.plain "http: request body too large") "read body")
  let m ← Manifest.parse body
  let t ← srv.resolve m
  pure (m, t)

/-- Answers a request that has a route. -/
def Service.answer (srv : Service) (pretty : Bool) (body : String) : Route → Service × Response
  | .health => (srv, jsonResponse pretty 200 (.object [("status", .string "ok")]))
  | .metrics => (srv, { status := 200, contentType := "text/plain; charset=utf-8" })
  | .tree =>
    match srv.resolveBody body with
    | .error e => (srv, errorResponse pretty e)
    | .ok (_, t) => (srv, jsonResponse pretty 200 t.toValue)
  | .createLock =>
    match srv.store with
    | none => (srv, errorResponse pretty noStore)
    | some store =>
      match srv.resolveBody body with
      | .error e => (srv, errorResponse pretty e)
      | .ok (m, t) =>
        let n := srv.created + 1
        match Lock.create (srv.lockId n) srv.now (some m) t with
        | .error _ => ({ srv with created := n }, crashResponse)
        | .ok l =>
          match store.save Uuid.library l with
          | .error e => ({ srv with created := n }, errorResponse pretty (.wrap .internal e "save lock"))
          | .ok store' =>
            ({ srv with created := n, store := some store' },
              { documentResponse pretty 201 l.toValue with location := "/v1/locks/" ++ l.id })
  | .getLock id =>
    match srv.store with
    | none => (srv, errorResponse pretty noStore)
    | some store =>
      match store.load Uuid.library id with
      | .error e => (srv, errorResponse pretty e)
      | .ok l => (srv, documentResponse pretty 200 l.toValue)

/-- Handles one request. -/
def Service.handle (srv : Service) (r : Request) : Service × Response :=
  let echoed := match Uuid.library.parse r.requestId with
    | .ok () => some r.requestId
    | .error _ => none
  let t := Target.ofText r.target
  let pretty := t.queryValue "pretty" == "true"
  let (srv, resp) := match route r.method t.routePath with
    | .error .notFound => (srv, notFoundResponse)
    | .error .notAllowed => (srv, notAllowedResponse)
    | .ok rt => srv.answer pretty r.body rt
  (srv, { resp with echoedId := echoed })

end DepLock.Server
