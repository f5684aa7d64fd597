import DepLock.Text.Percent
/-!
# Request targets and routes

A request names its target as a path and an optional query after `?`.

The path a request is routed by is the decoded path when encoding it again gives the
very text sent, and the text sent otherwise; so `/v1/locks/a%20b` is routed as
`/v1/locks/a b`, while `/v1/locks/a%2Fb` keeps its escape and stays one segment.

A query is a list of `key=value` pairs joined by `&`; keys and values are decoded with
`+` read as a space, and a pair that holds `;` or a malformed escape is skipped. A
key's value is its first value.

The routes are `GET /healthz`, `/metrics` for any method, `POST /v1/tree`,
`POST /v1/locks` and `GET /v1/locks/{id}`, where the id is one non-empty segment. A
path with no route is not found; a path with a route but not for the request's method,
or a method that is not one of the nine standard ones, is not allowed.
-/

set_option autoImplicit false

namespace DepLock.Server

/-- A request target split into its path and its query. -/
structure Target where
  path : String
  query : String
deriving Repr, DecidableEq

/-- Splits a target at its first `?`. -/
def Target.ofText (t : String) : Target :=
  match t.splitOn "?" with
  | [] => ⟨t, ""⟩
  | p :: rest => ⟨p, "?".intercalate rest⟩

/-- The path a target is routed by. -/
def Target.routePath (t : Target) : String :=
  match Text.percentDecode false t.path with
  | some decoded => if Text.escapePath decoded == t.path then decoded else t.path
  | none => t.path

/-- The decoded pairs of a query, in order; malformed pairs are skipped. -/
def queryPairs (q : String) : List (String × String) :=
  (q.splitOn "&").filterMap fun pair =>
    if pair.isEmpty || (pair.splitOn ";").length > 1 then none
    else
      let (k, v) := match pair.splitOn "=" with
        | [] => ("", "")
        | [k] => (k, "")
        | k :: rest => (k, "=".intercalate rest)
      match Text.percentDecode true k, Text.percentDecode true v with
      | some k', some v' => some (k', v')
      | _, _ => none

/-- The first value of a query key, or the empty text. -/
def Target.queryValue (t : Target) (key : String) : String :=
  ((queryPairs t.query).find? (·.1 == key) |>.map (·.2)).getD ""

/-- What a request asks for. -/
inductive Route where
  | health
  | metrics
  | tree
  | createLock
  | getLock (id : String)
deriving Repr, DecidableEq

/-- Why a request has no route. -/
inductive Miss where
  | notFound
  | notAllowed
deriving Repr, DecidableEq

/-- The standard methods. -/
def methods : List String := ["CONNECT", "DELETE", "GET", "HEAD", "OPTIONS", "PATCH", "POST", "PUT", "TRACE"]

/-- The route of a method and a routing path. -/
def route (method path : String) : Except Miss Route :=
  let only (m : String) (r : Route) : Except Miss Route := if method == m then .ok r else .error .notAllowed
  if !methods.contains method then .error .notAllowed
  else if path == "/healthz" then only "GET" .health
  else if path == "/metrics" then .ok .metrics
  else if path == "/v1/tree" then only "POST" .tree
  else if path == "/v1/locks" then only "POST" .createLock
  else
    match path.splitOn "/" with
    | ["", "v1", "locks", id] => if id.isEmpty then .error .notFound else only "GET" (.getLock id)
    | _ => .error .notFound

end DepLock.Server
