import DepLock.Registry.Packument
import DepLock.Web.Client
import DepLock.Name
import DepLock.Text.Percent
import DepLock.Json.Write
/-!
# The registry client

`RegistryClient.fetchPackument` checks a package name, then answers its packument from
the cache (key `npm:packument:NAME`) or by getting `BASE/NAME` with the name escaped
as one path segment. A missing packument fails as `resource not found: npm package
NAME`, and one without versions as `... has no published versions`.
-/

set_option autoImplicit false

namespace DepLock.Registry

open DepLock.Json

/-- The public registry. -/
def defaultRegistry : String := "https://registry.npmjs.org"

/-- The media types asked for: the abbreviated install form first. -/
def installAccept : String := "application/vnd.npm.install-v1+json; q=1.0, application/json; q=0.8"

/-- A text without one trailing slash. -/
def dropTrailingSlash (s : String) : String :=
  if s.endsWith "/" then String.ofList s.toList.dropLast else s

/-- A registry client: the web client and the registry's address. -/
structure RegistryClient where
  client : Web.Client
  base : String

/-- A registry client with a cache lifetime (nanoseconds), a number of attempts and an
address (the public registry when empty). -/
def RegistryClient.new (ttl attempts : Int) (base : String) : RegistryClient :=
  ⟨⟨"npm", ttl, [("Accept", installAccept)], attempts⟩,
   dropTrailingSlash (if base.isEmpty then defaultRegistry else base)⟩

/-- Reads a cached packument. -/
def decodePackument (text : String) : Option Packument :=
  match readDocument text with
  | .ok v => (Packument.ofValue v).toOption
  | .error _ => none

/-- One attempt at the packument of a name, through the transport as the attempt finds it. -/
def RegistryClient.packumentAttempt (rc : RegistryClient) (t : Web.Transport) (name : String) :
    Except Error Packument :=
  let addr := rc.base ++ "/" ++ Text.escapeSegment name
  match rc.client.getDecoded t addr [] fun v => (Packument.ofValue v).mapError Packument.failureMessage with
  | .error e => .error (if e.reportsMissing then .around "" e (": npm package " ++ name) else e)
  | .ok p => requirePublished name p

/-- Fetches a packument, with a cache store at instant `now`; `net` is the transport as
each attempt finds it. -/
def RegistryClient.fetchPackument {m : Type → Type} [Monad m] (rc : RegistryClient)
    (net : m Web.Transport) (store : Cache.Store) (now : Int) (name : String) (refresh : Bool) :
    m (Cache.Store × Except Error Packument) :=
  match checkRegistryName name with
  | .error e => pure (store, .error e)
  | .ok () =>
    rc.client.cached store now ("packument:" ++ name) refresh decodePackument
      (fun p => write p.toValue) ((rc.packumentAttempt · name) <$> net)

end DepLock.Registry
