import DepLock.Error
import DepLock.Name
import DepLock.Duration
import DepLock.Text.Blank
import DepLock.Json.Value
/-!
# Settings

The settings of the tool, in six sections: the package registry, the source host, the
cache, the lock store, resolution and the server. `Settings.defaults` holds the
built-in values; a configuration document is read over them (`DepLock.Config.Load`),
then the environment overrides five of them (`Settings.applyEnv`), and last
`Settings.validate` reports the first inconsistent setting.

Validation checks, in this order: the registry URL, the source host's API URL, the
cache backend (`file`, `none`, or `redis` with a server URL), a cache lifetime that is
not negative, the lock store (`file`, or `mongo` with a server URI), and a resolution
depth that is not negative. Every failure is `INVALID_CONFIG`.
-/

set_option autoImplicit false

namespace DepLock.Config

/-- Where packages are fetched from. -/
structure RegistrySettings where
  url : String
deriving Repr, DecidableEq

/-- How the source host is reached. -/
structure HostSettings where
  apiUrl : String
  token : String
deriving Repr, DecidableEq

/-- The cache: its backend (`file`, `redis` or `none`), directory, entry lifetime and
server URL. -/
structure CacheSettings where
  backend : String
  dir : String
  ttl : Duration
  redisUrl : String
deriving Repr, DecidableEq

/-- The lock store: its kind (`file` or `mongo`), directory, and database location. -/
structure LockSettings where
  store : String
  dir : String
  mongoUri : String
  mongoDatabase : String
  mongoCollection : String
deriving Repr, DecidableEq

/-- Resolution: the depth limit and whether development dependencies are left out. -/
structure ResolveSettings where
  maxDepth : Int
  omitDev : Bool
deriving Repr, DecidableEq

/-- The server's listening address. -/
structure ServerSettings where
  addr : String
deriving Repr, DecidableEq

/-- All settings. -/
structure Settings where
  registry : RegistrySettings
  github : HostSettings
  cache : CacheSettings
  lock : LockSettings
  resolve : ResolveSettings
  server : ServerSettings
deriving Repr, DecidableEq

/-- The name the tool keeps its files under. -/
def appName : String := "ziplock"

/-- The built-in settings. -/
def Settings.defaults : Settings where
  registry := ⟨"https://registry.npmjs.org"⟩
  github := ⟨"https://api.github.com", ""⟩
  cache := ⟨"file", "", ⟨24 * 3600 * 1000000000⟩, ""⟩
  lock := ⟨"file", ".", "", appName, "locks"⟩
  resolve := ⟨64, false⟩
  server := ⟨":8080"⟩

/-- The environment variables that override settings, each with how it sets its value. -/
def envOverrides : List (String × (Settings → String → Settings)) :=
  [("GITHUB_TOKEN", fun c v => { c with github := { c.github with token := v } }),
   ("ZIPLOCK_REGISTRY", fun c v => { c with registry := { c.registry with url := v } }),
   ("ZIPLOCK_CACHE", fun c v => { c with cache := { c.cache with backend := v } }),
   ("ZIPLOCK_REDIS_URL", fun c v => { c with cache := { c.cache with redisUrl := v } }),
   ("ZIPLOCK_MONGO_URI", fun c v => { c with lock := { c.lock with mongoUri := v } })]

/-- Overrides settings from the environment `getenv`; a value is trimmed of blanks,
and one left empty is ignored. -/
def Settings.applyEnv (c : Settings) (getenv : String → String) : Settings :=
  envOverrides.foldl (fun c (name, set) =>
    let v := Text.trimBlank (getenv name)
    if v.isEmpty then c else set c v) c

/-- Reports the first inconsistent setting. -/
def Settings.validate (c : Settings) : Except Error Unit := do
  (checkUrl c.registry.url).mapError fun e => .wrap .invalidConfig e "registry.url"
  (checkUrl c.github.apiUrl).mapError fun e => .wrap .invalidConfig e "github.api_url"
  match c.cache.backend with
  | "file" | "none" => pure ()
  | "redis" =>
    if c.cache.redisUrl.isEmpty then
      .error (.make .invalidConfig "cache.redis_url is required for the redis backend")
  | other =>
    .error (.make .invalidConfig ("cache.backend must be file, redis or none, got " ++ Text.quote other))
  if c.cache.ttl.nanos < 0 then
    .error (.make .invalidConfig "cache.ttl must not be negative")
  match c.lock.store with
  | "file" => pure ()
  | "mongo" =>
    if c.lock.mongoUri.isEmpty then
      .error (.make .invalidConfig "lock.mongo_uri is required for the mongo store")
  | other =>
    .error (.make .invalidConfig ("lock.store must be file or mongo, got " ++ Text.quote other))
  if c.resolve.maxDepth < 0 then
    .error (.make .invalidConfig "resolve.max_depth must not be negative")

/-- The cache directory when one is set. -/
def Settings.cacheDir? (c : Settings) : Option String :=
  if c.cache.dir.isEmpty then none else some c.cache.dir

open DepLock.Json in
/-- The settings as a document: one object per section, keyed as in configuration
files; the cache lifetime is given as text and in nanoseconds. -/
def Settings.toValue (c : Settings) : Value :=
  let str (s : String) : Value := .string s
  .object
    [("cache", .object [("backend", str c.cache.backend), ("dir", str c.cache.dir),
        ("redis_url", str c.cache.redisUrl), ("ttl", str c.cache.ttl.text),
        ("ttl_ns", .number (toString c.cache.ttl.nanos))]),
     ("github", .object [("api_url", str c.github.apiUrl), ("token", str c.github.token)]),
     ("lock", .object [("dir", str c.lock.dir), ("mongo_collection", str c.lock.mongoCollection),
        ("mongo_database", str c.lock.mongoDatabase), ("mongo_uri", str c.lock.mongoUri),
        ("store", str c.lock.store)]),
     ("registry", .object [("url", str c.registry.url)]),
     ("resolve", .object [("max_depth", .number (toString c.resolve.maxDepth)),
        ("omit_dev", .bool c.resolve.omitDev)]),
     ("server", .object [("addr", str c.server.addr)])]

end DepLock.Config
