import DepLock.Web.Url
import DepLock.Error
import DepLock.Retry
import DepLock.Cache.File
import DepLock.Json.Read
/-!
# The web client

A client sends `GET` requests through a *transport* and checks the replies; it may keep
decoded answers in a cache store under its own key space.

Sending reads the address (a bad one fails as `parse "TEXT": reason`), then asks the
transport. A transport that fails, or an address whose scheme is not `http` or
`https` or that names no host, gives a network failure worth retrying:
`network error: Get "ADDR": reason`. A reply is then checked: 200 passes; 404 is the
missing-resource signal; 429, and 403 with `X-RateLimit-Remaining: 0`, is the
rate-limit signal with the delay of `Retry-After` (0 when it is not a number); 500 and
above is a network failure worth retrying, and anything else a network failure that
is not: `network error: status N`.

`Client.cached` answers from the cache when it holds a value that decodes, unless asked
to refresh; otherwise it runs the fetch, an action in any monad, again after each
failure worth retrying up to the client's number of attempts, and stores what the fetch
gave for the client's lifetime.

`unreachable` is the transport of a machine with no network: every connection fails
as the dialer reports it.
-/

set_option autoImplicit false

namespace DepLock.Web

open DepLock.Json

/-- A request: the address and the header fields. -/
structure Request where
  url : Url
  headers : List (String × String)
deriving Repr

/-- A reply: status, header fields and body. -/
structure Reply where
  status : Nat
  headers : List (String × String) := []
  body : String := ""
deriving Repr

/-- A transport: the reply to a request, or why none came. -/
abbrev Transport := Request → Except String Reply

/-- The transport of a machine with no network. -/
def unreachable : Transport := fun r =>
  .error ("dial tcp " ++ r.url.dialAddress ++ ": connect: network is unreachable")

/-- A header name in canonical form: each letter after a hyphen, and the first, upper
case, the others lower case. -/
def canonicalHeader (name : String) : String :=
  let (_, out) := name.toList.foldl (fun (acc : Bool × List Char) c =>
    let (up, out) := acc
    (c == '-', out ++ [if up then c.toUpper else c.toLower])) (true, [])
  String.ofList out

/-- The value of a header field, by name without regard to case. -/
def headerValue (hs : List (String × String)) (name : String) : String :=
  ((hs.find? fun (k, _) => canonicalHeader k == canonicalHeader name).map (·.2)).getD ""

/-- Sets header fields over others: a field of a name already set replaces it. -/
def setHeaders (base extra : List (String × String)) : List (String × String) :=
  extra.foldl (fun hs (k, v) =>
    let k := canonicalHeader k
    hs.filter (·.1 != k) ++ [(k, v)]) base

/-- A decimal integer with an optional sign, or 0 when the text is not one. -/
def atoiOrZero (s : String) : Int :=
  let (neg, ds) := match s.toList with
    | '-' :: ds => (true, ds)
    | '+' :: ds => (false, ds)
    | ds => (false, ds)
  if ds.isEmpty || !ds.all Char.isDigit then 0
  else
    let n : Int := (String.ofList ds).toNat!
    let n := if neg then -n else n
    max (-(Int.pow 2 63)) (min n (Int.pow 2 63 - 1))

/-- A network failure with a detail. -/
def networkFailure (detail : String) : Error := .around "" .unreachable (": " ++ detail)

/-- Checks a reply's status. -/
def checkReply (r : Reply) : Except Error Unit :=
  if r.status == 429 || (r.status == 403 && headerValue r.headers "X-RateLimit-Remaining" == "0") then
    .error (.rateLimit (atoiOrZero (headerValue r.headers "Retry-After")))
  else if r.status == 200 then .ok ()
  else if r.status == 404 then .error .missing
  else if r.status ≥ 500 then .error (.transient (networkFailure ("status " ++ toString r.status)))
  else .error (networkFailure ("status " ++ toString r.status))

/-- The user agent of every request. -/
def userAgent : String := "ziplock/dev"

/-- A client: its cache key space, the lifetime of what it stores (nanoseconds), its
header fields, and how many times a fetch is tried. -/
structure Client where
  keySpace : String
  ttl : Int
  headers : List (String × String)
  attempts : Int
deriving Repr

namespace Client

/-- The header fields of a request with extra fields. -/
def requestHeaders (c : Client) (extra : List (String × String)) : List (String × String) :=
  setHeaders (setHeaders [("User-Agent", userAgent)] c.headers) extra

/-- Sends a request and checks the reply. -/
def send (c : Client) (t : Transport) (addr : String) (extra : List (String × String)) :
    Except Error Reply :=
  match Url.parse addr with
  | .error e => .error (.plain e.message)
  | .ok u =>
    let failure (detail : String) : Error :=
      .transient (networkFailure ("Get " ++ Text.quote u.text ++ ": " ++ detail))
    if u.scheme != "http" && u.scheme != "https" then
      .error (failure ("unsupported protocol scheme " ++ Text.quote u.scheme))
    else if u.host.isEmpty then .error (failure "http: no Host in request URL")
    else
      match t ⟨u, c.requestHeaders extra⟩ with
      | .error detail => .error (failure detail)
      | .ok r => do
        checkReply r
        pure r

/-- Gets a document and decodes its first value with `decode`; a failure to read or
decode is reported under `decode ADDR`. -/
def getDecoded {α : Type} (c : Client) (t : Transport) (addr : String)
    (extra : List (String × String)) (decode : Value → Except String α) : Except Error α := do
  let r ← c.send t addr extra
  match readFirst r.body with
  | .error e => .error (.plain ("decode " ++ addr ++ ": " ++ e.message))
  | .ok v =>
    match decode v with
    | .error m => .error (.plain ("decode " ++ addr ++ ": " ++ m))
    | .ok a => pure a

/-- Gets a document and gives the text of its first value, without the blanks around
it; a failure to read is reported under `decode ADDR`. -/
def getRaw (c : Client) (t : Transport) (addr : String) (extra : List (String × String)) :
    Except Error String := do
  let r ← c.send t addr extra
  match firstValueText r.body with
  | .error e => .error (.plain ("decode " ++ addr ++ ": " ++ e.message))
  | .ok text => pure text

/-- Gets a body as text. -/
def getText (c : Client) (t : Transport) (addr : String) : Except Error String :=
  (c.send t addr []).map (·.body)

/-- Looks a key up at instant `now`, unless asked to refresh: the store as the look-up
leaves it, and the cached value when it decodes. -/
def lookUp {α : Type} (store : Cache.Store) (now : Int) (full : String) (refresh : Bool)
    (decode : String → Option α) : Cache.Store × Option α :=
  if refresh then (store, none)
  else
    let (store, data) := store.get now full
    (store, data.bind fun d => decode (Text.ofBytesLossy d))

/-- What the outcome of a fetch leaves in the store: a value is stored under the key, as
`encode` writes it, for the client's lifetime; a failure stores nothing. -/
def record {α : Type} (c : Client) (store : Cache.Store) (now : Int) (full : String)
    (encode : α → String) : Except Error α → Cache.Store × Except Error α
  | .error e => (store, .error e)
  | .ok a => (store.set now full (encode a).toUTF8.toList c.ttl, .ok a)

/-- Answers from the cache or by fetching, at instant `now`: a cached value is used
when it decodes and `refresh` is off; otherwise the fetch runs, once more for each
attempt a failure worth retrying leaves, so that each attempt meets the world as it is
then, and what it gives is recorded. -/
def cached {m : Type → Type} [Monad m] {α : Type} (c : Client) (store : Cache.Store) (now : Int)
    (key : String) (refresh : Bool) (decode : String → Option α) (encode : α → String)
    (fetch : m (Except Error α)) : m (Cache.Store × Except Error α) :=
  let full := Cache.key c.keySpace [key]
  match lookUp store now full refresh decode with
  | (store, some a) => pure (store, .ok a)
  | (store, none) => c.record store now full encode <$> retry c.attempts fetch

end Client

end DepLock.Web
