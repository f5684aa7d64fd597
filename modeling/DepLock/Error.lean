/-!
# Errors and their causes

An error is a chain of layers, outermost first. A *coded* layer carries one of the
library's error codes, a message for people, and optionally the error it was caused
by. Other layers are plain messages, messages around a cause, the rate-limit signal,
the two signals of the remote services (missing resource, network failure), and the
mark of a failure worth retrying.

The text of an error is its layers' texts joined outermost first: a coded layer reads
`CODE: message` or `CODE: message: cause`. Questions about an error look through the
chain:

* `Error.code?` is the code of the first coded layer, and `Error.isCode` compares it;
* `Error.has` walks from coded layer to coded layer through the causes and asks
  whether any carries a code;
* `Error.userMessage` is the message of the first coded layer, or the whole text;
* `Error.rateLimit?`, `Error.reportsMissing`, `Error.reportsNetwork` and
  `Error.retryable` ask whether the chain holds the corresponding signal.
-/

set_option autoImplicit false

namespace DepLock

/-- The error codes. `other` keeps a code from outside the library's list. -/
inductive Code where
  | invalidInput
  | invalidPackage
  | invalidManifest
  | invalidSpecifier
  | invalidFormat
  | invalidConfig
  | invalidPath
  | notFound
  | packageNotFound
  | fileNotFound
  | network
  | rateLimited
  | resolutionFailed
  | depthExceeded
  | internal
  | unsupported
  | other (name : String)
deriving Repr, DecidableEq, Inhabited

/-- The library's codes, in their documented order. -/
def Code.known : List Code :=
  [.invalidInput, .invalidPackage, .invalidManifest, .invalidSpecifier, .invalidFormat,
   .invalidConfig, .invalidPath, .notFound, .packageNotFound, .fileNotFound, .network,
   .rateLimited, .resolutionFailed, .depthExceeded, .internal, .unsupported]

/-- The written name of a code. -/
def Code.name : Code → String
  | .invalidInput => "INVALID_INPUT"
  | .invalidPackage => "INVALID_PACKAGE"
  | .invalidManifest => "INVALID_MANIFEST"
  | .invalidSpecifier => "INVALID_SPECIFIER"
  | .invalidFormat => "INVALID_FORMAT"
  | .invalidConfig => "INVALID_CONFIG"
  | .invalidPath => "INVALID_PATH"
  | .notFound => "NOT_FOUND"
  | .packageNotFound => "PACKAGE_NOT_FOUND"
  | .fileNotFound => "FILE_NOT_FOUND"
  | .network => "NETWORK_ERROR"
  | .rateLimited => "RATE_LIMITED"
  | .resolutionFailed => "RESOLUTION_FAILED"
  | .depthExceeded => "DEPTH_EXCEEDED"
  | .internal => "INTERNAL_ERROR"
  | .unsupported => "UNSUPPORTED"
  | .other n => n

/-- The code written as `n`: a library code when `n` names one. -/
def Code.ofName (n : String) : Code :=
  (Code.known.find? fun c => c.name == n).getD (.other n)

/-- An error, as a chain of layers. -/
inductive Error where
  /-- A coded layer: code, message and the cause, if any. -/
  | coded (code : Code) (message : String) (cause : Option Error)
  /-- A message with no cause. -/
  | plain (text : String)
  /-- A message around a cause: the texts `before`, the cause's text, `after`. -/
  | around (before : String) (cause : Error) (after : String)
  /-- The signal that a service refuses requests for a while; the delay is in seconds. -/
  | rateLimit (retryAfter : Int)
  /-- The signal that a remote resource does not exist. -/
  | missing
  /-- The signal that a remote service could not be reached. -/
  | unreachable
  /-- A failure worth retrying. -/
  | transient (cause : Error)
deriving Repr, Inhabited

namespace Error

/-- A coded error without a cause. -/
def make (code : Code) (message : String) : Error := .coded code message none

/-- A coded error around a cause. -/
def wrap (code : Code) (cause : Error) (message : String) : Error :=
  .coded code message (some cause)

/-- The text of the rate-limit signal. -/
def rateLimitText (retryAfter : Int) : String :=
  if retryAfter > 0 then "rate limited: retry after " ++ toString retryAfter ++ " seconds"
  else "rate limited"

/-- The text of an error. -/
def text : Error → String
  | .coded c m none => c.name ++ ": " ++ m
  | .coded c m (some e) => c.name ++ ": " ++ m ++ ": " ++ e.text
  | .plain t => t
  | .around b e a => b ++ e.text ++ a
  | .rateLimit n => rateLimitText n
  | .missing => "resource not found"
  | .unreachable => "network error"
  | .transient e => e.text

/-- The layer under this one, if any. -/
def unwrap? : Error → Option Error
  | .coded _ _ c => c
  | .around _ e _ => some e
  | .transient e => some e
  | _ => none

/-- The first coded layer of the chain: its code, message and cause. -/
def firstCoded? : Error → Option (Code × String × Option Error)
  | .coded c m e => some (c, m, e)
  | .around _ e _ => e.firstCoded?
  | .transient e => e.firstCoded?
  | _ => none

/-- The code of the first coded layer. -/
def code? (e : Error) : Option Code := e.firstCoded?.map (·.1)

/-- The written code of the first coded layer, or the empty text. -/
def codeName (e : Error) : String := (e.code?.map Code.name).getD ""

/-- Whether the first coded layer carries `c`. -/
def isCode (e : Error) (c : Code) : Bool := e.code? == some c

/-- Whether some coded layer, reached from coded layer to coded layer, carries `c`. -/
def has : Error → Code → Bool
  | .coded c' _ cause, c => c' == c || (match cause with
    | some e => e.has c
    | none => false)
  | .around _ e _, c => e.has c
  | .transient e, c => e.has c
  | _, _ => false

/-- The message of the first coded layer, or the whole text when there is none. -/
def userMessage (e : Error) : String :=
  match e.firstCoded? with
  | some (_, m, _) => m
  | none => e.text

/-- The delay of the first rate-limit signal in the chain. -/
def rateLimit? : Error → Option Int
  | .rateLimit n => some n
  | .coded _ _ (some e) => e.rateLimit?
  | .around _ e _ => e.rateLimit?
  | .transient e => e.rateLimit?
  | _ => none

/-- Whether the chain holds the missing-resource signal. -/
def reportsMissing : Error → Bool
  | .missing => true
  | .coded _ _ (some e) => e.reportsMissing
  | .around _ e _ => e.reportsMissing
  | .transient e => e.reportsMissing
  | _ => false

/-- Whether the chain holds the network-failure signal. -/
def reportsNetwork : Error → Bool
  | .unreachable => true
  | .coded _ _ (some e) => e.reportsNetwork
  | .around _ e _ => e.reportsNetwork
  | .transient e => e.reportsNetwork
  | _ => false

/-- Whether the chain is marked worth retrying. -/
def retryable : Error → Bool
  | .transient _ => true
  | .coded _ _ (some e) => e.retryable
  | .around _ e _ => e.retryable
  | _ => false

/-- Gives a failure from a remote service its code, under the message `message`: the
rate-limit signal, a missing resource and a network failure get their codes; an error
that already has a code stays as it is; anything else is an internal error. -/
def classify (e : Error) (message : String) : Error :=
  if e.rateLimit?.isSome then wrap .rateLimited e message
  else if e.reportsMissing then wrap .packageNotFound e message
  else if e.reportsNetwork then wrap .network e message
  else if e.codeName != "" then e
  else wrap .internal e message

/-- The kind of an error as answers name it: the first code, else the signal held. -/
def kind (e : Error) : String :=
  match e.code? with
  | some c => c.name
  | none =>
    if e.rateLimit?.isSome then "RATE_LIMITED_RAW"
    else if e.reportsMissing then "NOT_FOUND_RAW"
    else if e.reportsNetwork then "NETWORK_RAW"
    else "error"

end Error

end DepLock
