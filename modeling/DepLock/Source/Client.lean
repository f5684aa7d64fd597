import DepLock.Web.Client
import DepLock.Json.Decode
import DepLock.Json.Write
import DepLock.Text.Percent
import DepLock.Text.Base64
/-!
# The source-host client

`HostClient.resolveCommit` answers the commit a ref names (`HEAD` for the empty ref),
from the cache (key `github:commit:OWNER/REPO@REF`) or from
`BASE/repos/OWNER/REPO/commits/REF`; an answer without a commit fails.

`HostClient.fetchFile` answers a file at a commit, from the cache (key
`github:content:OWNER/REPO@SHA:PATH`) or from
`BASE/repos/OWNER/REPO/contents/PATH?ref=SHA`. An entry that is not a file fails;
base64 content is decoded after its line breaks are removed.
-/

set_option autoImplicit false

namespace DepLock.Source

open DepLock.Json

/-- The public API of the source host. -/
def defaultApi : String := "https://api.github.com"

/-- A file at a commit: its path, blob id, size and bytes. -/
structure FileContent where
  path : String := ""
  sha : String := ""
  size : Int := 0
  content : List UInt8 := []
deriving Repr

/-- The document of a file, its bytes in base64. -/
def FileContent.toValue (f : FileContent) : Value :=
  .object [("path", .string f.path), ("sha", .string f.sha), ("size", .number (toString f.size)),
    ("content", .string (Text.base64Encode f.content))]

/-- Reads bytes written in base64; `null` reads as nothing. -/
def readBytes : Reader (Option (List UInt8)) := fun path v =>
  match v with
  | .null => .ok none
  | .string s =>
    match Text.base64Decode s with
    | .ok bs => .ok (some bs)
    | .error m => .error (.custom m)
  | _ => mismatch "[]uint8" path v

/-- Reads a file document. -/
def readFileContent : Reader FileContent :=
  readRecord "github.FileContent" ["path", "sha", "size", "content"] {} fun f field path v =>
    match field with
    | "path" => do pure { f with path := (← readString path v).getD f.path }
    | "sha" => do pure { f with sha := (← readString path v).getD f.sha }
    | "size" => do pure { f with size := (← readInt "int" path v).getD f.size }
    | _ => do pure { f with content := (← readBytes path v).getD f.content }

/-- The API's answer about a commit. -/
structure CommitAnswer where
  sha : String := ""

/-- Reads a commit answer. -/
def readCommitAnswer : Reader CommitAnswer :=
  readRecord "github.commitResponse" ["sha"] {} fun c _ path v => do
    pure { c with sha := (← readString path v).getD c.sha }

/-- The API's answer about a repository entry. -/
structure EntryAnswer where
  name : String := ""
  path : String := ""
  sha : String := ""
  kind : String := ""
  size : Int := 0
  content : String := ""
  encoding : String := ""

/-- Reads an entry answer. -/
def readEntryAnswer : Reader EntryAnswer :=
  readRecord "github.apiContentResponse" ["name", "path", "sha", "type", "size", "content", "encoding"] {}
    fun e field path v =>
      match field with
      | "name" => do pure { e with name := (← readString path v).getD e.name }
      | "path" => do pure { e with path := (← readString path v).getD e.path }
      | "sha" => do pure { e with sha := (← readString path v).getD e.sha }
      | "type" => do pure { e with kind := (← readString path v).getD e.kind }
      | "size" => do pure { e with size := (← readInt "int" path v).getD e.size }
      | "content" => do pure { e with content := (← readString path v).getD e.content }
      | _ => do pure { e with encoding := (← readString path v).getD e.encoding }

/-- Reads a whole cached text with a reader. -/
def decodeCached {α : Type} (r : Reader α) (text : String) : Option α :=
  match readDocument text with
  | .ok v => (r [] v).toOption
  | .error _ => none

/-- A source-host client: the web client and the API's address. -/
structure HostClient where
  client : Web.Client
  base : String

/-- A text without one trailing slash. -/
def withoutTrailingSlash (s : String) : String :=
  if s.endsWith "/" then String.ofList s.toList.dropLast else s

/-- A source-host client with a cache lifetime (nanoseconds), a number of attempts, an
address (the public API when empty) and a token (none when empty). -/
def HostClient.new (ttl attempts : Int) (base token : String) : HostClient :=
  let auth := if token.isEmpty then [] else [("Authorization", "Bearer " ++ token)]
  ⟨⟨"github", ttl, [("Accept", "application/vnd.github.v3+json")] ++ auth, attempts⟩,
   withoutTrailingSlash (if base.isEmpty then defaultApi else base)⟩

/-- One attempt at the commit a ref names, through the transport as the attempt finds it. -/
def HostClient.commitAttempt (hc : HostClient) (t : Web.Transport) (owner repo ref : String) :
    Except Error CommitAnswer :=
  let named := owner ++ "/" ++ repo ++ "#" ++ ref
  let addr := hc.base ++ "/repos/" ++ owner ++ "/" ++ repo ++ "/commits/" ++ ref
  match hc.client.getDecoded t addr [] fun v => (readCommitAnswer [] v).mapError (·.message "commitResponse") with
  | .error e => .error (if e.reportsMissing then .around "" e (": github ref " ++ named) else e)
  | .ok c => if c.sha.isEmpty then .error (.plain ("github ref " ++ named ++ ": empty commit sha")) else .ok c

/-- The commit a ref names (`HEAD` for the empty ref); `net` is the transport as each
attempt finds it. -/
def HostClient.resolveCommit {m : Type → Type} [Monad m] (hc : HostClient) (net : m Web.Transport)
    (store : Cache.Store) (now : Int) (owner repo ref : String) (refresh : Bool) :
    m (Cache.Store × Except Error String) :=
  let ref := if ref.isEmpty then "HEAD" else ref
  (fun answer => (answer.1, answer.2.map (·.sha))) <$>
    hc.client.cached store now ("commit:" ++ owner ++ "/" ++ repo ++ "@" ++ ref) refresh
      (decodeCached readCommitAnswer) (fun c => write (.object [("sha", .string c.sha)]))
      ((hc.commitAttempt · owner repo ref) <$> net)

/-- One attempt at a file at a commit, through the transport as the attempt finds it. -/
def HostClient.fileAttempt (hc : HostClient) (t : Web.Transport) (owner repo path sha : String) :
    Except Error FileContent :=
  let addr := hc.base ++ "/repos/" ++ owner ++ "/" ++ repo ++ "/contents/" ++ path ++ "?ref=" ++
    Text.escapeQuery sha
  match hc.client.getDecoded t addr [] fun v => (readEntryAnswer [] v).mapError (·.message "apiContentResponse") with
  | .error e =>
    .error (if e.reportsMissing then
      .around "" e (": " ++ path ++ " in github repo " ++ owner ++ "/" ++ repo ++ "@" ++ sha) else e)
  | .ok a =>
    if !a.kind.isEmpty && a.kind != "file" then
      .error (.plain (path ++ " in github repo " ++ owner ++ "/" ++ repo ++ " is a " ++ a.kind ++ ", not a file"))
    else
      let bytes : Except Error (List UInt8) :=
        if a.encoding == "base64" then
          (Text.base64Decode (String.ofList (a.content.toList.filter (· != '\n')))).mapError
            fun m => .plain ("decode content: " ++ m)
        else .ok a.content.toUTF8.toList
      bytes.map fun bs => ⟨a.path, a.sha, a.size, bs⟩

/-- A file at a commit; `net` is the transport as each attempt finds it. -/
def HostClient.fetchFile {m : Type → Type} [Monad m] (hc : HostClient) (net : m Web.Transport)
    (store : Cache.Store) (now : Int) (owner repo path sha : String) :
    m (Cache.Store × Except Error FileContent) :=
  hc.client.cached store now ("content:" ++ owner ++ "/" ++ repo ++ "@" ++ sha ++ ":" ++ path) false
    (decodeCached readFileContent) (fun f => write f.toValue)
    ((hc.fileAttempt · owner repo path sha) <$> net)

end DepLock.Source
