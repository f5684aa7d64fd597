import DepLock.Text.Blank
import DepLock.Text.Printable
import DepLock.Text.Quoted
import DepLock.Semver.Library
import DepLock.Semver.Version
import DepLock.Semver.Range
import DepLock.Semver.Check
import DepLock.Json.Value
import DepLock.Json.Read
import DepLock.Json.Write
import DepLock.Error
import DepLock.Table
import DepLock.Name
import DepLock.Manifest.Basic
import DepLock.Manifest.Document
import DepLock.Tree.Basic
import DepLock.Tree.Render
import DepLock.Tree.Document
import DepLock.Path.Lexical
import DepLock.Source.Reference
import DepLock.Json.Decode
import DepLock.Registry.Packument
import DepLock.Resolve.Builder
import DepLock.Registry.Resolve
import DepLock.Source.Resolve
import DepLock.Local.Files
import DepLock.Local.Resolve
import DepLock.Text.Percent
import DepLock.Digest.Sha256
import DepLock.Retry
import DepLock.Cache.Key
import DepLock.Timestamp
import DepLock.Uuid
import DepLock.Lock.Basic
import DepLock.Lock.Store
import DepLock.Duration
import DepLock.Toml.Value
import DepLock.Toml.Read
import DepLock.Toml.Scalar
import DepLock.Toml.Token
import DepLock.Number.Double
import DepLock.Text.Letter
import DepLock.Text.Utf8
import DepLock.Config.Basic
import DepLock.Config.Load
import DepLock.Server.Route
import DepLock.Server.Handle
import DepLock.Text.Base64
import DepLock.Cache.File
import DepLock.Web.Url
import DepLock.Web.Client
import DepLock.Registry.Client
import DepLock.Source.Client
import DepLock.Proofs.Resolve.Level
import DepLock.Proofs.Resolve.Sequential
import DepLock.Proofs.Resolve.Concurrent
import DepLock.Proofs.Tree.Shape
import DepLock.Proofs.Resolve.Depth
import DepLock.Proofs.Resolve.Cycle
import DepLock.Proofs.Resolve.Failure
import DepLock.Proofs.Keyed
import DepLock.Proofs.Json.RoundTrip
import DepLock.Proofs.Tree.Document
import DepLock.Proofs.Resolve.Output
import DepLock.Proofs.Manifest.Reading
import DepLock.Proofs.Manifest.RoundTrip
import DepLock.Registry.Flight
import DepLock.Proofs.Registry.Flight
import DepLock.Proofs.Source.Reference
import DepLock.Proofs.Server.Status
import DepLock.Proofs.Semver.Order
import DepLock.Proofs.Semver.Greatest
import DepLock.Proofs.Registry.Select
import DepLock.Proofs.Source.Commit
import DepLock.Proofs.Tree.Walk
import DepLock.Proofs.Tree.Drawing
import DepLock.Proofs.Tree.Graph
import DepLock.Proofs.Backends.Codes
import DepLock.Proofs.Manifest.Dedupe
import DepLock.Proofs.Time.Calendar
import DepLock.Proofs.Time.Text
import DepLock.Proofs.Text.Base64
import DepLock.Proofs.Cache.File
import DepLock.Proofs.Json.Indented
import DepLock.Proofs.Lock.Store
import DepLock.Proofs.Web.Cached
import DepLock.Proofs.Error.Chain
import DepLock.Proofs.Web.Retry
import DepLock.Proofs.Source.Normalize
