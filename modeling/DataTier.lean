import DataTier.Cache.Backend
import DataTier.Cache.Client
import DataTier.Cache.Codec
import DataTier.Cache.Connect
import DataTier.Cache.Envelope
import DataTier.Cache.Key
import DataTier.Cache.Memo
import DataTier.Cache.ResultType
import DataTier.Cache.Scripted
import DataTier.Cache.Session
import DataTier.Cache.Stats
import DataTier.Cache.Store
import DataTier.Cache.StoreRun
import DataTier.Config
import DataTier.Context.Basic
import DataTier.Context.Range
import DataTier.Context.Session
import DataTier.Datum
import DataTier.Duration
import DataTier.Error
import DataTier.Event
import DataTier.Hash.Xxh64
import DataTier.Json.Printer
import DataTier.Json.Reader
import DataTier.Json.Typed
import DataTier.Json.Value
import DataTier.Named
import DataTier.Numeral.Binary
import DataTier.Numeral.Literal
import DataTier.Numeral.Shortest
import DataTier.Numeral.Stepwise
import DataTier.Outcome
import DataTier.Pool.Basic
import DataTier.Pool.Factory
import DataTier.Pool.Held
import DataTier.Pool.Scripted
import DataTier.Pool.Session
import DataTier.Pool.State
import DataTier.Pool.Stats
import DataTier.Postgres.ConnectionString
import DataTier.Postgres.Factory
import DataTier.Postgres.Fault
import DataTier.Postgres.Server
import DataTier.Postgres.Settings
import DataTier.Proofs.Cache.Arguments
import DataTier.Proofs.Cache.Client
import DataTier.Proofs.Cache.Closing
import DataTier.Proofs.Cache.Counting
import DataTier.Proofs.Cache.Envelope
import DataTier.Proofs.Cache.Key
import DataTier.Proofs.Cache.Memos
import DataTier.Proofs.Cache.Provenance
import DataTier.Proofs.Cache.SingleCall
import DataTier.Proofs.Cache.Supply
import DataTier.Proofs.Cache.Survival
import DataTier.Proofs.Cache.Visits
import DataTier.Proofs.Cache.Window
import DataTier.Proofs.Cache.Writes
import DataTier.Proofs.Config
import DataTier.Proofs.Datum.Parts
import DataTier.Proofs.Datum.Relisting
import DataTier.Proofs.Datum.Shape
import DataTier.Proofs.Environment
import DataTier.Proofs.Json.Numbers
import DataTier.Proofs.Json.Reading
import DataTier.Proofs.Json.Strings
import DataTier.Proofs.Json.Text
import DataTier.Proofs.Json.Typed
import DataTier.Proofs.Named
import DataTier.Proofs.Numeral.Layout
import DataTier.Proofs.Numeral.Magnitudes
import DataTier.Proofs.Numeral.Shortest
import DataTier.Proofs.Numeral.Widening
import DataTier.Proofs.Pool.Acquisition
import DataTier.Proofs.Pool.Breakdown
import DataTier.Proofs.Pool.Conservation
import DataTier.Proofs.Pool.Retries
import DataTier.Proofs.Pool.Rotation
import DataTier.Proofs.Pool.Scoped
import DataTier.Proofs.Pool.Script
import DataTier.Proofs.Pool.Shutdown
import DataTier.Proofs.Pool.Startup
import DataTier.Proofs.Pool.Threads
import DataTier.Proofs.Pool.Wakeup
import DataTier.Proofs.Redis.Expiry
import DataTier.Proofs.Redis.Redaction
import DataTier.Proofs.Store.Eager
import DataTier.Proofs.Store.Eviction
import DataTier.Proofs.Store.Lookup
import DataTier.Proofs.Store.Recency
import DataTier.Proofs.Store.Refinement
import DataTier.Proofs.Store.Run
import DataTier.Proofs.Store.Sections
import DataTier.Proofs.Text.Chars
import DataTier.Proofs.Text.Decimal
import DataTier.Proofs.Text.Hex
import DataTier.Proofs.Text.Utf8
import DataTier.Proofs.Url.Places
import DataTier.Redis.Fault
import DataTier.Redis.Link
import DataTier.Redis.Shown
import DataTier.Redis.Target
import DataTier.Redis.Wire
import DataTier.Text.Blank
import DataTier.Text.Chars
import DataTier.Text.Digits
import DataTier.Text.Hex
import DataTier.Text.Hidden
import DataTier.Text.Path
import DataTier.Text.Quoted
import DataTier.Text.Utf8
import DataTier.Url.Parts
import DataTier.Url.Percent
import DataTier.Word
