import StreamFinder.Duration
import StreamFinder.Json.Reader
import StreamFinder.Json.Value
import StreamFinder.Json.Writer
import StreamFinder.Pattern.Automaton
import StreamFinder.Pattern.Bracket
import StreamFinder.Pattern.Escape
import StreamFinder.Pattern.Expr
import StreamFinder.Pattern.Flags
import StreamFinder.Pattern.NamedSet
import StreamFinder.Pattern.Reader
import StreamFinder.Pattern.Search
import StreamFinder.Plugin.Claim
import StreamFinder.Plugin.Fetch
import StreamFinder.Plugin.Matcher
import StreamFinder.Plugin.Priority
import StreamFinder.Plugin.Registry
import StreamFinder.Plugin.Registry.History
import StreamFinder.Proofs.Distinct
import StreamFinder.Proofs.Json.Compact
import StreamFinder.Proofs.Json.Grammar
import StreamFinder.Proofs.Pattern.Bracketing
import StreamFinder.Proofs.Pattern.Capturing
import StreamFinder.Proofs.Pattern.Enclosed
import StreamFinder.Proofs.Pattern.Escaping
import StreamFinder.Proofs.Pattern.Meaning
import StreamFinder.Proofs.Pattern.Searching
import StreamFinder.Proofs.Pattern.Token
import StreamFinder.Proofs.Pattern.Unfolding
import StreamFinder.Proofs.Plugin.Anchoring
import StreamFinder.Proofs.Plugin.Registration
import StreamFinder.Proofs.Quality.Filter
import StreamFinder.Proofs.Quality.Numeral
import StreamFinder.Proofs.Quality.Shape
import StreamFinder.Proofs.Quality.Weighing
import StreamFinder.Proofs.Session.Announcement
import StreamFinder.Proofs.Session.Asking
import StreamFinder.Proofs.Session.Choice
import StreamFinder.Proofs.Session.Freshness
import StreamFinder.Proofs.Session.Inclusion
import StreamFinder.Proofs.Session.Recency
import StreamFinder.Proofs.Session.Resolve
import StreamFinder.Proofs.Session.Scheme
import StreamFinder.Proofs.Session.Settings
import StreamFinder.Proofs.Socket.Abandonment
import StreamFinder.Proofs.Socket.Attempt
import StreamFinder.Proofs.Socket.Credentials
import StreamFinder.Proofs.Socket.Delivery
import StreamFinder.Proofs.Socket.Head
import StreamFinder.Proofs.Socket.Hearing
import StreamFinder.Proofs.Socket.Move
import StreamFinder.Proofs.Socket.Opening
import StreamFinder.Proofs.Socket.Precedence
import StreamFinder.Proofs.Socket.Rehearsed
import StreamFinder.Proofs.Socket.Request
import StreamFinder.Proofs.Socket.Shutdown
import StreamFinder.Proofs.Socket.Standing
import StreamFinder.Proofs.Socket.Waiting
import StreamFinder.Proofs.Socket.Withdrawal
import StreamFinder.Proofs.Stream.Alias
import StreamFinder.Proofs.Stream.Choosing
import StreamFinder.Proofs.Stream.Displacement
import StreamFinder.Proofs.Stream.Naming
import StreamFinder.Proofs.Stream.Places
import StreamFinder.Proofs.Stream.Preference
import StreamFinder.Proofs.Stream.Provenance
import StreamFinder.Proofs.Stream.Rank
import StreamFinder.Proofs.Stream.Reselection
import StreamFinder.Proofs.Stream.Surplus
import StreamFinder.Proofs.Text.Bytes
import StreamFinder.Proofs.Text.Decimal
import StreamFinder.Proofs.Text.Word
import StreamFinder.Proofs.Web.Following
import StreamFinder.Proofs.Web.Header
import StreamFinder.Proofs.Web.Host
import StreamFinder.Proofs.Web.Reading
import StreamFinder.Proofs.Web.Reporting
import StreamFinder.Proofs.Web.Writing
import StreamFinder.Quality.Exclusion
import StreamFinder.Quality.Weight
import StreamFinder.Report
import StreamFinder.Session.Basic
import StreamFinder.Session.Cache
import StreamFinder.Session.Cache.History
import StreamFinder.Session.Config
import StreamFinder.Session.Decision
import StreamFinder.Session.History
import StreamFinder.Session.Notices
import StreamFinder.Session.Scheme
import StreamFinder.Socket.Config
import StreamFinder.Socket.Course
import StreamFinder.Socket.Dial
import StreamFinder.Socket.Error
import StreamFinder.Socket.Event
import StreamFinder.Socket.Frame
import StreamFinder.Socket.Handshake
import StreamFinder.Socket.History
import StreamFinder.Socket.Machine
import StreamFinder.Socket.Opening
import StreamFinder.Socket.Rehearsal
import StreamFinder.Socket.State
import StreamFinder.Socket.Tunnel
import StreamFinder.Stream.Catalog
import StreamFinder.Stream.Handle
import StreamFinder.Stream.Merge
import StreamFinder.Stream.Select
import StreamFinder.Text.Age
import StreamFinder.Text.Base64
import StreamFinder.Text.Blank
import StreamFinder.Text.Break
import StreamFinder.Text.Category
import StreamFinder.Text.CodeMap
import StreamFinder.Text.CodeSet
import StreamFinder.Text.CombiningClass
import StreamFinder.Text.Composed
import StreamFinder.Text.Decomposition
import StreamFinder.Text.Digits
import StreamFinder.Text.Direction
import StreamFinder.Text.Fold
import StreamFinder.Text.Joining
import StreamFinder.Text.Percent
import StreamFinder.Text.Property
import StreamFinder.Text.Quoted
import StreamFinder.Text.Script
import StreamFinder.Text.Split
import StreamFinder.Text.Utf8
import StreamFinder.Text.Utf8Range
import StreamFinder.Web.Client
import StreamFinder.Web.Domain
import StreamFinder.Web.Domain.Label
import StreamFinder.Web.Domain.Spelling
import StreamFinder.Web.Header
import StreamFinder.Web.Host
import StreamFinder.Web.Ipv4
import StreamFinder.Web.Ipv6
import StreamFinder.Web.Numeral
import StreamFinder.Web.Proxy
import StreamFinder.Web.Punycode
import StreamFinder.Web.Redirect
import StreamFinder.Web.Redirect.Trail
import StreamFinder.Web.Uri
import StreamFinder.Web.Url
import StreamFinder.Web.UrlReader
