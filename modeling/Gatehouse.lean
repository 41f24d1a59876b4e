import Gatehouse.Credential.Basic
import Gatehouse.Credential.Document
import Gatehouse.Credential.Home
import Gatehouse.Credential.Source
import Gatehouse.Decimal.Layout
import Gatehouse.Decimal.Natural
import Gatehouse.Decimal.Shortest
import Gatehouse.Environment
import Gatehouse.FilePath
import Gatehouse.FileTree
import Gatehouse.Gateway.Basic
import Gatehouse.Gateway.Parameters
import Gatehouse.Gateway.Request
import Gatehouse.Gateway.Response
import Gatehouse.Gateway.Route
import Gatehouse.Gateway.Traffic
import Gatehouse.Http.Client
import Gatehouse.Http.Header
import Gatehouse.Http.Network
import Gatehouse.Http.Redirects
import Gatehouse.Http.Status
import Gatehouse.Json.Node
import Gatehouse.Json.Number
import Gatehouse.Json.Reader
import Gatehouse.Json.Value
import Gatehouse.Login.Pending
import Gatehouse.Login.Pkce
import Gatehouse.Login.Profile
import Gatehouse.Login.Provider
import Gatehouse.Login.Standard
import Gatehouse.Main
import Gatehouse.Metric.Histogram
import Gatehouse.Metric.Page
import Gatehouse.Net.Ip
import Gatehouse.Net.SocketAddress
import Gatehouse.Reading
import Gatehouse.Redirect
import Gatehouse.Refusal
import Gatehouse.Secret
import Gatehouse.Session.Basic
import Gatehouse.Session.Locate
import Gatehouse.Session.Manager
import Gatehouse.Session.Tally
import Gatehouse.Settings.Basic
import Gatehouse.Settings.Document
import Gatehouse.Settings.Load
import Gatehouse.Sha256
import Gatehouse.Share.Basic
import Gatehouse.Share.Registry
import Gatehouse.Share.Report
import Gatehouse.Share.Store
import Gatehouse.Share.Token
import Gatehouse.Table
import Gatehouse.Text.Base64
import Gatehouse.Text.Blank
import Gatehouse.Text.Hex
import Gatehouse.Text.Quoted
import Gatehouse.Text.Utf8
import Gatehouse.Ticker
import Gatehouse.Time.Clock
import Gatehouse.Time.Instant
import Gatehouse.Time.Timestamp
import Gatehouse.Toml.Reader
import Gatehouse.Toml.Scalar
import Gatehouse.Toml.Text
import Gatehouse.Toml.Tree
import Gatehouse.Toml.Value
import Gatehouse.Unicode.Bidi
import Gatehouse.Unicode.Composition
import Gatehouse.Unicode.Joining
import Gatehouse.Unicode.Mapping
import Gatehouse.Unicode.Mark
import Gatehouse.Unicode.Printable
import Gatehouse.Unicode.Ranges
import Gatehouse.Url.Basic
import Gatehouse.Url.Form
import Gatehouse.Url.Host
import Gatehouse.Url.HostName
import Gatehouse.Url.Parser
import Gatehouse.Url.Percent
import Gatehouse.Url.Punycode
import Gatehouse.Proofs.Share.Holding
import Gatehouse.Proofs.Gateway.Failures
import Gatehouse.Proofs.Gateway.Opacity
import Gatehouse.Proofs.Gateway.Ownership
import Gatehouse.Proofs.Gateway.Secrecy
import Gatehouse.Proofs.Session.Sweeping
import Gatehouse.Proofs.Share.Cleaning
import Gatehouse.Proofs.Share.Contest
import Gatehouse.Proofs.Pairing
import Gatehouse.Proofs.Redirect.Local
import Gatehouse.Proofs.Login.Faithfulness
import Gatehouse.Proofs.Decimal.Natural
import Gatehouse.Proofs.Credential.RoundTrip
import Gatehouse.Proofs.Session.Reconciliation
import Gatehouse.Proofs.Share.Accounting
import Gatehouse.Proofs.Session.Revocation
import Gatehouse.Proofs.Gateway.Capabilities
import Gatehouse.Proofs.Login.Pruning
import Gatehouse.Proofs.Login.Identity
import Gatehouse.Proofs.Share.Minting
import Gatehouse.Proofs.Credential.Chains
import Gatehouse.Proofs.Gateway.Lifetimes
import Gatehouse.Proofs.Login.Departure
import Gatehouse.Proofs.Settings.Provider
import Gatehouse.Proofs.Redirect.Lists
import Gatehouse.Proofs.Credential.Homes
import Gatehouse.Proofs.Gateway.Discretion
import Gatehouse.Proofs.Upkeep
import Gatehouse.Proofs.Gateway.UsualLifetimes
import Gatehouse.Proofs.Redaction
