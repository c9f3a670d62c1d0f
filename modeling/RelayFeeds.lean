import RelayFeeds.Address
import RelayFeeds.CommandLine
import RelayFeeds.Config
import RelayFeeds.Event
import RelayFeeds.Failure
import RelayFeeds.Feed.Basic
import RelayFeeds.Feed.Codec
import RelayFeeds.Feed.Compile
import RelayFeeds.Feed.Item
import RelayFeeds.Feed.Mapping
import RelayFeeds.Feed.Selector
import RelayFeeds.Feed.Services
import RelayFeeds.Filter.Algebra
import RelayFeeds.Filter.Basic
import RelayFeeds.Filter.Codec
import RelayFeeds.Host.Direction
import RelayFeeds.Host.Direction.Table
import RelayFeeds.Host.Ipv4
import RelayFeeds.Host.Ipv6
import RelayFeeds.Host.Joiner
import RelayFeeds.Host.Joiner.Table
import RelayFeeds.Host.Label
import RelayFeeds.Host.Label.Table
import RelayFeeds.Host.Mapping
import RelayFeeds.Host.Mapping.Table
import RelayFeeds.Host.Name
import RelayFeeds.Host.Punycode
import RelayFeeds.Json.Basic
import RelayFeeds.Json.Decode
import RelayFeeds.Json.Printer
import RelayFeeds.Json.Reading
import RelayFeeds.Main
import RelayFeeds.Number.Double
import RelayFeeds.Number.Double.Shortest
import RelayFeeds.Ordered.Basic
import RelayFeeds.Ordered.Map
import RelayFeeds.Ordered.Set
import RelayFeeds.Proofs.Address
import RelayFeeds.Proofs.Feed.Calls
import RelayFeeds.Proofs.Feed.Combining
import RelayFeeds.Proofs.Feed.Compilability
import RelayFeeds.Proofs.Feed.Decoded
import RelayFeeds.Proofs.Feed.Exactness
import RelayFeeds.Proofs.Feed.Items
import RelayFeeds.Proofs.Feed.Leaves
import RelayFeeds.Proofs.Feed.Lists
import RelayFeeds.Proofs.Feed.Meaning
import RelayFeeds.Proofs.Feed.Responses
import RelayFeeds.Proofs.Feed.RoundTrip
import RelayFeeds.Proofs.Feed.Saving
import RelayFeeds.Proofs.Feed.Script
import RelayFeeds.Proofs.Feed.SharedEvents
import RelayFeeds.Proofs.Feed.Wrapping
import RelayFeeds.Proofs.Filter.Assignment
import RelayFeeds.Proofs.Filter.Choice
import RelayFeeds.Proofs.Filter.Codec
import RelayFeeds.Proofs.Filter.Covering
import RelayFeeds.Proofs.Filter.Distinct
import RelayFeeds.Proofs.Filter.Intersection
import RelayFeeds.Proofs.Filter.Meet
import RelayFeeds.Proofs.Filter.Merging
import RelayFeeds.Proofs.Filter.NormalForm
import RelayFeeds.Proofs.Filter.Satisfiability
import RelayFeeds.Proofs.Filter.Union
import RelayFeeds.Proofs.Json.Arranged
import RelayFeeds.Proofs.Json.Decoding
import RelayFeeds.Proofs.Json.Finite
import RelayFeeds.Proofs.Json.Legible
import RelayFeeds.Proofs.Json.Literal
import RelayFeeds.Proofs.Json.Printing
import RelayFeeds.Proofs.Json.Reading
import RelayFeeds.Proofs.Names
import RelayFeeds.Proofs.Number.Finite
import RelayFeeds.Proofs.Number.Order
import RelayFeeds.Proofs.Number.Rounding
import RelayFeeds.Proofs.Ordered.Contents
import RelayFeeds.Proofs.Relay.Conversion
import RelayFeeds.Proofs.Relay.Library
import RelayFeeds.Proofs.Relay.Plain
import RelayFeeds.Proofs.Request.Codec
import RelayFeeds.Proofs.Request.Intersection
import RelayFeeds.Proofs.Request.Narrowing
import RelayFeeds.Proofs.Request.Plan
import RelayFeeds.Proofs.Request.Routing
import RelayFeeds.Proofs.Request.Selection
import RelayFeeds.Proofs.Request.Union
import RelayFeeds.Proofs.Request.UnionForm
import RelayFeeds.Proofs.SocialGraph.Loading
import RelayFeeds.Proofs.SocialGraph.Newest
import RelayFeeds.Proofs.SocialGraph.Trust
import RelayFeeds.Proofs.SocialGraph.Windows
import RelayFeeds.Proofs.Text.Numeral
import RelayFeeds.Relay.Client
import RelayFeeds.Relay.Library
import RelayFeeds.Relay.Url
import RelayFeeds.Request.Basic
import RelayFeeds.Request.Combine
import RelayFeeds.Request.Plan
import RelayFeeds.SocialGraph
import RelayFeeds.Text.Blank
import RelayFeeds.Text.Chart
import RelayFeeds.Text.Composed
import RelayFeeds.Text.Composed.Table
import RelayFeeds.Text.Hex
import RelayFeeds.Text.Lowercase
import RelayFeeds.Text.Lowercase.Table
import RelayFeeds.Text.Numeral
import RelayFeeds.Text.Percent
import RelayFeeds.Text.Quoted
import RelayFeeds.Text.Quoted.Table
import RelayFeeds.Text.Range
import RelayFeeds.Toml.Basic
import RelayFeeds.Toml.Document
import RelayFeeds.Toml.Quote
import RelayFeeds.Toml.Scalar
