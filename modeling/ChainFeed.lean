import ChainFeed.Archive.Bundle
import ChainFeed.Archive.Error
import ChainFeed.Archive.Fetcher
import ChainFeed.Archive.Network
import ChainFeed.Archive.Rest
import ChainFeed.Block.Basic
import ChainFeed.Block.Content
import ChainFeed.Block.DecodeError
import ChainFeed.Block.Document
import ChainFeed.Block.Lazy
import ChainFeed.Block.Session
import ChainFeed.Block.TextEvent
import ChainFeed.Block.Tx
import ChainFeed.Decimal.Binary64
import ChainFeed.Decimal.Shortest
import ChainFeed.Dictionary.Query
import ChainFeed.Dump.Options
import ChainFeed.Dump.Records
import ChainFeed.Dump.Run
import ChainFeed.Feed.Basic
import ChainFeed.Feed.Batch
import ChainFeed.Feed.Client
import ChainFeed.Feed.Error
import ChainFeed.Feed.Retry
import ChainFeed.Filter.Basic
import ChainFeed.Filter.Match
import ChainFeed.Gzip.Huffman
import ChainFeed.Gzip.Inflate
import ChainFeed.Gzip.Member
import ChainFeed.Hash.Sha256
import ChainFeed.Http.Basic
import ChainFeed.Http.Message
import ChainFeed.Json.Basic
import ChainFeed.Json.Document
import ChainFeed.Json.Number
import ChainFeed.Json.Printer
import ChainFeed.Json.Reader
import ChainFeed.Main
import ChainFeed.Message.Builtin
import ChainFeed.Message.Contract
import ChainFeed.Message.Directory
import ChainFeed.Message.Dynamic
import ChainFeed.Message.Layout
import ChainFeed.Message.Registry
import ChainFeed.Message.Schema
import ChainFeed.Message.TypeUrl
import ChainFeed.Node.Block
import ChainFeed.Node.Call
import ChainFeed.Node.Connection
import ChainFeed.Node.JsonRpc
import ChainFeed.Node.Protocol
import ChainFeed.Node.Reader
import ChainFeed.Node.Results
import ChainFeed.Node.Status
import ChainFeed.Options.Basic
import ChainFeed.Options.CommandLine
import ChainFeed.Proofs.Archive.Downloads
import ChainFeed.Proofs.Archive.Growing
import ChainFeed.Proofs.Archive.Location
import ChainFeed.Proofs.Archive.Probing
import ChainFeed.Proofs.Archive.Run
import ChainFeed.Proofs.Archive.Serving
import ChainFeed.Proofs.Archive.Slot
import ChainFeed.Proofs.Archive.Transparency
import ChainFeed.Proofs.Block.Calls
import ChainFeed.Proofs.Block.Coherence
import ChainFeed.Proofs.Block.Content
import ChainFeed.Proofs.Block.Envelope
import ChainFeed.Proofs.Block.EventStream
import ChainFeed.Proofs.Block.Grouping
import ChainFeed.Proofs.Block.Objects
import ChainFeed.Proofs.Block.Positions
import ChainFeed.Proofs.Block.Progress
import ChainFeed.Proofs.Block.Stream
import ChainFeed.Proofs.Decimal.Exact
import ChainFeed.Proofs.Decimal.Interval
import ChainFeed.Proofs.Decimal.Rounding
import ChainFeed.Proofs.Decimal.Shortest
import ChainFeed.Proofs.Dictionary.Distinct
import ChainFeed.Proofs.Dictionary.Entries
import ChainFeed.Proofs.Dictionary.Selection
import ChainFeed.Proofs.Dictionary.Written
import ChainFeed.Proofs.Dump.Printing
import ChainFeed.Proofs.Dump.Range
import ChainFeed.Proofs.Except
import ChainFeed.Proofs.Feed.Batch
import ChainFeed.Proofs.Feed.Delivery
import ChainFeed.Proofs.Feed.Interchange
import ChainFeed.Proofs.Feed.Provenance
import ChainFeed.Proofs.Feed.Retry
import ChainFeed.Proofs.Feed.Run
import ChainFeed.Proofs.Filter.Age
import ChainFeed.Proofs.Filter.Integers
import ChainFeed.Proofs.Filter.Numerals
import ChainFeed.Proofs.Filter.Written
import ChainFeed.Proofs.Json.Accuracy
import ChainFeed.Proofs.Json.Alike
import ChainFeed.Proofs.Json.Containment
import ChainFeed.Proofs.Json.Members
import ChainFeed.Proofs.Json.Nesting
import ChainFeed.Proofs.Json.Numeral
import ChainFeed.Proofs.Json.Order
import ChainFeed.Proofs.Json.Parts
import ChainFeed.Proofs.Json.Printer
import ChainFeed.Proofs.Json.ReadBack
import ChainFeed.Proofs.Json.Reading
import ChainFeed.Proofs.Message.Agreement
import ChainFeed.Proofs.Message.Closure
import ChainFeed.Proofs.Message.Contract
import ChainFeed.Proofs.Message.Decoding
import ChainFeed.Proofs.Message.Description
import ChainFeed.Proofs.Message.Gathering
import ChainFeed.Proofs.Message.Grammar
import ChainFeed.Proofs.Message.History
import ChainFeed.Proofs.Message.Kinds
import ChainFeed.Proofs.Message.Level
import ChainFeed.Proofs.Message.Object
import ChainFeed.Proofs.Message.Occurrences
import ChainFeed.Proofs.Message.Reading
import ChainFeed.Proofs.Message.References
import ChainFeed.Proofs.Message.Resolution
import ChainFeed.Proofs.Message.Scalar
import ChainFeed.Proofs.Message.Serialization
import ChainFeed.Proofs.Message.Shape
import ChainFeed.Proofs.Message.Words
import ChainFeed.Proofs.Message.Writing
import ChainFeed.Proofs.Node.Adaptors
import ChainFeed.Proofs.Node.Form
import ChainFeed.Proofs.Node.Normalization
import ChainFeed.Proofs.Node.Phases
import ChainFeed.Proofs.Node.Respelling
import ChainFeed.Proofs.StableSort
import ChainFeed.Proofs.Text.Base64
import ChainFeed.Proofs.Text.Integer
import ChainFeed.Proofs.Text.Utf8
import ChainFeed.Proofs.Time.Calendar
import ChainFeed.Proofs.Time.Rfc3339
import ChainFeed.Proofs.Wire.Format
import ChainFeed.Proofs.Wire.Framing
import ChainFeed.Proofs.Wire.Repetition
import ChainFeed.Text.Base64
import ChainFeed.Text.Blank
import ChainFeed.Text.Hex
import ChainFeed.Text.Integer
import ChainFeed.Text.Quoted
import ChainFeed.Text.Split
import ChainFeed.Text.Stretch
import ChainFeed.Text.Unprintable
import ChainFeed.Text.Utf8
import ChainFeed.Time.Calendar
import ChainFeed.Time.Instant
import ChainFeed.Time.Rfc3339
import ChainFeed.Url.Basic
import ChainFeed.Url.Domain.Composition
import ChainFeed.Url.Domain.Direction
import ChainFeed.Url.Domain.Joining
import ChainFeed.Url.Domain.Label
import ChainFeed.Url.Domain.Mapping
import ChainFeed.Url.Host
import ChainFeed.Url.Percent
import ChainFeed.Url.Punycode
import ChainFeed.Wire.Basic
