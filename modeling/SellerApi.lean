import SellerApi.Call.Endpoint
import SellerApi.Call.List
import SellerApi.Call.Options
import SellerApi.Call.Report
import SellerApi.Call.Send
import SellerApi.Client.Basic
import SellerApi.Client.Credential
import SellerApi.Client.Link
import SellerApi.Client.Pacing
import SellerApi.Client.Recording
import SellerApi.Client.Transport
import SellerApi.Command.Grammar
import SellerApi.Command.Invocation
import SellerApi.Command.Run
import SellerApi.Failure
import SellerApi.Http.Fault
import SellerApi.Http.Header
import SellerApi.Http.Message
import SellerApi.Http.Refusal
import SellerApi.Http.Response
import SellerApi.Json.Node
import SellerApi.Json.Numeral
import SellerApi.Json.Reader
import SellerApi.Json.Record
import SellerApi.Json.Value
import SellerApi.Json.Writer
import SellerApi.Listing.Pager
import SellerApi.Listing.Progress
import SellerApi.Main
import SellerApi.Number.Binary64
import SellerApi.Number.Decimal
import SellerApi.Number.FloatText
import SellerApi.Number.Rounding
import SellerApi.Number.Shortest
import SellerApi.Proofs.Call.Checks
import SellerApi.Proofs.Call.Deadline
import SellerApi.Proofs.Call.Distinct
import SellerApi.Proofs.Call.Endpoint
import SellerApi.Proofs.Call.List
import SellerApi.Proofs.Call.ListSettings
import SellerApi.Proofs.Call.ReportSettings
import SellerApi.Proofs.Call.Sending
import SellerApi.Proofs.Call.Setting
import SellerApi.Proofs.Call.Shape
import SellerApi.Proofs.Client.Alike
import SellerApi.Proofs.Client.Attempt
import SellerApi.Proofs.Client.Bearing
import SellerApi.Proofs.Client.Fetching
import SellerApi.Proofs.Client.Secrecy
import SellerApi.Proofs.Client.Sending
import SellerApi.Proofs.Command.Asking
import SellerApi.Proofs.Command.Calls
import SellerApi.Proofs.Command.Continuation
import SellerApi.Proofs.Command.Layers
import SellerApi.Proofs.Command.Output
import SellerApi.Proofs.Command.Secrecy
import SellerApi.Proofs.Command.Silence
import SellerApi.Proofs.Command.Sink
import SellerApi.Proofs.Command.Task
import SellerApi.Proofs.DataType
import SellerApi.Proofs.Http.Refusal
import SellerApi.Proofs.Http.Response
import SellerApi.Proofs.Json.Document
import SellerApi.Proofs.Json.Edit
import SellerApi.Proofs.Json.Float
import SellerApi.Proofs.Json.Numeral
import SellerApi.Proofs.Json.Proper
import SellerApi.Proofs.Json.Record
import SellerApi.Proofs.Json.Text
import SellerApi.Proofs.KnownMembers
import SellerApi.Proofs.Listing.Collect
import SellerApi.Proofs.Listing.Course
import SellerApi.Proofs.Listing.Exchange
import SellerApi.Proofs.Listing.First
import SellerApi.Proofs.Listing.Limit
import SellerApi.Proofs.Listing.Resume
import SellerApi.Proofs.Listing.Retry
import SellerApi.Proofs.Listing.Signal
import SellerApi.Proofs.Listing.Step
import SellerApi.Proofs.Listing.Turn
import SellerApi.Proofs.Number.Literal
import SellerApi.Proofs.Number.Nearest
import SellerApi.Proofs.Number.Order
import SellerApi.Proofs.Number.Rounding
import SellerApi.Proofs.Number.Shortest
import SellerApi.Proofs.Outcome
import SellerApi.Proofs.Report.Batches
import SellerApi.Proofs.Report.Csv
import SellerApi.Proofs.Report.CsvReader
import SellerApi.Proofs.Report.Export
import SellerApi.Proofs.Report.JsonLines
import SellerApi.Proofs.Report.MatchedRows
import SellerApi.Proofs.Report.Parameter.Date
import SellerApi.Proofs.Report.Parameter.Expression
import SellerApi.Proofs.Report.Parquet
import SellerApi.Proofs.Report.Record
import SellerApi.Proofs.Report.Rectangle
import SellerApi.Proofs.Report.RowRecord
import SellerApi.Proofs.Report.Table
import SellerApi.Proofs.Report.Tally
import SellerApi.Proofs.Request.Resolve
import SellerApi.Proofs.Request.Template
import SellerApi.Proofs.Resource.Inventory
import SellerApi.Proofs.Settings.Layers
import SellerApi.Proofs.Settings.Record
import SellerApi.Proofs.Settings.Secrecy
import SellerApi.Proofs.Storage.Disk
import SellerApi.Proofs.Text.Integer
import SellerApi.Proofs.Text.Pieces
import SellerApi.Proofs.Text.Utf8
import SellerApi.Proofs.Url.Form
import SellerApi.Proofs.Url.Path
import SellerApi.Proofs.Url.Percent
import SellerApi.Proofs.Url.Reading
import SellerApi.Report.Basic
import SellerApi.Report.Csv
import SellerApi.Report.Export
import SellerApi.Report.JsonLines
import SellerApi.Report.Parameter.Date
import SellerApi.Report.Parameter.Expression
import SellerApi.Report.Parquet
import SellerApi.Report.Table
import SellerApi.Request.Basic
import SellerApi.Request.FieldMask
import SellerApi.Request.Format
import SellerApi.Request.Path
import SellerApi.Request.Query
import SellerApi.Resource.Inventory
import SellerApi.Resource.Page
import SellerApi.Settings.Basic
import SellerApi.Settings.Yaml
import SellerApi.Storage.Disk
import SellerApi.Text.Base64
import SellerApi.Text.Blank
import SellerApi.Text.Description
import SellerApi.Text.Digit
import SellerApi.Text.Hex
import SellerApi.Text.Integer
import SellerApi.Text.Pieces
import SellerApi.Text.Quoted
import SellerApi.Text.Utf8
import SellerApi.Text.Visible
import SellerApi.Url.Address
import SellerApi.Url.Basic
import SellerApi.Url.Domain
import SellerApi.Url.Fault
import SellerApi.Url.Form
import SellerApi.Url.Percent
import SellerApi.Url.Punycode
import SellerApi.Url.Reader
import SellerApi.Yaml.Fault
import SellerApi.Yaml.Layout
import SellerApi.Yaml.Node
import SellerApi.Yaml.Scalar
import SellerApi.Yaml.Tag
import SellerApi.Yaml.Token
