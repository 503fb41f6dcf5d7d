import ChatBoard.Account.Avatar
import ChatBoard.Account.Password
import ChatBoard.Benchmark.CommandLine
import ChatBoard.Benchmark.Report
import ChatBoard.Benchmark.Runner
import ChatBoard.Benchmark.Statistics
import ChatBoard.Board.Channels
import ChatBoard.Board.Entrance
import ChatBoard.Board.Messages
import ChatBoard.Board.Profile
import ChatBoard.Board.Reading
import ChatBoard.Board.Route
import ChatBoard.Board.Serve
import ChatBoard.Board.Setting
import ChatBoard.Board.Upload
import ChatBoard.Board.View
import ChatBoard.Calendar
import ChatBoard.Codec.Base64Url
import ChatBoard.Codec.Form
import ChatBoard.Codec.Html
import ChatBoard.Codec.Percent
import ChatBoard.Decimal.Double
import ChatBoard.Decimal.Layout
import ChatBoard.Decimal.Rounded
import ChatBoard.Decimal.Scaled
import ChatBoard.Decimal.Shortest
import ChatBoard.Digest.Padding
import ChatBoard.Digest.Sha1
import ChatBoard.Digest.Sha256
import ChatBoard.Files
import ChatBoard.Http.Disposition
import ChatBoard.Http.Fields
import ChatBoard.Http.MediaType
import ChatBoard.Http.Multipart
import ChatBoard.Http.Request
import ChatBoard.Http.Response
import ChatBoard.Json.Content
import ChatBoard.Json.Number
import ChatBoard.Json.Reader
import ChatBoard.Json.Record
import ChatBoard.Json.Skip
import ChatBoard.Json.Text
import ChatBoard.Json.TextList
import ChatBoard.Main
import ChatBoard.Octets
import ChatBoard.Page.Channels
import ChatBoard.Page.Entrance
import ChatBoard.Page.Frame
import ChatBoard.Page.Profile
import ChatBoard.Page.Render
import ChatBoard.Page.Template
import ChatBoard.Page.Value
import ChatBoard.Proofs.Account.Avatar
import ChatBoard.Proofs.Account.FileNames
import ChatBoard.Proofs.Benchmark.Report
import ChatBoard.Proofs.Benchmark.Runner
import ChatBoard.Proofs.Benchmark.Statistics
import ChatBoard.Proofs.Board.Accounts
import ChatBoard.Proofs.Board.Avatars
import ChatBoard.Proofs.Board.Calls
import ChatBoard.Proofs.Board.Change
import ChatBoard.Proofs.Board.Effect
import ChatBoard.Proofs.Board.Entrance
import ChatBoard.Proofs.Board.Frame
import ChatBoard.Proofs.Board.Gates
import ChatBoard.Proofs.Board.Icons
import ChatBoard.Proofs.Board.Integrity
import ChatBoard.Proofs.Board.Origin
import ChatBoard.Proofs.Board.OwnProfile
import ChatBoard.Proofs.Board.Pages
import ChatBoard.Proofs.Board.Parts
import ChatBoard.Proofs.Board.Paths
import ChatBoard.Proofs.Board.Pictures
import ChatBoard.Proofs.Board.Profile
import ChatBoard.Proofs.Board.Refusals
import ChatBoard.Proofs.Board.Reopening
import ChatBoard.Proofs.Board.Reset
import ChatBoard.Proofs.Board.Run
import ChatBoard.Proofs.Board.Sessions
import ChatBoard.Proofs.Board.Setbacks
import ChatBoard.Proofs.Board.Succession
import ChatBoard.Proofs.Board.Together
import ChatBoard.Proofs.Board.Upload
import ChatBoard.Proofs.Board.Visitor
import ChatBoard.Proofs.Calendar
import ChatBoard.Proofs.Codec.Base64Url
import ChatBoard.Proofs.Codec.Form
import ChatBoard.Proofs.Codec.Html
import ChatBoard.Proofs.Codec.Percent
import ChatBoard.Proofs.Decimal.Shortest
import ChatBoard.Proofs.Files
import ChatBoard.Proofs.Files.Directories
import ChatBoard.Proofs.Json.Content
import ChatBoard.Proofs.Json.Double
import ChatBoard.Proofs.Json.Followed
import ChatBoard.Proofs.Json.Grammar
import ChatBoard.Proofs.Json.Members
import ChatBoard.Proofs.Json.Number
import ChatBoard.Proofs.Json.Numeral
import ChatBoard.Proofs.Json.Passed
import ChatBoard.Proofs.Json.Record
import ChatBoard.Proofs.Json.Schema
import ChatBoard.Proofs.Json.Skip
import ChatBoard.Proofs.Json.Text
import ChatBoard.Proofs.Json.Written
import ChatBoard.Proofs.Messages.Following
import ChatBoard.Proofs.Messages.History
import ChatBoard.Proofs.Messages.Interleaving
import ChatBoard.Proofs.Messages.NewChannel
import ChatBoard.Proofs.Messages.PageNumbers
import ChatBoard.Proofs.Messages.Pages
import ChatBoard.Proofs.Messages.Pagination
import ChatBoard.Proofs.Messages.Poll
import ChatBoard.Proofs.Messages.Posting
import ChatBoard.Proofs.Messages.Shown
import ChatBoard.Proofs.Messages.Unread
import ChatBoard.Proofs.Octets
import ChatBoard.Proofs.Outcome
import ChatBoard.Proofs.Page.Fill
import ChatBoard.Proofs.Page.Links
import ChatBoard.Proofs.Page.Markup
import ChatBoard.Proofs.Page.Shape
import ChatBoard.Proofs.Server.IconExport
import ChatBoard.Proofs.Server.Settings
import ChatBoard.Proofs.Session.Client
import ChatBoard.Proofs.Session.Header
import ChatBoard.Proofs.Session.Signed
import ChatBoard.Proofs.Session.Token
import ChatBoard.Proofs.Store.Ids
import ChatBoard.Proofs.Store.Marks
import ChatBoard.Proofs.Store.Messages
import ChatBoard.Proofs.Store.Names
import ChatBoard.Proofs.Store.Reset
import ChatBoard.Proofs.Store.Sound
import ChatBoard.Proofs.Store.Unread
import ChatBoard.Proofs.Store.Writes
import ChatBoard.Proofs.Text.Numeral
import ChatBoard.Proofs.Text.Padded
import ChatBoard.Proofs.Text.Unsigned
import ChatBoard.Proofs.Wire
import ChatBoard.Proofs.WireSchemas
import ChatBoard.Server.Address
import ChatBoard.Server.EnvFile
import ChatBoard.Server.IconExport
import ChatBoard.Server.Settings
import ChatBoard.Server.Startup
import ChatBoard.Server.StoreFile
import ChatBoard.Server.StoreName
import ChatBoard.Session.Basic
import ChatBoard.Session.Cookie
import ChatBoard.Session.Header
import ChatBoard.Session.Token
import ChatBoard.Store.Accounts
import ChatBoard.Store.Basic
import ChatBoard.Store.Columns
import ChatBoard.Store.Datum
import ChatBoard.Store.DefaultAvatar
import ChatBoard.Store.Messages
import ChatBoard.Store.ReadMarks
import ChatBoard.Store.Rows
import ChatBoard.Store.Table
import ChatBoard.Store.Unread
import ChatBoard.Text.Alphanumeric
import ChatBoard.Text.Blank
import ChatBoard.Text.Encoding
import ChatBoard.Text.Encoding.Big5
import ChatBoard.Text.Encoding.Chinese
import ChatBoard.Text.Encoding.Gb
import ChatBoard.Text.Encoding.Hangul
import ChatBoard.Text.Encoding.Items
import ChatBoard.Text.Encoding.Japanese
import ChatBoard.Text.Encoding.Jis
import ChatBoard.Text.Encoding.Korean
import ChatBoard.Text.Encoding.Runs
import ChatBoard.Text.Encoding.SingleOctet
import ChatBoard.Text.Encoding.Utf16
import ChatBoard.Text.Hidden
import ChatBoard.Text.Mark
import ChatBoard.Text.Numeral
import ChatBoard.Text.Quoted
import ChatBoard.Text.Utf8
import ChatBoard.Wire
