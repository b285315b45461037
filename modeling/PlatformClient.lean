import PlatformClient.CharacterName.Alias
import PlatformClient.CharacterName.Basic
import PlatformClient.CharacterName.Block
import PlatformClient.CharacterName.Numbered
import PlatformClient.CharacterName.Syllable
import PlatformClient.CharacterName.Table.Ancient
import PlatformClient.CharacterName.Table.EastAsian
import PlatformClient.CharacterName.Table.European
import PlatformClient.CharacterName.Table.Geometric
import PlatformClient.CharacterName.Table.Hieroglyphic
import PlatformClient.CharacterName.Table.Living
import PlatformClient.CharacterName.Table.Notational
import PlatformClient.CharacterName.Table.Pictorial
import PlatformClient.CharacterName.Table.Presentation
import PlatformClient.CharacterName.Table.Typographic
import PlatformClient.Charset.Basic
import PlatformClient.Charset.Big5
import PlatformClient.Charset.Chinese
import PlatformClient.Charset.Escaped
import PlatformClient.Charset.Guess
import PlatformClient.Charset.Iso2022
import PlatformClient.Charset.Japanese
import PlatformClient.Charset.Korean
import PlatformClient.Charset.Name
import PlatformClient.Charset.Page
import PlatformClient.Charset.Page.Iso8859
import PlatformClient.Charset.Page.Macintosh
import PlatformClient.Charset.Page.Mainframe
import PlatformClient.Charset.Page.Regional
import PlatformClient.Charset.Page.Terminal
import PlatformClient.Charset.Page.Windows
import PlatformClient.Charset.Pair
import PlatformClient.Charset.Plane
import PlatformClient.Charset.Plane.Big5
import PlatformClient.Charset.Plane.Cp932
import PlatformClient.Charset.Plane.Gb2312
import PlatformClient.Charset.Plane.Gbk
import PlatformClient.Charset.Plane.HongKong
import PlatformClient.Charset.Plane.JisX0208
import PlatformClient.Charset.Plane.JisX0212
import PlatformClient.Charset.Plane.JisX0213
import PlatformClient.Charset.Plane.KsX1001
import PlatformClient.Charset.Punycode
import PlatformClient.Charset.Scan
import PlatformClient.Charset.Units
import PlatformClient.Charset.Utf7
import PlatformClient.ContentType.OfName
import PlatformClient.ContentType.Table
import PlatformClient.Decimal.Binary64
import PlatformClient.Decimal.FloatText
import PlatformClient.Decimal.Shortest
import PlatformClient.Endpoint
import PlatformClient.Failure
import PlatformClient.Fault
import PlatformClient.FileStore
import PlatformClient.Http.Exchange
import PlatformClient.Json.Basic
import PlatformClient.Json.Display
import PlatformClient.Json.Reader
import PlatformClient.Json.Writer
import PlatformClient.Log.Report
import PlatformClient.MediaType
import PlatformClient.Multipart
import PlatformClient.Octets.Utf8
import PlatformClient.Operation.Basic
import PlatformClient.Operation.Media
import PlatformClient.Operation.Orders
import PlatformClient.Operation.Token
import PlatformClient.Operation.Transport
import PlatformClient.Order
import PlatformClient.OrderFilter
import PlatformClient.OrderStatus
import PlatformClient.Pool.Basic
import PlatformClient.Pool.Borrowing
import PlatformClient.Pool.Buffer
import PlatformClient.Query
import PlatformClient.Record.Datum
import PlatformClient.Record.Document
import PlatformClient.Record.Form
import PlatformClient.Record.Issue
import PlatformClient.Redaction
import PlatformClient.Registry
import PlatformClient.RichMedia
import PlatformClient.Secret
import PlatformClient.Session
import PlatformClient.Settings
import PlatformClient.Text.Blank
import PlatformClient.Text.CaseTable
import PlatformClient.Text.CodePoint
import PlatformClient.Text.Digit
import PlatformClient.Text.DocumentInteger
import PlatformClient.Text.IntegerText
import PlatformClient.Text.LetterCase
import PlatformClient.Text.Quoted
import PlatformClient.Text.Replace
import PlatformClient.Text.Split
import PlatformClient.Text.UnprintableTable
import PlatformClient.TokenCache
import PlatformClient.Upload
import PlatformClient.Proofs.Operation.Effect
import PlatformClient.Proofs.Operation.Posting
import PlatformClient.Proofs.Operation.Requests
import PlatformClient.Proofs.Token.Obtaining
import PlatformClient.Proofs.Token.Replacement
import PlatformClient.Proofs.Session.Record
import PlatformClient.Proofs.Token.Freshness
import PlatformClient.Proofs.Session.Discipline
import PlatformClient.Proofs.Multipart.HeaderBlock
import PlatformClient.Proofs.Pool.Settled
import PlatformClient.Proofs.Upload.Bodies
import PlatformClient.Proofs.Text.Occurrence
import PlatformClient.Proofs.Multipart.Framing
import PlatformClient.Proofs.Query.ReadBack
import PlatformClient.Proofs.Endpoint.Address
import PlatformClient.Proofs.Redaction.Masked
import PlatformClient.Proofs.Redaction.SecretInAddress
import PlatformClient.Proofs.Redaction.SecretInMessage
import PlatformClient.Proofs.Json.Writable
import PlatformClient.Proofs.Octets.ReadBack
import PlatformClient.Proofs.Json.ReadBack
import PlatformClient.Proofs.Json.ReadOctets
import PlatformClient.Proofs.Documents.Sent
import PlatformClient.Proofs.Record.Fields
import PlatformClient.Proofs.RichMedia.ReadBack
import PlatformClient.Proofs.Envelope.Reading
import PlatformClient.Proofs.Envelope.Reported
import PlatformClient.Proofs.Pool.Upkeep
import PlatformClient.Proofs.Pool.Ownership
import PlatformClient.Proofs.Pool.Reuse
import PlatformClient.Proofs.Files.Opened
import PlatformClient.Proofs.Download.Delivered
import PlatformClient.Proofs.Independence.Respects
import PlatformClient.Proofs.Independence.Pools
import PlatformClient.Proofs.Independence.Asking
import PlatformClient.Proofs.Independence.Replaced
import PlatformClient.Proofs.Secrecy.Alike
import PlatformClient.Proofs.Secrecy.Paired
import PlatformClient.Proofs.Secrecy.TokensUnseen
import PlatformClient.Proofs.Secret.Masks
import PlatformClient.Proofs.Status.Unread
import PlatformClient.Proofs.Status.Decisive
import PlatformClient.Proofs.Redaction.Found
import PlatformClient.Proofs.Redaction.Tokens
import PlatformClient.Proofs.Log.Complete
import PlatformClient.Proofs.Redaction.AllMasked
import PlatformClient.Proofs.Log.AllMasked
import PlatformClient.Proofs.Record.Moved
import PlatformClient.Proofs.Record.Parts
import PlatformClient.Proofs.Upload.Receipts
import PlatformClient.Proofs.Record.Kept
import PlatformClient.Proofs.Operation.Answered
import PlatformClient.Proofs.Orders.Reading
import PlatformClient.Proofs.Orders.Kept
import PlatformClient.Proofs.Orders.Listed
import PlatformClient.Proofs.Secret.Revealed
import PlatformClient.Proofs.Registry.BuiltOnce
import PlatformClient.Proofs.Text.Trimmed
import PlatformClient.Proofs.Settings.Normalised
