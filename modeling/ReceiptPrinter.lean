import ReceiptPrinter.Bitmap
import ReceiptPrinter.CodePage.Basic
import ReceiptPrinter.CodePage.Gbk
import ReceiptPrinter.CodePage.Windows1252
import ReceiptPrinter.Command.Basic
import ReceiptPrinter.Config.Basic
import ReceiptPrinter.Config.Options
import ReceiptPrinter.Config.Paper
import ReceiptPrinter.Config.Target
import ReceiptPrinter.Device.Access
import ReceiptPrinter.Device.Basic
import ReceiptPrinter.Device.Broker
import ReceiptPrinter.Device.Host
import ReceiptPrinter.Device.Node
import ReceiptPrinter.Hex
import ReceiptPrinter.Image.Base64
import ReceiptPrinter.Image.Basic
import ReceiptPrinter.Image.Bmp
import ReceiptPrinter.Image.Decode
import ReceiptPrinter.Image.Inflate
import ReceiptPrinter.Image.Netpbm
import ReceiptPrinter.Image.Png
import ReceiptPrinter.Json.Numeral
import ReceiptPrinter.Json.Reader
import ReceiptPrinter.Json.Record
import ReceiptPrinter.Json.Value
import ReceiptPrinter.Link.Connection
import ReceiptPrinter.Link.Error
import ReceiptPrinter.Link.Memory
import ReceiptPrinter.Markup.Attribute
import ReceiptPrinter.Markup.Buffer
import ReceiptPrinter.Markup.Element
import ReceiptPrinter.Markup.Error
import ReceiptPrinter.Markup.Line
import ReceiptPrinter.Markup.Parser
import ReceiptPrinter.Markup.Printer
import ReceiptPrinter.Markup.Token
import ReceiptPrinter.Number.Rounding
import ReceiptPrinter.Number.Shortest
import ReceiptPrinter.Number.Single
import ReceiptPrinter.Proofs.Bitmap.Descriptor
import ReceiptPrinter.Proofs.Bitmap.Reading
import ReceiptPrinter.Proofs.CodePage.Columns
import ReceiptPrinter.Proofs.CodePage.Gbk
import ReceiptPrinter.Proofs.Command.Reader
import ReceiptPrinter.Proofs.Config.Identity
import ReceiptPrinter.Proofs.Config.Options
import ReceiptPrinter.Proofs.Device.Broker
import ReceiptPrinter.Proofs.Except
import ReceiptPrinter.Proofs.Image.Packing
import ReceiptPrinter.Proofs.Json.Writing
import ReceiptPrinter.Proofs.Link.Channels
import ReceiptPrinter.Proofs.Link.Deadline
import ReceiptPrinter.Proofs.Link.Operations
import ReceiptPrinter.Proofs.Markup.Attribute
import ReceiptPrinter.Proofs.Markup.AttributeGrammar
import ReceiptPrinter.Proofs.Markup.Canonical
import ReceiptPrinter.Proofs.Markup.Concatenation
import ReceiptPrinter.Proofs.Markup.Escape
import ReceiptPrinter.Proofs.Markup.Expressible
import ReceiptPrinter.Proofs.Markup.Located
import ReceiptPrinter.Proofs.Markup.Obtainable
import ReceiptPrinter.Proofs.Markup.Phrase
import ReceiptPrinter.Proofs.Markup.Printed
import ReceiptPrinter.Proofs.Markup.Readable
import ReceiptPrinter.Proofs.Markup.RoundTrip
import ReceiptPrinter.Proofs.Markup.Styled
import ReceiptPrinter.Proofs.Markup.Token
import ReceiptPrinter.Proofs.Markup.Written
import ReceiptPrinter.Proofs.Number.Reading
import ReceiptPrinter.Proofs.Printer.Basic
import ReceiptPrinter.Proofs.Printer.Typing
import ReceiptPrinter.Proofs.Receipt.Bands
import ReceiptPrinter.Proofs.Receipt.CheckDigit
import ReceiptPrinter.Proofs.Receipt.Code128
import ReceiptPrinter.Proofs.Receipt.Columns
import ReceiptPrinter.Proofs.Receipt.Composition
import ReceiptPrinter.Proofs.Receipt.Framing
import ReceiptPrinter.Proofs.Receipt.Layout
import ReceiptPrinter.Proofs.Receipt.ModuleWidth
import ReceiptPrinter.Proofs.Receipt.Parts
import ReceiptPrinter.Proofs.Receipt.Printout
import ReceiptPrinter.Proofs.Receipt.QrSymbol
import ReceiptPrinter.Proofs.Receipt.Truncation
import ReceiptPrinter.Proofs.Receipt.Wrapping
import ReceiptPrinter.Proofs.Spooler.Agreement
import ReceiptPrinter.Proofs.Spooler.Appended
import ReceiptPrinter.Proofs.Spooler.BarcodePrint
import ReceiptPrinter.Proofs.Spooler.Bracket
import ReceiptPrinter.Proofs.Spooler.Buffer
import ReceiptPrinter.Proofs.Spooler.Call
import ReceiptPrinter.Proofs.Spooler.Coherent
import ReceiptPrinter.Proofs.Spooler.Connecting
import ReceiptPrinter.Proofs.Spooler.Destination
import ReceiptPrinter.Proofs.Spooler.Drifting
import ReceiptPrinter.Proofs.Spooler.Fitted
import ReceiptPrinter.Proofs.Spooler.JobStep
import ReceiptPrinter.Proofs.Spooler.Ledger
import ReceiptPrinter.Proofs.Spooler.Lifecycle
import ReceiptPrinter.Proofs.Spooler.Outcome
import ReceiptPrinter.Proofs.Spooler.Pieces
import ReceiptPrinter.Proofs.Spooler.Printing
import ReceiptPrinter.Proofs.Spooler.Reconnecting
import ReceiptPrinter.Proofs.Spooler.Refusal
import ReceiptPrinter.Proofs.Spooler.Resting
import ReceiptPrinter.Proofs.Spooler.Run
import ReceiptPrinter.Proofs.Spooler.Shutdown
import ReceiptPrinter.Proofs.Spooler.Stopping
import ReceiptPrinter.Proofs.Spooler.Wire
import ReceiptPrinter.Proofs.Spooler.Worker
import ReceiptPrinter.Proofs.Text.Decimal
import ReceiptPrinter.Proofs.Text.Hexadecimal
import ReceiptPrinter.Proofs.Text.Lines
import ReceiptPrinter.Receipt.Barcode
import ReceiptPrinter.Receipt.Encode
import ReceiptPrinter.Receipt.Error
import ReceiptPrinter.Receipt.Layout
import ReceiptPrinter.Receipt.QrCode
import ReceiptPrinter.Receipt.QrSymbol
import ReceiptPrinter.Spooler.Basic
import ReceiptPrinter.Spooler.Call
import ReceiptPrinter.Spooler.DirectPrint
import ReceiptPrinter.Spooler.Error
import ReceiptPrinter.Spooler.Job
import ReceiptPrinter.Spooler.Session
import ReceiptPrinter.Spooler.Settings
import ReceiptPrinter.Spooler.Worker
import ReceiptPrinter.Text.Basic
import ReceiptPrinter.Text.Capitals
import ReceiptPrinter.Text.HexWord
import ReceiptPrinter.Text.Invisible
import ReceiptPrinter.Text.Quoted
