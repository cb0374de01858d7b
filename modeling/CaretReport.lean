import CaretReport.Session.Run
import CaretReport.Package.Basic
import CaretReport.Proofs.Host.Machine
import CaretReport.Proofs.Utf8.Encodes
import CaretReport.Proofs.Utf8.Tiling
import CaretReport.Proofs.Utf8.RoundTrip
import CaretReport.Proofs.Utf8.Cuts
import CaretReport.Proofs.Utf8.Agreement
import CaretReport.Proofs.Utf8.Positions
import CaretReport.Proofs.Utf8.Offsets
import CaretReport.Proofs.Cells.Width
import CaretReport.Proofs.Utf8.Seams
import CaretReport.Proofs.Cells.Slim
import CaretReport.Proofs.Source.Drawing
import CaretReport.Proofs.Source.Token
import CaretReport.Proofs.Source.Inside
import CaretReport.Proofs.Source.Lines
import CaretReport.Proofs.Source.Joined
import CaretReport.Proofs.Stream.Limit
import CaretReport.Proofs.Stream.History
import CaretReport.Proofs.Paint.Strip
import CaretReport.Proofs.Diagnostic.Fields
import CaretReport.Proofs.Template.Slots
import CaretReport.Proofs.Diagnostic.Routes
import CaretReport.Proofs.Report.Script
import CaretReport.Proofs.Report.Alignment
import CaretReport.Proofs.Report.Colour
import CaretReport.Proofs.Report.Switch
import CaretReport.Proofs.Report.Delivery
import CaretReport.Proofs.Session.Calls
import CaretReport.Proofs.Report.Rows
import CaretReport.Proofs.Report.Ending
import CaretReport.Proofs.Report.CellColumns
import CaretReport.Proofs.Report.AsciiColumns
import CaretReport.Proofs.Report.Undecided
import CaretReport.Proofs.Package.Reading
import CaretReport.Proofs.Package.Stated
import CaretReport.Proofs.Package.Entries
import CaretReport.Proofs.Package.LineEnds
