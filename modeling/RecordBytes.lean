import RecordBytes.Binding
import RecordBytes.Compact.Writing
import RecordBytes.Fault.Message
import RecordBytes.InWord
import RecordBytes.Registry
import RecordBytes.Sortable.Writing
import RecordBytes.Proofs.Bytes.Order
import RecordBytes.Proofs.Bytes.SignedWord
import RecordBytes.Proofs.Floating.Order
import RecordBytes.Proofs.Bytes.Successor
import RecordBytes.Proofs.Bytes.TwosComplement
import RecordBytes.Proofs.Cursor.Yields
import RecordBytes.Proofs.Data.Generation
import RecordBytes.Proofs.Decimal.Digits
import RecordBytes.Proofs.Decimal.Number
import RecordBytes.Proofs.Format.Rows
import RecordBytes.Proofs.Key.Order
import RecordBytes.Proofs.Key.Prefix
import RecordBytes.Proofs.Key.RoundTrip
import RecordBytes.Proofs.Key.ScanBounds
import RecordBytes.Proofs.Compact.LengthPrefix
import RecordBytes.Proofs.Slots.Reading
import RecordBytes.Proofs.Compact.Size
import RecordBytes.Proofs.Key.Bare
import RecordBytes.Proofs.Cursor.Behind
import RecordBytes.Proofs.Key.Pieces
import RecordBytes.Proofs.Data.RoundTrip
import RecordBytes.Proofs.Snapshot.RoundTrip
import RecordBytes.Proofs.Key.Parts
import RecordBytes.Proofs.Data.Fields
import RecordBytes.Proofs.Format.Resized
import RecordBytes.Proofs.Cursor.Finds
import RecordBytes.Proofs.Sortable.Writable
import RecordBytes.Proofs.Compact.Writable
import RecordBytes.Proofs.Layout.Writable
import RecordBytes.Proofs.Format.Accepted
import RecordBytes.Proofs.Format.InPlace
import RecordBytes.Proofs.Format.Rebuilt
import RecordBytes.Proofs.Format.Sizes
import RecordBytes.Proofs.Layout.Fitting
import RecordBytes.Proofs.Format.Fitting
import RecordBytes.Proofs.Format.Agreement
import RecordBytes.Proofs.Format.Classified
import RecordBytes.Proofs.Key.Canonical
import RecordBytes.Proofs.Format.Inside
import RecordBytes.Proofs.Slots.Replayed
import RecordBytes.Proofs.Binding.Built
import RecordBytes.Proofs.Binding.Writing
import RecordBytes.Proofs.Schema.Declared
import RecordBytes.Proofs.Binding.Lawful
import RecordBytes.Proofs.Binding.RoundTrip
import RecordBytes.Proofs.Registry.History
import RecordBytes.Proofs.Cell.Delimited
import RecordBytes.Proofs.Cell.Complemented
import RecordBytes.Proofs.Cell.Skipped
import RecordBytes.Proofs.Binding.Named
import RecordBytes.Proofs.Bytes.LeastBound
import RecordBytes.Proofs.Compact.LengthForms
import RecordBytes.Proofs.Data.Prefixes
import RecordBytes.Proofs.Slots.Normal
import RecordBytes.Proofs.Cursor.Requests
import RecordBytes.Proofs.Span.Resolved
import RecordBytes.Proofs.Format.LeastSizes
