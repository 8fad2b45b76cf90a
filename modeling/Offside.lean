import Offside.Main
import Offside.Proofs.Source
import Offside.Proofs.Matching
import Offside.Proofs.Reading
import Offside.Proofs.Failure
import Offside.Proofs.StringPattern
import Offside.Proofs.Classification
import Offside.Proofs.Precedence
import Offside.Proofs.Coverage
import Offside.Proofs.StringClose
import Offside.Proofs.QuotedText
import Offside.Proofs.Lines
import Offside.Proofs.RowReading
import Offside.Proofs.Line
import Offside.Proofs.Blocks
import Offside.Proofs.SpanOrder
import Offside.Proofs.Terminators
import Offside.Proofs.LogicalLine
import Offside.Proofs.Cause
import Offside.Proofs.Compilation
import Offside.Proofs.Likeness
import Offside.Proofs.Concatenation
import Offside.Proofs.Policy
import Offside.Proofs.Locality
import Offside.Proofs.Truncation
import Offside.Proofs.ShortString
import Offside.Proofs.FirstDelimiter
import Offside.Proofs.Recognition
import Offside.Proofs.Insertion
import Offside.Proofs.Origin
import Offside.Proofs.Spacing
import Offside.Proofs.Counting
import Offside.Proofs.Delivery
import Offside.Proofs.Reports
import Offside.Proofs.Chronology
import Offside.Proofs.JsonReading
import Offside.Proofs.JsonRecord
import Offside.Proofs.TokenJson
import Offside.Proofs.Language
import Offside.Proofs.Longest
import Offside.Proofs.NumberGrammar
import Offside.Proofs.Numbers
import Offside.Proofs.Escapes
import Offside.Proofs.FirstMismatch
import Offside.Proofs.RowsAppended
import Offside.Proofs.Retrieval
import Offside.Proofs.LineEnds
import Offside.Proofs.Clipping
import Offside.Proofs.Draining
import Offside.Proofs.OperatorAdditions
