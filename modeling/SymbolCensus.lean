import SymbolCensus.Main
import SymbolCensus.Proofs.ClassName
import SymbolCensus.Proofs.Concatenation
import SymbolCensus.Proofs.Coordinates
import SymbolCensus.Proofs.Course
import SymbolCensus.Proofs.Coverage
import SymbolCensus.Proofs.Cut
import SymbolCensus.Proofs.Diagnosis
import SymbolCensus.Proofs.Ending
import SymbolCensus.Proofs.History
import SymbolCensus.Proofs.Layout
import SymbolCensus.Proofs.LineEnding
import SymbolCensus.Proofs.Munch
import SymbolCensus.Proofs.Observation
import SymbolCensus.Proofs.Progress
import SymbolCensus.Proofs.SourceFile
import SymbolCensus.Proofs.SymbolRow
import SymbolCensus.Proofs.Tally
import SymbolCensus.Proofs.TokenRow
import SymbolCensus.Report.Inspection
import SymbolCensus.Scan.Operation
import SymbolCensus.SymbolTable.Change
