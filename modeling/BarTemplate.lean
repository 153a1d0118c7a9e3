import BarTemplate.Disk.Tree
import BarTemplate.Editor
import BarTemplate.Main
import BarTemplate.Proofs.Breaks
import BarTemplate.Proofs.Calls
import BarTemplate.Proofs.Cap
import BarTemplate.Proofs.Diagnostic
import BarTemplate.Proofs.Dump
import BarTemplate.Proofs.Ending
import BarTemplate.Proofs.Evidence
import BarTemplate.Proofs.Excerpt
import BarTemplate.Proofs.Joint
import BarTemplate.Proofs.Level
import BarTemplate.Proofs.Locality
import BarTemplate.Proofs.Mistake
import BarTemplate.Proofs.NumericValue
import BarTemplate.Proofs.Operand
import BarTemplate.Proofs.Run
import BarTemplate.Proofs.Source
import BarTemplate.Session
import BarTemplate.Template.Depth
import BarTemplate.Template.Grammar
import BarTemplate.Template.Source
import BarTemplate.Template.WellFormed
import BarTemplate.Value
import BarTemplate.Proofs.Disk
import BarTemplate.Proofs.Collect
