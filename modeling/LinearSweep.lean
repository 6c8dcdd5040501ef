import LinearSweep.Main
import LinearSweep.Proofs.Path
import LinearSweep.Proofs.Swept
import LinearSweep.Proofs.Resumption
import LinearSweep.Proofs.Lossless
import LinearSweep.Proofs.Translation
import LinearSweep.Proofs.Ceiling
import LinearSweep.Proofs.Chunks
import LinearSweep.Proofs.Destination
import LinearSweep.Proofs.JsonReader
import LinearSweep.Proofs.JsonRoundTrip
import LinearSweep.Proofs.JsonReport
import LinearSweep.Proofs.CsvRoundTrip
import LinearSweep.Proofs.SeveralSessions
import LinearSweep.Proofs.Reference
import LinearSweep.Proofs.Records
import LinearSweep.Proofs.Rendering
import LinearSweep.Proofs.Assembler
import LinearSweep.Proofs.Statement
import LinearSweep.Proofs.Numeral
import LinearSweep.Proofs.BranchText
import LinearSweep.Proofs.Columns
import LinearSweep.Proofs.TextView
import LinearSweep.Proofs.FlatCode
import LinearSweep.Proofs.ElfReader
import LinearSweep.Proofs.ElfTable
import LinearSweep.Proofs.ElfRoundTrip
import LinearSweep.Proofs.CallSite
import LinearSweep.Proofs.Walk
import LinearSweep.Proofs.EndAddress
import LinearSweep.Proofs.Recognition
import LinearSweep.Proofs.FirstFit
import LinearSweep.Proofs.FormatName
