import BitProbe.Main
import BitProbe.Proofs.DecodeTable.Answers
import BitProbe.Proofs.DecodeTable.MoreTokens
import BitProbe.Proofs.FieldMap.Collecting
import BitProbe.Proofs.Instruction.Delimiters
import BitProbe.Proofs.Instruction.Display
import BitProbe.Proofs.Instruction.Places
import BitProbe.Proofs.Instruction.Statements
import BitProbe.Proofs.Listing.Endings
import BitProbe.Proofs.Listing.Lines
import BitProbe.Proofs.Pool.Agreement
import BitProbe.Proofs.Report.Records
import BitProbe.Proofs.Report.Rows
import BitProbe.Proofs.Report.Structured
import BitProbe.Proofs.Report.Table
import BitProbe.Proofs.Session.Endings
import BitProbe.Proofs.Settings.Loading
import BitProbe.Proofs.Settings.Profiles
import BitProbe.Proofs.Survey.Bounds
import BitProbe.Proofs.Survey.Coherence
import BitProbe.Proofs.Survey.Isolation
import BitProbe.Proofs.Survey.MoreAliases
import BitProbe.Proofs.Survey.PlainText
import BitProbe.Proofs.Survey.RejectedWords
import BitProbe.Proofs.Survey.Rounds
import BitProbe.Proofs.Survey.SharedMutants
import BitProbe.Proofs.Template
import BitProbe.Proofs.Text.Pieces
import BitProbe.Proofs.Text.Trimming
import BitProbe.Proofs.Text.Utf8.Lossy
import BitProbe.Proofs.Text.Utf8.WellFormed
import BitProbe.Proofs.Word.Spellings
