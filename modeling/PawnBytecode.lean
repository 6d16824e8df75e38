import PawnBytecode.Main
import PawnBytecode.Proofs.Agreement
import PawnBytecode.Proofs.Container
import PawnBytecode.Proofs.Module.ReadBack
import PawnBytecode.Proofs.Module.Rebuilding
import PawnBytecode.Proofs.Safety
import PawnBytecode.Proofs.Code.Relocation
import PawnBytecode.Proofs.Acceptance
import PawnBytecode.Proofs.Text.Fields
import PawnBytecode.Proofs.Code.Wording
import PawnBytecode.Proofs.Tree.Source
import PawnBytecode.Proofs.Listing.Recovery
import PawnBytecode.Proofs.Module.Trailing
import PawnBytecode.Proofs.Isolation
import PawnBytecode.Proofs.LineCount
import PawnBytecode.Proofs.CommandLine.Courses
import PawnBytecode.Proofs.CommandLine.Numbers
import PawnBytecode.Proofs.Bytes.Numbers
import PawnBytecode.Proofs.Bytes.Strings
import PawnBytecode.Proofs.Bytes.Requests
import PawnBytecode.Proofs.Code.Reached
import PawnBytecode.Proofs.Code.CaseRecords
import PawnBytecode.Proofs.Module.Tables
import PawnBytecode.Proofs.Module.Constants
import PawnBytecode.Proofs.Module.Parsing
import PawnBytecode.Proofs.Container.Table
import PawnBytecode.Proofs.Container.Unpacking
import PawnBytecode.Proofs.Listing.Limits
import PawnBytecode.Proofs.Listing.Appending
import PawnBytecode.Proofs.Tree.Naming
import PawnBytecode.Proofs.Calls
import PawnBytecode.Proofs.KnowledgeBase
import PawnBytecode.Proofs.Tree.Accounting
import PawnBytecode.Proofs.Sniffing
import PawnBytecode.Proofs.Tree.Nesting
import PawnBytecode.Proofs.Module.Informational
