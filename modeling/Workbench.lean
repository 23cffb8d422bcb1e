import Workbench.Editor
import Workbench.Main
import Workbench.Token.Report
import Workbench.Proofs.Consumption
import Workbench.Proofs.Ledger
import Workbench.Proofs.Soundness
import Workbench.Proofs.Completeness
import Workbench.Proofs.Checking
import Workbench.Proofs.Assignments
import Workbench.Proofs.Acceptance
import Workbench.Proofs.Exhaustion
import Workbench.Proofs.Typing
import Workbench.Proofs.Arithmetic
import Workbench.Proofs.Reading
import Workbench.Proofs.Evaluation
import Workbench.Proofs.Valuation
import Workbench.Proofs.Statements
import Workbench.Proofs.Layout
import Workbench.Proofs.Cutting
import Workbench.Proofs.Tokens
import Workbench.Proofs.Tiling
import Workbench.Proofs.Rereading
import Workbench.Proofs.ReservedWords
import Workbench.Proofs.Growth
import Workbench.Proofs.Reloading
import Workbench.Proofs.Scoping
import Workbench.Proofs.Conditionals
import Workbench.Proofs.Variables
import Workbench.Proofs.Interference
import Workbench.Proofs.Safety
import Workbench.Proofs.Assembler
import Workbench.Proofs.Machine
import Workbench.Proofs.Assembly
import Workbench.Proofs.Linear
import Workbench.Proofs.Agreement
import Workbench.Proofs.Adjacency
import Workbench.Proofs.Listing
import Workbench.Proofs.Labels
import Workbench.Proofs.Addresses
import Workbench.Proofs.Folding
import Workbench.Proofs.Registers
import Workbench.Proofs.Composition
import Workbench.Proofs.Saving
import Workbench.Proofs.Files
import Workbench.Proofs.History
import Workbench.Proofs.Selection
import Workbench.Proofs.Splitting
