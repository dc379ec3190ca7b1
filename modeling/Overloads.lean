import Overloads.Fault
import Overloads.Header
import Overloads.Text.Alphanumeric
import Overloads.Text.Quoted
import Overloads.Number.Binary64
import Overloads.Data.Fields
import Overloads.Data.Value
import Overloads.Settings.Basic
import Overloads.Settings.Format
import Overloads.Settings.Layer
import Overloads.Text.Bytes
import Overloads.FileTree.Basic
import Overloads.FileTree.Path
import Overloads.FileTree.Walk
import Overloads.Output
import Overloads.Log.Event
import Overloads.Log.Filter
import Overloads.CommandLine
import Overloads.Data.Toml.Scalar
import Overloads.Data.Toml.Document
import Overloads.Settings.Environment
import Overloads.Settings.Files
import Overloads.Settings.Load
import Overloads.Run
import Overloads.Main
import Overloads.Proofs.Argument.Interleaving
import Overloads.Proofs.Argument.Places
import Overloads.Proofs.Text.Preprocessing
import Overloads.Proofs.Text.Scope
import Overloads.Proofs.Family.Characters
import Overloads.Proofs.Family.Decoding
import Overloads.Proofs.Family.Agreement
import Overloads.Proofs.Family.Declaration
import Overloads.Proofs.Header.Enumeration
import Overloads.Proofs.Header.Layout
import Overloads.Proofs.Header.Indexing
import Overloads.Proofs.Family.Pragmas
import Overloads.Proofs.Family.Scope
import Overloads.Proofs.Header.Pragmas
import Overloads.Proofs.FileTree.Leading
import Overloads.Proofs.FileTree.Growth
import Overloads.Proofs.FileTree.Passing
import Overloads.Proofs.Output.Landing
import Overloads.Proofs.Output.ReadBack
import Overloads.Proofs.Output.Frame
import Overloads.Proofs.Output.Repetition
import Overloads.Proofs.Output.Containment
import Overloads.Proofs.Output.Obstacles
import Overloads.Proofs.Run.Ending
import Overloads.Proofs.Run.Modes
import Overloads.Proofs.Run.Comparison
import Overloads.Proofs.Run.Repetition
import Overloads.Proofs.Run.Remedy
import Overloads.Proofs.Settings.Layering
import Overloads.Proofs.Settings.Decoding
import Overloads.Proofs.Settings.Overriding
import Overloads.Proofs.Settings.Footprint
import Overloads.Proofs.Settings.StoredForm
import Overloads.Proofs.Settings.Merging
import Overloads.Proofs.CommandLine.Words
import Overloads.Proofs.CommandLine.Spelling
import Overloads.Proofs.FileTree.Pieces
import Overloads.Proofs.Output.Overwriting
import Overloads.Proofs.Output.Splitting
import Overloads.Proofs.FileTree.Making
import Overloads.Proofs.Output.Commutation
import Overloads.Proofs.Family.Construction
import Overloads.Proofs.Argument.Weight
import Overloads.Proofs.Text.Measure
import Overloads.Proofs.Family.Size
