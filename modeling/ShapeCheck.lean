import ShapeCheck.Main
import ShapeCheck.Predicate.Exhaustive
import ShapeCheck.Proofs.Alike
import ShapeCheck.Proofs.Compile
import ShapeCheck.Proofs.Conformance
import ShapeCheck.Proofs.Double.Interval
import ShapeCheck.Proofs.Double.PlainText
import ShapeCheck.Proofs.Induction
import ShapeCheck.Proofs.Manifest
import ShapeCheck.Proofs.Outcome
import ShapeCheck.Proofs.Printing
import ShapeCheck.Proofs.Quoted
import ShapeCheck.Proofs.WellFormed
import ShapeCheck.Shape.Conformance
import ShapeCheck.Shape.Encoding
import ShapeCheck.Shape.Image
import ShapeCheck.Shape.WellFormed
import ShapeCheck.Value.Cleaned
import ShapeCheck.Proofs.Occurrence
import ShapeCheck.Proofs.QuotedReading
import ShapeCheck.Proofs.Literals
import ShapeCheck.Proofs.ModuleText
import ShapeCheck.Proofs.Decoding
import ShapeCheck.Proofs.Double.Nearest
import ShapeCheck.Proofs.Encoding
import ShapeCheck.Proofs.Scope
import ShapeCheck.Proofs.Grammar
import ShapeCheck.Proofs.Nesting
import ShapeCheck.Proofs.Violation
import ShapeCheck.Proofs.Loading
import ShapeCheck.Proofs.Validator
import ShapeCheck.Proofs.CheckCommand
import ShapeCheck.Proofs.Pointer
import ShapeCheck.Proofs.Misreading
import ShapeCheck.Proofs.Pointing
import ShapeCheck.Proofs.Recheck
import ShapeCheck.Proofs.CompiledDepth
import ShapeCheck.Proofs.Acceptance
import ShapeCheck.Proofs.Loosening
import ShapeCheck.Proofs.Absence
import ShapeCheck.Proofs.Reordering
import ShapeCheck.Proofs.EqualValues
import ShapeCheck.Proofs.Double.Written
import ShapeCheck.Proofs.Projection
import ShapeCheck.Proofs.Places
import ShapeCheck.Proofs.Persistence
import ShapeCheck.Proofs.EntryPoints
import ShapeCheck.Proofs.Front
import ShapeCheck.Proofs.CompactText
import ShapeCheck.Proofs.CompactRecord
import ShapeCheck.Proofs.ManifestText
import ShapeCheck.Proofs.DocumentLines
import ShapeCheck.Proofs.FileTree
import ShapeCheck.Proofs.Effects
import ShapeCheck.Proofs.NameClash
import ShapeCheck.Proofs.SkippedCalls
import ShapeCheck.Proofs.FixtureReport
