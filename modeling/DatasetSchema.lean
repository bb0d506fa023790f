import DatasetSchema.Main
import DatasetSchema.Proofs.CommandLine.Run
import DatasetSchema.Proofs.Compilation.Failure
import DatasetSchema.Proofs.Declaration.Layout
import DatasetSchema.Proofs.Declaration.PythonName
import DatasetSchema.Proofs.Declaration.TextLiteral
import DatasetSchema.Proofs.Dependency.Dependencies
import DatasetSchema.Proofs.Dependency.Unreferenced
import DatasetSchema.Proofs.Draft.ClassEntry
import DatasetSchema.Proofs.Draft.Lenient
import DatasetSchema.Proofs.Draft.Reload
import DatasetSchema.Proofs.TypeExpr.CallDepth
import DatasetSchema.Proofs.TypeExpr.Pinpoint
import DatasetSchema.Proofs.TypeExpr.QuotedRun
import DatasetSchema.Proofs.TypeExpr.RoundTrip
import DatasetSchema.Proofs.TypeExpr.WhiteSpace
