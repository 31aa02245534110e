import NativeApi.Diagnostic
import NativeApi.Identity
import NativeApi.Metadata
import NativeApi.Accessibility
import NativeApi.TypeRef
import NativeApi.Number.Shortest
import NativeApi.Text.Quoted
import NativeApi.Constant
import NativeApi.Decl.Basic
import NativeApi.Decl.Same
import NativeApi.Decl.Edit
import NativeApi.Decl.Tree
import NativeApi.Library.Typedefs
import NativeApi.Library.Dump
import NativeApi.Pass.Basic
import NativeApi.Pass.Script
import NativeApi.Verify.Pass
import NativeApi.LooseDeclarations
import NativeApi.Extraction
import NativeApi.TypedefStripping
import NativeApi.Emission
import NativeApi.Config
import NativeApi.Pipeline
import NativeApi.Sample
import NativeApi.Command
import NativeApi.Main
import NativeApi.Proofs.Conservation.Runs
import NativeApi.Proofs.Verify.Layout
import NativeApi.Proofs.Verify.Idempotence
import NativeApi.Proofs.Verify.Placement
import NativeApi.Proofs.Verify.Representability
import NativeApi.Proofs.Verify.Conformity
import NativeApi.Proofs.Verify.Amendments
import NativeApi.Proofs.Verify.Designation
import NativeApi.Proofs.Verify.RootOrder
import NativeApi.Proofs.Pass.Traversal
import NativeApi.Proofs.Pass.Rebuilding
import NativeApi.Proofs.Pass.Supply
import NativeApi.Proofs.Pass.Redirection
import NativeApi.Proofs.Emission
import NativeApi.Proofs.Extraction.Pruning
import NativeApi.Proofs.Extraction.Closure
import NativeApi.Proofs.Extraction.Emission
import NativeApi.Proofs.Extraction.Relocation
import NativeApi.Proofs.Extraction.Errors
import NativeApi.Proofs.Extraction.Diagnostics
import NativeApi.Proofs.Extraction.References
import NativeApi.Proofs.Typedefs.Substitution
import NativeApi.Proofs.Typedefs.Representable
import NativeApi.Proofs.DefaultConvention
import NativeApi.Proofs.Verify.Renaming
import NativeApi.Proofs.Loose.Regrouping
import NativeApi.Proofs.Loose.Commutation
import NativeApi.Proofs.Library.Index
import NativeApi.Proofs.Typedefs.Reduction
import NativeApi.Proofs.Verify.Accounting
import NativeApi.Proofs.Verify.Arguments
import NativeApi.Proofs.Pipeline.Reuse
import NativeApi.Proofs.Dump.Shape
import NativeApi.Proofs.Library.Building
