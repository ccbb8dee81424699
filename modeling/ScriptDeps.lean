import ScriptDeps.Binding
import ScriptDeps.Main
import ScriptDeps.NativeLibraries
import ScriptDeps.Proofs.Job
import ScriptDeps.Proofs.Context
import ScriptDeps.Proofs.Directive
import ScriptDeps.Proofs.Restore.Mixed
import ScriptDeps.Proofs.Manifest.Saved
import ScriptDeps.Proofs.Manifest.LineOrder
import ScriptDeps.Proofs.Resolved
import ScriptDeps.Proofs.Path.Place
import ScriptDeps.Proofs.ScriptGraph.Order
import ScriptDeps.Proofs.Layout.Disjoint
import ScriptDeps.Proofs.Layout.Inside
import ScriptDeps.Proofs.CommandLine.Clean
import ScriptDeps.Proofs.Store.Alike
import ScriptDeps.Proofs.Store.Made
import ScriptDeps.Proofs.Manifest.Placed
import ScriptDeps.Proofs.Project.Plan
import ScriptDeps.Proofs.Project.Prepare
import ScriptDeps.Proofs.Project.Synthesis
import ScriptDeps.Proofs.Compilation
import ScriptDeps.Proofs.Capture.Known
import ScriptDeps.Proofs.Restore.Spoiled
import ScriptDeps.Proofs.Project.Separate
import ScriptDeps.Proofs.Assets.Nearest
import ScriptDeps.Proofs.RuntimeGraph.Merge
import ScriptDeps.Proofs.Reference.Case
import ScriptDeps.Proofs.Binding
import ScriptDeps.Proofs.NativeLibraries
import ScriptDeps.Proofs.Resolved.Files
import ScriptDeps.Proofs.Resolved.Permuted
import ScriptDeps.Proofs.Manifest.Additions
import ScriptDeps.Proofs.Needs
import ScriptDeps.Proofs.Manifest.LineOrder
