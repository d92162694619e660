import KotestOutline.Main
import KotestOutline.Proofs.Analysis.RoundTrip
import KotestOutline.Proofs.Analysis.Spans
import KotestOutline.Proofs.Classification.Consultations
import KotestOutline.Proofs.Classification.Semantics
import KotestOutline.Proofs.Classification.Tiers
import KotestOutline.Proofs.CommandLine.Location
import KotestOutline.Proofs.Config.RoundTrip
import KotestOutline.Proofs.Gradle.Root
import KotestOutline.Proofs.Gradle.Shell
import KotestOutline.Proofs.Gradle.ShellCommand
import KotestOutline.Proofs.Lowering.Comments
import KotestOutline.Proofs.Lowering.Grouping
import KotestOutline.Proofs.Lowering.Header
import KotestOutline.Proofs.Lowering.Import
import KotestOutline.Proofs.Lowering.Interpolation
import KotestOutline.Proofs.Lowering.Origin
import KotestOutline.Proofs.Lowering.Preorder
import KotestOutline.Proofs.Lowering.StringText
import KotestOutline.Proofs.Recognition.ConfigForm
import KotestOutline.Proofs.Recognition.Form
import KotestOutline.Proofs.Recognition.Hooks
import KotestOutline.Proofs.Recognition.Incomplete
import KotestOutline.Proofs.Recognition.Listing
import KotestOutline.Proofs.Recognition.Rejection
import KotestOutline.Proofs.Recognition.Renumbering
import KotestOutline.Proofs.Recognition.Token
import KotestOutline.Proofs.Resolution.Answers
import KotestOutline.Proofs.Resolution.Contents
import KotestOutline.Proofs.Style.Registry
import KotestOutline.Proofs.Suite.RoundTrip
import KotestOutline.Proofs.Suite.Stub
import KotestOutline.Proofs.Syntax.Traversal
