import FieldTypes.Registry.Workspace
import FieldTypes.Files.Tree
import FieldTypes.Main
import FieldTypes.Proofs.Registry.Ownership
import FieldTypes.Proofs.Registry.Copy
import FieldTypes.Proofs.Registry.Names
import FieldTypes.Proofs.Registry.Extension
import FieldTypes.Proofs.Registry.Growth
import FieldTypes.Proofs.Registry.Lookup
import FieldTypes.Proofs.Registry.Splitting
import FieldTypes.Proofs.Registry.Effect
import FieldTypes.Proofs.Resolution.Composition
import FieldTypes.Proofs.Resolution.Arities
import FieldTypes.Proofs.Resolution.Canonical
import FieldTypes.Proofs.Resolution.Copies
import FieldTypes.Proofs.Resolution.Fields
import FieldTypes.Proofs.Resolution.Texts
import FieldTypes.Proofs.Resolution.Turns
import FieldTypes.Proofs.Expression.RoundTrip
import FieldTypes.Proofs.Expression.Mentions
import FieldTypes.Proofs.Expression.Origins
import FieldTypes.Proofs.Expression.ResolvedText
import FieldTypes.Proofs.Expression.ScanNesting
import FieldTypes.Proofs.Expression.Blame
import FieldTypes.Proofs.Manifest.Order
import FieldTypes.Proofs.Manifest.Extension
import FieldTypes.Proofs.Manifest.Consistency
import FieldTypes.Proofs.Log.Override
import FieldTypes.Proofs.CommandLine.Listing
import FieldTypes.Proofs.CommandLine.ExitCode
import FieldTypes.Proofs.CommandLine.TypeArguments
import FieldTypes.Proofs.CommandLine.Outlines
