import PageCompiler.Main
import PageCompiler.Proofs.Build.ComponentRules
import PageCompiler.Proofs.Markup.Nesting
import PageCompiler.Proofs.Markup.SourceRoundTrip
import PageCompiler.Proofs.Markup.TreeRoundTrip
import PageCompiler.Proofs.Build.ProcessedPage
import PageCompiler.Proofs.Program.RoundTrip
import PageCompiler.Proofs.Build.Scripts
import PageCompiler.Proofs.Component.Chains
import PageCompiler.Proofs.Build.LoadedRegistry
import PageCompiler.Proofs.Disk
import PageCompiler.Proofs.Build.Writing
import PageCompiler.Proofs.Build.ProgramParts
import PageCompiler.Proofs.Build.SettledTags
import PageCompiler.Proofs.Build.Independence
import PageCompiler.Proofs.Markup.DocumentOrder
import PageCompiler.Proofs.Markup.AttributeEdits
import PageCompiler.Proofs.Markup.Nodes
import PageCompiler.Proofs.OutputPath
import PageCompiler.Proofs.OutputParts
import PageCompiler.Proofs.Build.Outputs
import PageCompiler.Proofs.Build.Rereading
import PageCompiler.Proofs.Build.Variables
import PageCompiler.Proofs.Build.Verdict
import PageCompiler.Proofs.Build.EmbeddedMarkup
import PageCompiler.Proofs.Build.Attachment
import PageCompiler.Proofs.Build.WrittenPlaces
import PageCompiler.Proofs.Build.Naming
import PageCompiler.Proofs.Build.DeclaringTags
import PageCompiler.Proofs.Markup.Constructs
import PageCompiler.Proofs.Markup.CharacterData
import PageCompiler.Proofs.Markup.OptionGroups
import PageCompiler.Proofs.Build.RegisteredTypes
import PageCompiler.Proofs.Build.SelectionOrder
import PageCompiler.Proofs.Build.Layers
import PageCompiler.Proofs.Build.ManifestFailures
import PageCompiler.Proofs.Build.SourceFailures
import PageCompiler.Proofs.Markup.Pruning
import PageCompiler.Proofs.Build.RepeatedEntries
import PageCompiler.Proofs.Markup.KeptNames
