import EntitySchema.Jdl.File
import EntitySchema.Main
import EntitySchema.Proofs.Compile.Gate
import EntitySchema.Proofs.Jdl.Document
import EntitySchema.Text.Sha256
import EntitySchema.Proofs.Jdl.Comment
import EntitySchema.Proofs.Relationship.Findings
import EntitySchema.Proofs.Document
import EntitySchema.Proofs.Jdl.Records
import EntitySchema.Proofs.Compile.Links
import EntitySchema.Proofs.Jdl.Identifier
import EntitySchema.Jdl.Collect
import EntitySchema.Proofs.Jdl.Collect
import EntitySchema.Proofs.Files.Store
import EntitySchema.Proofs.Compile.Emit
import EntitySchema.Proofs.CommandLine.Run
import EntitySchema.Proofs.CommandLine.Exit
import EntitySchema.Proofs.Document.Lossless
import EntitySchema.Proofs.Document.Rendered
import EntitySchema.Proofs.Check.Overrides
import EntitySchema.Proofs.CommandLine.Overrides
import EntitySchema.Proofs.Compile.Output
import EntitySchema.Proofs.Relationship.Permuted
import EntitySchema.Proofs.Jdl.Account
import EntitySchema.Proofs.Jdl.OneLine
import EntitySchema.Proofs.Jdl.Reach
import EntitySchema.Proofs.Jdl.Frame
import EntitySchema.Proofs.Jdl.BlockComment
import EntitySchema.Proofs.Check.Contract
import EntitySchema.Proofs.Jdl.FieldName
import EntitySchema.Proofs.Noun.Inverted
import EntitySchema.Proofs.Noun.RoundTrip
import EntitySchema.Proofs.Settings.Improper
import EntitySchema.Proofs.Settings.Section
import EntitySchema.Proofs.Jdl.Brace
import EntitySchema.Proofs.Document.Overrides
import EntitySchema.Proofs.Noun.CaseStyle
import EntitySchema.Proofs.Noun.Initial
