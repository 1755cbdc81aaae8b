import KotlinMetadata.Annotations
import KotlinMetadata.Artifact
import KotlinMetadata.Buffers
import KotlinMetadata.ClassFilter
import KotlinMetadata.Codec.Annotations
import KotlinMetadata.Codec.Artifact
import KotlinMetadata.Codec.Declaration
import KotlinMetadata.Codec.Field
import KotlinMetadata.Codec.TypeUse
import KotlinMetadata.Command
import KotlinMetadata.CommandLine
import KotlinMetadata.Declaration
import KotlinMetadata.Descriptor
import KotlinMetadata.Enumerated
import KotlinMetadata.Fault
import KotlinMetadata.FileTree
import KotlinMetadata.FlagSet
import KotlinMetadata.Flags
import KotlinMetadata.Json.Basic
import KotlinMetadata.Json.Reader
import KotlinMetadata.Json.Writer
import KotlinMetadata.Keyword
import KotlinMetadata.Main
import KotlinMetadata.Modifier
import KotlinMetadata.Name
import KotlinMetadata.NameSet
import KotlinMetadata.Number.Binary
import KotlinMetadata.Number.Digits
import KotlinMetadata.Number.Literal
import KotlinMetadata.Number.Shortest
import KotlinMetadata.Number.Text
import KotlinMetadata.Pool
import KotlinMetadata.Printer
import KotlinMetadata.Proofs.Balance
import KotlinMetadata.Proofs.Batch
import KotlinMetadata.Proofs.Containment
import KotlinMetadata.Proofs.Repeat
import KotlinMetadata.Proofs.Trace
import KotlinMetadata.Proofs.Visits
import KotlinMetadata.Proofs.Writes.Artifact
import KotlinMetadata.Proofs.Writes.Basic
import KotlinMetadata.Proofs.Writes.Declaration
import KotlinMetadata.Render.Annotations
import KotlinMetadata.Render.Artifact
import KotlinMetadata.Render.Basic
import KotlinMetadata.Render.Declaration
import KotlinMetadata.Render.TypeUse
import KotlinMetadata.Report
import KotlinMetadata.Scope
import KotlinMetadata.Settings
import KotlinMetadata.Text.CharClass
import KotlinMetadata.Text.Edit
import KotlinMetadata.Text.Printable
import KotlinMetadata.Text.Quoted
import KotlinMetadata.TypeUse
import KotlinMetadata.Yaml.Basic
import KotlinMetadata.Yaml.Cursor
import KotlinMetadata.Yaml.Reader
import KotlinMetadata.Yaml.Scalar
import KotlinMetadata.Proofs.Termination
import KotlinMetadata.Proofs.AppendOnly
import KotlinMetadata.Proofs.Codec.Field
import KotlinMetadata.Proofs.Codec.Governed
import KotlinMetadata.Proofs.Codec.KeyOrder
import KotlinMetadata.Proofs.Codec.Normal
import KotlinMetadata.Proofs.Declares
import KotlinMetadata.Proofs.Loading
import KotlinMetadata.Proofs.OwnNames
import KotlinMetadata.Proofs.Passages
import KotlinMetadata.Proofs.Blocks
import KotlinMetadata.Proofs.NamesInside
import KotlinMetadata.Proofs.AnnotationText
import KotlinMetadata.Proofs.Resolution
import KotlinMetadata.Proofs.ElementText
import KotlinMetadata.Proofs.TypeText
import KotlinMetadata.Proofs.TypeReading
import KotlinMetadata.Proofs.Scans
import KotlinMetadata.Proofs.Depth
import KotlinMetadata.Proofs.Answers
import KotlinMetadata.Proofs.Lines
import KotlinMetadata.Proofs.Layout
import KotlinMetadata.Proofs.OwnLines
import KotlinMetadata.Proofs.Descriptor.Grammar
import KotlinMetadata.Proofs.Descriptor.Offsets
import KotlinMetadata.Proofs.Descriptor.Malformed
import KotlinMetadata.Proofs.BareArtifacts
import KotlinMetadata.Proofs.InnerNames
import KotlinMetadata.Proofs.Filter.Pattern
import KotlinMetadata.Proofs.Filter.Decision
import KotlinMetadata.Proofs.Reports
import KotlinMetadata.Proofs.EnumEntries
import KotlinMetadata.Proofs.FlagSteps
