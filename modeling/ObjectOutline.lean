import ObjectOutline.Catalog
import ObjectOutline.Sample
import ObjectOutline.Main
import ObjectOutline.Proofs.Region.Placement
import ObjectOutline.Proofs.Region.Truncation
import ObjectOutline.Proofs.Brace.Body
import ObjectOutline.Proofs.Brace.Unclosed
import ObjectOutline.Proofs.Region.Moved
import ObjectOutline.Proofs.Written.TableSource
import ObjectOutline.Proofs.Region.Edit
import ObjectOutline.Proofs.Region.Findings
import ObjectOutline.Proofs.Symbol.Placed
import ObjectOutline.Proofs.Text.Position
import ObjectOutline.Proofs.Brace.Complete
import ObjectOutline.Proofs.Region.Concatenation
import ObjectOutline.Proofs.Brace.Parents
import ObjectOutline.Proofs.Region.DepthLimit
import ObjectOutline.Proofs.Json.Record
import ObjectOutline.Proofs.Symbol.Metadata
import ObjectOutline.Proofs.Catalog.Lookup
import ObjectOutline.Proofs.Symbol.Controls
import ObjectOutline.Proofs.Region.Limited
import ObjectOutline.Proofs.Brace.Passed
import ObjectOutline.Proofs.Symbol.Sources
import ObjectOutline.Proofs.Region.Replacement
import ObjectOutline.Proofs.Parse.Comment
import ObjectOutline.Proofs.Parse.TopLevel
import ObjectOutline.Proofs.Text.Returns
import ObjectOutline.Proofs.Parse.Returns
import ObjectOutline.Proofs.Display.Unambiguous
import ObjectOutline.Proofs.Summary.Declaration
import ObjectOutline.Proofs.Summary.Agreement
import ObjectOutline.Proofs.Text.Slices
import ObjectOutline.Proofs.Brace.Bytes
import ObjectOutline.Proofs.Brace.Search
import ObjectOutline.Proofs.Display.ControlLines
import ObjectOutline.Proofs.Symbol.Columns
import ObjectOutline.Proofs.Symbol.Languages
import ObjectOutline.Proofs.Display.WithoutProperties
import ObjectOutline.Proofs.Written.NumberedLine
import ObjectOutline.Proofs.Region.UnclosedRoot
import ObjectOutline.Proofs.Symbol.FieldNames
import ObjectOutline.Proofs.Text.Boundary
import ObjectOutline.Proofs.Region.DiagnosticPlaces
import ObjectOutline.Proofs.Symbol.LiteralEnd
import ObjectOutline.Proofs.Summary.FieldLines
import ObjectOutline.Proofs.Summary.TableBlocks
import ObjectOutline.Proofs.Brace.LineEnds
