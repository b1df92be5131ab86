import ComponentMarkup.Cursor
import ComponentMarkup.Compilation
import ComponentMarkup.Identity
import ComponentMarkup.Proofs.Lexing.Respacing
import ComponentMarkup.Proofs.Compilation.Canonical
import ComponentMarkup.Proofs.Compilation.Safety
import ComponentMarkup.Proofs.Parsing.Classifying
import ComponentMarkup.Proofs.Parsing.TagEnds
import ComponentMarkup.Proofs.Parsing.Origins
import ComponentMarkup.Proofs.Layout.Groups
import ComponentMarkup.Proofs.Layout.Values
import ComponentMarkup.Proofs.Layout.Declarations
import ComponentMarkup.Proofs.Layout.Tags
import ComponentMarkup.Proofs.Layout.Noninterference
import ComponentMarkup.Proofs.Layout.Reordered
import ComponentMarkup.Proofs.Parsing.Readers
import ComponentMarkup.Proofs.Schema.Histories
import ComponentMarkup.Proofs.Compilation.Gating
import ComponentMarkup.Proofs.Lexing.Positions
import ComponentMarkup.Proofs.Lexing.Recovery
import ComponentMarkup.Proofs.Emitted.Literals
import ComponentMarkup.Proofs.Emitted.Strings
import ComponentMarkup.Proofs.Emitted.Integers
import ComponentMarkup.Proofs.Emitted.Rereading
import ComponentMarkup.Proofs.Emitted.Inert
import ComponentMarkup.Proofs.Emitted.Parts
import ComponentMarkup.Proofs.Emitted.Lines
import ComponentMarkup.Proofs.Emitted.Closed
import ComponentMarkup.Proofs.Lexing.Slices
import ComponentMarkup.Proofs.Parsing.Spans
import ComponentMarkup.Proofs.Compilation.Faithful
import ComponentMarkup.Proofs.Schema.FieldTypes
import ComponentMarkup.Proofs.Parsing.Verdicts
import ComponentMarkup.Proofs.Parsing.Unclosed
import ComponentMarkup.Proofs.Lexing.Munching
import ComponentMarkup.Proofs.Lexing.Tiling
import ComponentMarkup.Proofs.Compilation.Suggestions
import ComponentMarkup.Proofs.Compilation.Words
import ComponentMarkup.Proofs.Construction.Wrappers
import ComponentMarkup.Proofs.Parsing.LongestPaths
import ComponentMarkup.Proofs.Emitted.Paths
import ComponentMarkup.Proofs.Emitted.DecimalTexts
import ComponentMarkup.Proofs.Lexing.Underscores
