import Commentary.Cursor.Family
import Commentary.Main
import Commentary.Pattern
import Commentary.Proofs.Confinement
import Commentary.Proofs.Grouping
import Commentary.Proofs.Page
import Commentary.Record.Forms
import Commentary.Session
import Commentary.Proofs.Collapsing
import Commentary.Proofs.Seams
import Commentary.Proofs.Blanks
import Commentary.Proofs.Spans
import Commentary.Proofs.Tabs
import Commentary.Proofs.Legible
import Commentary.Proofs.MarkerFamilies
import Commentary.Proofs.Separators
import Commentary.Proofs.Folding
import Commentary.Proofs.LiveLines
import Commentary.Proofs.KeptLines
import Commentary.Proofs.TabExpansion
import Commentary.Proofs.Utf8RoundTrip
import Commentary.Proofs.Hooks
import Commentary.Proofs.LineEndings
import Commentary.Proofs.KeyNames
import Commentary.Proofs.SpanNormalForm
import Commentary.Proofs.FileTrees
import Commentary.Proofs.Paths
import Commentary.Proofs.Writes
import Commentary.Proofs.Controls
import Commentary.Proofs.Encodings
import Commentary.Proofs.Runs
import Commentary.Proofs.Lookahead
import Commentary.Proofs.TitleLines
import Commentary.Proofs.DeclaredFields
import Commentary.Proofs.Cleaning
import Commentary.Proofs.Layout
import Commentary.Proofs.CursorRuns
import Commentary.Proofs.ShownHeaders
import Commentary.Proofs.TrailingPeriods
