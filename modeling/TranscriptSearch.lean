import TranscriptSearch.Command.Arguments
import TranscriptSearch.Command.Files
import TranscriptSearch.Command.Report
import TranscriptSearch.Command.Run
import TranscriptSearch.Event.Basic
import TranscriptSearch.Event.Decode
import TranscriptSearch.Event.Encode
import TranscriptSearch.Event.Message
import TranscriptSearch.Event.Record
import TranscriptSearch.Event.Template
import TranscriptSearch.Event.Text
import TranscriptSearch.Find.Debounce
import TranscriptSearch.Find.Finder
import TranscriptSearch.Find.Highlighting
import TranscriptSearch.Find.Landing
import TranscriptSearch.Find.Outcome
import TranscriptSearch.Find.Panel
import TranscriptSearch.Find.Schedule
import TranscriptSearch.Find.Session
import TranscriptSearch.Find.Ticket
import TranscriptSearch.Find.Visibility
import TranscriptSearch.Json.Parser
import TranscriptSearch.Json.Printer
import TranscriptSearch.Json.Value
import TranscriptSearch.Main
import TranscriptSearch.Match.Segments
import TranscriptSearch.Match.Span
import TranscriptSearch.Match.Term
import TranscriptSearch.Number.Binary64
import TranscriptSearch.Number.Shortest
import TranscriptSearch.Number.Sum
import TranscriptSearch.Proofs.Command.Excerpts
import TranscriptSearch.Proofs.Command.ItemListing
import TranscriptSearch.Proofs.Event.Placeholders
import TranscriptSearch.Proofs.Event.PrintableTexts
import TranscriptSearch.Proofs.Event.RoundTrip
import TranscriptSearch.Proofs.Find.AgreeingAnswers
import TranscriptSearch.Proofs.Find.CursorSteps
import TranscriptSearch.Proofs.Find.FinalHighlights
import TranscriptSearch.Proofs.Find.FinderSession
import TranscriptSearch.Proofs.Find.FixedCounts
import TranscriptSearch.Proofs.Find.FollowingAgain
import TranscriptSearch.Proofs.Find.FoundRow
import TranscriptSearch.Proofs.Find.FreshHighlights
import TranscriptSearch.Proofs.Find.HeldText
import TranscriptSearch.Proofs.Find.LandingOrder
import TranscriptSearch.Proofs.Find.LandingRounds
import TranscriptSearch.Proofs.Find.Landings
import TranscriptSearch.Proofs.Find.OverlappingSteps
import TranscriptSearch.Proofs.Find.PanelRuns
import TranscriptSearch.Proofs.Find.PendingGoTo
import TranscriptSearch.Proofs.Find.ProgrammaticScroll
import TranscriptSearch.Proofs.Find.Recording
import TranscriptSearch.Proofs.Find.Recounting
import TranscriptSearch.Proofs.Find.Registration
import TranscriptSearch.Proofs.Find.RepeatedIds
import TranscriptSearch.Proofs.Find.SearchedPanels
import TranscriptSearch.Proofs.Find.SessionLabels
import TranscriptSearch.Proofs.Find.SessionRuns
import TranscriptSearch.Proofs.Find.SteadySurfaces
import TranscriptSearch.Proofs.Find.StepEnds
import TranscriptSearch.Proofs.Find.StepTickets
import TranscriptSearch.Proofs.Find.Superseding
import TranscriptSearch.Proofs.Find.TicketRuns
import TranscriptSearch.Proofs.Find.Tickets
import TranscriptSearch.Proofs.Json.LongerLiterals
import TranscriptSearch.Proofs.Json.LongerTexts
import TranscriptSearch.Proofs.Json.ValueEquality
import TranscriptSearch.Proofs.Match.FoldedScan
import TranscriptSearch.Proofs.Match.LeftmostScan
import TranscriptSearch.Proofs.Match.MatchedTexts
import TranscriptSearch.Proofs.Match.Packing
import TranscriptSearch.Proofs.Match.SpanOrder
import TranscriptSearch.Proofs.Match.WordMatches
import TranscriptSearch.Proofs.Number.Blocks
import TranscriptSearch.Proofs.Screen.Announcements
import TranscriptSearch.Proofs.Screen.AppendedBelow
import TranscriptSearch.Proofs.Screen.Document
import TranscriptSearch.Proofs.Screen.DrawnRows
import TranscriptSearch.Proofs.Screen.FittedRows
import TranscriptSearch.Proofs.Screen.FoundRanges
import TranscriptSearch.Proofs.Screen.KeepingUp
import TranscriptSearch.Proofs.Screen.LaidOut
import TranscriptSearch.Proofs.Screen.LineTable
import TranscriptSearch.Proofs.Screen.MatchedRows
import TranscriptSearch.Proofs.Screen.Measured
import TranscriptSearch.Proofs.Screen.PaintedRows
import TranscriptSearch.Proofs.Screen.RenderedCount
import TranscriptSearch.Proofs.Screen.Rendering
import TranscriptSearch.Proofs.Screen.SameScreen
import TranscriptSearch.Proofs.Screen.ScreenSearch
import TranscriptSearch.Proofs.Screen.ScrollLines
import TranscriptSearch.Proofs.Screen.ScrollMoves
import TranscriptSearch.Proofs.Screen.ScrollRuns
import TranscriptSearch.Proofs.Screen.ScrollToItem
import TranscriptSearch.Proofs.Screen.SearchRuns
import TranscriptSearch.Proofs.Screen.ShownLines
import TranscriptSearch.Proofs.Screen.ShownNotes
import TranscriptSearch.Proofs.Screen.ShownTexts
import TranscriptSearch.Proofs.Screen.VerbatimTexts
import TranscriptSearch.Proofs.Screen.ViewRuns
import TranscriptSearch.Proofs.Screen.WholeItems
import TranscriptSearch.Proofs.Text.BlankCase
import TranscriptSearch.Proofs.Text.Boundaries
import TranscriptSearch.Proofs.Text.CheckedSlices
import TranscriptSearch.Proofs.Text.ColumnRows
import TranscriptSearch.Proofs.Text.Lines
import TranscriptSearch.Proofs.Text.Pieces
import TranscriptSearch.Proofs.Text.PlainColumns
import TranscriptSearch.Proofs.Text.WideRows
import TranscriptSearch.Proofs.Text.WordRows
import TranscriptSearch.Proofs.Transcript.FileShapes
import TranscriptSearch.Proofs.Transcript.Growth
import TranscriptSearch.Proofs.Transcript.ItemIds
import TranscriptSearch.Proofs.Transcript.KeptCounts
import TranscriptSearch.Proofs.Transcript.LineLayout
import TranscriptSearch.Proofs.Transcript.Lookup
import TranscriptSearch.Proofs.Transcript.NextItem
import TranscriptSearch.Proofs.Transcript.Numbering
import TranscriptSearch.Proofs.Transcript.OpenSpans
import TranscriptSearch.Proofs.Transcript.Resolver
import TranscriptSearch.Proofs.Viewer.FollowedFile
import TranscriptSearch.Proofs.Viewer.Notices
import TranscriptSearch.Proofs.Viewer.TypedTerm
import TranscriptSearch.Screen.Canvas
import TranscriptSearch.Screen.Cell
import TranscriptSearch.Screen.Paint
import TranscriptSearch.Screen.RenderedItem
import TranscriptSearch.Screen.Scroll
import TranscriptSearch.Screen.Style
import TranscriptSearch.Screen.Surface
import TranscriptSearch.Screen.Terminal
import TranscriptSearch.Screen.View
import TranscriptSearch.Settings.Basic
import TranscriptSearch.Settings.Decode
import TranscriptSearch.Settings.Template
import TranscriptSearch.Settings.Verbosity
import TranscriptSearch.Surface.Basic
import TranscriptSearch.Surface.Paged
import TranscriptSearch.Surface.RenderSurface
import TranscriptSearch.Text.Blank
import TranscriptSearch.Text.Bytes
import TranscriptSearch.Text.Case
import TranscriptSearch.Text.CaseTable
import TranscriptSearch.Text.Cluster
import TranscriptSearch.Text.ClusterTable
import TranscriptSearch.Text.CodePoints
import TranscriptSearch.Text.ColumnTable
import TranscriptSearch.Text.Columns
import TranscriptSearch.Text.PictographTable
import TranscriptSearch.Text.Wrap
import TranscriptSearch.Timestamp
import TranscriptSearch.Toml.Document
import TranscriptSearch.Toml.Lexeme
import TranscriptSearch.Toml.Value
import TranscriptSearch.Transcript.Basic
import TranscriptSearch.Transcript.Counts
import TranscriptSearch.Transcript.Item
import TranscriptSearch.Transcript.Source
import TranscriptSearch.Viewer.FindBar
import TranscriptSearch.Viewer.Frame
import TranscriptSearch.Viewer.Key
import TranscriptSearch.Viewer.Script
import TranscriptSearch.Viewer.Viewer
