import CslProcessor.Collection.Assoc
import CslProcessor.Collection.ListSet
import CslProcessor.Data.AuthorDate
import CslProcessor.Data.Basic
import CslProcessor.Data.Call
import CslProcessor.Data.Context
import CslProcessor.Data.Entry
import CslProcessor.Data.Environment
import CslProcessor.Data.Log
import CslProcessor.Data.Output
import CslProcessor.Data.Reading
import CslProcessor.Data.Run
import CslProcessor.Data.Session
import CslProcessor.Data.Style
import CslProcessor.Date.Basic
import CslProcessor.Date.Render
import CslProcessor.Disambiguation.AuthorDate
import CslProcessor.Disambiguation.Policy
import CslProcessor.Disambiguation.Resolution
import CslProcessor.Disambiguation.State
import CslProcessor.Disambiguation.Suffix
import CslProcessor.Disambiguation.Tracker
import CslProcessor.Entry.Basic
import CslProcessor.Entry.Description
import CslProcessor.Entry.Serial
import CslProcessor.Entry.Variable
import CslProcessor.Failure.Basic
import CslProcessor.Failure.Kind
import CslProcessor.Locale.AmericanEnglish
import CslProcessor.Locale.Basic
import CslProcessor.Log.Call
import CslProcessor.Log.Record
import CslProcessor.Log.Registry
import CslProcessor.Log.SessionLog
import CslProcessor.Name.Basic
import CslProcessor.Name.Format
import CslProcessor.Name.List
import CslProcessor.Number.Basic
import CslProcessor.Number.Format
import CslProcessor.Number.Range
import CslProcessor.Number.Roman
import CslProcessor.Processor.Basic
import CslProcessor.Processor.Call
import CslProcessor.Proofs.Collection.Prefix
import CslProcessor.Proofs.Collection.Repetition
import CslProcessor.Proofs.Date.Blocks
import CslProcessor.Proofs.Date.Parts
import CslProcessor.Proofs.Date.Ranges
import CslProcessor.Proofs.Disambiguation.AuthorDate
import CslProcessor.Proofs.Disambiguation.Batches
import CslProcessor.Proofs.Disambiguation.Bookkeeping
import CslProcessor.Proofs.Disambiguation.Budget
import CslProcessor.Proofs.Disambiguation.Counting
import CslProcessor.Proofs.Disambiguation.Exposure
import CslProcessor.Proofs.Disambiguation.Fixpoint
import CslProcessor.Proofs.Disambiguation.Frames
import CslProcessor.Proofs.Disambiguation.Growth
import CslProcessor.Proofs.Disambiguation.Histories
import CslProcessor.Proofs.Disambiguation.Incremental
import CslProcessor.Proofs.Disambiguation.Keeping
import CslProcessor.Proofs.Disambiguation.Letters
import CslProcessor.Proofs.Disambiguation.Lockstep
import CslProcessor.Proofs.Disambiguation.Lookalikes
import CslProcessor.Proofs.Disambiguation.Mirroring
import CslProcessor.Proofs.Disambiguation.Moves
import CslProcessor.Proofs.Disambiguation.Numerals
import CslProcessor.Proofs.Disambiguation.Passes
import CslProcessor.Proofs.Disambiguation.Plans
import CslProcessor.Proofs.Disambiguation.Points
import CslProcessor.Proofs.Disambiguation.Sequences
import CslProcessor.Proofs.Disambiguation.Unhelpful
import CslProcessor.Proofs.Name.Shapes
import CslProcessor.Proofs.Name.Shown
import CslProcessor.Proofs.Number.Ends
import CslProcessor.Proofs.Number.Hyphens
import CslProcessor.Proofs.Number.Lists
import CslProcessor.Proofs.Number.Ranges
import CslProcessor.Proofs.Processor.Numbers
import CslProcessor.Proofs.Processor.Places
import CslProcessor.Proofs.Processor.Refusals
import CslProcessor.Proofs.Processor.Restricted
import CslProcessor.Proofs.Render.Descent
import CslProcessor.Proofs.Render.Elements
import CslProcessor.Proofs.Render.Failures
import CslProcessor.Proofs.Render.Groups
import CslProcessor.Proofs.Render.Log
import CslProcessor.Proofs.Render.Looks
import CslProcessor.Proofs.Render.Marks
import CslProcessor.Proofs.Render.Placing
import CslProcessor.Proofs.Render.Returning
import CslProcessor.Proofs.Render.Substitutes
import CslProcessor.Proofs.Render.Suppression
import CslProcessor.Proofs.Render.Tags
import CslProcessor.Proofs.Render.Tally
import CslProcessor.Proofs.Render.Trace
import CslProcessor.Proofs.Render.Verbatim
import CslProcessor.Proofs.Render.VerbatimRuns
import CslProcessor.Proofs.Render.YearLetters
import CslProcessor.Proofs.Run.Clashes
import CslProcessor.Proofs.Run.Content
import CslProcessor.Proofs.Run.Seams
import CslProcessor.Proofs.Sequence
import CslProcessor.Proofs.Session.Calls
import CslProcessor.Proofs.Session.Coherence
import CslProcessor.Proofs.Session.Course
import CslProcessor.Proofs.Session.History
import CslProcessor.Proofs.Session.Locating
import CslProcessor.Proofs.Session.Numbering
import CslProcessor.Proofs.Session.Outline
import CslProcessor.Proofs.Session.Positions
import CslProcessor.Proofs.Session.Refreshing
import CslProcessor.Proofs.Session.Registration
import CslProcessor.Proofs.Session.Reports
import CslProcessor.Proofs.Session.Separation
import CslProcessor.Proofs.Session.Steps
import CslProcessor.Proofs.Settings.Bounds
import CslProcessor.Proofs.Settings.Expansion
import CslProcessor.Proofs.Settings.Overriding
import CslProcessor.Proofs.Settings.References
import CslProcessor.Proofs.Sorting.Entries
import CslProcessor.Proofs.Sorting.Homogeneous
import CslProcessor.Proofs.Sorting.Insertion
import CslProcessor.Proofs.Sorting.Order
import CslProcessor.Proofs.Text.Bare
import CslProcessor.Proofs.Text.Braces
import CslProcessor.Proofs.Text.Capitals
import CslProcessor.Proofs.Text.Digits
import CslProcessor.Proofs.Text.Lettering
import CslProcessor.Proofs.Unicode.Classes
import CslProcessor.Render.Basic
import CslProcessor.Render.Context
import CslProcessor.Render.Element
import CslProcessor.Render.Walk
import CslProcessor.Run.Basic
import CslProcessor.Run.Flags
import CslProcessor.Run.Output
import CslProcessor.Run.Punctuation
import CslProcessor.Session.Basic
import CslProcessor.Session.Bibliography
import CslProcessor.Session.Call
import CslProcessor.Session.Event
import CslProcessor.Session.History
import CslProcessor.Session.Store
import CslProcessor.Settings.Basic
import CslProcessor.Settings.Environment
import CslProcessor.Settings.Expansion
import CslProcessor.Settings.Files
import CslProcessor.Settings.Load
import CslProcessor.Sorting.Basic
import CslProcessor.Sorting.Insertion
import CslProcessor.Sorting.Value
import CslProcessor.Style.Basic
import CslProcessor.Style.Builtin.Apa
import CslProcessor.Style.Builtin.ChicagoNote
import CslProcessor.Style.Builtin.Ieee
import CslProcessor.Style.Builtin.Registry
import CslProcessor.Style.Builtin.Shared
import CslProcessor.Style.Formatting
import CslProcessor.Style.Node
import CslProcessor.Style.Options
import CslProcessor.Text.Basic
import CslProcessor.Text.Case
import CslProcessor.Text.Integer
import CslProcessor.Text.Marked
import CslProcessor.Text.Quoted
import CslProcessor.Text.Template
import CslProcessor.Unicode.Case
import CslProcessor.Unicode.Decomposition
import CslProcessor.Unicode.Identifier
import CslProcessor.Unicode.Property
import CslProcessor.Unicode.Table
import CslProcessor.Yaml.Reader
import CslProcessor.Yaml.Scalar
import CslProcessor.Yaml.Writer
