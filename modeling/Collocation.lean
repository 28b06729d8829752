import Collocation.Accessibility.Basic
import Collocation.Accessibility.Norms
import Collocation.Analysis
import Collocation.Archive.Gzip
import Collocation.Cache
import Collocation.CommandLine.Arguments
import Collocation.CommandLine.Basic
import Collocation.CommandLine.Report
import Collocation.Configuration
import Collocation.Corpus.Conllu
import Collocation.Corpus.Files
import Collocation.Corpus.Glob
import Collocation.Corpus.Path
import Collocation.Corpus.Selection
import Collocation.Corpus.Source
import Collocation.Dictionary
import Collocation.Digest.Sha256
import Collocation.Engine.Basic
import Collocation.Engine.Batch
import Collocation.Engine.History
import Collocation.Engine.Run
import Collocation.Engine.Store
import Collocation.Grammar.Basic
import Collocation.Grammar.Relation
import Collocation.Json.Reader
import Collocation.Json.Value
import Collocation.Json.Writer
import Collocation.Main
import Collocation.Pattern.Basic
import Collocation.Pattern.Constraint
import Collocation.Pattern.Draft
import Collocation.Pattern.Error
import Collocation.Pattern.Reader
import Collocation.Pattern.Search
import Collocation.Pattern.Written
import Collocation.Proofs.Cache.Entries
import Collocation.Proofs.Corpus.Blocks
import Collocation.Proofs.Corpus.Fetching
import Collocation.Proofs.Corpus.Rendering
import Collocation.Proofs.Corpus.Rows
import Collocation.Proofs.Corpus.Separation
import Collocation.Proofs.Count.Afresh
import Collocation.Proofs.Count.Histories
import Collocation.Proofs.Count.Invariants
import Collocation.Proofs.Count.Sharding
import Collocation.Proofs.Count.Sharing
import Collocation.Proofs.Count.Sightings
import Collocation.Proofs.Count.Skipping
import Collocation.Proofs.Count.Splitting
import Collocation.Proofs.Count.Symmetry
import Collocation.Proofs.Count.Tasks
import Collocation.Proofs.Engine.Accounting
import Collocation.Proofs.Engine.Analyses
import Collocation.Proofs.Engine.Convergence
import Collocation.Proofs.Engine.Definitions
import Collocation.Proofs.Engine.Durable
import Collocation.Proofs.Engine.Frame
import Collocation.Proofs.Engine.Lifecycle
import Collocation.Proofs.Engine.Marginals
import Collocation.Proofs.Engine.Operations
import Collocation.Proofs.Engine.Progress
import Collocation.Proofs.Engine.Provenance
import Collocation.Proofs.Engine.Refusals
import Collocation.Proofs.Engine.Rows
import Collocation.Proofs.Engine.Samples
import Collocation.Proofs.Engine.Session
import Collocation.Proofs.Engine.Sketches
import Collocation.Proofs.Engine.Totals
import Collocation.Proofs.Engine.Writes
import Collocation.Proofs.Grammar.Narrowed
import Collocation.Proofs.Grammar.Relations
import Collocation.Proofs.Grammar.Stream
import Collocation.Proofs.Pattern.Backtracking
import Collocation.Proofs.Pattern.Conditions
import Collocation.Proofs.Pattern.Labels
import Collocation.Proofs.Pattern.Occurrences
import Collocation.Proofs.Pattern.Positions
import Collocation.Proofs.Pattern.Recovery
import Collocation.Proofs.Pattern.Spelling
import Collocation.Proofs.Pattern.Validity
import Collocation.Proofs.Pattern.WellFormed
import Collocation.Proofs.Score.Ranking
import Collocation.Proofs.Score.Records
import Collocation.Proofs.Table.Ascending
import Collocation.Proofs.Table.Dictionary
import Collocation.Proofs.Tally.Append
import Collocation.Proofs.Tally.Marginals
import Collocation.Proofs.Tally.Sightings
import Collocation.Proofs.Text.Bytes
import Collocation.Proofs.Text.Fields
import Collocation.Regex.Assembly
import Collocation.Regex.Automaton
import Collocation.Regex.ByteRanges
import Collocation.Regex.ClassSet
import Collocation.Regex.Expr
import Collocation.Regex.Meaning
import Collocation.Regex.Outline
import Collocation.Regex.Pattern
import Collocation.Regex.Reader
import Collocation.Regex.Tree
import Collocation.Score.Association
import Collocation.Score.Record
import Collocation.Score.Sketch
import Collocation.Sentence.Basic
import Collocation.Sentence.Features
import Collocation.Table
import Collocation.Tagset
import Collocation.Tally.Basic
import Collocation.Tally.Count
import Collocation.Tally.Lexeme
import Collocation.Text.Blank
import Collocation.Text.Bytes
import Collocation.Text.Elapsed
import Collocation.Text.Fields
import Collocation.Text.Fixed
import Collocation.Text.Hexadecimal
import Collocation.Text.Integer
import Collocation.Text.Quoted
import Collocation.Text.Real
import Collocation.Unicode.Age
import Collocation.Unicode.Break
import Collocation.Unicode.CaseFold
import Collocation.Unicode.Category
import Collocation.Unicode.CodeSet
import Collocation.Unicode.Display
import Collocation.Unicode.Property
import Collocation.Unicode.Script
import Collocation.Proofs.Cache.Recency
import Collocation.Proofs.Sentence.Addresses
import Collocation.Proofs.Cache.Warming
import Collocation.Proofs.Engine.Warming
import Collocation.Proofs.Regex.Remainders
import Collocation.Proofs.Regex.ClassRemainders
import Collocation.Proofs.Regex.GroupRemainders
import Collocation.Proofs.Regex.Ends
import Collocation.Proofs.Regex.Reading
import Collocation.Proofs.Regex.Anchoring
import Collocation.Proofs.Pattern.Comparisons
import Collocation.Proofs.Count.Merging
import Collocation.Proofs.Pattern.Spans
import Collocation.Proofs.Corpus.Identifiers
