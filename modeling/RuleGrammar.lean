import RuleGrammar.Action.Run
import RuleGrammar.Grammar.Registry
import RuleGrammar.Json.Actions
import RuleGrammar.Main
import RuleGrammar.Proofs.MatchTree.Bare
import RuleGrammar.Proofs.Matcher.Lockstep
import RuleGrammar.Proofs.Matcher.LoopLockstep
import RuleGrammar.Proofs.Matcher.EvalLockstep
import RuleGrammar.Proofs.Grammar.Visible
import RuleGrammar.Proofs.Matcher.ApplyLockstep
import RuleGrammar.Proofs.Matcher.Nesting
import RuleGrammar.Proofs.Matcher.Termination
import RuleGrammar.Proofs.Grammar.Built
import RuleGrammar.Proofs.Matcher.Unguarded
import RuleGrammar.Proofs.Matcher.Halting
import RuleGrammar.Proofs.Matcher.Memoization
import RuleGrammar.Proofs.Matcher.Derivation
import RuleGrammar.Proofs.Matcher.Ends
import RuleGrammar.Proofs.Grammar.Checked
import RuleGrammar.Proofs.Matcher.Soundness
import RuleGrammar.Proofs.Matcher.Completeness
import RuleGrammar.Proofs.Matcher.Reentry
import RuleGrammar.Proofs.Grammar.LeftRank
import RuleGrammar.Proofs.Grammar.Nullability
import RuleGrammar.Proofs.Grammar.Provenance
import RuleGrammar.Proofs.Matcher.Grounded
import RuleGrammar.Proofs.MatchTree.Order
import RuleGrammar.Proofs.Matcher.History
import RuleGrammar.Proofs.Matcher.Recording
import RuleGrammar.Proofs.Matcher.Placement
import RuleGrammar.Proofs.Matcher.Agreement
import RuleGrammar.Proofs.Matcher.Reading
import RuleGrammar.Proofs.Json.Nodes
import RuleGrammar.Proofs.Matcher.Consuming
import RuleGrammar.Proofs.Json.Rules
import RuleGrammar.Proofs.Json.Classes
import RuleGrammar.Proofs.Json.Comments
import RuleGrammar.Proofs.Json.Numbers
import RuleGrammar.Proofs.Json.Strings
import RuleGrammar.Proofs.Json.Values
import RuleGrammar.Proofs.Json.Trees
import RuleGrammar.Proofs.Json.Language
import RuleGrammar.Proofs.Json.Blank
import RuleGrammar.Proofs.Json.Blanking
import RuleGrammar.Proofs.Action.Acting
import RuleGrammar.Proofs.Action.Members
import RuleGrammar.Proofs.Json.Lexemes
import RuleGrammar.Proofs.MatchTree.Views
import RuleGrammar.Proofs.Json.Payloads
import RuleGrammar.Proofs.Json.Decoding
import RuleGrammar.Proofs.Matcher.Ensuring
import RuleGrammar.Proofs.Json.Depth
import RuleGrammar.Proofs.Grammar.Reached
import RuleGrammar.Proofs.Matcher.Confinement
import RuleGrammar.Proofs.Grammar.SpacedOut
import RuleGrammar.Proofs.Matcher.SpacedBodies
import RuleGrammar.Proofs.Matcher.SpacedRuns
import RuleGrammar.Proofs.Matcher.Capturing
import RuleGrammar.Proofs.Matcher.Rederivation
import RuleGrammar.Proofs.Matcher.Books
import RuleGrammar.Proofs.Matcher.Bookkeeping
import RuleGrammar.Proofs.Matcher.Reuse
import RuleGrammar.Proofs.Action.PostOrder
import RuleGrammar.Proofs.Action.Slots
import RuleGrammar.Proofs.Action.Sharing
import RuleGrammar.Proofs.Text.Categories
import RuleGrammar.Proofs.Text.Numerals
import RuleGrammar.Proofs.Notation.Yields
import RuleGrammar.Proofs.Notation.Normal
import RuleGrammar.Proofs.Notation.Declarations
import RuleGrammar.Proofs.Notation.Written
import RuleGrammar.Proofs.Notation.Reads
import RuleGrammar.Proofs.Notation.Lexemes
import RuleGrammar.Proofs.Notation.Levels
import RuleGrammar.Proofs.Notation.Atoms
import RuleGrammar.Proofs.Notation.RoundTrip
import RuleGrammar.Proofs.Matcher.Notes
import RuleGrammar.Proofs.MatchTree.Children
import RuleGrammar.Proofs.Matcher.Trials
import RuleGrammar.Proofs.Matcher.Staying
import RuleGrammar.Proofs.Matcher.CaptureOrder
import RuleGrammar.Proofs.Matcher.FailureReports
import RuleGrammar.Proofs.Command.ExitCodes
import RuleGrammar.Proofs.Notation.Outline
import RuleGrammar.Proofs.Notation.Conflicts
import RuleGrammar.Proofs.MatchTree.Alike
import RuleGrammar.Proofs.Matcher.Naming
import RuleGrammar.Proofs.Matcher.Rounds
import RuleGrammar.Proofs.Matcher.Unrolling
import RuleGrammar.Proofs.Matcher.LeftEdge
import RuleGrammar.Proofs.Grammar.LeastNullable
import RuleGrammar.Proofs.Grammar.LeftCycle
import RuleGrammar.Proofs.Grammar.Keys
import RuleGrammar.Proofs.Grammar.Merging
import RuleGrammar.Proofs.Matcher.Summary
import RuleGrammar.Proofs.Matcher.DepthLimit
import RuleGrammar.Proofs.MatchTree.Shifted
import RuleGrammar.Proofs.Matcher.Shifting
import RuleGrammar.Proofs.Matcher.ShiftedBodies
import RuleGrammar.Proofs.Matcher.ShiftedRuns
import RuleGrammar.Proofs.Matcher.Longest
import RuleGrammar.Proofs.Matcher.Settling
import RuleGrammar.Proofs.Matcher.LongestPaths
import RuleGrammar.Proofs.Text.Lines
import RuleGrammar.Proofs.Text.BracketSets
import RuleGrammar.Proofs.Text.Patterns
import RuleGrammar.Proofs.Matcher.Invariants
import RuleGrammar.Proofs.Matcher.FailureShape
import RuleGrammar.Proofs.Matcher.Participation
import RuleGrammar.Proofs.Matcher.Accounting
import RuleGrammar.Proofs.Matcher.CaptureShapes
import RuleGrammar.Proofs.Matcher.Quiet
import RuleGrammar.Proofs.Matcher.SharedLog
import RuleGrammar.Proofs.Matcher.LogKeeping
import RuleGrammar.Proofs.Notation.Watch
import RuleGrammar.Proofs.Notation.Within
import RuleGrammar.Proofs.Notation.Watching
import RuleGrammar.Proofs.Notation.ErrorPlaces
