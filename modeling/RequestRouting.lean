import RequestRouting.Method
import RequestRouting.Segment.Chain
import RequestRouting.Segment.Indexable
import RequestRouting.Pattern.Specificity
import RequestRouting.Condition.Basic
import RequestRouting.Request.Value
import RequestRouting.Json.Parser
import RequestRouting.Config
import RequestRouting.Condition.Document
import RequestRouting.Route.Linear
import RequestRouting.Tree.Display
import RequestRouting.Tree.Search
import RequestRouting.Table
import RequestRouting.Main
import RequestRouting.Proofs.Text.Utf8
import RequestRouting.Proofs.Text.Cut
import RequestRouting.Proofs.Text.Percent
import RequestRouting.Proofs.Text.Unescaped
import RequestRouting.Proofs.Condition.Expression
import RequestRouting.Proofs.Condition.Refinement
import RequestRouting.Proofs.Request.Query
import RequestRouting.Proofs.Segment.Chain
import RequestRouting.Proofs.Segment.Reading
import RequestRouting.Proofs.Segment.Display
import RequestRouting.Proofs.Segment.Alignment
import RequestRouting.Proofs.Regex.Reading
import RequestRouting.Proofs.Regex.Program
import RequestRouting.Proofs.Regex.Search
import RequestRouting.Proofs.Regex.Groups
import RequestRouting.Proofs.Regex.Passage
import RequestRouting.Proofs.Regex.Finding
import RequestRouting.Proofs.Pattern.Captures
import RequestRouting.Proofs.Pattern.Distribution
import RequestRouting.Proofs.Pattern.Alignment
import RequestRouting.Proofs.Pattern.Matching
import RequestRouting.Proofs.Pattern.Unknown
import RequestRouting.Proofs.Pattern.Literal
import RequestRouting.Proofs.Pattern.Specificity
import RequestRouting.Proofs.Pattern.Language
import RequestRouting.Proofs.Pattern.Correspondence
import RequestRouting.Proofs.Pattern.SharedChain
import RequestRouting.Proofs.Pattern.Reversal
import RequestRouting.Proofs.Pattern.Generation
import RequestRouting.Proofs.Pattern.Braces
import RequestRouting.Proofs.Pattern.Writing
import RequestRouting.Proofs.Tree.Structure
import RequestRouting.Proofs.Tree.Entries
import RequestRouting.Proofs.Tree.Contents
import RequestRouting.Proofs.Tree.Search
import RequestRouting.Proofs.Tree.PlainSearch
import RequestRouting.Proofs.Tree.Trials
import RequestRouting.Proofs.Tree.Coverage
import RequestRouting.Proofs.Tree.Precedence
import RequestRouting.Proofs.Tree.Exchange
import RequestRouting.Proofs.Tree.Paths
import RequestRouting.Proofs.Tree.Refinement
import RequestRouting.Proofs.Pattern.Weakening
import RequestRouting.Proofs.Route.Selection
import RequestRouting.Proofs.Route.Ranking
import RequestRouting.Proofs.Route.Leading
import RequestRouting.Proofs.Route.Renumbering
import RequestRouting.Proofs.Route.Circle
import RequestRouting.Proofs.Route.Outcome
import RequestRouting.Proofs.Registry.History
import RequestRouting.Proofs.Registry.Consistency
import RequestRouting.Proofs.Registry.Lookup
import RequestRouting.Proofs.Registry.Coverage
import RequestRouting.Proofs.Registry.Precedence
import RequestRouting.Proofs.Registry.Exchange
import RequestRouting.Proofs.Registry.Literal
import RequestRouting.Proofs.Registry.Removal
import RequestRouting.Proofs.Registry.Registration
import RequestRouting.Proofs.Registry.Batch
import RequestRouting.Proofs.Registry.Ambiguity
import RequestRouting.Proofs.Registry.Stability
import RequestRouting.Proofs.Registry.Permutation
import RequestRouting.Proofs.Registry.Siblings
