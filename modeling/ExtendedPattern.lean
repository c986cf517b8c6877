import ExtendedPattern.Main
import ExtendedPattern.Chain
import ExtendedPattern.RuleScript
import ExtendedPattern.Split
import ExtendedPattern.Proofs.Lookahead
import ExtendedPattern.Proofs.Recognition
import ExtendedPattern.Proofs.GlobalRegistry
import ExtendedPattern.Proofs.StandardRules
import ExtendedPattern.Proofs.Scanning
import ExtendedPattern.Proofs.Expression
import ExtendedPattern.Proofs.FirstToken
import ExtendedPattern.Proofs.Translation
import ExtendedPattern.Proofs.GroupReading
import ExtendedPattern.Proofs.Slots
import ExtendedPattern.Proofs.Alignment
import ExtendedPattern.Proofs.Spelling
import ExtendedPattern.Proofs.CharacterSearch
import ExtendedPattern.Proofs.Delimiters
import ExtendedPattern.Proofs.RunPattern
import ExtendedPattern.Proofs.EscapeRun
import ExtendedPattern.Proofs.BalancedPairs
import ExtendedPattern.Proofs.Places
import ExtendedPattern.Proofs.SearchSpans
import ExtendedPattern.Proofs.Leftmost
import ExtendedPattern.Proofs.AllMatches
import ExtendedPattern.Proofs.Replacement
import ExtendedPattern.Proofs.BalancedCall
import ExtendedPattern.Proofs.Tiling
import ExtendedPattern.Proofs.UnusedEscape
import ExtendedPattern.Proofs.CodeWays
import ExtendedPattern.Proofs.LockstepMatches
import ExtendedPattern.Proofs.ReadingInside
import ExtendedPattern.Proofs.RunReading
import ExtendedPattern.Proofs.References
import ExtendedPattern.Proofs.RunSearch
import ExtendedPattern.Proofs.Expansion
import ExtendedPattern.Proofs.TokenPlaces
import ExtendedPattern.Proofs.Conservation
import ExtendedPattern.Proofs.LiteralSearch
import ExtendedPattern.Proofs.SplitLimits
import ExtendedPattern.Proofs.Splitting
import ExtendedPattern.Proofs.PairedScans
import ExtendedPattern.Proofs.FlagMembers
import ExtendedPattern.Proofs.BundledRules
import ExtendedPattern.Proofs.Copying
import ExtendedPattern.Proofs.RegistryEdits
import ExtendedPattern.Proofs.RegistryRuns
import ExtendedPattern.Proofs.LibraryCalls
import ExtendedPattern.Proofs.Reentrance
import ExtendedPattern.Proofs.CallSequences
import ExtendedPattern.Proofs.ReadAhead
import ExtendedPattern.Proofs.Arrivals
import ExtendedPattern.Proofs.Vanishing
import ExtendedPattern.Proofs.LeadingModes
import ExtendedPattern.Proofs.Segments
import ExtendedPattern.Proofs.Neighbours
import ExtendedPattern.Proofs.CodePointData
import ExtendedPattern.Proofs.ClassBodies
import ExtendedPattern.Proofs.NamedData
import ExtendedPattern.Proofs.UnicodeTokens
import ExtendedPattern.Proofs.ClassContents
import ExtendedPattern.Proofs.ExplicitCapture
import ExtendedPattern.Proofs.PairPrefixes
import ExtendedPattern.Proofs.CanonicalSets
import ExtendedPattern.Proofs.Complements
import ExtendedPattern.Proofs.RenderedSets
import ExtendedPattern.Proofs.Chains
import ExtendedPattern.Proofs.SuccessiveCalls
import ExtendedPattern.Proofs.LiteralReplacement
