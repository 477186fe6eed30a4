import Condition.Evaluator
import Condition.Main
import Condition.Proofs.Arguments
import Condition.Proofs.ArrayLiterals
import Condition.Proofs.Conditions
import Condition.Proofs.Kinds
import Condition.Proofs.LexemeLists
import Condition.Proofs.Lookaheads
import Condition.Proofs.OpenGroups
import Condition.Proofs.PathDepth
import Condition.Proofs.PatternOperands
import Condition.Proofs.PutBack
import Condition.Proofs.QueryRuns
import Condition.Proofs.RoundTrip
import Condition.Proofs.Strictness
import Condition.Proofs.WalkDepth
import Condition.Proofs.PathPieces
import Condition.Proofs.PathGrammar
import Condition.Proofs.PathComposition
import Condition.Proofs.PathTexts
import Condition.Proofs.ArgumentJson
import Condition.Proofs.SameTrees
import Condition.Proofs.Relevance
import Condition.Proofs.ErasedGroups
import Condition.Proofs.PathGenerators
import Condition.Proofs.ArrayOperands
import Condition.Proofs.QueryResults
import Condition.Proofs.Enclosures
import Condition.Proofs.LiteralTexts
import Condition.Proofs.NumberTokens
import Condition.Proofs.Membership
import Condition.Proofs.BracketPaths
import Condition.Proofs.Culprits
import Condition.Proofs.Layouts
import Condition.Proofs.Insertions
import Condition.Proofs.Checks
import Condition.Proofs.CommandLines
import Condition.Proofs.Indices
import Condition.Proofs.Negations
import Condition.Proofs.Spines
import Condition.Proofs.Exhaustion
import Condition.Proofs.PathPositions
