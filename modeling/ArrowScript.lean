import ArrowScript.Main
import ArrowScript.Proofs.Analysis.ConsistentRenaming
import ArrowScript.Proofs.Analysis.FirstDeclarations
import ArrowScript.Proofs.Analysis.Interning
import ArrowScript.Proofs.Analysis.Reordering
import ArrowScript.Proofs.Analysis.ResolvingOnce
import ArrowScript.Proofs.Analysis.ScopeMaps
import ArrowScript.Proofs.Analysis.Sessions
import ArrowScript.Proofs.Analysis.Soundness
import ArrowScript.Proofs.Analysis.StoppingChains
import ArrowScript.Proofs.Analysis.VisitingReads
import ArrowScript.Proofs.Compilation.Completeness
import ArrowScript.Proofs.Compilation.LineEndStyles
import ArrowScript.Proofs.Compilation.Located
import ArrowScript.Proofs.Grammar.BuildingStatements
import ArrowScript.Proofs.Grammar.Concatenation
import ArrowScript.Proofs.Grammar.Numbering
import ArrowScript.Proofs.Grammar.Peeking
import ArrowScript.Proofs.Grammar.SeparateLines
import ArrowScript.Proofs.Grammar.TerseRoundTrip
import ArrowScript.Proofs.Grammar.TypeArguments
import ArrowScript.Proofs.Token.CombinedSpans
import ArrowScript.Proofs.Token.Lines
