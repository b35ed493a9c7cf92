import Golden.Grammar.File
import Golden.Main
import Golden.Proofs.Grammar.Language
import Golden.Proofs.Run.Protocol
import Golden.Proofs.Run.LineComparison
import Golden.Proofs.Fixture.KeyedPairing
import Golden.Proofs.Diff.Reading
import Golden.Proofs.Run.Independence
import Golden.Proofs.Run.Repetition
import Golden.Proofs.Diff.Search
import Golden.Proofs.CommandLine.Quoting
import Golden.Proofs.Run.Accounting
import Golden.Proofs.Run.ExitCode
import Golden.Proofs.Report.JsonObject
import Golden.Proofs.Report.JsonStream
import Golden.Proofs.Grammar.Reading
import Golden.Proofs.Grammar.Composition
import Golden.Proofs.Grammar.Canonical
import Golden.Proofs.Options.Groups
import Golden.Proofs.Report.Transcript
import Golden.Proofs.Grammar.FirstCycle
import Golden.Proofs.Diff.Changes
import Golden.Proofs.Fixture.KeyedFaults
import Golden.Proofs.Fixture.UniformNames
import Golden.Proofs.Run.Freshness
import Golden.Proofs.Grammar.Relevance
import Golden.Proofs.Grammar.FaultPlace
import Golden.Proofs.Grammar.LineEndings
import Golden.Proofs.Grammar.FileExpansion
import Golden.Proofs.Text.Order
import Golden.Proofs.Report.ConsoleLines
import Golden.Proofs.Grammar.SearchStack
import Golden.Proofs.Fixture.NamingScheme
