import StreamOverloads.Main
import StreamOverloads.Store.Memory
import StreamOverloads.Proofs.Bytes.Trimming
import StreamOverloads.Proofs.Line.Division
import StreamOverloads.Proofs.Line.UniqueDivision
import StreamOverloads.Proofs.Line.LineFeeds
import StreamOverloads.Proofs.Line.Rejoining
import StreamOverloads.Proofs.Declaration.Recognition
import StreamOverloads.Proofs.Declaration.Counting
import StreamOverloads.Proofs.AmendedHeader.Reading
import StreamOverloads.Proofs.AmendedHeader.OutputLanguage
import StreamOverloads.Proofs.AmendedHeader.Repetition
import StreamOverloads.Proofs.AmendedHeader.Layout
import StreamOverloads.Proofs.AmendedHeader.Body
import StreamOverloads.Proofs.AmendedHeader.ByteCounts
import StreamOverloads.Proofs.AmendedHeader.LineEnds
import StreamOverloads.Proofs.MemoryStore.Runs
import StreamOverloads.Proofs.MemoryStore.Commands
import StreamOverloads.Proofs.FileTree.Lookup
import StreamOverloads.Proofs.FileTree.Directories
import StreamOverloads.Proofs.FileTree.Writing
import StreamOverloads.Proofs.FileTree.Frame
import StreamOverloads.Proofs.FileTree.Passage
import StreamOverloads.Proofs.FileTree.Writable
import StreamOverloads.Proofs.Config.Check
import StreamOverloads.Proofs.FileStore.Effects
import StreamOverloads.Proofs.FileStore.SourceSafety
import StreamOverloads.Proofs.Program.Endings
import StreamOverloads.Proofs.Bytes.Core
import StreamOverloads.Proofs.Path.Ascent
import StreamOverloads.Proofs.Path.Respelling
import StreamOverloads.Proofs.Config.Verdict
import StreamOverloads.Proofs.Options.Acceptance
import StreamOverloads.Proofs.Options.Help
import StreamOverloads.Proofs.Program.Verbosity
import StreamOverloads.Proofs.Failure.Message
