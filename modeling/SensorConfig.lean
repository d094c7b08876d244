import SensorConfig.Cause
import SensorConfig.CommandLine.Log
import SensorConfig.CommandLine.Run
import SensorConfig.CommandLine.World
import SensorConfig.Compile
import SensorConfig.Environment
import SensorConfig.Fault
import SensorConfig.FileTree
import SensorConfig.FileTree.Replace
import SensorConfig.Grammar.Lexeme
import SensorConfig.Grammar.Preamble
import SensorConfig.Grammar.SetLine
import SensorConfig.Grammar.WrittenValue
import SensorConfig.Listing
import SensorConfig.Main
import SensorConfig.Meaning.Operand
import SensorConfig.Meaning.Program
import SensorConfig.Meaning.Setting
import SensorConfig.Path
import SensorConfig.Program
import SensorConfig.Proofs.RecordsReadBack
import SensorConfig.Proofs.SignificantLines
import SensorConfig.Records
import SensorConfig.Records.Decode
import SensorConfig.Records.LittleEndian
import SensorConfig.Registry
import SensorConfig.Session
import SensorConfig.Source
import SensorConfig.Source.PhysicalLines
import SensorConfig.SourceText
import SensorConfig.Text.Blank
import SensorConfig.Text.Numeral
import SensorConfig.Text.Utf8
import SensorConfig.Proofs.ProgramGrammar
import SensorConfig.Proofs.CompiledPrograms
import SensorConfig.Proofs.Utf8RoundTrip
import SensorConfig.Proofs.PrintedPrograms
import SensorConfig.Source.ByteCursor
import SensorConfig.Proofs.LineCursors
import SensorConfig.Proofs.ListingOffsets
import SensorConfig.Proofs.ReadingByLines
import SensorConfig.Proofs.FirstFault
import SensorConfig.Proofs.ResumedReading
import SensorConfig.Proofs.ReplacedFiles
import SensorConfig.Proofs.CompiledFiles
import SensorConfig.Proofs.CommandLineRuns
import SensorConfig.Proofs.FaultMessages
import SensorConfig.Proofs.ConsultedFiles
import SensorConfig.Proofs.LayoutEdits
import SensorConfig.Proofs.SetLineSplits
import SensorConfig.Proofs.ListingsCompared
import SensorConfig.Proofs.IntegerValues
import SensorConfig.Proofs.BoundedFiles
import SensorConfig.Proofs.PreambleVersions
import SensorConfig.Proofs.SpellingsOfValues
import SensorConfig.Proofs.SetLineFaults
import SensorConfig.Proofs.OrderOfChecks
import SensorConfig.Proofs.UnterminatedPrograms
import SensorConfig.Proofs.OverlongTexts
import SensorConfig.Proofs.WalkedPaths
import SensorConfig.Proofs.SequencesOfWrites
import SensorConfig.Proofs.RecordBoundaries
import SensorConfig.Proofs.TracedRecords
import SensorConfig.Proofs.HomePaths
import SensorConfig.Proofs.ConfinedFiles
