import JavaNaming.Command.Argument
import JavaNaming.Command.Outline
import JavaNaming.Command.Run
import JavaNaming.Config.Checkstyle
import JavaNaming.Config.Load
import JavaNaming.Config.Settings
import JavaNaming.Decimal.Shortest
import JavaNaming.Files.Collect
import JavaNaming.Files.Path
import JavaNaming.Files.Tree
import JavaNaming.Java.Source
import JavaNaming.Main
import JavaNaming.Naming.Checker
import JavaNaming.Naming.FileCheck
import JavaNaming.Naming.Session
import JavaNaming.Pattern.Compile
import JavaNaming.Proofs.Command.ExitStatus
import JavaNaming.Proofs.Command.PrintedOutline
import JavaNaming.Proofs.Config.FirstModule
import JavaNaming.Proofs.Config.WrittenSettings
import JavaNaming.Proofs.Files.Listing
import JavaNaming.Proofs.Files.PathsGiven
import JavaNaming.Proofs.Naming.Comparison
import JavaNaming.Proofs.Naming.Extraction
import JavaNaming.Proofs.Naming.FileOutcome
import JavaNaming.Proofs.Naming.ParallelCheck
import JavaNaming.Proofs.Naming.SessionRun
import JavaNaming.Proofs.Naming.SuppliedFormats
import JavaNaming.Proofs.Naming.UndamagedTrees
import JavaNaming.Proofs.Naming.ValidFormat
import JavaNaming.Proofs.Naming.WholeName
import JavaNaming.Proofs.Pattern.Words
import JavaNaming.Proofs.Syntax.EarliestDamage
import JavaNaming.Proofs.Syntax.Navigation
import JavaNaming.Proofs.Syntax.OutlineLines
import JavaNaming.Proofs.Syntax.OutlinePlaces
import JavaNaming.Proofs.Syntax.OutlineReading
import JavaNaming.Proofs.Syntax.QuotedDamage
import JavaNaming.Proofs.Syntax.SourceOrder
import JavaNaming.Proofs.Syntax.SubtreeWalk
import JavaNaming.Proofs.Text.LineLookup
import JavaNaming.Proofs.Text.Recovery
import JavaNaming.Proofs.Toml.Lasting
import JavaNaming.Proofs.Toml.TableDocument
import JavaNaming.Syntax.Outline
import JavaNaming.Syntax.Walker
import JavaNaming.Text.Lines
import JavaNaming.Text.Point
import JavaNaming.Text.Quoted
import JavaNaming.Text.Similarity
import JavaNaming.Toml.Document
import JavaNaming.Unicode.Property
import JavaNaming.Xml.Event
