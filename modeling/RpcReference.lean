import RpcReference.Main
import RpcReference.Source.Printer
import RpcReference.Proofs.SourceRoundTrip
import RpcReference.Proofs.Rendering
import RpcReference.Proofs.ServiceCalls
import RpcReference.Proofs.Accounting
import RpcReference.Proofs.Tables
import RpcReference.Proofs.Redeclaration
import RpcReference.Proofs.Finding
import RpcReference.Proofs.Concatenation
import RpcReference.Proofs.CommentLines
import RpcReference.Proofs.JsonText
import RpcReference.Proofs.SchemaJson
import RpcReference.Proofs.Layout
import RpcReference.Proofs.LineForms
import RpcReference.Proofs.CallGrammar
import RpcReference.Proofs.WellFormed
import RpcReference.Proofs.TypeLinks
import RpcReference.Proofs.LineOffsets
import RpcReference.Proofs.SafeReading
import RpcReference.Proofs.SavedFiles
import RpcReference.Proofs.Courses
import RpcReference.Proofs.CommandEffects
import RpcReference.Proofs.PrintedFindings
import RpcReference.Proofs.Mentions
import RpcReference.Proofs.ConsoleText
import RpcReference.Proofs.ConsoleDifferences
import RpcReference.Proofs.OneLine
import RpcReference.Proofs.LineGroups
import RpcReference.Proofs.DocumentLines
import RpcReference.Proofs.FieldGrammar
import RpcReference.Proofs.BraceBalance
import RpcReference.Proofs.NestedDeclarations
import RpcReference.Proofs.CommentFragments
import RpcReference.Proofs.LiteralCommands
import RpcReference.Proofs.EnumLayout
import RpcReference.Proofs.BracePlacement
import RpcReference.Proofs.UnderscoreRuns
import RpcReference.Proofs.DefaultOutput
import RpcReference.Proofs.WrittenSettings
import RpcReference.Proofs.LostTitles
