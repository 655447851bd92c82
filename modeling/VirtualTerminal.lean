import VirtualTerminal.Line.Quoting
import VirtualTerminal.Main
import VirtualTerminal.Proofs.Session.Course
import VirtualTerminal.Proofs.Session.Journal
import VirtualTerminal.Proofs.Session.Local
import VirtualTerminal.Proofs.Session.Depth
import VirtualTerminal.Proofs.Session.Termination
import VirtualTerminal.Proofs.Session.Allowance
import VirtualTerminal.Proofs.FileTree.Lookup
import VirtualTerminal.Proofs.FileTree.Links
import VirtualTerminal.Proofs.FileTree.FullPath
import VirtualTerminal.Proofs.Session.Failure
import VirtualTerminal.Proofs.Line.Pieces
import VirtualTerminal.Proofs.Line.Tokens
import VirtualTerminal.Proofs.Line.Writing
import VirtualTerminal.Proofs.Session.Directory
import VirtualTerminal.Proofs.Session.QuotedPath
import VirtualTerminal.Proofs.Session.Coupling
import VirtualTerminal.Proofs.Session.ScriptFile
import VirtualTerminal.Proofs.Session.Log
import VirtualTerminal.Proofs.Session.Spending
import VirtualTerminal.Proofs.Session.Spread
import VirtualTerminal.Proofs.FileTree.Concatenation
import VirtualTerminal.Proofs.FileTree.Growth
import VirtualTerminal.Proofs.FileTree.Reading
import VirtualTerminal.Proofs.FileTree.Files
import VirtualTerminal.Proofs.FileTree.Return
import VirtualTerminal.Proofs.FileTree.Building
import VirtualTerminal.Proofs.Session.Headroom
import VirtualTerminal.Proofs.Session.Typing
import VirtualTerminal.Proofs.Session.Disclosure
import VirtualTerminal.Proofs.Command.Registration
import VirtualTerminal.Proofs.Session.Bracketing
import VirtualTerminal.Proofs.Session.Farewell
import VirtualTerminal.Proofs.Session.Clearing
import VirtualTerminal.Proofs.Console.Basic
import VirtualTerminal.Proofs.Console.Batch
import VirtualTerminal.Proofs.Console.TypedText
import VirtualTerminal.Proofs.Console.Conversation
import VirtualTerminal.Proofs.Session.Leftover
import VirtualTerminal.Proofs.Line.Blank
import VirtualTerminal.Proofs.Session.History
import VirtualTerminal.Proofs.Console.Agreement
import VirtualTerminal.Proofs.Console.Exit
import VirtualTerminal.Proofs.View.Json
import VirtualTerminal.Proofs.Session.CarriageReturn
import VirtualTerminal.Proofs.FileTree.FileName
import VirtualTerminal.Proofs.FileTree.LastSlash
import VirtualTerminal.Proofs.Line.Separation
import VirtualTerminal.Proofs.Line.Comment
import VirtualTerminal.Proofs.Session.Comment
import VirtualTerminal.Proofs.Session.Notification
import VirtualTerminal.Proofs.Text.Clip
import VirtualTerminal.Proofs.Text.Numeral
import VirtualTerminal.Proofs.Session.Greeting
import VirtualTerminal.Proofs.FileTree.Linking
import VirtualTerminal.Proofs.FileTree.Climbing
