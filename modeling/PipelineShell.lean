import PipelineShell.Builtin.Behaviour
import PipelineShell.Builtin.Standard
import PipelineShell.Completion.Completer
import PipelineShell.Completion.LineEditor
import PipelineShell.Completion.Trie
import PipelineShell.Completion.Walk
import PipelineShell.Execution.InTurn
import PipelineShell.Execution.Line
import PipelineShell.Execution.Network
import PipelineShell.Execution.Relay
import PipelineShell.Execution.Stage
import PipelineShell.Execution.Together
import PipelineShell.Execution.Wiring
import PipelineShell.Failure
import PipelineShell.FileSystem.Basic
import PipelineShell.FileSystem.Content
import PipelineShell.FileSystem.Error
import PipelineShell.FileSystem.Handle
import PipelineShell.FileSystem.Tree
import PipelineShell.Interaction
import PipelineShell.Line.Layout
import PipelineShell.Line.Pipeline
import PipelineShell.Line.Word
import PipelineShell.LogLevel
import PipelineShell.Main
import PipelineShell.Path
import PipelineShell.Program.Basic
import PipelineShell.Script.Arithmetic
import PipelineShell.Script.Command.Condition
import PipelineShell.Script.Command.Directory
import PipelineShell.Script.Command.Input
import PipelineShell.Script.Command.Letters
import PipelineShell.Script.Command.Limit
import PipelineShell.Script.Command.Output
import PipelineShell.Script.Command.Process
import PipelineShell.Script.Command.Value
import PipelineShell.Script.Evaluation
import PipelineShell.Script.Expansion
import PipelineShell.Script.Field
import PipelineShell.Script.FileName
import PipelineShell.Script.Interpreter
import PipelineShell.Script.Lookup
import PipelineShell.Script.Pattern
import PipelineShell.Script.Plan
import PipelineShell.Script.Reader
import PipelineShell.Script.Redirecting
import PipelineShell.Script.Shell
import PipelineShell.Script.Source
import PipelineShell.Script.Starting
import PipelineShell.Script.Surrounding
import PipelineShell.Script.Tree
import PipelineShell.Script.Variable
import PipelineShell.Script.Verb
import PipelineShell.SearchPath
import PipelineShell.Session
import PipelineShell.Startup
import PipelineShell.Stream.Channel
import PipelineShell.Stream.ChunkQueue
import PipelineShell.Stream.Conduit
import PipelineShell.Stream.Pump
import PipelineShell.Stream.Pumping
import PipelineShell.Text.Basic
import PipelineShell.Text.Class
import PipelineShell.Text.Digit
import PipelineShell.Text.Letter
import PipelineShell.Text.Lines
import PipelineShell.Text.Numeral
import PipelineShell.Text.Octets
import PipelineShell.Text.Order
import PipelineShell.Text.Printable
import PipelineShell.Text.Quoted
import PipelineShell.Text.Utf8
import PipelineShell.Text.Wide
import PipelineShell.Usage
import PipelineShell.Userland
import PipelineShell.Userland.Backtracking.Escape
import PipelineShell.Userland.Backtracking.Expression
import PipelineShell.Userland.Backtracking.Fragment
import PipelineShell.Userland.Backtracking.Kind
import PipelineShell.Userland.Backtracking.Machine
import PipelineShell.Userland.Backtracking.Reader
import PipelineShell.Userland.Basic
import PipelineShell.Userland.Cat
import PipelineShell.Userland.Constant
import PipelineShell.Userland.Conversion
import PipelineShell.Userland.Floating
import PipelineShell.Userland.Head
import PipelineShell.Userland.Machine
import PipelineShell.Userland.Options
import PipelineShell.Userland.Ordering
import PipelineShell.Userland.Permissions
import PipelineShell.Userland.Printf
import PipelineShell.Userland.Quantity
import PipelineShell.Userland.Quoting
import PipelineShell.Userland.Regex
import PipelineShell.Userland.Regex.Automaton
import PipelineShell.Userland.Regex.Bracket
import PipelineShell.Userland.Regex.Location
import PipelineShell.Userland.Regex.Selection
import PipelineShell.Userland.Regex.Symbol
import PipelineShell.Userland.Removal
import PipelineShell.Userland.Schedule
import PipelineShell.Userland.Search
import PipelineShell.Userland.Search.Colours
import PipelineShell.Userland.Search.Content
import PipelineShell.Userland.Search.Explained
import PipelineShell.Userland.Search.Matcher
import PipelineShell.Userland.Search.Options
import PipelineShell.Userland.Search.Page
import PipelineShell.Userland.Search.Progress
import PipelineShell.Userland.Search.Target
import PipelineShell.Userland.Signal
import PipelineShell.Userland.Sorting
import PipelineShell.Userland.Sorting.Account
import PipelineShell.Userland.Sorting.Key
import PipelineShell.Userland.Sorting.Options
import PipelineShell.Userland.Task
import PipelineShell.Userland.Translate
import PipelineShell.Userland.WordCount
import PipelineShell.Proofs.Line.Quoting
import PipelineShell.Proofs.Line.Scanning
import PipelineShell.Proofs.Line.Grouping
import PipelineShell.Proofs.Line.Rendering
import PipelineShell.Proofs.Execution.Composition
import PipelineShell.Proofs.Stream.ChunkQueue
import PipelineShell.Proofs.Execution.Line
import PipelineShell.Proofs.Execution.Rejection
import PipelineShell.Proofs.Execution.Memory
import PipelineShell.Proofs.Path
import PipelineShell.Proofs.Execution.Trace
import PipelineShell.Proofs.Execution.Directory
import PipelineShell.Proofs.Interaction
import PipelineShell.Proofs.Completion.Trie
import PipelineShell.Proofs.Text.Utf8
import PipelineShell.Proofs.FileSystem.Walk
import PipelineShell.Proofs.SearchPath
import PipelineShell.Proofs.Execution.Naming
import PipelineShell.Proofs.Execution.History
import PipelineShell.Proofs.Interaction.History
import PipelineShell.Proofs.Execution.Breaking
import PipelineShell.Proofs.FileSystem.Handle
import PipelineShell.Proofs.Execution.Capture
import PipelineShell.Proofs.Execution.Together
import PipelineShell.Proofs.Execution.Redirection
import PipelineShell.Proofs.Text.Prefix
import PipelineShell.Proofs.Text.Order
import PipelineShell.Proofs.Completion.Listing
import PipelineShell.Proofs.Completion.Answer
import PipelineShell.Proofs.Completion.Course
import PipelineShell.Proofs.Completion.LineEditor
import PipelineShell.Proofs.Line.Name
import PipelineShell.Proofs.Interaction.Completion
import PipelineShell.Proofs.Stream.Conduit
import PipelineShell.Proofs.Stream.Joint
import PipelineShell.Proofs.Execution.Relay
import PipelineShell.Proofs.Execution.Turns
import PipelineShell.Proofs.Execution.Performance
import PipelineShell.Proofs.Execution.Network
import PipelineShell.Proofs.Execution.Functions
import PipelineShell.Proofs.Execution.Strategies
import PipelineShell.Proofs.Completion.Walk
import PipelineShell.Proofs.Line.Joining
import PipelineShell.Proofs.Completion.Order
import PipelineShell.Proofs.Completion.Progress
import PipelineShell.Proofs.FileSystem.NormalForm
import PipelineShell.Proofs.SearchPath.Lookup
import PipelineShell.Proofs.Path.Joining
import PipelineShell.Proofs.Execution.ChangeDirectory
import PipelineShell.Proofs.Line.Origin
import PipelineShell.Proofs.Text.Lines
import PipelineShell.Proofs.Execution.Loading
import PipelineShell.Proofs.Stream.Supply
import PipelineShell.Proofs.Stream.Copying
import PipelineShell.Proofs.Stream.Pumping
import PipelineShell.Proofs.Execution.PipeEnds
import PipelineShell.Proofs.Line.Layout
import PipelineShell.Proofs.Execution.Numbering
