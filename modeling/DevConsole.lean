import DevConsole.Console.Keys
import DevConsole.Console.Piped
import DevConsole.Main
import DevConsole.Shell.Editing
import DevConsole.Store.Memory
import DevConsole.Game.Snake
import DevConsole.Proofs.Entries
import DevConsole.Proofs.Files.Document
import DevConsole.Proofs.Files.Arena
import DevConsole.Proofs.Files.Change
import DevConsole.Proofs.Files.Footprint
import DevConsole.Proofs.Files.Edits
import DevConsole.Proofs.Files.Refinement
import DevConsole.Proofs.Files.Graft
import DevConsole.Proofs.Files.Walk
import DevConsole.Proofs.Files.Invariant
import DevConsole.Proofs.Files.Archive
import DevConsole.Proofs.Files.Reload
import DevConsole.Proofs.Command.Outcome
import DevConsole.Proofs.Command.Effect
import DevConsole.Proofs.Command.Handlers
import DevConsole.Proofs.Command.Registry
import DevConsole.Proofs.Store.Calls
import DevConsole.Proofs.Files.Path
import DevConsole.Proofs.Files.NormalForm
import DevConsole.Proofs.Files.WriteThrough
import DevConsole.Proofs.Command.Footprint
import DevConsole.Proofs.Text.Blank
import DevConsole.Proofs.Text.Words
import DevConsole.Proofs.Command.Completion
import DevConsole.Proofs.Shell.Dispatch
import DevConsole.Proofs.Shell.Footprint
import DevConsole.Proofs.Files.Directory
import DevConsole.Proofs.Files.Resolution
import DevConsole.Proofs.Shell.Reachable
import DevConsole.Proofs.Text.Integer
import DevConsole.Proofs.Text.Base64
import DevConsole.Proofs.Decimal.Fixed
import DevConsole.Proofs.Decimal.Grouped
import DevConsole.Proofs.Command.Blackjack
import DevConsole.Proofs.Shell.Wealth
import DevConsole.Proofs.Shell.Dealing
import DevConsole.Proofs.Json.Decoding
import DevConsole.Proofs.Store.Disk
import DevConsole.Proofs.Store.Flush
import DevConsole.Proofs.Store.Attempt
import DevConsole.Proofs.Store.Durability
import DevConsole.Proofs.Store.Interruption
import DevConsole.Proofs.Store.Reopening
import DevConsole.Proofs.Calendar
import DevConsole.Proofs.Random
import DevConsole.Proofs.Random.Range
import DevConsole.Proofs.Game.Snake
import DevConsole.Proofs.Game.Steering
import DevConsole.Proofs.Game.Blackjack
import DevConsole.Proofs.Game.HandValue
import DevConsole.Proofs.Timers
import DevConsole.Proofs.Shell.Settings
import DevConsole.Proofs.Shell.Queue
import DevConsole.Proofs.Shell.Recall
import DevConsole.Proofs.Shell.Alert
import DevConsole.Proofs.Command.Answer
import DevConsole.Proofs.Shell.Completion
import DevConsole.Proofs.Shell.Browsing
import DevConsole.Proofs.Files.Redirect
import DevConsole.Proofs.Shell.Redirect
import DevConsole.Proofs.Shell.RandomNumber
import DevConsole.Proofs.Command.Records
import DevConsole.Proofs.Shell.Records
import DevConsole.Proofs.Shell.Payout
import DevConsole.Proofs.Files.Restoring
import DevConsole.Proofs.Files.Drawing
import DevConsole.Proofs.Calculator.Tokens
import DevConsole.Proofs.Calculator.Grammar
import DevConsole.Proofs.Calculator.Readers
import DevConsole.Proofs.Command.Aborts
import DevConsole.Proofs.Shell.Polling
import DevConsole.Proofs.Command.Statistics
import DevConsole.Proofs.Shell.Statistics
import DevConsole.Proofs.Text.Lines
import DevConsole.Proofs.Text.Octets
import DevConsole.Proofs.Console.Color
import DevConsole.Proofs.Game.Frame
import DevConsole.Proofs.Game.Shuffling
import DevConsole.Proofs.Shell.Prompt
