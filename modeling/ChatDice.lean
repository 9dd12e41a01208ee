import ChatDice.Bot.Bot
import ChatDice.Bot.Table
import ChatDice.Bot.Watermark
import ChatDice.Calendar.Date
import ChatDice.Calendar.Instant
import ChatDice.Calendar.Stamp
import ChatDice.Command.Grammar
import ChatDice.Command.Miss
import ChatDice.Command.Read
import ChatDice.Command.Roll
import ChatDice.Console.Invocation
import ChatDice.Console.Run
import ChatDice.Dice.Request
import ChatDice.Dice.Outcome
import ChatDice.Dice.Pool
import ChatDice.Dice.Source
import ChatDice.Digest.Sha256
import ChatDice.Json.Generic
import ChatDice.Json.Numeral
import ChatDice.Json.Quoted
import ChatDice.Json.Token
import ChatDice.Json.Value
import ChatDice.Log.Codec
import ChatDice.Log.RollLog
import ChatDice.Main
import ChatDice.Notice
import ChatDice.Proofs.Calendar.Dates
import ChatDice.Proofs.Log.Recording
import ChatDice.Proofs.Log.Window
import ChatDice.Proofs.Text.Decimal
import ChatDice.Settings.Document
import ChatDice.Settings.Settings
import ChatDice.Storage.Disk
import ChatDice.Storage.Store
import ChatDice.Storage.Vault
import ChatDice.Text.Basic
import ChatDice.Text.Letter.Lowercase
import ChatDice.Text.Letter.Table
import ChatDice.Proofs.Calendar.Stamps
import ChatDice.Proofs.Json.Numerals
import ChatDice.Proofs.Json.Strings
import ChatDice.Proofs.Json.RoundTrip
import ChatDice.Proofs.Json.Generic
import ChatDice.Proofs.Log.Codec
import ChatDice.Proofs.Storage.Disk
import ChatDice.Proofs.Storage.LogFile
import ChatDice.Proofs.Text.Lowercase
import ChatDice.Proofs.Command.Reroll
import ChatDice.Proofs.Log.Retention
import ChatDice.Proofs.Bot.Handling
import ChatDice.Proofs.Bot.Replay
import ChatDice.Proofs.Command.Relations
import ChatDice.Proofs.Command.Spelling
import ChatDice.Proofs.Command.Acceptance
import ChatDice.Proofs.Log.References
import ChatDice.Proofs.Calendar.Order
import ChatDice.Proofs.Bot.Watermark
import ChatDice.Proofs.Bot.Freshness
import ChatDice.Proofs.Dice.Draws
import ChatDice.Proofs.Dice.Streams
import ChatDice.Proofs.Dice.Totals
import ChatDice.Proofs.Bot.Verdict
import ChatDice.Proofs.Command.Routing
import ChatDice.Proofs.Bot.Agreement
import ChatDice.Proofs.Bot.LetterCase
import ChatDice.Proofs.Json.Grammar
import ChatDice.Proofs.Storage.LogItems
import ChatDice.Proofs.Dice.Exploding
import ChatDice.Proofs.Dice.Extremes
import ChatDice.Proofs.Bot.Rerolls
import ChatDice.Proofs.Command.Misses
import ChatDice.Proofs.Log.Candidates
import ChatDice.Proofs.Bot.Replies
import ChatDice.Proofs.Console.Transcript
import ChatDice.Proofs.Dice.Generator
import ChatDice.Proofs.Command.Layout
import ChatDice.Proofs.Command.Display
import ChatDice.Proofs.Dice.Shown
import ChatDice.Proofs.Dice.Description
import ChatDice.Proofs.Bot.Keywords
import ChatDice.Proofs.Dice.Imploding
import ChatDice.Proofs.Dice.Bounds
import ChatDice.Proofs.Log.OlderResults
import ChatDice.Proofs.Command.Places
