import ChordEditor.Text.Case
import ChordEditor.Text.Blank
import ChordEditor.Text.Lines
import ChordEditor.Text.CharLiteral
import ChordEditor.Text.Table.Identifier
import ChordEditor.Buffer.Change
import ChordEditor.CursorMemory
import ChordEditor.JumpList
import ChordEditor.Window
import ChordEditor.KeyNotation
import ChordEditor.ActionText
import ChordEditor.Dispatcher
import ChordEditor.Pattern.Match
import ChordEditor.Pattern.Notation
import ChordEditor.Grammar.Registry
import ChordEditor.Highlight.Cache
import ChordEditor.Json.Reader
import ChordEditor.Settings.Config
import ChordEditor.CommandLine
import ChordEditor.LineCommand
import ChordEditor.Search
import ChordEditor.Editor.Session
import ChordEditor.TerminalKey
import ChordEditor.Main
import ChordEditor.Proofs.Buffer.UndoRedo
import ChordEditor.Proofs.Highlight.Update
import ChordEditor.Proofs.Buffer.Places
import ChordEditor.Proofs.Buffer.Ranges
import ChordEditor.Proofs.Commands.Submitted
import ChordEditor.Proofs.Commands.Typing
import ChordEditor.Proofs.Session.Operations
import ChordEditor.Proofs.Buffer.Grouping
import ChordEditor.Proofs.Commands.Replaying
import ChordEditor.Proofs.Session.Steps
import ChordEditor.Proofs.Session.InsertGroup
import ChordEditor.Proofs.Session.OneUndoStep
import ChordEditor.Proofs.Session.Highlighting
import ChordEditor.Proofs.Buffer.Nesting
import ChordEditor.Proofs.Buffer.UndoingAll
import ChordEditor.Proofs.Dispatcher.Finished
import ChordEditor.Proofs.Dispatcher.Lookup
import ChordEditor.Proofs.Dispatcher.Typing
import ChordEditor.Proofs.Buffer.LineOrder
import ChordEditor.Proofs.Dispatcher.LeaderExpiry
import ChordEditor.Proofs.Session.CursorInText
import ChordEditor.Proofs.Session.Refusals
import ChordEditor.Proofs.Text.Stripping
import ChordEditor.Proofs.Session.Escape
import ChordEditor.Proofs.Highlight.Holders
import ChordEditor.Proofs.Highlight.LineByLine
import ChordEditor.Proofs.Session.CursorInView
import ChordEditor.Proofs.Session.WordSearch
import ChordEditor.Proofs.Session.Looking
import ChordEditor.Proofs.Session.DeleteThenPaste
import ChordEditor.Proofs.Buffer.TouchedLines
import ChordEditor.Proofs.Highlight.KeptLines
import ChordEditor.Proofs.Session.Sources
import ChordEditor.Proofs.Session.GotoDefinition
import ChordEditor.Proofs.Motion.WithinLine
import ChordEditor.Proofs.Motion.Words
import ChordEditor.Proofs.Motion.FoundChar
import ChordEditor.Proofs.Session.Operators
import ChordEditor.Proofs.Window.Moves
import ChordEditor.Proofs.Search.Walking
import ChordEditor.Proofs.Session.Substitution
import ChordEditor.Proofs.Session.Commenting
import ChordEditor.Proofs.Session.Shifting
import ChordEditor.Proofs.Session.Retabbing
import ChordEditor.Proofs.Commands.Enclosing
import ChordEditor.Proofs.Session.Inserting
import ChordEditor.Proofs.Highlight.Spans
import ChordEditor.Proofs.Session.WholeLines
import ChordEditor.Proofs.Session.Surrounding
import ChordEditor.Proofs.LineCommand.Substitutions
import ChordEditor.Proofs.Grammar.Registered
import ChordEditor.Proofs.Pattern.Matches
import ChordEditor.Proofs.Pattern.WholeWords
import ChordEditor.Proofs.Pattern.WrittenWords
import ChordEditor.Proofs.Highlight.WordRules
import ChordEditor.Proofs.Text.LetterCase
import ChordEditor.Proofs.KeyNotation.ReadBack
import ChordEditor.Proofs.Buffer.Addresses
import ChordEditor.Proofs.JumpList.Retracing
import ChordEditor.Proofs.Highlight.ScanEnds
import ChordEditor.Proofs.Settings.Overriding
