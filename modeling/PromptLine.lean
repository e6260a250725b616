import PromptLine.Main
import PromptLine.Rehearsal
import PromptLine.Proofs.History.Steps
import PromptLine.Proofs.History.Validity
import PromptLine.Proofs.History.Retention
import PromptLine.Proofs.History.Walk
import PromptLine.Proofs.History.Browsing
import PromptLine.Proofs.Session.Outcome
import PromptLine.Proofs.Session.Failure
import PromptLine.Proofs.Editor.Keeping
import PromptLine.Proofs.Session.Flushing
import PromptLine.Proofs.Session.Isolation
import PromptLine.Proofs.Session.Printable
import PromptLine.Proofs.Session.Passage
import PromptLine.Proofs.Session.Log
import PromptLine.Proofs.Console.Performing
import PromptLine.Proofs.Script.Painting
import PromptLine.Proofs.Script.Session
import PromptLine.Proofs.Line.Halves
import PromptLine.Proofs.Line.Simulation
import PromptLine.Proofs.Session.Draft
import PromptLine.Proofs.Session.Ending
import PromptLine.Proofs.Editor.Contents
import PromptLine.Proofs.Script.Screen
import PromptLine.Proofs.Script.Overlay
import PromptLine.Proofs.Session.Attending
import PromptLine.Proofs.Session.Conclusion
import PromptLine.Proofs.Session.Unflushed
import PromptLine.Proofs.Session.Display
import PromptLine.Proofs.Session.Cursor
import PromptLine.Proofs.Session.Leaving
import PromptLine.Proofs.Session.Recall
import PromptLine.Proofs.Session.Tabbing
import PromptLine.Proofs.Session.Transcript
import PromptLine.Proofs.Repl.Replies
import PromptLine.Proofs.Repl.Rounds
import PromptLine.Proofs.Repl.Listing
import PromptLine.Proofs.File.Tree
import PromptLine.Proofs.File.Folders
import PromptLine.Proofs.File.Path
import PromptLine.Proofs.Log.Backend
import PromptLine.Proofs.Log.Layers
import PromptLine.Proofs.Log.Filtering
import PromptLine.Proofs.Log.Opening
import PromptLine.Proofs.Geometry.Wrapping
import PromptLine.Proofs.Geometry.Resize
import PromptLine.Proofs.Script.Keystroke
import PromptLine.Proofs.Console.Coloring
import PromptLine.Proofs.Text.Number
import PromptLine.Proofs.CommandLine.Documented
import PromptLine.Proofs.CommandLine.Reader
import PromptLine.Proofs.CommandLine.Options
import PromptLine.Proofs.Editor.Typing
import PromptLine.Proofs.Script.Replaying
import PromptLine.Proofs.Script.Recording
import PromptLine.Proofs.CommandLine.Options
