import Dialogue.Main
import Dialogue.Tool.Listing
import Dialogue.Typewriter.Inspect
import Dialogue.Proofs.Script.Grammar
import Dialogue.Proofs.Script.Command
import Dialogue.Proofs.Script.Phrases
import Dialogue.Proofs.Script.Acceptance
import Dialogue.Proofs.Script.Order
import Dialogue.Proofs.Script.Parser
import Dialogue.Proofs.Script.Recovery
import Dialogue.Proofs.Script.Rendering
import Dialogue.Proofs.Script.RoundTrip
import Dialogue.Proofs.Playback.Flush
import Dialogue.Proofs.Playback.Moves
import Dialogue.Proofs.Playback.Visits
import Dialogue.Proofs.Playback.Confirms
import Dialogue.Proofs.Playback.Stock
import Dialogue.Proofs.Playback.Press
import Dialogue.Proofs.Playback.Pages
import Dialogue.Proofs.Playback.Units
import Dialogue.Proofs.Playback.Conservation
import Dialogue.Proofs.Terminal.Rounds
import Dialogue.Proofs.Terminal.Output
import Dialogue.Proofs.Typewriter.Session
import Dialogue.Proofs.Typewriter.State
import Dialogue.Proofs.Typewriter.Frames
import Dialogue.Proofs.Typewriter.Stages
import Dialogue.Proofs.Playback.Closing
import Dialogue.Proofs.Playback.Remainder
import Dialogue.Proofs.Script.Tiling
import Dialogue.Proofs.Script.Relocation
import Dialogue.Proofs.Script.Juxtaposition
import Dialogue.Proofs.Playback.Delivery
import Dialogue.Proofs.Typewriter.Signals
import Dialogue.Proofs.Playback.ConfirmKey
import Dialogue.Proofs.Check.Agreement
import Dialogue.Proofs.Check.Findings
import Dialogue.Proofs.Settings.CommandNames
import Dialogue.Proofs.ClockShift
import Dialogue.Proofs.Script.Violations
import Dialogue.Proofs.Json.Reading
import Dialogue.Proofs.Settings.SharedChecker
import Dialogue.Proofs.Json.Lexing
import Dialogue.Proofs.Json.Rendering
import Dialogue.Proofs.Settings.RoundTrip
import Dialogue.Proofs.Tool.Verdicts
import Dialogue.Proofs.Playback.Repetition
import Dialogue.Proofs.Typewriter.Pace
import Dialogue.Proofs.Terminal.Typing
import Dialogue.Proofs.Terminal.Sleeps
import Dialogue.Proofs.Playback.Debouncing
import Dialogue.Proofs.Check.ErrorPlaces
