import FanBoard.Bench.ProbeBoard
import FanBoard.Bench.ProbeWire
import FanBoard.Bench.TachScript
import FanBoard.Bench.TaskRecord
import FanBoard.Bench.WorkerProbe
import FanBoard.Bench.WorkerRig
import FanBoard.Board.Hardware
import FanBoard.Board.Pinout
import FanBoard.Controller
import FanBoard.Crash
import FanBoard.Settings.Source
import FanBoard.Terminal.Serial
import FanBoard.Proofs.TwoCores.Basic
import FanBoard.Proofs.TwoCores.Ownership
import FanBoard.Proofs.TwoCores.Exclusion
import FanBoard.Proofs.Deadband
import FanBoard.Proofs.Board.Recorded
import FanBoard.Proofs.Controller.Outputs
import FanBoard.Proofs.Terminal.Pump
import FanBoard.Proofs.Timetable.Visit
import FanBoard.Proofs.Controller.Pass
import FanBoard.Proofs.Controller.Recording
import FanBoard.Proofs.Controller.Undisturbed
import FanBoard.Proofs.Controller.Settled
import FanBoard.Proofs.Terminal.Reference
import FanBoard.Proofs.Terminal.Watched
import FanBoard.Proofs.Text.Utf8
import FanBoard.Proofs.Text.Utf16
import FanBoard.Proofs.Terminal.Texts
import FanBoard.Proofs.Terminal.Session
import FanBoard.Proofs.Lockout.Waiting
import FanBoard.Proofs.Controller.Stall
import FanBoard.Proofs.Duty.Period
import FanBoard.Proofs.TwoCores.SingleHolder
import FanBoard.Proofs.Controller.Numbers
import FanBoard.Proofs.Timetable.Course
import FanBoard.Proofs.Controller.Levels
import FanBoard.Proofs.Settings.Check
import FanBoard.Proofs.TwoCores.Pulses
import FanBoard.Proofs.TwoCores.Windows
import FanBoard.Proofs.TwoCores.Discarded
import FanBoard.Proofs.Number.Rounding
import FanBoard.Proofs.Number.Nearest
import FanBoard.Proofs.Number.Packing
import FanBoard.Proofs.Number.Double
import FanBoard.Proofs.Number.Shortest
import FanBoard.Proofs.Number.Halfway
import FanBoard.Proofs.Number.ReadBack
import FanBoard.Proofs.Json.Literal
import FanBoard.Proofs.Json.Single
import FanBoard.Proofs.Json.Document
import FanBoard.Proofs.Json.Record
import FanBoard.Proofs.Settings.Partial
import FanBoard.Proofs.Settings.RoundTrip
import FanBoard.Proofs.Controller.Inputs
import FanBoard.Proofs.Number.Whole
import FanBoard.Proofs.Controller.History
import FanBoard.Proofs.Controller.Readings
import FanBoard.Proofs.Controller.Chatter
import FanBoard.Proofs.Supervision.Latch
import FanBoard.Proofs.Supervision.Loop
import FanBoard.Proofs.TwoCores.Rounds
import FanBoard.Proofs.Controller.Accepted
import FanBoard.Proofs.Controller.Tally
import FanBoard.Proofs.Controller.RealChanges
import FanBoard.Proofs.Tach.Ledger
import FanBoard.Proofs.Tach.Fate
import FanBoard.Proofs.Tach.Laps
import FanBoard.Proofs.Supervision.Register
import FanBoard.Proofs.Duty.LastPeriod
import FanBoard.Proofs.Duty.Standstill
import FanBoard.Proofs.Duty.Shift
import FanBoard.Proofs.Lockout.Endings
import FanBoard.Proofs.Terminal.Transcript
import FanBoard.Proofs.Terminal.Answers
import FanBoard.Proofs.Controller.Answered
import FanBoard.Proofs.Controller.Reported
import FanBoard.Proofs.Json.Grammar
import FanBoard.Terminal.LineReader
import FanBoard.Proofs.Terminal.Feed
import FanBoard.Proofs.Timetable.Steady
import FanBoard.Proofs.Timetable.Totals
import FanBoard.Proofs.Number.Distance
import FanBoard.Proofs.Deadband.Chain
