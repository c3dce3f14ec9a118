import GridRobot.Main
import GridRobot.Run.Meaning
import GridRobot.World.Values
import GridRobot.Proofs.Run.Refinement
import GridRobot.Proofs.Run.Termination
import GridRobot.Proofs.Run.Effect
import GridRobot.Proofs.Json.Reading
import GridRobot.Proofs.Json.RoundTrip
import GridRobot.Proofs.Program.Readable
import GridRobot.Proofs.Program.RoundTrip
import GridRobot.Proofs.Program.Failure
import GridRobot.Proofs.Run.Safety
import GridRobot.Proofs.Run.Alike
import GridRobot.Proofs.Run.Pacing
import GridRobot.Proofs.Run.Coherence
import GridRobot.Proofs.Run.Cancellation
import GridRobot.Proofs.Session.Export
import GridRobot.Proofs.Program.Grammar
import GridRobot.Proofs.Run.History
import GridRobot.Proofs.Session.Refusal
import GridRobot.Proofs.Session.Stepping
import GridRobot.Proofs.Session.Worker
import GridRobot.Proofs.Session.Renewal
import GridRobot.Proofs.Run.Pruning
import GridRobot.Proofs.Run.Audience
import GridRobot.Proofs.Level.Loading
import GridRobot.Proofs.Run.Chance
import GridRobot.Proofs.Session.Arrival
import GridRobot.Proofs.Console.Modes
import GridRobot.Proofs.World.Whereabouts
import GridRobot.Proofs.Run.Loops
import GridRobot.Proofs.Run.CallDepth
import GridRobot.Proofs.Run.Branching
import GridRobot.Proofs.Run.Inlining
import GridRobot.Proofs.Run.Trace
import GridRobot.Proofs.Run.Replay
import GridRobot.Proofs.Program.Places
import GridRobot.Proofs.Program.Retention
import GridRobot.Proofs.Program.Operands
import GridRobot.Proofs.Program.Warnings
import GridRobot.Proofs.Session.Installing
import GridRobot.Proofs.Session.Progression
import GridRobot.Proofs.Level.RoundTrip
import GridRobot.Proofs.World.Appearance
import GridRobot.Proofs.Run.Negation
