import DotMatrix.Cartridge.Image
import DotMatrix.Console.Operation
import DotMatrix.Inspect.Program
import DotMatrix.Main
import DotMatrix.Proofs.Console.Replay
import DotMatrix.Proofs.Cpu.Dispatch
import DotMatrix.Proofs.Video.Course
import DotMatrix.Proofs.Bus.Course
import DotMatrix.Proofs.Bus.Frame
import DotMatrix.Proofs.Bus.StatLine
import DotMatrix.Proofs.Video.Calendar
import DotMatrix.Proofs.Bus.Timeline
import DotMatrix.Proofs.Bus.Coincidence
import DotMatrix.Proofs.Bus.Status
import DotMatrix.Proofs.Bus.Blocks
import DotMatrix.Proofs.Cartridge.Latches
import DotMatrix.Proofs.Console.Refusal
import DotMatrix.Proofs.Console.Tracked
import DotMatrix.Proofs.Console.Reload
import DotMatrix.Proofs.Console.Pace
import DotMatrix.Proofs.Sound.Expiry
import DotMatrix.Proofs.Sound.Loudness
import DotMatrix.Proofs.Sound.Portions
import DotMatrix.Proofs.Sound.Sweep
import DotMatrix.Proofs.Console.Requests
import DotMatrix.Proofs.Console.Sinks
import DotMatrix.Proofs.Cartridge.Halves
import DotMatrix.Proofs.Console.Memory
import DotMatrix.Proofs.Console.Nibbles
import DotMatrix.Proofs.Console.Restart
import DotMatrix.Proofs.Timer.Count
import DotMatrix.Proofs.Bus.Window
import DotMatrix.Proofs.Video.Row
import DotMatrix.Proofs.Cartridge.Seconds
import DotMatrix.Proofs.Cpu.Decimal
import DotMatrix.Proofs.Console.Battery
import DotMatrix.Proofs.Console.Colours
import DotMatrix.Proofs.Cpu.Fault
import DotMatrix.Proofs.Cpu.Stack
import DotMatrix.Proofs.Sound.Power
import DotMatrix.Proofs.Sound.Range
import DotMatrix.Proofs.Sound.Feedback
import DotMatrix.Proofs.Sound.Noise
