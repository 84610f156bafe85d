import Chip8.Instruction.Encode
import Chip8.Session
import Chip8.Operation
import Chip8.Request
import Chip8.Exchange
import Chip8.Proofs.Patterns
import Chip8.Proofs.Blocks
import Chip8.Proofs.Conformance
import Chip8.Proofs.Effects
import Chip8.Proofs.Histories
import Chip8.Proofs.Coherence
import Chip8.Proofs.Calls
import Chip8.Proofs.Erasure
import Chip8.Proofs.Publishing
import Chip8.Proofs.Pacing
import Chip8.Proofs.Moments
import Chip8.Proofs.Delivery
import Chip8.Proofs.Mirroring
import Chip8.Proofs.Lockstep
import Chip8.Proofs.Refetching
import Chip8.Proofs.Aliasing
import Chip8.Proofs.Checks
import Chip8.Proofs.Refusals
import Chip8.Proofs.Faults
import Chip8.Proofs.Ticking
import Chip8.Proofs.Lifecycle
import Chip8.Proofs.Blanking
import Chip8.Proofs.Painting
import Chip8.Proofs.Deadlines
import Chip8.Proofs.Loading
import Chip8.Proofs.Cancelling
import Chip8.Proofs.Restoring
import Chip8.Proofs.Hiding
import Chip8.Proofs.Randomness
import Chip8.Proofs.Shifting
import Chip8.Proofs.Occurrences
import Chip8.Proofs.Counting
import Chip8.Proofs.Writing
import Chip8.Proofs.Marking
import Chip8.Proofs.Awaiting
import Chip8.Proofs.Driving
import Chip8.Proofs.Bracketing
import Chip8.Proofs.Alarms
import Chip8.Proofs.Spelling
import Chip8.Proofs.Alignment
import Chip8.Proofs.Rounds
import Chip8.Proofs.Pieces
