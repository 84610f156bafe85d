import Chip8.Text.Hex
import Chip8.Text.Quoted

/-!
# Failures

What can go wrong, each cause with the facts that its message states. A fault is the one
cause that a program brings about while it runs: the machine met a word that is no
instruction, and stops there for good.
-/
namespace Chip8

/-- The word that is no instruction and the address at which it was met. -/
structure Fault where
  /-- The word met. -/
  word : UInt16
  /-- The program counter at that moment. -/
  address : UInt16
deriving DecidableEq, Repr

namespace Fault

/-- A word is written with four digits and an address with at least three. -/
def text (fault : Fault) : String :=
  "opcode 0x" ++ Hex.padded 4 fault.word.toNat ++ " at 0x" ++ Hex.padded 3 fault.address.toNat

end Fault

/-- A cause for which an operation did not succeed. -/
inductive Failure where
  /-- There is no program to run, or the program is empty. -/
  | noProgram
  /-- A program is longer than the memory left for it. -/
  | programTooLarge (size limit : Nat)
  /-- A program file could not be read, for a cause that the file system gives. -/
  | unreadable (path cause : String)
  /-- Execution met a word that is no instruction. -/
  | unimplemented (fault : Fault)
  /-- The thread of a run could not be started, for a cause that the system gives. -/
  | threadNotStarted (cause : String)
  /-- The thread of a run ended abnormally. -/
  | threadPanicked
deriving DecidableEq, Repr

namespace Failure

/-- The sentence that tells a failure. -/
def message : Failure → String
  | .noProgram => "no program supplied"
  | .programTooLarge size limit =>
    "program is too large (" ++ size.repr ++ " bytes), max size is " ++ limit.repr ++ " bytes"
  | .unreadable path _ => "unable to read program " ++ Quoted.encode path
  | .unimplemented fault => "unimplemented " ++ fault.text
  | .threadNotStarted _ => "unable to start scheduler thread"
  | .threadPanicked => "scheduler thread panicked"

/-- A failure that ends a run, as opposed to one that prevents it. -/
def endsRun : Failure → Bool
  | .unimplemented _ | .threadPanicked => true
  | _ => false

/-- The cause that the surrounding system gave, where there is one. -/
def cause? : Failure → Option String
  | .unreadable _ cause | .threadNotStarted cause => some cause
  | _ => none

end Failure

end Chip8
