import Chip8.Failure
import Chip8.Instruction.Text
import Chip8.Registers

/-!
# Diagnostics

What the machine reports about its work, apart from results. A diagnostic is a value that
names what happened; its severity and its text are functions of it, so an operation states
which diagnostics it emits without stating how they are worded.
-/
namespace Chip8

/-- How much a diagnostic matters. -/
inductive Severity where
  /-- Something failed. -/
  | error
  /-- Something was mended that a program should not rely on. -/
  | warn
  /-- A session changed its phase. -/
  | info
  /-- An instruction begins or a wait changes. -/
  | debug
  /-- A detail of one instruction. -/
  | trace
deriving DecidableEq, Repr

namespace Severity

/-- Failures rank first. -/
def rank : Severity → Nat
  | .error => 0
  | .warn => 1
  | .info => 2
  | .debug => 3
  | .trace => 4

/-- The name of a severity. -/
def label : Severity → String
  | .error => "ERROR"
  | .warn => "WARN"
  | .info => "INFO"
  | .debug => "DEBUG"
  | .trace => "TRACE"

end Severity

/-- An event worth reporting. -/
inductive Diagnostic where
  /-- An instruction begins at a program counter. -/
  | processing (pc : UInt16) (ins : Instruction)
  /-- A call returns to the address it was made at. -/
  | returning (address : UInt16)
  /-- A sprite is drawn with its corner at a position. -/
  | painting (x y : UInt8) (sprite : List UInt8)
  /-- An instruction left these registers and this index. -/
  | registers (registers : Registers) (index : UInt16)
  /-- Execution waits for a key. -/
  | awaitingKey (register : UInt8)
  /-- A key ends a wait. -/
  | keyAccepted (key register : UInt8)
  /-- Execution met a word that is no instruction. -/
  | faulted (fault : Fault)
  /-- A call fills the last slot of the stack. -/
  | stackFull
  /-- A return takes from an empty stack. -/
  | stackUnderflow
  /-- A pixel below the last row is drawn from the top. -/
  | pixelWrapped (column row : Nat)
  /-- Periods were missed that will not be caught up. -/
  | fellBehind
  /-- A program of this size is in memory. -/
  | programLoaded (size : Nat)
  /-- A program was refused. -/
  | programRefused (failure : Failure)
  /-- A program file could not be read. -/
  | unreadable (failure : Failure)
deriving DecidableEq, Repr

namespace Diagnostic

/-- How much each event matters. -/
def severity : Diagnostic → Severity
  | .processing _ _ | .awaitingKey _ | .keyAccepted _ _ => .debug
  | .returning _ | .painting _ _ _ | .registers _ _ => .trace
  | .faulted _ | .programRefused _ | .unreadable _ => .error
  | .stackFull | .stackUnderflow | .pixelWrapped _ _ | .fellBehind => .warn
  | .programLoaded _ => .info

/-- A list of bytes is written in decimal between brackets. -/
def byteList (bytes : List UInt8) : String :=
  "[" ++ ", ".intercalate (bytes.map fun byte => byte.toNat.repr) ++ "]"

/-- The sentence that reports an event. -/
def text : Diagnostic → String
  | .processing pc ins =>
    "Processing instruction [" ++ Hex.padded 3 pc.toNat ++ ": " ++ ins.text ++ "]"
  | .returning address => "return to " ++ Hex.padded 3 address.toNat
  | .painting x y sprite =>
    "Painting sprite at (" ++ x.toNat.repr ++ ", " ++ y.toNat.repr ++ "): " ++ byteList sprite
  | .registers v index =>
    "Registers: Registers \x7b registers: " ++ byteList v.toList ++ " \x7d [I: "
      ++ Hex.padded 3 index.toNat ++ "]"
  | .awaitingKey register => "Waiting for key into V" ++ Hex.padded 1 register.toNat
  | .keyAccepted key register =>
    "Key " ++ Hex.padded 1 key.toNat ++ " pressed, stored in V" ++ Hex.padded 1 register.toNat
  | .faulted fault => "Unimplemented " ++ fault.text
  | .stackFull => "Stack full, next push wraps to slot 0"
  | .stackUnderflow => "Stack underflow, wrapping to slot 15"
  | .pixelWrapped column row =>
    "Sprite pixel (" ++ column.repr ++ ", " ++ row.repr ++ ") outside framebuffer, wrapping"
  | .fellBehind => "Scheduler fell behind, dropping missed periods"
  | .programLoaded size => "Loaded program [size: " ++ size.repr ++ "]"
  | .programRefused failure => "Failed to load program: " ++ failure.message
  | .unreadable failure => failure.message

/-- A threshold lets through the events that matter at least as much. -/
def passes (threshold : Severity) (diagnostic : Diagnostic) : Bool :=
  diagnostic.severity.rank ≤ threshold.rank

end Diagnostic

end Chip8
