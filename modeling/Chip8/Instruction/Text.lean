import Chip8.Instruction

/-!
# Names of instructions

Each instruction has a name and a list of operands, and is written as the name followed by
the operands in decimal. The name and the operands determine the instruction again.
-/
namespace Chip8.Instruction

/-- The name that an instruction goes by in diagnostics and answers. -/
def name : Instruction → String
  | .clear => "ClearScreen"
  | .ret => "PopSubroutine"
  | .jump _ => "Jump"
  | .call _ => "PushSubroutine"
  | .skipIfByte _ _ => "SkipEqualConstant"
  | .skipUnlessByte _ _ => "SkipNotEqualConstant"
  | .skipIfSame _ _ => "SkipEqualRegister"
  | .skipUnlessSame _ _ => "SkipNotEqualRegister"
  | .setByte _ _ => "SetRegister"
  | .addByte _ _ => "AddToRegister"
  | .copy _ _ => "CopyRegister"
  | .or _ _ => "Or"
  | .and _ _ => "And"
  | .xor _ _ => "XOr"
  | .add _ _ => "Add"
  | .subtract _ _ => "SubtractForward"
  | .shiftRight _ _ => "RightShift"
  | .subtractFrom _ _ => "SubtractBackward"
  | .shiftLeft _ _ => "LeftShift"
  | .setIndex _ => "SetIndexRegister"
  | .jumpOffset _ => "JumpWithOffset"
  | .random _ _ => "Random"
  | .draw _ _ _ => "Display"
  | .skipIfKey _ => "SkipIfPressed"
  | .skipUnlessKey _ => "SkipIfNotPressed"
  | .readDelay _ => "CopyDelayToRegister"
  | .awaitKey _ => "GetKey"
  | .setDelay _ => "CopyRegisterToDelay"
  | .setSound _ => "CopyRegisterToSound"
  | .addIndex _ => "AddToIndex"
  | .pointGlyph _ => "PointChar"
  | .storeDecimal _ => "ToDecimal"
  | .storeRegisters _ => "StoreRegisterToMemory"
  | .loadRegisters _ => "LoadRegisterFromMemory"
  | .unimplemented _ => "Unimplemented"

/-- The operands of an instruction, registers before constants. -/
def operandValues : Instruction → List Nat
  | .clear | .ret => []
  | .jump a | .call a | .setIndex a | .jumpOffset a | .unimplemented a => [a.toNat]
  | .skipIfByte x value | .skipUnlessByte x value | .setByte x value | .addByte x value
  | .random x value => [x.toNat, value.toNat]
  | .skipIfSame x y | .skipUnlessSame x y | .copy x y | .or x y | .and x y | .xor x y
  | .add x y | .subtract x y | .shiftRight x y | .subtractFrom x y | .shiftLeft x y =>
    [x.toNat, y.toNat]
  | .draw x y height => [x.toNat, y.toNat, height.toNat]
  | .skipIfKey x | .skipUnlessKey x | .readDelay x | .awaitKey x | .setDelay x | .setSound x
  | .addIndex x | .pointGlyph x | .storeDecimal x | .storeRegisters x | .loadRegisters x =>
    [x.toNat]

/-- The instruction of a name without operands. -/
def ofName? : String → Option Instruction
  | "ClearScreen" => some .clear
  | "PopSubroutine" => some .ret
  | _ => none

/-- The instruction of a name and one operand, taken modulo its width. -/
def ofName1? (name : String) (a : Nat) : Option Instruction :=
  let target := UInt16.ofNat a
  let x := UInt8.ofNat a
  match name with
  | "Jump" => some (.jump target)
  | "PushSubroutine" => some (.call target)
  | "SetIndexRegister" => some (.setIndex target)
  | "JumpWithOffset" => some (.jumpOffset target)
  | "Unimplemented" => some (.unimplemented target)
  | "SkipIfPressed" => some (.skipIfKey x)
  | "SkipIfNotPressed" => some (.skipUnlessKey x)
  | "CopyDelayToRegister" => some (.readDelay x)
  | "GetKey" => some (.awaitKey x)
  | "CopyRegisterToDelay" => some (.setDelay x)
  | "CopyRegisterToSound" => some (.setSound x)
  | "AddToIndex" => some (.addIndex x)
  | "PointChar" => some (.pointGlyph x)
  | "ToDecimal" => some (.storeDecimal x)
  | "StoreRegisterToMemory" => some (.storeRegisters x)
  | "LoadRegisterFromMemory" => some (.loadRegisters x)
  | _ => none

/-- The instruction of a name and two operands, each taken modulo its width. -/
def ofName2? (name : String) (a b : Nat) : Option Instruction :=
  let x := UInt8.ofNat a
  let y := UInt8.ofNat b
  match name with
  | "SkipEqualConstant" => some (.skipIfByte x y)
  | "SkipNotEqualConstant" => some (.skipUnlessByte x y)
  | "SkipEqualRegister" => some (.skipIfSame x y)
  | "SkipNotEqualRegister" => some (.skipUnlessSame x y)
  | "SetRegister" => some (.setByte x y)
  | "AddToRegister" => some (.addByte x y)
  | "CopyRegister" => some (.copy x y)
  | "Or" => some (.or x y)
  | "And" => some (.and x y)
  | "XOr" => some (.xor x y)
  | "Add" => some (.add x y)
  | "SubtractForward" => some (.subtract x y)
  | "RightShift" => some (.shiftRight x y)
  | "SubtractBackward" => some (.subtractFrom x y)
  | "LeftShift" => some (.shiftLeft x y)
  | "Random" => some (.random x y)
  | _ => none

/-- The instruction that a name and its operands stand for. -/
def ofParts? (name : String) : List Nat → Option Instruction
  | [] => ofName? name
  | [a] => ofName1? name a
  | [a, b] => ofName2? name a b
  | [a, b, c] =>
    if name = "Display" then some (.draw (UInt8.ofNat a) (UInt8.ofNat b) (UInt8.ofNat c))
    else none
  | _ => none

/-- The name and the operands of an instruction stand for it. -/
theorem ofParts?_name_operandValues (ins : Instruction) :
    ofParts? ins.name ins.operandValues = some ins := by
  cases ins <;> simp [ofParts?, ofName?, ofName1?, ofName2?, name, operandValues]

/-- An instruction is written as its name and its operands in parentheses. -/
def text (ins : Instruction) : String :=
  match ins.operandValues with
  | [] => ins.name
  | operands => ins.name ++ "(" ++ ", ".intercalate (operands.map Nat.repr) ++ ")"

end Chip8.Instruction
