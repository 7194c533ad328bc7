import Handheld.Cpu.Instruction

/-!
Instructions as a listing shows them: the mnemonic, the name of the operation and the operands.
-/

namespace Handheld.Cpu

/-- The letter of an 8-bit register. -/
def Register8.text : Register8 → String
  | .a => "A"
  | .b => "B"
  | .c => "C"
  | .d => "D"
  | .e => "E"
  | .h => "H"
  | .l => "L"

/-- The letters of a 16-bit register. -/
def Register16.text : Register16 → String
  | .af => "AF"
  | .bc => "BC"
  | .de => "DE"
  | .hl => "HL"
  | .sp => "SP"

/-- A memory operand stands in parentheses. -/
def Pointer.text : Pointer → String
  | .bc => "(BC)"
  | .de => "(DE)"
  | .hl => "(HL)"
  | .hlUp => "(HL+)"
  | .hlDown => "(HL-)"
  | .pageC => "(C)"
  | .page => "(a8)"
  | .absolute => "(a16)"

/-- The spelling of an 8-bit operand. -/
def Operand.text : Operand → String
  | .register r => r.text
  | .memory pointer => pointer.text
  | .immediate => "d8"

/-- The spelling of a condition. -/
def Condition.text : Condition → String
  | .nz => "NZ"
  | .z => "Z"
  | .nc => "NC"
  | .c => "C"

/-- The name of an operation on the accumulator. -/
def Arithmetic.text : Arithmetic → String
  | .add => "ADD"
  | .adc => "ADC"
  | .sub => "SUB"
  | .sbc => "SBC"
  | .and => "AND"
  | .xor => "XOR"
  | .or => "OR"
  | .cp => "CP"

/-- The name of a rotation or shift. -/
def Rotation.text : Rotation → String
  | .rlc => "RLC"
  | .rrc => "RRC"
  | .rl => "RL"
  | .rr => "RR"
  | .sla => "SLA"
  | .sra => "SRA"
  | .swap => "SWAP"
  | .srl => "SRL"

namespace Instruction

private def conditional (name operand : String) : Option Condition → String
  | none => name ++ " " ++ operand
  | some condition => name ++ " " ++ condition.text ++ "," ++ operand

/-- The mnemonic of an instruction. Loads through an immediate offset into the top page have a
name of their own. -/
def mnemonic : Instruction → String
  | .nop => "NOP"
  | .stop => "STOP"
  | .halt => "HALT"
  | .di => "DI"
  | .ei => "EI"
  | .load target source =>
    let name := if target = .memory .page ∨ source = .memory .page then "LDH " else "LD "
    name ++ target.text ++ "," ++ source.text
  | .loadWord target => "LD " ++ target.text ++ ",d16"
  | .storeSp => "LD (a16),SP"
  | .spFromHl => "LD SP,HL"
  | .hlFromSpOffset => "LD HL,SP+r8"
  | .addSpOffset => "ADD SP,r8"
  | .push source => "PUSH " ++ source.text
  | .pop target => "POP " ++ target.text
  | .inc target => "INC " ++ target.text
  | .dec target => "DEC " ++ target.text
  | .incWord target => "INC " ++ target.text
  | .decWord target => "DEC " ++ target.text
  | .arithmetic operation source => operation.text ++ " A," ++ source.text
  | .addHl source => "ADD HL," ++ source.text
  | .rlca => "RLCA"
  | .rrca => "RRCA"
  | .rla => "RLA"
  | .rra => "RRA"
  | .daa => "DAA"
  | .cpl => "CPL"
  | .scf => "SCF"
  | .ccf => "CCF"
  | .jump condition => conditional "JP" "a16" condition
  | .jumpHl => "JP (HL)"
  | .jumpRelative condition => conditional "JR" "r8" condition
  | .call condition => conditional "CALL" "a16" condition
  | .ret none => "RET"
  | .ret (some condition) => "RET " ++ condition.text
  | .reti => "RETI"
  | .rst vector => "RST " ++ Text.hex 2 vector ++ "H"
  | .extend => "PREFIX CB"
  | .rotate operation target => operation.text ++ " " ++ target.text
  | .bit index source => "BIT " ++ toString index ++ "," ++ source.text
  | .reset index target => "RES " ++ toString index ++ "," ++ target.text
  | .set index target => "SET " ++ toString index ++ "," ++ target.text

/-- The name of the operation that an instruction performs, whatever its operands. -/
def operation : Instruction → String
  | .nop => "NOP"
  | .stop => "STOP"
  | .halt => "HALT"
  | .di => "DI"
  | .ei => "EI"
  | .load .. => "LD8"
  | .loadWord _ => "LD16"
  | .storeSp => "LD_A16_SP"
  | .spFromHl => "LD_SP_HL"
  | .hlFromSpOffset => "LD_HL_SP_E"
  | .addSpOffset => "ADD_SP_E"
  | .push _ => "PUSH"
  | .pop _ => "POP"
  | .inc _ => "INC8"
  | .dec _ => "DEC8"
  | .incWord _ => "INC16"
  | .decWord _ => "DEC16"
  | .arithmetic .. => "ALU"
  | .addHl _ => "ADD_HL"
  | .rlca => "RLCA"
  | .rrca => "RRCA"
  | .rla => "RLA"
  | .rra => "RRA"
  | .daa => "DAA"
  | .cpl => "CPL"
  | .scf => "SCF"
  | .ccf => "CCF"
  | .jump _ => "JP"
  | .jumpHl => "JP_HL"
  | .jumpRelative _ => "JR"
  | .call _ => "CALL"
  | .ret _ => "RET"
  | .reti => "RETI"
  | .rst _ => "RST"
  | .extend => "PREFIX"
  | .rotate .. => "ROTATE"
  | .bit .. => "BIT"
  | .reset .. => "RES"
  | .set .. => "SET"

/-- One operand in a listing: a name, or a number such as a bit index. -/
inductive Listed
  | name (text : String)
  | number (value : Nat)
  deriving DecidableEq, Repr

/-- The operands of an instruction in the order in which a listing gives them. Immediate words and
offsets are left to the mnemonic. -/
def operands : Instruction → List Listed
  | .load target source => [.name target.text, .name source.text]
  | .loadWord register | .push register | .pop register | .incWord register
  | .decWord register | .addHl register => [.name register.text]
  | .inc target | .dec target => [.name target.text]
  | .arithmetic operation source => [.name operation.text, .name source.text]
  | .rst vector => [.number vector]
  | .rotate operation target => [.name operation.text, .name target.text]
  | .bit index operand | .reset index operand | .set index operand =>
    [.number index, .name operand.text]
  | _ => []

end Instruction

end Handheld.Cpu
