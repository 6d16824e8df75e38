namespace PawnBytecode

inductive OperandKind where
  | value
  | address
  | native
deriving DecidableEq

structure OpcodeSpec where
  number : Nat
  mnemonic : String
  operandCount : Nat
  kind : OperandKind
deriving DecidableEq

/-- An instruction of the machine. A case record is no instruction of the code segment: it
stands for one value and target of the case table before it. -/
inductive Opcode where
  | none | loadPri | loadAlt | loadSPri | loadSAlt | lrefPri | lrefAlt | lrefSPri | lrefSAlt | loadI | lodbI
  | constPri | constAlt | addrPri | addrAlt | storPri | storAlt | storSPri | storSAlt | srefPri | srefAlt
  | srefSPri | srefSAlt | storI | strbI | lidx | lidxB | idxaddr | idxaddrB | alignPri | alignAlt | lctrl
  | sctrl | movePri | moveAlt | xchg | pushPri | pushAlt | pushR | pushC | push | pushS | popPri | popAlt
  | stack | heap | proc | ret | retn | call | callPri | jump | jrel | jzer | jnz | jeq | jneq | jless | jleq
  | jgrtr | jgeq | jsless | jsleq | jsgrtr | jsgeq | shl | shr | sshr | shlCPri | shlCAlt | shrCPri | shrCAlt
  | smul | sdiv | sdivAlt | umul | udiv | udivAlt | add | sub | subAlt | and | or | xor | not | neg | invert
  | addC | smulC | zeroPri | zeroAlt | zero | zeroS | signPri | signAlt | eq | neq | less | leq | grtr | geq
  | sless | sleq | sgrtr | sgeq | eqCPri | eqCAlt | incPri | incAlt | inc | incS | incI | decPri | decAlt | dec
  | decS | decI | movs | cmps | fill | halt | bounds | sysreqPri | sysreqC | file | line | srange | jumpPri
  | switch | caseTable | swapPri | swapAlt | pushAdr | nop | sysreqD | symtag | breakpoint | caseRecord
deriving DecidableEq

namespace Opcode

/-- The instruction set in numerical order, the case record last. -/
def all : List Opcode := [
  .none, .loadPri, .loadAlt, .loadSPri, .loadSAlt, .lrefPri, .lrefAlt, .lrefSPri, .lrefSAlt,
  .loadI, .lodbI, .constPri, .constAlt, .addrPri, .addrAlt, .storPri, .storAlt, .storSPri,
  .storSAlt, .srefPri, .srefAlt, .srefSPri, .srefSAlt, .storI, .strbI, .lidx, .lidxB, .idxaddr,
  .idxaddrB, .alignPri, .alignAlt, .lctrl, .sctrl, .movePri, .moveAlt, .xchg, .pushPri, .pushAlt,
  .pushR, .pushC, .push, .pushS, .popPri, .popAlt, .stack, .heap, .proc, .ret, .retn, .call,
  .callPri, .jump, .jrel, .jzer, .jnz, .jeq, .jneq, .jless, .jleq, .jgrtr, .jgeq, .jsless,
  .jsleq, .jsgrtr, .jsgeq, .shl, .shr, .sshr, .shlCPri, .shlCAlt, .shrCPri, .shrCAlt, .smul,
  .sdiv, .sdivAlt, .umul, .udiv, .udivAlt, .add, .sub, .subAlt, .and, .or, .xor, .not, .neg,
  .invert, .addC, .smulC, .zeroPri, .zeroAlt, .zero, .zeroS, .signPri, .signAlt, .eq, .neq,
  .less, .leq, .grtr, .geq, .sless, .sleq, .sgrtr, .sgeq, .eqCPri, .eqCAlt, .incPri, .incAlt,
  .inc, .incS, .incI, .decPri, .decAlt, .dec, .decS, .decI, .movs, .cmps, .fill, .halt, .bounds,
  .sysreqPri, .sysreqC, .file, .line, .srange, .jumpPri, .switch, .caseTable, .swapPri, .swapAlt,
  .pushAdr, .nop, .sysreqD, .symtag, .breakpoint, .caseRecord]

/-- The table: number, mnemonic, operand count, operand kind. -/
def spec : Opcode → OpcodeSpec
  | .none => ⟨0x00, "none", 0, .value⟩
  | .loadPri => ⟨0x01, "load.pri", 1, .value⟩
  | .loadAlt => ⟨0x02, "load.alt", 1, .value⟩
  | .loadSPri => ⟨0x03, "load.s.pri", 1, .value⟩
  | .loadSAlt => ⟨0x04, "load.s.alt", 1, .value⟩
  | .lrefPri => ⟨0x05, "lref.pri", 1, .value⟩
  | .lrefAlt => ⟨0x06, "lref.alt", 1, .value⟩
  | .lrefSPri => ⟨0x07, "lref.s.pri", 1, .value⟩
  | .lrefSAlt => ⟨0x08, "lref.s.alt", 1, .value⟩
  | .loadI => ⟨0x09, "load.i", 0, .value⟩
  | .lodbI => ⟨0x0A, "lodb.i", 1, .value⟩
  | .constPri => ⟨0x0B, "const.pri", 1, .value⟩
  | .constAlt => ⟨0x0C, "const.alt", 1, .value⟩
  | .addrPri => ⟨0x0D, "addr.pri", 1, .value⟩
  | .addrAlt => ⟨0x0E, "addr.alt", 1, .value⟩
  | .storPri => ⟨0x0F, "stor.pri", 1, .value⟩
  | .storAlt => ⟨0x10, "stor.alt", 1, .value⟩
  | .storSPri => ⟨0x11, "stor.s.pri", 1, .value⟩
  | .storSAlt => ⟨0x12, "stor.s.alt", 1, .value⟩
  | .srefPri => ⟨0x13, "sref.pri", 1, .value⟩
  | .srefAlt => ⟨0x14, "sref.alt", 1, .value⟩
  | .srefSPri => ⟨0x15, "sref.s.pri", 1, .value⟩
  | .srefSAlt => ⟨0x16, "sref.s.alt", 1, .value⟩
  | .storI => ⟨0x17, "stor.i", 0, .value⟩
  | .strbI => ⟨0x18, "strb.i", 1, .value⟩
  | .lidx => ⟨0x19, "lidx", 0, .value⟩
  | .lidxB => ⟨0x1A, "lidx.b", 1, .value⟩
  | .idxaddr => ⟨0x1B, "idxaddr", 0, .value⟩
  | .idxaddrB => ⟨0x1C, "idxaddr.b", 1, .value⟩
  | .alignPri => ⟨0x1D, "align.pri", 1, .value⟩
  | .alignAlt => ⟨0x1E, "align.alt", 1, .value⟩
  | .lctrl => ⟨0x1F, "lctrl", 1, .value⟩
  | .sctrl => ⟨0x20, "sctrl", 1, .value⟩
  | .movePri => ⟨0x21, "move.pri", 0, .value⟩
  | .moveAlt => ⟨0x22, "move.alt", 0, .value⟩
  | .xchg => ⟨0x23, "xchg", 0, .value⟩
  | .pushPri => ⟨0x24, "push.pri", 0, .value⟩
  | .pushAlt => ⟨0x25, "push.alt", 0, .value⟩
  | .pushR => ⟨0x26, "push.r", 1, .value⟩
  | .pushC => ⟨0x27, "push.c", 1, .value⟩
  | .push => ⟨0x28, "push", 1, .value⟩
  | .pushS => ⟨0x29, "push.s", 1, .value⟩
  | .popPri => ⟨0x2A, "pop.pri", 0, .value⟩
  | .popAlt => ⟨0x2B, "pop.alt", 0, .value⟩
  | .stack => ⟨0x2C, "stack", 1, .value⟩
  | .heap => ⟨0x2D, "heap", 1, .value⟩
  | .proc => ⟨0x2E, "proc", 0, .value⟩
  | .ret => ⟨0x2F, "ret", 0, .value⟩
  | .retn => ⟨0x30, "retn", 0, .value⟩
  | .call => ⟨0x31, "call", 1, .address⟩
  | .callPri => ⟨0x32, "call.pri", 0, .value⟩
  | .jump => ⟨0x33, "jump", 1, .address⟩
  | .jrel => ⟨0x34, "jrel", 1, .value⟩
  | .jzer => ⟨0x35, "jzer", 1, .address⟩
  | .jnz => ⟨0x36, "jnz", 1, .address⟩
  | .jeq => ⟨0x37, "jeq", 1, .address⟩
  | .jneq => ⟨0x38, "jneq", 1, .address⟩
  | .jless => ⟨0x39, "jless", 1, .address⟩
  | .jleq => ⟨0x3A, "jleq", 1, .address⟩
  | .jgrtr => ⟨0x3B, "jgrtr", 1, .address⟩
  | .jgeq => ⟨0x3C, "jgeq", 1, .address⟩
  | .jsless => ⟨0x3D, "jsless", 1, .address⟩
  | .jsleq => ⟨0x3E, "jsleq", 1, .address⟩
  | .jsgrtr => ⟨0x3F, "jsgrtr", 1, .address⟩
  | .jsgeq => ⟨0x40, "jsgeq", 1, .address⟩
  | .shl => ⟨0x41, "shl", 0, .value⟩
  | .shr => ⟨0x42, "shr", 0, .value⟩
  | .sshr => ⟨0x43, "sshr", 0, .value⟩
  | .shlCPri => ⟨0x44, "shl.c.pri", 1, .value⟩
  | .shlCAlt => ⟨0x45, "shl.c.alt", 1, .value⟩
  | .shrCPri => ⟨0x46, "shr.c.pri", 1, .value⟩
  | .shrCAlt => ⟨0x47, "shr.c.alt", 1, .value⟩
  | .smul => ⟨0x48, "smul", 0, .value⟩
  | .sdiv => ⟨0x49, "sdiv", 0, .value⟩
  | .sdivAlt => ⟨0x4A, "sdiv.alt", 0, .value⟩
  | .umul => ⟨0x4B, "umul", 0, .value⟩
  | .udiv => ⟨0x4C, "udiv", 0, .value⟩
  | .udivAlt => ⟨0x4D, "udiv.alt", 0, .value⟩
  | .add => ⟨0x4E, "add", 0, .value⟩
  | .sub => ⟨0x4F, "sub", 0, .value⟩
  | .subAlt => ⟨0x50, "sub.alt", 0, .value⟩
  | .and => ⟨0x51, "and", 0, .value⟩
  | .or => ⟨0x52, "or", 0, .value⟩
  | .xor => ⟨0x53, "xor", 0, .value⟩
  | .not => ⟨0x54, "not", 0, .value⟩
  | .neg => ⟨0x55, "neg", 0, .value⟩
  | .invert => ⟨0x56, "invert", 0, .value⟩
  | .addC => ⟨0x57, "add.c", 1, .value⟩
  | .smulC => ⟨0x58, "smul.c", 1, .value⟩
  | .zeroPri => ⟨0x59, "zero.pri", 0, .value⟩
  | .zeroAlt => ⟨0x5A, "zero.alt", 0, .value⟩
  | .zero => ⟨0x5B, "zero", 1, .value⟩
  | .zeroS => ⟨0x5C, "zero.s", 1, .value⟩
  | .signPri => ⟨0x5D, "sign.pri", 0, .value⟩
  | .signAlt => ⟨0x5E, "sign.alt", 0, .value⟩
  | .eq => ⟨0x5F, "eq", 0, .value⟩
  | .neq => ⟨0x60, "neq", 0, .value⟩
  | .less => ⟨0x61, "less", 0, .value⟩
  | .leq => ⟨0x62, "leq", 0, .value⟩
  | .grtr => ⟨0x63, "grtr", 0, .value⟩
  | .geq => ⟨0x64, "geq", 0, .value⟩
  | .sless => ⟨0x65, "sless", 0, .value⟩
  | .sleq => ⟨0x66, "sleq", 0, .value⟩
  | .sgrtr => ⟨0x67, "sgrtr", 0, .value⟩
  | .sgeq => ⟨0x68, "sgeq", 0, .value⟩
  | .eqCPri => ⟨0x69, "eq.c.pri", 1, .value⟩
  | .eqCAlt => ⟨0x6A, "eq.c.alt", 1, .value⟩
  | .incPri => ⟨0x6B, "inc.pri", 0, .value⟩
  | .incAlt => ⟨0x6C, "inc.alt", 0, .value⟩
  | .inc => ⟨0x6D, "inc", 1, .value⟩
  | .incS => ⟨0x6E, "inc.s", 1, .value⟩
  | .incI => ⟨0x6F, "inc.i", 0, .value⟩
  | .decPri => ⟨0x70, "dec.pri", 0, .value⟩
  | .decAlt => ⟨0x71, "dec.alt", 0, .value⟩
  | .dec => ⟨0x72, "dec", 1, .value⟩
  | .decS => ⟨0x73, "dec.s", 1, .value⟩
  | .decI => ⟨0x74, "dec.i", 0, .value⟩
  | .movs => ⟨0x75, "movs", 1, .value⟩
  | .cmps => ⟨0x76, "cmps", 1, .value⟩
  | .fill => ⟨0x77, "fill", 1, .value⟩
  | .halt => ⟨0x78, "halt", 1, .value⟩
  | .bounds => ⟨0x79, "bounds", 1, .value⟩
  | .sysreqPri => ⟨0x7A, "sysreq.pri", 0, .value⟩
  | .sysreqC => ⟨0x7B, "sysreq.c", 1, .native⟩
  | .file => ⟨0x7C, "file", 1, .value⟩
  | .line => ⟨0x7D, "line", 1, .value⟩
  | .srange => ⟨0x7F, "srange", 1, .value⟩
  | .jumpPri => ⟨0x80, "jump.pri", 0, .value⟩
  | .switch => ⟨0x81, "switch", 1, .address⟩
  | .caseTable => ⟨0x82, "casetbl", 2, .value⟩
  | .swapPri => ⟨0x83, "swap.pri", 0, .value⟩
  | .swapAlt => ⟨0x84, "swap.alt", 0, .value⟩
  | .pushAdr => ⟨0x85, "push.adr", 1, .value⟩
  | .nop => ⟨0x86, "nop", 0, .value⟩
  | .sysreqD => ⟨0x87, "sysreq.d", 1, .address⟩
  | .symtag => ⟨0x88, "symtag", 1, .value⟩
  | .breakpoint => ⟨0x89, "break", 0, .value⟩
  | .caseRecord => ⟨0x1000, "case", 2, .address⟩

def number (opcode : Opcode) : Nat := opcode.spec.number

def mnemonic (opcode : Opcode) : String := opcode.spec.mnemonic

def identifier (opcode : Opcode) : String :=
  opcode.mnemonic.map fun char => if char = '.' then '_' else char.toUpper

def operandCount (opcode : Opcode) : Nat := opcode.spec.operandCount

def kind (opcode : Opcode) : OperandKind := opcode.spec.kind

/-- Only a case table is followed by as many records as its first operand says. -/
def isVariable (opcode : Opcode) : Bool := opcode == .caseTable

def opensFunction (opcode : Opcode) : Bool := opcode == .proc

def closesStretch (opcode : Opcode) : Bool := opcode == .breakpoint || opcode == .retn

def ofNumber? (number : Int) : Option Opcode := all.find? fun opcode => (opcode.number : Int) == number

/-- The instruction of a number met in a code segment, where no case record stands. -/
def decodable? (number : Int) : Option Opcode := (ofNumber? number).filter (· != .caseRecord)

theorem ofNumber?_number (opcode : Opcode) : ofNumber? opcode.number = some opcode := by
  cases opcode <;> rfl

theorem number_of_ofNumber? {number : Int} {opcode : Opcode}
    (found : ofNumber? number = some opcode) : (opcode.number : Int) = number := by
  simpa using List.find?_some found

end Opcode

end PawnBytecode
