import Mathlib.Data.UInt

namespace SurferCxxrtl.AsmGheith

/-- The instructions of the ISA documented in asm_gheith: register numbers and immediates are
u8 fields. -/
inductive I
  | sub (rt ra rb : UInt8)
  | movl (rt i : UInt8)
  | movh (rt i : UInt8)
  | jz (rt ra : UInt8)
  | jnz (rt ra : UInt8)
  | js (rt ra : UInt8)
  | jns (rt ra : UInt8)
  | ld (rt ra : UInt8)
  | st (rt ra : UInt8)
  deriving DecidableEq, Repr

/-- Error types when converting u16 to I. -/
inductive ConversionError
  | unknownOpcode (value : UInt16)
  deriving DecidableEq, Repr

/-- TryFrom u16 for I: the opcode in bits 12..15; opcodes 14 and 15 take a sub-opcode from
bits 4..7. -/
def I.tryFrom (value : UInt16) : Except ConversionError I :=
  match (value &&& 0xF000) >>> 12 with
  | 0b000 => .ok (.sub (value &&& 0xF).toUInt8 ((value &&& 0xF00) >>> 8).toUInt8
      ((value &&& 0xF0) >>> 4).toUInt8)
  | 0b1000 => .ok (.movl (value &&& 0xF).toUInt8 ((value &&& 0xFF00) >>> 8).toUInt8)
  | 0b1001 => .ok (.movh (value &&& 0xF).toUInt8 ((value &&& 0xFF00) >>> 8).toUInt8)
  | 0b1110 =>
    match (value &&& 0xF0) >>> 4 with
    | 0b0000 => .ok (.jz (value &&& 0xF).toUInt8 ((value &&& 0xF00) >>> 8).toUInt8)
    | 0b0001 => .ok (.jnz (value &&& 0xF).toUInt8 ((value &&& 0xF00) >>> 8).toUInt8)
    | 0b0010 => .ok (.js (value &&& 0xF).toUInt8 ((value &&& 0xF00) >>> 8).toUInt8)
    | 0b0011 => .ok (.jns (value &&& 0xF).toUInt8 ((value &&& 0xF00) >>> 8).toUInt8)
    | _ => .error (.unknownOpcode value)
  | 0b1111 =>
    match (value &&& 0xF0) >>> 4 with
    | 0b0000 => .ok (.ld (value &&& 0xF).toUInt8 ((value &&& 0xF00) >>> 8).toUInt8)
    | 0b0001 => .ok (.st (value &&& 0xF).toUInt8 ((value &&& 0xF00) >>> 8).toUInt8)
    | _ => .error (.unknownOpcode value)
  | _ => .error (.unknownOpcode value)

/-- The Debug formatter of I: the mnemonic, then each register as r and its number, an
immediate as # and its number, separated by commas. -/
def I.fmt : I → String
  | .sub rt ra rb => "sub r"++toString rt++", r"++toString ra++", r"++toString rb
  | .movl rt i => "movl r"++toString rt++", #"++toString i
  | .movh rt i => "movh r"++toString rt++", #"++toString i
  | .jz rt ra => "jz r"++toString rt++", r"++toString ra
  | .jnz rt ra => "jnz r"++toString rt++", r"++toString ra
  | .js rt ra => "js r"++toString rt++", r"++toString ra
  | .jns rt ra => "jns r"++toString rt++", r"++toString ra
  | .ld rt ra => "ld r"++toString rt++", r"++toString ra
  | .st rt ra => "st r"++toString rt++", r"++toString ra

end SurferCxxrtl.AsmGheith
