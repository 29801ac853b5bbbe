import TlmBoy.Cpu.Ops

/-
  The two switches of `cpu_jumptable.cpp`.

  `Instr` has one constructor for each instruction function that a case calls, with the operands
  it passes. `jumpTable` is the outer switch and `jumpTableCb` the one behind the prefix 0xCB,
  case by case; `execute` makes the call. The case 0xCB itself, which fetches a second byte and
  enters the inner switch, is in `decodeExecute`.
-/

namespace TlmBoy

/-- The argument of the conditional jumps, calls and returns. -/
inductive Cond where
  | nz | z | nc | c
deriving DecidableEq, Repr

inductive Instr where
  | nop
  | halt
  | stop
  | emu
  | loadFrom (reg : Reg8)
  | load (reg : Reg8) (addrReg : Reg16)
  | loadImm16 (reg : Reg16)
  | loadImm (reg : Reg8)
  | loadInc (reg : Reg8) (addrReg : Reg16)
  | loadDec (addrReg : Reg16) (reg : Reg8)
  | storeInc (addrReg : Reg16) (reg : Reg8)
  | storeDec (addrReg : Reg16) (reg : Reg8)
  | store (addrReg : Reg16) (reg : Reg8)
  | storeHighC (reg : Reg8)
  | storeTo (reg : Reg8)
  | storeImm (addr : Reg16)
  | storeH (reg : Reg8)
  | loadH (reg : Reg8)
  | loadHlSpRel
  | loadSpHl
  | inc (reg : Reg8)
  | inc16 (reg : Reg16)
  | incAddr (addr : Reg16)
  | decAddr (addr : Reg16)
  | rlca
  | rrca
  | rra
  | rlc (reg : Reg8)
  | rlcAddr (addrReg : Reg16)
  | rrc (reg : Reg8)
  | rrcAddr (addrReg : Reg16)
  | storeSp
  | addHl (reg : Reg16)
  | addSp
  | addA (reg : Reg8)
  | addAAddr (addrReg : Reg16)
  | addAImm
  | addACarry (reg : Reg8)
  | addACarryAddr (addrReg : Reg16)
  | addACarryImm
  | subImm
  | sub (reg : Reg8)
  | subAddr (addrReg : Reg16)
  | subCarry (reg : Reg8)
  | subCarryAddr (addrReg : Reg16)
  | subCarryImm
  | comp (reg : Reg8)
  | compAddr (reg : Reg16)
  | compImm
  | dec16 (reg : Reg16)
  | dec (reg : Reg8)
  | xor (reg : Reg8)
  | xorAddr (addrReg : Reg16)
  | xorImm
  | and (reg : Reg8)
  | andAddr (addrReg : Reg16)
  | andImm
  | or (reg : Reg8)
  | orAddr (addrReg : Reg16)
  | orImm
  | jump
  | jumpReg (addrReg : Reg16)
  | jumpAddr
  | jumpIf (cond : Cond)
  | jumpAddrIf (cond : Cond)
  | bitN (bitIndex : Fin 8) (reg : Reg8)
  | bitNAddr (bitIndex : Fin 8) (addr : Reg16)
  | setBitN (bitIndex : Fin 8) (reg : Reg8)
  | setBitNAddr (bitIndex : Fin 8) (addrReg : Reg16)
  | call
  | callIf (cond : Cond)
  | ret
  | retI
  | push (reg : StackReg)
  | pop (reg : StackReg)
  | mov (regTo regFrom : Reg8)
  | rotLeft (reg : Reg8)
  | rotLeftAddr (addrReg : Reg16)
  | rotRight (reg : Reg8)
  | rotRightAddr (addrReg : Reg16)
  | rotLeftA
  | shiftRight (reg : Reg8)
  | shiftRightAddr (addrReg : Reg16)
  | di
  | ei
  | retIf (cond : Cond)
  | swap (reg : Reg8)
  | swapAddr (addrReg : Reg16)
  | rst (addr : U8)
  | resetBit (bit : Fin 8) (reg : Reg8)
  | resetBitAddr (bit : Fin 8) (addrReg : Reg16)
  | complement
  | sla (reg : Reg8)
  | slaAddr (addrReg : Reg16)
  | daa
  | scf
  | ccf
  | sra (reg : Reg8)
  | sraAddr (addrReg : Reg16)
  | loadC
  | unknown (instrByte : U8)
  | unknownCb (instrByte : U8)
deriving DecidableEq, Repr

/-! ## The switches -/

/-- The outer switch, without the prefix 0xCB. -/
def jumpTable (instrByte : U8) : Instr :=
  match instrByte.toNat with
  | 0x00 => .nop
  | 0x01 => .loadImm16 .bc
  | 0x02 => .store .bc .a
  | 0x03 => .inc16 .bc
  | 0x04 => .inc .b
  | 0x05 => .dec .b
  | 0x06 => .loadImm .b
  | 0x07 => .rlca
  | 0x08 => .storeSp
  | 0x09 => .addHl .bc
  | 0x0A => .load .a .bc
  | 0x0B => .dec16 .bc
  | 0x0C => .inc .c
  | 0x0D => .dec .c
  | 0x0E => .loadImm .c
  | 0x0F => .rrca
  | 0x10 => .stop
  | 0x11 => .loadImm16 .de
  | 0x12 => .store .de .a
  | 0x13 => .inc16 .de
  | 0x14 => .inc .d
  | 0x15 => .dec .d
  | 0x16 => .loadImm .d
  | 0x17 => .rotLeftA
  | 0x18 => .jump
  | 0x19 => .addHl .de
  | 0x1A => .load .a .de
  | 0x1B => .dec16 .de
  | 0x1C => .inc .e
  | 0x1D => .dec .e
  | 0x1E => .loadImm .e
  | 0x1F => .rra
  | 0x20 => .jumpIf .nz
  | 0x21 => .loadImm16 .hl
  | 0x22 => .storeInc .hl .a
  | 0x23 => .inc16 .hl
  | 0x24 => .inc .h
  | 0x25 => .dec .h
  | 0x26 => .loadImm .h
  | 0x27 => .daa
  | 0x28 => .jumpIf .z
  | 0x29 => .addHl .hl
  | 0x2A => .loadInc .a .hl
  | 0x2B => .dec16 .hl
  | 0x2C => .inc .l
  | 0x2D => .dec .l
  | 0x2E => .loadImm .l
  | 0x2F => .complement
  | 0x30 => .jumpIf .nc
  | 0x31 => .loadImm16 .sp
  | 0x32 => .storeDec .hl .a
  | 0x33 => .inc16 .sp
  | 0x34 => .incAddr .hl
  | 0x35 => .decAddr .hl
  | 0x36 => .storeImm .hl
  | 0x37 => .scf
  | 0x38 => .jumpIf .c
  | 0x39 => .addHl .sp
  | 0x3A => .loadDec .hl .a
  | 0x3B => .dec16 .sp
  | 0x3C => .inc .a
  | 0x3D => .dec .a
  | 0x3E => .loadImm .a
  | 0x3F => .ccf
  | 0x40 => .mov .b .b
  | 0x41 => .mov .b .c
  | 0x42 => .mov .b .d
  | 0x43 => .mov .b .e
  | 0x44 => .mov .b .h
  | 0x45 => .mov .b .l
  | 0x46 => .load .b .hl
  | 0x47 => .mov .b .a
  | 0x48 => .mov .c .b
  | 0x49 => .mov .c .c
  | 0x4A => .mov .c .d
  | 0x4B => .mov .c .e
  | 0x4C => .mov .c .h
  | 0x4D => .mov .c .l
  | 0x4E => .load .c .hl
  | 0x4F => .mov .c .a
  | 0x50 => .mov .d .b
  | 0x51 => .mov .d .c
  | 0x52 => .mov .d .d
  | 0x53 => .mov .d .e
  | 0x54 => .mov .d .h
  | 0x55 => .mov .d .l
  | 0x56 => .load .d .hl
  | 0x57 => .mov .d .a
  | 0x58 => .mov .e .b
  | 0x59 => .mov .e .c
  | 0x5A => .mov .e .d
  | 0x5B => .mov .e .e
  | 0x5C => .mov .e .h
  | 0x5D => .mov .e .l
  | 0x5E => .load .e .hl
  | 0x5F => .mov .e .a
  | 0x60 => .mov .h .b
  | 0x61 => .mov .h .c
  | 0x62 => .mov .h .d
  | 0x63 => .mov .h .e
  | 0x64 => .mov .h .h
  | 0x65 => .mov .h .l
  | 0x66 => .load .h .hl
  | 0x67 => .mov .h .a
  | 0x68 => .mov .l .b
  | 0x69 => .mov .l .c
  | 0x6A => .mov .l .d
  | 0x6B => .mov .l .e
  | 0x6C => .mov .l .h
  | 0x6D => .mov .l .l
  | 0x6E => .load .l .hl
  | 0x6F => .mov .l .a
  | 0x70 => .store .hl .b
  | 0x71 => .store .hl .c
  | 0x72 => .store .hl .d
  | 0x73 => .store .hl .e
  | 0x74 => .store .hl .h
  | 0x75 => .store .hl .l
  | 0x76 => .halt
  | 0x77 => .store .hl .a
  | 0x78 => .mov .a .b
  | 0x79 => .mov .a .c
  | 0x7A => .mov .a .d
  | 0x7B => .mov .a .e
  | 0x7C => .mov .a .h
  | 0x7D => .mov .a .l
  | 0x7E => .load .a .hl
  | 0x7F => .mov .a .a
  | 0x80 => .addA .b
  | 0x81 => .addA .c
  | 0x82 => .addA .d
  | 0x83 => .addA .e
  | 0x84 => .addA .h
  | 0x85 => .addA .l
  | 0x86 => .addAAddr .hl
  | 0x87 => .addA .a
  | 0x88 => .addACarry .b
  | 0x89 => .addACarry .c
  | 0x8A => .addACarry .d
  | 0x8B => .addACarry .e
  | 0x8C => .addACarry .h
  | 0x8D => .addACarry .l
  | 0x8E => .addACarryAddr .hl
  | 0x8F => .addACarry .a
  | 0x90 => .sub .b
  | 0x91 => .sub .c
  | 0x92 => .sub .d
  | 0x93 => .sub .e
  | 0x94 => .sub .h
  | 0x95 => .sub .l
  | 0x96 => .subAddr .hl
  | 0x97 => .sub .a
  | 0x98 => .subCarry .b
  | 0x99 => .subCarry .c
  | 0x9A => .subCarry .d
  | 0x9B => .subCarry .e
  | 0x9C => .subCarry .h
  | 0x9D => .subCarry .l
  | 0x9E => .subCarryAddr .hl
  | 0x9F => .subCarry .a
  | 0xA0 => .and .b
  | 0xA1 => .and .c
  | 0xA2 => .and .d
  | 0xA3 => .and .e
  | 0xA4 => .and .h
  | 0xA5 => .and .l
  | 0xA6 => .andAddr .hl
  | 0xA7 => .and .a
  | 0xA8 => .xor .b
  | 0xA9 => .xor .c
  | 0xAA => .xor .d
  | 0xAB => .xor .e
  | 0xAC => .xor .h
  | 0xAD => .xor .l
  | 0xAE => .xorAddr .hl
  | 0xAF => .xor .a
  | 0xB0 => .or .b
  | 0xB1 => .or .c
  | 0xB2 => .or .d
  | 0xB3 => .or .e
  | 0xB4 => .or .h
  | 0xB5 => .or .l
  | 0xB6 => .orAddr .hl
  | 0xB7 => .or .a
  | 0xB8 => .comp .b
  | 0xB9 => .comp .c
  | 0xBA => .comp .d
  | 0xBB => .comp .e
  | 0xBC => .comp .h
  | 0xBD => .comp .l
  | 0xBE => .compAddr .hl
  | 0xBF => .comp .a
  | 0xC0 => .retIf .nz
  | 0xC1 => .pop .bc
  | 0xC2 => .jumpAddrIf .nz
  | 0xC3 => .jumpAddr
  | 0xC4 => .callIf .nz
  | 0xC5 => .push .bc
  | 0xC6 => .addAImm
  | 0xC7 => .rst 0x00
  | 0xC8 => .retIf .z
  | 0xC9 => .ret
  | 0xCA => .jumpAddrIf .z
  | 0xCC => .callIf .z
  | 0xCD => .call
  | 0xCE => .addACarryImm
  | 0xCF => .rst 0x08
  | 0xD0 => .retIf .nc
  | 0xD1 => .pop .de
  | 0xD2 => .jumpAddrIf .nc
  | 0xD3 => .emu
  | 0xD4 => .callIf .nc
  | 0xD5 => .push .de
  | 0xD6 => .subImm
  | 0xD7 => .rst 0x10
  | 0xD8 => .retIf .c
  | 0xD9 => .retI
  | 0xDA => .jumpAddrIf .c
  | 0xDC => .callIf .c
  | 0xDE => .subCarryImm
  | 0xDF => .rst 0x18
  | 0xE0 => .storeH .a
  | 0xE1 => .pop .hl
  | 0xE2 => .storeHighC .a
  | 0xE5 => .push .hl
  | 0xE6 => .andImm
  | 0xE7 => .rst 0x20
  | 0xE8 => .addSp
  | 0xE9 => .jumpReg .hl
  | 0xEA => .storeTo .a
  | 0xEE => .xorImm
  | 0xEF => .rst 0x28
  | 0xF0 => .loadH .a
  | 0xF1 => .pop .af
  | 0xF2 => .loadC
  | 0xF3 => .di
  | 0xF5 => .push .af
  | 0xF6 => .orImm
  | 0xF7 => .rst 0x30
  | 0xF8 => .loadHlSpRel
  | 0xF9 => .loadSpHl
  | 0xFA => .loadFrom .a
  | 0xFB => .ei
  | 0xFE => .compImm
  | 0xFF => .rst 0x38
  | _ => .unknown instrByte

/-- The switch behind the prefix 0xCB. -/
def jumpTableCb (instrByte : U8) : Instr :=
  match instrByte.toNat with
  | 0x00 => .rlc .b
  | 0x01 => .rlc .c
  | 0x02 => .rlc .d
  | 0x03 => .rlc .e
  | 0x04 => .rlc .h
  | 0x05 => .rlc .l
  | 0x06 => .rlcAddr .hl
  | 0x07 => .rlc .a
  | 0x08 => .rrc .b
  | 0x09 => .rrc .c
  | 0x0A => .rrc .d
  | 0x0B => .rrc .e
  | 0x0C => .rrc .h
  | 0x0D => .rrc .l
  | 0x0E => .rrcAddr .hl
  | 0x0F => .rrc .a
  | 0x10 => .rotLeft .b
  | 0x11 => .rotLeft .c
  | 0x12 => .rotLeft .d
  | 0x13 => .rotLeft .e
  | 0x14 => .rotLeft .h
  | 0x15 => .rotLeft .l
  | 0x16 => .rotLeftAddr .hl
  | 0x17 => .rotLeft .a
  | 0x18 => .rotRight .b
  | 0x19 => .rotRight .c
  | 0x1A => .rotRight .d
  | 0x1B => .rotRight .e
  | 0x1C => .rotRight .h
  | 0x1D => .rotRight .l
  | 0x1E => .rotRightAddr .hl
  | 0x1F => .rotRight .a
  | 0x20 => .sla .b
  | 0x21 => .sla .c
  | 0x22 => .sla .d
  | 0x23 => .sla .e
  | 0x24 => .sla .h
  | 0x25 => .sla .l
  | 0x26 => .slaAddr .hl
  | 0x27 => .sla .a
  | 0x28 => .sra .b
  | 0x29 => .sra .c
  | 0x2A => .sra .d
  | 0x2B => .sra .e
  | 0x2C => .sra .h
  | 0x2D => .sra .l
  | 0x2E => .sraAddr .hl
  | 0x2F => .sra .a
  | 0x30 => .swap .b
  | 0x31 => .swap .c
  | 0x32 => .swap .d
  | 0x33 => .swap .e
  | 0x34 => .swap .h
  | 0x35 => .swap .l
  | 0x36 => .swapAddr .hl
  | 0x37 => .swap .a
  | 0x38 => .shiftRight .b
  | 0x39 => .shiftRight .c
  | 0x3A => .shiftRight .d
  | 0x3B => .shiftRight .e
  | 0x3C => .shiftRight .h
  | 0x3D => .shiftRight .l
  | 0x3E => .shiftRightAddr .hl
  | 0x3F => .shiftRight .a
  | 0x40 => .bitN 0 .b
  | 0x41 => .bitN 0 .c
  | 0x42 => .bitN 0 .d
  | 0x43 => .bitN 0 .e
  | 0x44 => .bitN 0 .h
  | 0x45 => .bitN 0 .l
  | 0x46 => .bitNAddr 0 .hl
  | 0x47 => .bitN 0 .a
  | 0x48 => .bitN 1 .b
  | 0x49 => .bitN 1 .c
  | 0x4A => .bitN 1 .d
  | 0x4B => .bitN 1 .e
  | 0x4C => .bitN 1 .h
  | 0x4D => .bitN 1 .l
  | 0x4E => .bitNAddr 1 .hl
  | 0x4F => .bitN 1 .a
  | 0x50 => .bitN 2 .b
  | 0x51 => .bitN 2 .c
  | 0x52 => .bitN 2 .d
  | 0x53 => .bitN 2 .e
  | 0x54 => .bitN 2 .h
  | 0x55 => .bitN 2 .l
  | 0x56 => .bitNAddr 2 .hl
  | 0x57 => .bitN 2 .a
  | 0x58 => .bitN 3 .b
  | 0x59 => .bitN 3 .c
  | 0x5A => .bitN 3 .d
  | 0x5B => .bitN 3 .e
  | 0x5C => .bitN 3 .h
  | 0x5D => .bitN 3 .l
  | 0x5E => .bitNAddr 3 .hl
  | 0x5F => .bitN 3 .a
  | 0x60 => .bitN 4 .b
  | 0x61 => .bitN 4 .c
  | 0x62 => .bitN 4 .d
  | 0x63 => .bitN 4 .e
  | 0x64 => .bitN 4 .h
  | 0x65 => .bitN 4 .l
  | 0x66 => .bitNAddr 4 .hl
  | 0x67 => .bitN 4 .a
  | 0x68 => .bitN 5 .b
  | 0x69 => .bitN 5 .c
  | 0x6A => .bitN 5 .d
  | 0x6B => .bitN 5 .e
  | 0x6C => .bitN 5 .h
  | 0x6D => .bitN 5 .l
  | 0x6E => .bitNAddr 5 .hl
  | 0x6F => .bitN 5 .a
  | 0x70 => .bitN 6 .b
  | 0x71 => .bitN 6 .c
  | 0x72 => .bitN 6 .d
  | 0x73 => .bitN 6 .e
  | 0x74 => .bitN 6 .h
  | 0x75 => .bitN 6 .l
  | 0x76 => .bitNAddr 6 .hl
  | 0x77 => .bitN 6 .a
  | 0x78 => .bitN 7 .b
  | 0x79 => .bitN 7 .c
  | 0x7A => .bitN 7 .d
  | 0x7B => .bitN 7 .e
  | 0x7C => .bitN 7 .h
  | 0x7D => .bitN 7 .l
  | 0x7E => .bitNAddr 7 .hl
  | 0x7F => .bitN 7 .a
  | 0x80 => .resetBit 0 .b
  | 0x81 => .resetBit 0 .c
  | 0x82 => .resetBit 0 .d
  | 0x83 => .resetBit 0 .e
  | 0x84 => .resetBit 0 .h
  | 0x85 => .resetBit 0 .l
  | 0x86 => .resetBitAddr 0 .hl
  | 0x87 => .resetBit 0 .a
  | 0x88 => .resetBit 1 .b
  | 0x89 => .resetBit 1 .c
  | 0x8A => .resetBit 1 .d
  | 0x8B => .resetBit 1 .e
  | 0x8C => .resetBit 1 .h
  | 0x8D => .resetBit 1 .l
  | 0x8E => .resetBitAddr 1 .hl
  | 0x8F => .resetBit 1 .a
  | 0x90 => .resetBit 2 .b
  | 0x91 => .resetBit 2 .c
  | 0x92 => .resetBit 2 .d
  | 0x93 => .resetBit 2 .e
  | 0x94 => .resetBit 2 .h
  | 0x95 => .resetBit 2 .l
  | 0x96 => .resetBitAddr 2 .hl
  | 0x97 => .resetBit 2 .a
  | 0x98 => .resetBit 3 .b
  | 0x99 => .resetBit 3 .c
  | 0x9A => .resetBit 3 .d
  | 0x9B => .resetBit 3 .e
  | 0x9C => .resetBit 3 .h
  | 0x9D => .resetBit 3 .l
  | 0x9E => .resetBitAddr 3 .hl
  | 0x9F => .resetBit 3 .a
  | 0xA0 => .resetBit 4 .b
  | 0xA1 => .resetBit 4 .c
  | 0xA2 => .resetBit 4 .d
  | 0xA3 => .resetBit 4 .e
  | 0xA4 => .resetBit 4 .h
  | 0xA5 => .resetBit 4 .l
  | 0xA6 => .resetBitAddr 4 .hl
  | 0xA7 => .resetBit 4 .a
  | 0xA8 => .resetBit 5 .b
  | 0xA9 => .resetBit 5 .c
  | 0xAA => .resetBit 5 .d
  | 0xAB => .resetBit 5 .e
  | 0xAC => .resetBit 5 .h
  | 0xAD => .resetBit 5 .l
  | 0xAE => .resetBitAddr 5 .hl
  | 0xAF => .resetBit 5 .a
  | 0xB0 => .resetBit 6 .b
  | 0xB1 => .resetBit 6 .c
  | 0xB2 => .resetBit 6 .d
  | 0xB3 => .resetBit 6 .e
  | 0xB4 => .resetBit 6 .h
  | 0xB5 => .resetBit 6 .l
  | 0xB6 => .resetBitAddr 6 .hl
  | 0xB7 => .resetBit 6 .a
  | 0xB8 => .resetBit 7 .b
  | 0xB9 => .resetBit 7 .c
  | 0xBA => .resetBit 7 .d
  | 0xBB => .resetBit 7 .e
  | 0xBC => .resetBit 7 .h
  | 0xBD => .resetBit 7 .l
  | 0xBE => .resetBitAddr 7 .hl
  | 0xBF => .resetBit 7 .a
  | 0xC0 => .setBitN 0 .b
  | 0xC1 => .setBitN 0 .c
  | 0xC2 => .setBitN 0 .d
  | 0xC3 => .setBitN 0 .e
  | 0xC4 => .setBitN 0 .h
  | 0xC5 => .setBitN 0 .l
  | 0xC6 => .setBitNAddr 0 .hl
  | 0xC7 => .setBitN 0 .a
  | 0xC8 => .setBitN 1 .b
  | 0xC9 => .setBitN 1 .c
  | 0xCA => .setBitN 1 .d
  | 0xCB => .setBitN 1 .e
  | 0xCC => .setBitN 1 .h
  | 0xCD => .setBitN 1 .l
  | 0xCE => .setBitNAddr 1 .hl
  | 0xCF => .setBitN 1 .a
  | 0xD0 => .setBitN 2 .b
  | 0xD1 => .setBitN 2 .c
  | 0xD2 => .setBitN 2 .d
  | 0xD3 => .setBitN 2 .e
  | 0xD4 => .setBitN 2 .h
  | 0xD5 => .setBitN 2 .l
  | 0xD6 => .setBitNAddr 2 .hl
  | 0xD7 => .setBitN 2 .a
  | 0xD8 => .setBitN 3 .b
  | 0xD9 => .setBitN 3 .c
  | 0xDA => .setBitN 3 .d
  | 0xDB => .setBitN 3 .e
  | 0xDC => .setBitN 3 .h
  | 0xDD => .setBitN 3 .l
  | 0xDE => .setBitNAddr 3 .hl
  | 0xDF => .setBitN 3 .a
  | 0xE0 => .setBitN 4 .b
  | 0xE1 => .setBitN 4 .c
  | 0xE2 => .setBitN 4 .d
  | 0xE3 => .setBitN 4 .e
  | 0xE4 => .setBitN 4 .h
  | 0xE5 => .setBitN 4 .l
  | 0xE6 => .setBitNAddr 4 .hl
  | 0xE7 => .setBitN 4 .a
  | 0xE8 => .setBitN 5 .b
  | 0xE9 => .setBitN 5 .c
  | 0xEA => .setBitN 5 .d
  | 0xEB => .setBitN 5 .e
  | 0xEC => .setBitN 5 .h
  | 0xED => .setBitN 5 .l
  | 0xEE => .setBitNAddr 5 .hl
  | 0xEF => .setBitN 5 .a
  | 0xF0 => .setBitN 6 .b
  | 0xF1 => .setBitN 6 .c
  | 0xF2 => .setBitN 6 .d
  | 0xF3 => .setBitN 6 .e
  | 0xF4 => .setBitN 6 .h
  | 0xF5 => .setBitN 6 .l
  | 0xF6 => .setBitNAddr 6 .hl
  | 0xF7 => .setBitN 6 .a
  | 0xF8 => .setBitN 7 .b
  | 0xF9 => .setBitN 7 .c
  | 0xFA => .setBitN 7 .d
  | 0xFB => .setBitN 7 .e
  | 0xFC => .setBitN 7 .h
  | 0xFD => .setBitN 7 .l
  | 0xFE => .setBitNAddr 7 .hl
  | 0xFF => .setBitN 7 .a
  | _ => .unknownCb instrByte

/-! ## Execution -/

namespace Cpu

variable {σ : Type}

def evalCond (cond : Cond) : CpuM σ Bool :=
  match cond with
  | .nz => return !(← getFlagZ)
  | .z => getFlagZ
  | .nc => return !(← getFlagC)
  | .c => getFlagC

variable [BusPort σ] [Kernel σ]

/-- The body of an instruction's case. A HALT may wait for at most `fuel` rounds. -/
def execute (fuel : Nat) (instr : Instr) : CpuM σ Unit :=
  match instr with
  | .nop => instrNop
  | .halt => instrHalt fuel
  | .stop => throw (.runtimeError "Instruction 0x10 not implemented")
  | .emu => instrEmu
  | .loadFrom reg => do instrLoadFrom reg (← fetchNext2InstrBytes)
  | .load reg addrReg => instrLoad reg addrReg
  | .loadImm16 reg => instrLoadImm16 reg
  | .loadImm reg => instrLoadImm reg
  | .loadInc reg addrReg => instrLoadInc reg addrReg
  | .loadDec addrReg reg => instrLoadDec addrReg reg
  | .storeInc addrReg reg => do instrStoreInc addrReg (← getReg reg)
  | .storeDec addrReg reg => do instrStoreDec addrReg (← getReg reg)
  | .store addrReg reg => instrStore addrReg reg
  | .storeHighC reg => do instrStoreHigh (← getReg .c) reg
  | .storeTo reg => instrStoreTo reg
  | .storeImm addr => instrStoreImm addr
  | .storeH reg => instrStoreH reg
  | .loadH reg => instrLoadH reg
  | .loadHlSpRel => instrLoadHlSpRel
  | .loadSpHl => instrLoadSpHl
  | .inc reg => instrInc reg
  | .inc16 reg => instrInc16 reg
  | .incAddr addr => instrIncAddr addr
  | .decAddr addr => instrDecAddr addr
  | .rlca => instrRlca
  | .rrca => instrRrca
  | .rra => instrRra
  | .rlc reg => instrRlc reg
  | .rlcAddr addrReg => instrRlcAddr addrReg
  | .rrc reg => instrRrc reg
  | .rrcAddr addrReg => instrRrcAddr addrReg
  | .storeSp => instrStoreSp
  | .addHl reg => instrAddHl reg
  | .addSp => instrAddSp
  | .addA reg => instrAddA reg
  | .addAAddr addrReg => instrAddAAddr addrReg
  | .addAImm => instrAddAImm
  | .addACarry reg => instrAddACarry reg
  | .addACarryAddr addrReg => instrAddACarryAddr addrReg
  | .addACarryImm => instrAddACarryImm
  | .subImm => instrSubImm
  | .sub reg => instrSub reg
  | .subAddr addrReg => instrSubAddr addrReg
  | .subCarry reg => instrSubCarry reg
  | .subCarryAddr addrReg => instrSubCarryAddr addrReg
  | .subCarryImm => instrSubCarryImm
  | .comp reg => instrComp reg
  | .compAddr reg => instrCompAddr reg
  | .compImm => instrCompImm
  | .dec16 reg => instrDec16 reg
  | .dec reg => instrDec reg
  | .xor reg => instrXor reg
  | .xorAddr addrReg => instrXorAddr addrReg
  | .xorImm => instrXorImm
  | .and reg => instrAnd reg
  | .andAddr addrReg => instrAndAddr addrReg
  | .andImm => instrAndImm
  | .or reg => instrOr reg
  | .orAddr addrReg => instrOrAddr addrReg
  | .orImm => instrOrImm
  | .jump => instrJump
  | .jumpReg addrReg => instrJumpReg addrReg
  | .jumpAddr => instrJumpAddr
  | .jumpIf cond => do instrJumpIf (← evalCond cond)
  | .jumpAddrIf cond => do instrJumpAddrIf (← evalCond cond)
  | .bitN bitIndex reg => instrBitN bitIndex reg
  | .bitNAddr bitIndex addr => instrBitNAddr bitIndex addr
  | .setBitN bitIndex reg => instrSetBitN bitIndex reg
  | .setBitNAddr bitIndex addrReg => instrSetBitNAddr bitIndex addrReg
  | .call => instrCall
  | .callIf cond => do instrCallIf (← evalCond cond)
  | .ret => instrRet
  | .retI => instrRetI
  | .push reg => instrPush reg
  | .pop reg => instrPop reg
  | .mov regTo regFrom => instrMov regTo regFrom
  | .rotLeft reg => instrRotLeft reg
  | .rotLeftAddr addrReg => instrRotLeftAddr addrReg
  | .rotRight reg => instrRotRight reg
  | .rotRightAddr addrReg => instrRotRightAddr addrReg
  | .rotLeftA => instrRotLeftA
  | .shiftRight reg => instrShiftRight reg
  | .shiftRightAddr addrReg => instrShiftRightAddr addrReg
  | .di => instrDI
  | .ei => instrEI
  | .retIf cond => do instrRetIf (← evalCond cond)
  | .swap reg => instrSwap reg
  | .swapAddr addrReg => instrSwapAddr addrReg
  | .rst addr => instrRST addr
  | .resetBit bit reg => instrResetBit bit reg
  | .resetBitAddr bit addrReg => instrResetBitAddr bit addrReg
  | .complement => instrComplement
  | .sla reg => instrSLA reg
  | .slaAddr addrReg => instrSLAAddr addrReg
  | .daa => instrDAA
  | .scf => instrSCF
  | .ccf => instrCCF
  | .sra reg => instrSRA reg
  | .sraAddr addrReg => instrSRAAddr addrReg
  | .loadC => instrLoadC
  | .unknown instrByte => do
    throw (.exitFailure ("UNKNOWN INSTRUCTION: 0x" ++ fmtHex 0 instrByte.toNat ++
      " at PC=0x" ++ fmtHex 0 (← getPc).toNat ++ "\n"))
  | .unknownCb instrByte => do
    throw (.exitFailure ("UNKNOWN INSTRUCTION: CB 0x" ++ fmtHex 0 instrByte.toNat ++
      " at PC=0x" ++ fmtHex 0 (← getPc).toNat ++ "\n"))

/-- Decode and execute the fetched byte. -/
def decodeExecute (fuel : Nat) (instrByte : U8) : CpuM σ Unit := do
  if instrByte = 0xCB then
    execute fuel (jumpTableCb (← fetchNextInstrByte))
  else
    execute fuel (jumpTable instrByte)

end Cpu

end TlmBoy
