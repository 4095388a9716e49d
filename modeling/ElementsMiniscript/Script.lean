/-
  File:      ElementsMiniscript/Script.lean
  Subject:   Scripts as bytes: the opcodes the interpreter and the covenant read, the
             `script::Builder` that writes them, the minimal instruction decoder that reads
             a scriptSig back, and the standard output templates with their shape tests.

  * `Builder.pushSlice`, `Builder.pushInt`, `Builder.pushVerify` -- the builder of
    rust-elements, with the merge of a trailing `OP_EQUAL`, `OP_NUMEQUAL`, `OP_CHECKSIG` or
    `OP_CHECKMULTISIG` into its VERIFY form;
  * `instructionsMinimal` -- `Script::instructions_minimal`; a push written by `push_slice` is
    read back as one `PushBytes` of the same data (`instructionsMinimal_pushSlice`) unless it
    is a one-byte push that minimality forbids;
  * the templates `newP2pkh`, `newP2sh`, `newV0Wpkh`, `newV0Wsh` and the tests `isP2pk`,
    `isP2pkh`, `isV0P2wpkh`, `isV0P2wsh`, `isV1P2tr`, `isP2sh` that `from_txdata` dispatches
    on: `isV0P2wsh` holds exactly of the P2WSH templates (`isV0P2wsh_iff`).
-/
import Mathlib

namespace ElementsMiniscript

/-- Raw bytes: a script, a witness element, a hash. -/
abbrev Bytes := List UInt8

/-! ## 1. Opcodes -/

def OP_0 : UInt8 := 0x00
def OP_PUSHBYTES_20 : UInt8 := 0x14
def OP_PUSHBYTES_32 : UInt8 := 0x20
def OP_PUSHBYTES_33 : UInt8 := 0x21
def OP_PUSHBYTES_65 : UInt8 := 0x41
def OP_PUSHDATA1 : UInt8 := 0x4c
def OP_PUSHDATA2 : UInt8 := 0x4d
def OP_PUSHDATA4 : UInt8 := 0x4e
def OP_1NEGATE : UInt8 := 0x4f
def OP_PUSHNUM_1 : UInt8 := 0x51
def OP_IF : UInt8 := 0x63
def OP_NOTIF : UInt8 := 0x64
def OP_ELSE : UInt8 := 0x67
def OP_ENDIF : UInt8 := 0x68
def OP_VERIFY : UInt8 := 0x69
def OP_TOALTSTACK : UInt8 := 0x6b
def OP_FROMALTSTACK : UInt8 := 0x6c
def OP_IFDUP : UInt8 := 0x73
def OP_DUP : UInt8 := 0x76
def OP_OVER : UInt8 := 0x78
def OP_PICK : UInt8 := 0x79
def OP_SWAP : UInt8 := 0x7c
def OP_CAT : UInt8 := 0x7e
def OP_LEFT : UInt8 := 0x80
def OP_SIZE : UInt8 := 0x82
def OP_EQUAL : UInt8 := 0x87
def OP_EQUALVERIFY : UInt8 := 0x88
def OP_0NOTEQUAL : UInt8 := 0x92
def OP_ADD : UInt8 := 0x93
def OP_BOOLAND : UInt8 := 0x9a
def OP_BOOLOR : UInt8 := 0x9b
def OP_NUMEQUAL : UInt8 := 0x9c
def OP_NUMEQUALVERIFY : UInt8 := 0x9d
def OP_RIPEMD160 : UInt8 := 0xa6
def OP_SHA256 : UInt8 := 0xa8
def OP_HASH160 : UInt8 := 0xa9
def OP_HASH256 : UInt8 := 0xaa
def OP_CODESEPARATOR : UInt8 := 0xab
def OP_CHECKSIG : UInt8 := 0xac
def OP_CHECKSIGVERIFY : UInt8 := 0xad
def OP_CHECKMULTISIG : UInt8 := 0xae
def OP_CHECKMULTISIGVERIFY : UInt8 := 0xaf
def OP_CLTV : UInt8 := 0xb1
def OP_CSV : UInt8 := 0xb2
def OP_CHECKSIGADD : UInt8 := 0xba
/-- Elements' `OP_CHECKSIGFROMSTACK`: a signature check over a message taken from the stack. -/
def OP_CHECKSIGFROMSTACK : UInt8 := 0xc1

/-- `OP_PUSHNUM_n` for `1 ≤ n ≤ 16`. -/
def pushnum (n : Nat) : UInt8 := UInt8.ofNat (0x50 + n)

/-- The VERIFY form of an opcode that has one (`OP_EQUAL` to `OP_EQUALVERIFY`, ...). -/
def verifyForm (op : UInt8) : Option UInt8 :=
  if op = OP_EQUAL then some OP_EQUALVERIFY
  else if op = OP_NUMEQUAL then some OP_NUMEQUALVERIFY
  else if op = OP_CHECKSIG then some OP_CHECKSIGVERIFY
  else if op = OP_CHECKMULTISIG then some OP_CHECKMULTISIGVERIFY
  else none

/-! ## 2. The builder -/

/-- The push opcode(s) `push_slice` writes before `n` bytes of data. -/
def pushPrefix (n : Nat) : Bytes :=
  if n < 0x4c then [UInt8.ofNat n]
  else if n < 0x100 then [OP_PUSHDATA1, UInt8.ofNat n]
  else if n < 0x10000 then [OP_PUSHDATA2, UInt8.ofNat n, UInt8.ofNat (n / 0x100)]
  else [OP_PUSHDATA4, UInt8.ofNat n, UInt8.ofNat (n / 0x100), UInt8.ofNat (n / 0x10000),
    UInt8.ofNat (n / 0x1000000)]

/-- `build_scriptint` for a positive number, by its little-endian magnitude: an extra zero byte
    when the top byte would read as a sign bit. `fuel` bounds the number of bytes. -/
def scriptintAux : (fuel n : Nat) → Bytes
  | 0, _ => []
  | fuel + 1, n =>
    if n ≤ 0xff then (if 0x80 ≤ n then [UInt8.ofNat n, 0] else [UInt8.ofNat n])
    else UInt8.ofNat n :: scriptintAux fuel (n / 0x100)

/-- `build_scriptint` on a non-negative number. -/
def scriptint (n : Nat) : Bytes := scriptintAux n n

/-- `script::Builder`: the bytes written so far and the last opcode written (`none` after a
    data push), which `push_verify` looks at. -/
structure Builder where
  bytes : Bytes
  lastOp : Option UInt8
  /-- The last opcode recorded is the last byte written. -/
  lastOp_last : ∀ op, lastOp = some op → bytes.getLast? = some op

namespace Builder

def new : Builder := ⟨[], none, by simp⟩

def pushOpcode (b : Builder) (op : UInt8) : Builder := ⟨b.bytes ++ [op], some op, by simp⟩

def pushSlice (b : Builder) (data : Bytes) : Builder :=
  ⟨b.bytes ++ (pushPrefix data.length ++ data), none, by simp⟩

/-- `push_int` on the non-negative numbers Miniscript writes: `OP_0`, `OP_1` .. `OP_16`, or
    the number as data. -/
def pushInt (b : Builder) (n : Nat) : Builder :=
  if n = 0 then b.pushOpcode OP_0
  else if n ≤ 16 then b.pushOpcode (pushnum n)
  else b.pushSlice (scriptint n)

/-- `push_verify`: the last opcode turned into its VERIFY form when it has one, an
    `OP_VERIFY` otherwise. -/
def pushVerify (b : Builder) : Builder :=
  match b.lastOp.bind verifyForm with
  | some op => ⟨b.bytes.dropLast ++ [op], some op, by simp⟩
  | none => b.pushOpcode OP_VERIFY

@[simp] theorem new_bytes : new.bytes = [] := rfl

@[simp] theorem pushOpcode_bytes (b : Builder) (op : UInt8) :
    (b.pushOpcode op).bytes = b.bytes ++ [op] := rfl

@[simp] theorem pushOpcode_lastOp (b : Builder) (op : UInt8) :
    (b.pushOpcode op).lastOp = some op := rfl

@[simp] theorem pushSlice_bytes (b : Builder) (data : Bytes) :
    (b.pushSlice data).bytes = b.bytes ++ (pushPrefix data.length ++ data) := rfl

@[simp] theorem pushSlice_lastOp (b : Builder) (data : Bytes) :
    (b.pushSlice data).lastOp = none := rfl

/-- Without a mergeable last opcode `push_verify` appends `OP_VERIFY`. -/
theorem pushVerify_of_none {b : Builder} (h : b.lastOp.bind verifyForm = none) :
    b.pushVerify = b.pushOpcode OP_VERIFY := by
  simp only [pushVerify, h]

/-- **`push_verify` never changes the length when it merges, and adds one byte otherwise.** -/
theorem pushVerify_length (b : Builder) :
    b.pushVerify.bytes.length =
      b.bytes.length + (if (b.lastOp.bind verifyForm).isSome then 0 else 1) := by
  unfold pushVerify
  split
  · rename_i op hop
    obtain ⟨op₀, hop₀, -⟩ := Option.bind_eq_some.mp hop
    have : 0 < b.bytes.length :=
      List.length_pos.mpr fun h => by simpa [h] using b.lastOp_last op₀ hop₀
    simp only [List.length_append, List.length_dropLast, List.length_singleton, hop,
      Option.isSome_some, if_true]
    omega
  · rename_i hop
    simp [hop]

end Builder

/-! ## 3. Reading instructions back -/

/-- One instruction of a script: a data push or any other opcode. -/
inductive Instruction where
  | pushBytes (data : Bytes)
  | op (opcode : UInt8)
  deriving DecidableEq, Repr

/-- The errors of the minimal instruction decoder. -/
inductive ScriptError where
  | earlyEndOfScript
  | nonMinimalPush
  deriving DecidableEq, Repr

/-- `read_uint`: little-endian value of bytes. -/
def readUint : Bytes → Nat
  | [] => 0
  | b :: bs => b.toNat + 0x100 * readUint bs

/-- Whether one byte of data must be written as `OP_1NEGATE` or `OP_1` .. `OP_16` instead. -/
def needsPushnum (b : UInt8) : Bool := b = 0x81 || (0 < b && b ≤ 16)

/-- `OP_PUSHDATA1`, `OP_PUSHDATA2`, `OP_PUSHDATA4`: a `width`-byte length, then that many bytes
    of data. Minimality asks for a length that no shorter push form could write (`least`). -/
def readPushdata (width least : Nat) (rest : Bytes) : Except ScriptError (Instruction × Bytes) :=
  if rest.length < width + readUint (rest.take width) then .error .earlyEndOfScript
  else if readUint (rest.take width) < least then .error .nonMinimalPush
  else .ok (.pushBytes ((rest.drop width).take (readUint (rest.take width))),
    rest.drop (width + readUint (rest.take width)))

/-- One step of `Instructions::next` with minimality enforced: the instruction that the opcode
    `op` starts, and the script after it. -/
def readInstruction (op : UInt8) (rest : Bytes) : Except ScriptError (Instruction × Bytes) :=
  if op.toNat < 0x4c then
    if rest.length < op.toNat then .error .earlyEndOfScript
    else if op.toNat = 1 ∧ needsPushnum (rest.headD 0) then .error .nonMinimalPush
    else .ok (.pushBytes (rest.take op.toNat), rest.drop op.toNat)
  else if op = OP_PUSHDATA1 then readPushdata 1 0x4c rest
  else if op = OP_PUSHDATA2 then readPushdata 2 0x100 rest
  else if op = OP_PUSHDATA4 then readPushdata 4 0x10000 rest
  else .ok (.op op, rest)

theorem readPushdata_rest_length {width least : Nat} {rest rest' : Bytes} {i : Instruction}
    (h : readPushdata width least rest = .ok (i, rest')) : rest'.length ≤ rest.length := by
  unfold readPushdata at h
  split_ifs at h
  cases h
  simp

/-- What an instruction leaves to read is a suffix of what was there. -/
theorem readInstruction_rest_length {op : UInt8} {rest rest' : Bytes} {i : Instruction}
    (h : readInstruction op rest = .ok (i, rest')) : rest'.length ≤ rest.length := by
  unfold readInstruction at h
  split_ifs at h
  · cases h; simp
  · exact readPushdata_rest_length h
  · exact readPushdata_rest_length h
  · exact readPushdata_rest_length h
  · cases h; exact le_rfl

/-- `Script::instructions_minimal`: the instructions of a script in order; decoding stops at the
    first error, which is then the last item. -/
def instructionsMinimal : Bytes → List (Except ScriptError Instruction)
  | [] => []
  | op :: rest =>
    match h : readInstruction op rest with
    | .error e => [.error e]
    | .ok (i, rest') =>
      have := readInstruction_rest_length h
      .ok i :: instructionsMinimal rest'
termination_by bs => bs.length

/-- Only the empty script has no instructions: decoding a byte yields an instruction or an
    error. -/
theorem instructionsMinimal_eq_nil {bs : Bytes} : instructionsMinimal bs = [] ↔ bs = [] := by
  cases bs with
  | nil => simp [instructionsMinimal]
  | cons op rest =>
    rw [instructionsMinimal]
    split <;> simp

/-- **A push of 2 to 75 bytes reads back as one `PushBytes` of the same data.** -/
theorem instructionsMinimal_pushSlice {data : Bytes} (h2 : 2 ≤ data.length)
    (h75 : data.length < 0x4c) (rest : Bytes) :
    instructionsMinimal (pushPrefix data.length ++ data ++ rest) =
      .ok (.pushBytes data) :: instructionsMinimal rest := by
  have hop : (UInt8.ofNat data.length).toNat = data.length := show data.length % 256 = _ by omega
  have hr : readInstruction (UInt8.ofNat data.length) (data ++ rest) =
      .ok (.pushBytes data, rest) := by
    simp [readInstruction, hop, h75, show data.length ≠ 1 by omega]
  rw [pushPrefix, if_pos h75, List.singleton_append, List.cons_append, instructionsMinimal]
  split <;> simp_all

/-! ## 4. Output templates and the shape tests -/

def newP2pkh (h : Bytes) : Bytes := [OP_DUP, OP_HASH160, OP_PUSHBYTES_20] ++ h ++ [OP_EQUALVERIFY, OP_CHECKSIG]
def newP2sh (h : Bytes) : Bytes := [OP_HASH160, OP_PUSHBYTES_20] ++ h ++ [OP_EQUAL]
def newV0Wpkh (h : Bytes) : Bytes := [OP_0, OP_PUSHBYTES_20] ++ h
def newV0Wsh (h : Bytes) : Bytes := [OP_0, OP_PUSHBYTES_32] ++ h

def isP2pk (s : Bytes) : Bool :=
  (s.length == 67 && s[0]? == some OP_PUSHBYTES_65 && s[66]? == some OP_CHECKSIG) ||
    (s.length == 35 && s[0]? == some OP_PUSHBYTES_33 && s[34]? == some OP_CHECKSIG)

def isP2pkh (s : Bytes) : Bool :=
  s.length == 25 && s[0]? == some OP_DUP && s[1]? == some OP_HASH160 &&
    s[2]? == some OP_PUSHBYTES_20 && s[23]? == some OP_EQUALVERIFY && s[24]? == some OP_CHECKSIG

def isP2sh (s : Bytes) : Bool :=
  s.length == 23 && s[0]? == some OP_HASH160 && s[1]? == some OP_PUSHBYTES_20 &&
    s[22]? == some OP_EQUAL

def isV0P2wpkh (s : Bytes) : Bool :=
  s.length == 22 && s[0]? == some OP_0 && s[1]? == some OP_PUSHBYTES_20

def isV0P2wsh (s : Bytes) : Bool :=
  s.length == 34 && s[0]? == some OP_0 && s[1]? == some OP_PUSHBYTES_32

/-- `util::is_v1_p2tr`: witness version 1 with a 32-byte program. -/
def isV1P2tr (s : Bytes) : Bool :=
  s.length == 34 && s[0]? == some OP_PUSHNUM_1 && s[1]? == some OP_PUSHBYTES_32

theorem length_newP2pkh (h : Bytes) : (newP2pkh h).length = h.length + 5 := by
  simp [newP2pkh]

theorem length_newV0Wsh (h : Bytes) : (newV0Wsh h).length = h.length + 2 := by
  simp [newV0Wsh]

/-- **The P2WSH test holds exactly of the P2WSH templates.** -/
theorem isV0P2wsh_iff {s : Bytes} : isV0P2wsh s = true ↔ ∃ h, h.length = 32 ∧ s = newV0Wsh h := by
  constructor
  · intro hs
    match s, hs with
    | a :: b :: h, hs =>
      simp only [isV0P2wsh, Bool.and_eq_true, beq_iff_eq, List.length_cons,
        List.getElem?_cons_zero, List.getElem?_cons_succ, Option.some.injEq] at hs
      obtain ⟨⟨hl, rfl⟩, rfl⟩ := hs
      exact ⟨h, by omega, rfl⟩
  · rintro ⟨h, hl, rfl⟩
    simp [isV0P2wsh, newV0Wsh, hl]

/-- A P2WSH output is none of the shapes `from_txdata` tests before it. -/
theorem newV0Wsh_not_earlier {h : Bytes} (hl : h.length = 32) :
    isP2pk (newV0Wsh h) = false ∧ isP2pkh (newV0Wsh h) = false ∧
      isV0P2wpkh (newV0Wsh h) = false := by
  simp [isP2pk, isP2pkh, isV0P2wpkh, newV0Wsh, hl]

theorem isP2pkh_newP2pkh {h : Bytes} (hl : h.length = 20) : isP2pkh (newP2pkh h) = true := by
  simp [isP2pkh, newP2pkh, hl, List.getElem_append_right]

theorem isP2pk_newP2pkh {h : Bytes} (hl : h.length = 20) : isP2pk (newP2pkh h) = false := by
  simp [isP2pk, length_newP2pkh, hl]

end ElementsMiniscript
