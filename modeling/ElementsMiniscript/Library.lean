/-
  File:      ElementsMiniscript/Library.lean
  Subject:   What the code under `src/` calls but this repository's sources do not contain:
             hashes, taproot control blocks, and the Miniscript library's type checker,
             decoder and satisfier. They are fields of one record, `Library`, so that every
             result below holds for every implementation of them.

  * `Ctx` -- the script contexts; `Error`, `CovError` -- the crate's errors, without the
    text of their messages;
  * `Token` -- the lexer's tokens, those `check_cov_script` names by name;
  * `Satisfier` -- the capability record the descriptors' satisfaction reads, with the
    covenant's sighash lookups;
  * `Library` -- the collaborators; `limits` are the consensus and standardness constants.
-/
import ElementsMiniscript.Miniscript

/-- `Option::ok_or`. -/
def Option.okOr {α ε : Type} : Option α → ε → Except ε α
  | some a, _ => .ok a
  | none, e => .error e

namespace ElementsMiniscript

/-! ## 0. Reading `Except` computations backwards -/

section ExceptLemmas

variable {ε α β : Type}

@[simp] theorem okOr_eq_ok {o : Option α} {e : ε} {a : α} : o.okOr e = .ok a ↔ o = some a := by
  cases o <;> simp [Option.okOr]

@[simp] theorem okOr_some {a : α} {e : ε} : (some a).okOr e = .ok a := rfl

theorem okOr_eq_error {o : Option α} {e x : ε} : o.okOr e = .error x ↔ o = none ∧ e = x := by
  cases o <;> simp [Option.okOr]

@[simp] theorem ok_bind {a : α} {f : α → Except ε β} : (Except.ok a >>= f) = f a := rfl

theorem error_bind {e : ε} {f : α → Except ε β} : (Except.error e >>= f) = .error e := rfl

/-- A `do` block succeeded: so did its first step. -/
theorem bind_eq_ok {x : Except ε α} {f : α → Except ε β} {b : β} :
    x >>= f = .ok b ↔ ∃ a, x = .ok a ∧ f a = .ok b := by
  cases x <;> simp [bind, Except.bind]

/-- A `do` block failed: its first step did, or the rest did on the first step's result. -/
theorem bind_eq_error {x : Except ε α} {f : α → Except ε β} {e : ε} :
    x >>= f = .error e ↔ x = .error e ∨ ∃ a, x = .ok a ∧ f a = .error e := by
  cases x <;> simp [bind, Except.bind]

theorem map_eq_ok {x : Except ε α} {f : α → β} {b : β} :
    f <$> x = .ok b ↔ ∃ a, x = .ok a ∧ f a = b := by
  cases x <;> simp [Functor.map, Except.map]

@[simp] theorem mapError_eq_ok {ε' : Type} {x : Except ε α} {f : ε → ε'} {a : α} :
    x.mapError f = .ok a ↔ x = .ok a := by
  cases x <;> simp [Except.mapError]

end ExceptLemmas

/-! ## 1. Contexts, limits, errors -/

/-- The script contexts (`Legacy`, `Segwitv0`, `Tap`, `BareCtx`, `NoChecks`). -/
inductive Ctx where
  | legacy | segwitv0 | tap | bareCtx | noChecks
  deriving DecidableEq, Repr

/-- `limits::MAX_OPS_PER_SCRIPT`, the consensus op-code ceiling. -/
def MAX_OPS_PER_SCRIPT : Nat := 201
/-- `limits::MAX_SCRIPT_SIZE`, the consensus script-size ceiling. -/
def MAX_SCRIPT_SIZE : Nat := 10000
/-- `limits::MAX_STANDARD_P2WSH_SCRIPT_SIZE`, the standard witness-script ceiling. -/
def MAX_STANDARD_P2WSH_SCRIPT_SIZE : Nat := 3600

/-- `VarInt::len`: the length of a count's consensus encoding. -/
def varintLen (n : Nat) : Nat :=
  if n < 0xfd then 1 else if n ≤ 0xffff then 3 else if n ≤ 0xffffffff then 5 else 9

/-- `descriptor::CovError`. -/
inductive CovError where
  | badCovDescriptor
  | missingSighashItem (n : Nat)
  | missingCovSignature
  | covenantSighashTypeMismatch
  deriving DecidableEq, Repr

/-- The crate's `Error`, the variants the modelled code produces. Variants whose payload is a
    formatted message carry no payload. -/
inductive Error where
  | impossibleSatisfaction
  | scriptSizeTooLarge
  | covError (e : CovError)
  | nonTopLevel
  | trailing
  | unexpected
  | missingSig
  | badDescriptor
  | contextError
  | libraryError
  | script
  | invalidOpcode
  | invalidPush
  | nonMinimalVerify
  | badPubkey
  | nonStandardBareScript
  | couldNotSatisfy
  | expectedChar
  | maxRecursiveDepthExceeded
  | unprintable
  deriving DecidableEq, Repr

/-! ## 2. Tokens -/

/-- `lex::Token`: the tokens `check_cov_script` matches and those after which `lex` refuses an
    `OP_VERIFY` by name, the pushes by kind, and every other opcode's token by its opcode. -/
inductive Token where
  | checkSigFromStack | fromAltStack | sha256 | cat | verify | checkSig | codeSep
  | toAltStack | dup | left | over | pick | equal | checkMultiSig
  | num (n : Nat)
  | hash20 (h : Bytes)
  | bytes32 (h : Bytes)
  | pubkey (pk : PublicKey)
  | op (o : UInt8)
  deriving DecidableEq

/-! ## 3. The satisfier -/

/-- An ECDSA signature as `serialize_der` writes it: a DER encoding of at most 72 bytes. -/
structure Signature where
  der : Bytes
  der_length : 8 ≤ der.length ∧ der.length ≤ 72
  deriving DecidableEq

/-- `ElementsSig`: a signature with its sighash type (`as_u32`). -/
structure ElementsSig where
  sig : Signature
  hashTy : UInt32
  deriving DecidableEq

/-- `ElementsSig::to_vec`: the DER signature followed by the sighash byte. -/
def ElementsSig.toVec (s : ElementsSig) : Bytes := s.sig.der ++ [s.hashTy.toUInt8]

/-- A 32-byte hash (`sha256d::Hash`). -/
structure Hash32 where
  bytes : Bytes
  length : bytes.length = 32
  deriving DecidableEq

/-- `OutPoint`: a transaction id and an output index. -/
structure OutPoint where
  txid : Hash32
  vout : UInt32
  deriving DecidableEq

/-- `confidential::Value`: absent, explicit, or a 33-byte commitment. -/
inductive Value where
  | null
  | explicit (v : UInt64)
  | confidential (c : Bytes) (h : c.length = 33)
  deriving DecidableEq

/-- The capability object `Satisfier<Pk>`: signatures by key, keys by hash, and the covenant's
    sighash items. `lookupOutputs` gives the consensus encoding of each output. -/
structure Satisfier (Pk : Type) where
  lookupEcdsaSig : Pk → Option ElementsSig
  lookupPkhPk : Bytes → Option Pk
  lookupSig : Pk → Option ElementsSig
  lookupNversion : Option UInt32
  lookupHashprevouts : Option Hash32
  lookupHashsequence : Option Hash32
  lookupHashissuances : Option Hash32
  lookupOutpoint : Option OutPoint
  lookupScriptcode : Option Bytes
  lookupValue : Option Value
  lookupNsequence : Option UInt32
  lookupOutputs : Option (List Bytes)
  lookupNlocktime : Option UInt32
  lookupSighashu32 : Option UInt32

/-! ## 4. The collaborators -/

/-- The functions the modelled code calls from outside this repository's sources. -/
structure Library where
  /-- `sha256::Hash::hash`. -/
  sha256 : Bytes → Bytes
  sha256_length : ∀ b, (sha256 b).length = 32
  /-- `hash160::Hash::hash`. -/
  hash160 : Bytes → Bytes
  hash160_length : ∀ b, (hash160 b).length = 20
  /-- `sha256d::Hash::hash`. -/
  sha256d : Bytes → Bytes
  sha256d_length : ∀ b, (sha256d b).length = 32
  /-- Whether `ControlBlock::from_slice` accepts the bytes. -/
  controlBlockParses : Bytes → Bool
  /-- `ControlBlock::verify_taproot_commitment` of the control block with these bytes, for the
      output key and the tap script. -/
  verifyTaprootCommitment : Bytes → XOnlyPublicKey → Bytes → Bool
  /-- The type check of `Miniscript::from_ast` under a context with full keys. -/
  typeCheck : Ctx → Terminal PublicKey Bytes → Except Error (Ty × ExtData)
  /-- The type check of `Miniscript::from_ast` under `Tap`. -/
  typeCheckTap : Terminal XOnlyPublicKey Bytes → Except Error (Ty × ExtData)
  /-- `Miniscript::parse_insane` under a context with full keys. -/
  parseInsane : Ctx → Bytes → Except Error (Miniscript PublicKey Bytes)
  /-- `Miniscript::parse_insane` under `Tap`. -/
  parseInsaneTap : Bytes → Except Error (Miniscript XOnlyPublicKey Bytes)
  /-- `decode::parse` under `Segwitv0` on a token iterator, which yields the last token first;
      it returns what is left of the iterator. -/
  decodeParse : List Token → Except Error (Miniscript PublicKey Bytes × List Token)
  /-- `Miniscript::satisfy`. -/
  satisfy : Ctx → Miniscript PublicKey Bytes → Satisfier PublicKey → Except Error (List Bytes)

/-- `Miniscript::from_ast`: the fragment with the type data the library computes for it. -/
def Miniscript.fromAst {Pk : Type} (tc : Terminal Pk Bytes → Except Error (Ty × ExtData))
    (t : Terminal Pk Bytes) : Except Error (Miniscript Pk Bytes) :=
  (fun d => ⟨t, d.1, d.2⟩) <$> tc t

theorem Miniscript.fromAst_node {Pk : Type} {tc : Terminal Pk Bytes → Except Error (Ty × ExtData)}
    {t : Terminal Pk Bytes} {ms : Miniscript Pk Bytes} (h : Miniscript.fromAst tc t = .ok ms) :
    ms.node = t := by
  obtain ⟨d, -, rfl⟩ := map_eq_ok.mp h
  rfl

/-! ## 5. A library to run the model on -/

/-- The first `n` bytes of `b`, padded with zeros: a stand-in for an `n`-byte hash. -/
def truncHash (n : Nat) (b : Bytes) : Bytes := (b ++ List.replicate n 0).take n

theorem length_truncHash (n : Nat) (b : Bytes) : (truncHash n b).length = n := by
  simp [truncHash]

/-- A `Library` to evaluate the model on fixed inputs: hashes that truncate, control blocks
    that parse and verify, a type checker that gives every fragment base type `B` and the data
    of `1`, a parser and a decoder that fail, and a satisfier that returns no element. -/
def Library.sample : Library where
  sha256 := truncHash 32
  sha256_length := length_truncHash 32
  hash160 := truncHash 20
  hash160_length := length_truncHash 20
  sha256d := truncHash 32
  sha256d_length := length_truncHash 32
  controlBlockParses _ := true
  verifyTaprootCommitment _ _ _ := true
  typeCheck _ _ := .ok (⟨.B⟩, ⟨1, false, some 0, some 0, some 0⟩)
  typeCheckTap _ := .ok (⟨.B⟩, ⟨1, false, some 0, some 0, some 0⟩)
  parseInsane _ _ := .error .libraryError
  parseInsaneTap _ := .error .libraryError
  decodeParse _ := .error .libraryError
  satisfy _ _ _ := .ok []

/-- The Miniscript `1` with the type data the library gives it: a `B` expression of one byte,
    no op-code, and an empty satisfaction. -/
def msTrue : Miniscript PublicKey Bytes := ⟨.true, ⟨.B⟩, ⟨1, false, some 0, some 0, some 0⟩⟩

/-- `c:pk_k(K)` with its type data: a `B` expression of the key's push and `OP_CHECKSIG`, whose
    last opcode has a VERIFY form, one op-code, satisfied by one signature of at most 73
    bytes. -/
def msPk (pk : PublicKey) : Miniscript PublicKey Bytes :=
  ⟨.check (.pkK pk), ⟨.B⟩, ⟨pk.bytes.length + 2, true, some 1, some 1, some 73⟩⟩

/-- A type checker for `1` and `c:pk_k(K)`, with the data `msTrue` and `msPk` carry; it refuses
    every other fragment. -/
def typeCheckPk : Terminal PublicKey Bytes → Except Error (Ty × ExtData)
  | .true => .ok (msTrue.ty, msTrue.ext)
  | .check (.pkK pk) => .ok ((msPk pk).ty, (msPk pk).ext)
  | _ => .error .libraryError

/-- What `typeCheckPk` builds: `1` or `c:pk_k(K)`. -/
theorem fromAst_typeCheckPk {ms : Miniscript PublicKey Bytes}
    (h : Miniscript.fromAst typeCheckPk ms.node = .ok ms) : ms = msTrue ∨ ∃ pk, ms = msPk pk := by
  obtain ⟨d, hd, he⟩ := map_eq_ok.mp h
  obtain ⟨node, ty, ext⟩ := ms
  cases he
  cases node with
  | true => cases hd; exact .inl rfl
  | check s =>
    cases s with
    | pkK pk => cases hd; exact .inr ⟨pk, rfl⟩
    | _ => simp [typeCheckPk] at hd
  | _ => simp [typeCheckPk] at hd

end ElementsMiniscript
