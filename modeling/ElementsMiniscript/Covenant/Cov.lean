/-
  File:      ElementsMiniscript/Covenant/Cov.lean
  Subject:   `descriptor/covenants/cov.rs`: the covenant descriptor, its constructor and its
             limits, its encoding, the recognition of a covenant script from its tokens, and
             its satisfaction with the sighash items in their fixed order.

  * `CovenantDescriptor.new` -- the op-count and script-size checks, in the code's order;
  * `verifyCov`, `postCodesepScript` -- the preamble appended after the inner Miniscript, as
    `check_cov_script` reads it back (their file is absent from `src/`); `encode_eq` -- the
    encoding is `push_verify` of the Miniscript's instructions, then the preamble's;
  * **`lex_encode`** -- the tokens of a covenant's encoding are its Miniscript's, then exactly
    the preamble `check_cov_script` matches, whether or not the Miniscript's last opcode merged
    with the preamble's first `OP_VERIFY`;
  * `checkCovScript`, `parseCovComponents`, `parseInsane`, `parse` -- decoding, from the end of
    the token stream; `parseCovComponents_encode` -- a decoder that keeps its law
    (`DecodesBack`) reads the components of an encoding back;
  * `satisfy`, `getSatisfaction`, `maxSatisfactionWeight`, `scriptPubkey`, `covScriptCode`,
    `sanityCheck` -- the descriptor's satisfaction, its weight bound, its output and script
    codes and its standardness check;
  * `forEachKey` -- the predicate on the binding key and `for_any_key` on the inner Miniscript,
    so that it asks for one key of the Miniscript where `Bare` asks for all (`forEachKey_iff`).
-/
import ElementsMiniscript.Lex
import ElementsMiniscript.Translate

namespace ElementsMiniscript

/-! ## 1. Encodings of the sighash items -/

/-- Little-endian bytes of a 32-bit number (`serialize` of a `u32`). -/
def serializeU32 (n : UInt32) : Bytes :=
  [n.toUInt8, (n >>> 8).toUInt8, (n >>> 16).toUInt8, (n >>> 24).toUInt8]

/-- The consensus encoding of a length prefix (`VarInt`). -/
def varint (n : Nat) : Bytes :=
  if n < 0xfd then [UInt8.ofNat n]
  else if n ≤ 0xffff then [0xfd, UInt8.ofNat n, UInt8.ofNat (n / 0x100)]
  else if n ≤ 0xffffffff then
    [0xfe, UInt8.ofNat n, UInt8.ofNat (n / 0x100), UInt8.ofNat (n / 0x10000),
      UInt8.ofNat (n / 0x1000000)]
  else 0xff :: (List.range 8).map fun i => UInt8.ofNat (n / 0x100 ^ i)

/-- `serialize` of a script: its length as a `VarInt`, then its bytes. -/
def serializeScript (s : Bytes) : Bytes := varint s.length ++ s

/-- `serialize` of an outpoint: the transaction id, then the output index. -/
def OutPoint.serialize (o : OutPoint) : Bytes := o.txid.bytes ++ serializeU32 o.vout

/-- `serialize` of a `confidential::Value`: a null byte, a prefixed big-endian amount, or the
    33-byte commitment. -/
def Value.serialize : Value → Bytes
  | .null => [0]
  | .explicit v => 1 :: (List.range 8).reverse.map fun i => (v >>> (8 * UInt64.ofNat i)).toUInt8
  | .confidential c _ => c

theorem length_varint (n : Nat) : (varint n).length = varintLen n := by
  unfold varint varintLen
  split_ifs <;> simp

theorem length_serializeU32 (n : UInt32) : (serializeU32 n).length = 4 := rfl

/-! ## 2. The descriptor and its constructor -/

/-- `CovenantDescriptor { pk, ms }`: the key over which `OP_CHECKSIGFROMSTACK` checks, and the
    inner Miniscript under the segwit context. -/
structure CovenantDescriptor (Pk Pkh : Type) where
  pk : Pk
  ms : Miniscript Pk Pkh

namespace CovenantDescriptor

variable {Pk Pkh : Type}

/-- `[has_free_verify]`: the byte the preamble's first `OP_VERIFY` saves when it merges. -/
def freeVerify (ms : Miniscript Pk Pkh) : Nat := if ms.ext.hasFreeVerify then 1 else 0

theorem freeVerify_le_one (ms : Miniscript Pk Pkh) : freeVerify ms ≤ 1 := by
  unfold freeVerify
  split_ifs <;> omega

/-- `CovenantDescriptor::new`: the op count with the 24 opcodes of the preamble within the
    consensus ceiling, then the script size with the 58 bytes of the preamble within the
    consensus script size. -/
def new (pk : Pk) (ms : Miniscript Pk Pkh) : Except Error (CovenantDescriptor Pk Pkh) := do
  let msOpCount ← ms.ext.opsCountSat.okOr .impossibleSatisfaction
  if msOpCount + 24 - freeVerify ms > MAX_OPS_PER_SCRIPT then .error .impossibleSatisfaction
  else if ms.scriptSize + (58 - freeVerify ms) > MAX_SCRIPT_SIZE then .error .scriptSizeTooLarge
  else .ok ⟨pk, ms⟩

/-- **What `new` checks, and all that it checks.** -/
theorem new_eq_ok_iff {pk : Pk} {ms : Miniscript Pk Pkh} {d : CovenantDescriptor Pk Pkh} :
    new pk ms = .ok d ↔
      d = ⟨pk, ms⟩ ∧ ∃ n, ms.ext.opsCountSat = some n ∧
        n + 24 - freeVerify ms ≤ MAX_OPS_PER_SCRIPT ∧
        ms.scriptSize + (58 - freeVerify ms) ≤ MAX_SCRIPT_SIZE := by
  simp only [new, bind_eq_ok, okOr_eq_ok]
  constructor
  · rintro ⟨n, hn, h⟩
    split_ifs at h with h1 h2
    cases h
    exact ⟨rfl, n, hn, by omega, by omega⟩
  · rintro ⟨rfl, n, hn, h1, h2⟩
    refine ⟨n, hn, ?_⟩
    rw [if_neg (by omega), if_neg (by omega)]

/-- `TranslatePk::translate_pk`: the binding key, then the inner Miniscript's keys; the inner
    Miniscript keeps its type data. -/
def translatePk {Q Qh E : Type} (f : Pk → Except E Q) (g : Pkh → Except E Qh)
    (d : CovenantDescriptor Pk Pkh) : Except E (CovenantDescriptor Q Qh) := do
  let pk ← f d.pk
  let ms ← d.ms.translatePk f g
  pure ⟨pk, ms⟩

theorem translatePk_ms {Q Qh E : Type} {f : Pk → Except E Q} {g : Pkh → Except E Qh}
    {d : CovenantDescriptor Pk Pkh} {d' : CovenantDescriptor Q Qh} (h : d.translatePk f g = .ok d') :
    d'.ms.ty = d.ms.ty ∧ d'.ms.ext = d.ms.ext := by
  obtain ⟨pk, -, h⟩ := bind_eq_ok.mp h
  obtain ⟨ms, hms, h⟩ := bind_eq_ok.mp h
  obtain ⟨node, -, rfl⟩ := map_eq_ok.mp hms
  cases h
  exact ⟨rfl, rfl⟩

/-! ## 3. The encoding -/

/-- `OP_CAT`, `n` times. -/
def pushCats : Nat → Builder → Builder
  | 0, b => b
  | n + 1, b => pushCats n (b.pushOpcode OP_CAT)

/-- Modelled from the spec: `CovOperations::post_codesep_script` (its file is absent from
    `src/`). The part of the covenant after the code separator: the signature check with the
    binding key, the concatenation of the sighash items, their hash, and the check of the
    covenant signature over it by `OP_CHECKSIGFROMSTACK`, in the order `check_cov_script`
    reads them. -/
def postCodesepScript (b : Builder) : Builder :=
  (((pushCats 10 (b.pushOpcode OP_CHECKSIGVERIFY)).pushOpcode OP_SHA256).pushOpcode
    OP_FROMALTSTACK).pushOpcode OP_CHECKSIGFROMSTACK

/-- Modelled from the spec: `CovOperations::verify_cov` (its file is absent from `src/`). The
    fixed preamble after the inner Miniscript: the `OP_VERIFY` of the Miniscript's result,
    the signature picked from below the twelve sighash items and joined with the sighash
    byte, the binding key kept on the alt stack, the code separator, then
    `postCodesepScript` -- the opcode sequence `check_cov_script` matches. -/
def verifyCov (pk : PublicKey) (b : Builder) : Builder :=
  postCodesepScript
    ((((((((((b.pushVerify.pushInt 11).pushOpcode OP_PICK).pushOpcode OP_OVER).pushInt
      1).pushOpcode OP_LEFT).pushOpcode OP_CAT).pushSlice pk.bytes).pushOpcode OP_DUP).pushOpcode
      OP_TOALTSTACK).pushOpcode OP_CODESEPARATOR)

/-- `CovenantDescriptor::encode`: the inner Miniscript, then the preamble. -/
def encode (d : CovenantDescriptor PublicKey Bytes) : Bytes :=
  (verifyCov d.pk (d.ms.node.encode PublicKey.ser id Builder.new)).bytes

@[simp] theorem length_pushCats (n : Nat) (b : Builder) :
    (pushCats n b).bytes.length = b.bytes.length + n := by
  induction n generalizing b with
  | zero => rfl
  | succ n ih => simp [pushCats, ih]; omega

theorem length_postCodesepScript (b : Builder) :
    (postCodesepScript b).bytes.length = b.bytes.length + 14 := by
  simp [postCodesepScript]

/-- The preamble after the `OP_VERIFY`: 24 bytes and the binding key. -/
theorem length_verifyCov (pk : PublicKey) (b : Builder) :
    (verifyCov pk b).bytes.length = b.pushVerify.bytes.length + 24 + pk.bytes.length := by
  have hp : (pushPrefix pk.bytes.length).length = 1 := by
    rcases pk.length_bytes with h | h <;> simp [pushPrefix, h]
  simp [verifyCov, length_postCodesepScript, Builder.pushInt, pushnum, hp]
  omega

theorem pushCats_eq (n : Nat) (b : Builder) :
    pushCats n b = b.pushItems (List.replicate n (.op OP_CAT)) := by
  induction n generalizing b with
  | zero => rfl
  | succ n ih => simp [pushCats, ih, List.replicate_succ]

/-- The instructions of the preamble after its first `OP_VERIFY`. -/
def preambleItems (pk : PublicKey) : List Item :=
  [intItem 11, .op OP_PICK, .op OP_OVER, intItem 1, .op OP_LEFT, .op OP_CAT, .push pk.bytes,
    .op OP_DUP, .op OP_TOALTSTACK, .op OP_CODESEPARATOR, .op OP_CHECKSIGVERIFY] ++
    List.replicate 10 (.op OP_CAT) ++ [.op OP_SHA256, .op OP_FROMALTSTACK, .op OP_CHECKSIGFROMSTACK]

theorem verifyCov_eq (pk : PublicKey) (b : Builder) :
    verifyCov pk b = b.pushVerify.pushItems (preambleItems pk) := by
  simp [verifyCov, postCodesepScript, pushCats_eq, preambleItems, Builder.pushInt_eq]

/-- **The encoding is `push_verify` of the inner Miniscript's instructions, then the
    preamble's.** -/
theorem encode_eq (d : CovenantDescriptor PublicKey Bytes) :
    d.encode = serItems (verifyItems (d.ms.node.items PublicKey.ser id) ++ preambleItems d.pk) := by
  rw [encode, verifyCov_eq, Terminal.encode_eq, Builder.pushVerify_pushItems _
    (Terminal.items_ne_nil _ _ _), ← Builder.pushItems_append, Builder.bytes_pushItems]
  rfl

/-- `cov_script_code`: the script code for signing with the binding key. -/
def covScriptCode : Bytes := (postCodesepScript Builder.new).bytes

/-- `DescriptorTrait::script_pubkey`: the P2WSH output of the encoding. -/
def scriptPubkey (L : Library) (d : CovenantDescriptor PublicKey Bytes) : Bytes :=
  newV0Wsh (L.sha256 d.encode)

/-- `DescriptorTrait::script_code`: the explicit script, the whole encoding, for the keys of the
    inner Miniscript; the binding key signs over `covScriptCode`. -/
def scriptCode (d : CovenantDescriptor PublicKey Bytes) : Bytes := d.encode

/-! ## 4. Recognising a covenant script -/

/-- The tokens of the preamble in the order a token iterator yields them, last token first. -/
def covTokensRev (pk : PublicKey) : List Token :=
  [.checkSigFromStack, .fromAltStack, .sha256, .cat, .cat, .cat, .cat, .cat, .cat, .cat, .cat,
    .cat, .cat, .verify, .checkSig, .codeSep, .toAltStack, .dup, .pubkey pk, .cat, .left, .num 1,
    .over, .pick, .num 11, .verify]

/-- `check_cov_script`: the preamble's tokens taken from the end of the iterator; the key it
    names and what is left of the iterator. -/
def checkCovScript : List Token → Except Error (PublicKey × List Token)
  | .checkSigFromStack :: .fromAltStack :: .sha256 :: .cat :: .cat :: .cat :: .cat :: .cat ::
      .cat :: .cat :: .cat :: .cat :: .cat :: .verify :: .checkSig :: .codeSep :: .toAltStack ::
      .dup :: .pubkey pk :: .cat :: .left :: .num 1 :: .over :: .pick :: .num 11 :: .verify ::
      rest => .ok (pk, rest)
  | _ => .error (.covError .badCovDescriptor)

theorem checkCovScript_covTokensRev (pk : PublicKey) (rest : List Token) :
    checkCovScript (covTokensRev pk ++ rest) = .ok (pk, rest) := rfl

/-- Modelled from the spec: `Segwitv0::check_global_validity` (the script-context module is
    absent from `src/`). The spec's contexts are policy profiles that fix a maximum script
    size, a key encoding and the admitted fragments. For segwit v0: the consensus script size
    and the standard P2WSH script size (the limit `sanity_check` also applies), compressed keys
    only, at most twenty keys in a `multi`, and no `multi_a`. -/
def segwitv0CheckGlobalValidity (ms : Miniscript PublicKey Bytes) : Except Error Unit :=
  if ms.scriptSize > MAX_SCRIPT_SIZE then .error .contextError
  else if ms.scriptSize > MAX_STANDARD_P2WSH_SCRIPT_SIZE then .error .contextError
  else match ms.node with
    | .pkK pk => if pk.compressed then .ok () else .error .contextError
    | .multi _ pks =>
      if pks.length > 20 then .error .contextError
      else if pks.all PublicKey.compressed then .ok () else .error .contextError
    | .multiA _ _ => .error .contextError
    | _ => .ok ()

/-- `parse_cov_components`: lex, take the preamble from the end, decode the Miniscript from
    what is left, check it under the segwit context and for base type `B`, and refuse
    trailing tokens. -/
def parseCovComponents (L : Library) (script : Bytes) :
    Except Error (PublicKey × Miniscript PublicKey Bytes) := do
  let tokens ← lex script
  let (pk, iter) ← checkCovScript tokens.reverse
  let (ms, iter) ← L.decodeParse iter
  segwitv0CheckGlobalValidity ms
  if ms.ty.base ≠ .B then .error .nonTopLevel
  else match iter with
    | [] => .ok (pk, ms)
    | _ :: _ => .error .trailing

/-- `CovenantDescriptor::parse_insane`: the components, then `new`. -/
def parseInsane (L : Library) (script : Bytes) : Except Error (CovenantDescriptor PublicKey Bytes) :=
  do
  let (pk, ms) ← parseCovComponents L script
  new pk ms

/-- `CovenantDescriptor::parse`: `parse_insane`, then the inner Miniscript's own
    `sanity_check` (a library operation, here the parameter `msSanity`). -/
def parse (msSanity : Miniscript PublicKey Bytes → Except Error Unit) (L : Library)
    (script : Bytes) : Except Error (CovenantDescriptor PublicKey Bytes) := do
  let cov ← parseInsane L script
  msSanity cov.ms
  pure cov

/-- **What a decoded covenant passed**: the segwit context's global checks and base type `B`. -/
theorem parseCovComponents_ok {L : Library} {script : Bytes} {pk : PublicKey}
    {ms : Miniscript PublicKey Bytes} (h : parseCovComponents L script = .ok (pk, ms)) :
    segwitv0CheckGlobalValidity ms = .ok () ∧ ms.ty.base = .B := by
  simp only [parseCovComponents, bind_eq_ok] at h
  obtain ⟨_, -, ⟨_, _⟩, -, ⟨ms', iter⟩, -, ⟨⟩, hg, h⟩ := h
  split_ifs at h with hb
  match iter, h with
  | [], h => cases h; exact ⟨hg, by simpa using hb⟩

/-- The preamble's instructions after its first `OP_VERIFY` lex, after any tokens, to the
    preamble's tokens after its first `Verify`; its `OP_CHECKSIGVERIFY` is `CheckSig`, `Verify`. -/
theorem Lexes.preamble (pk : PublicKey) :
    Lexes (preambleItems pk) ((covTokensRev pk).reverse.drop 1) := by
  have hcat (n : Nat) : Lexes (List.replicate n (.op OP_CAT)) (List.replicate n .cat) := by
    induction n with
    | zero => exact .nil
    | succ n ih => exact .op [.cat] (by decide) ih
  exact (Lexes.int (n := 11) (by decide)).cons <| .op [.pick] (by decide) <|
    .op [.over] (by decide) <| (Lexes.int (n := 1) (by decide)).cons <|
    .op [.left] (by decide) <| .op [.cat] (by decide) <| (Lexes.key pk).cons <|
    .op [.dup] (by decide) <| .op [.toAltStack] (by decide) <| .op [.codeSep] (by decide) <|
    .op [.checkSig, .verify] (by decide) <| (hcat 10).append <| .op [.sha256] (by decide) <|
    .op [.fromAltStack] (by decide) <| .op [.checkSigFromStack] (by decide) .nil

/-- **The tokens of a covenant's encoding are its inner Miniscript's, then the preamble's that
    `check_cov_script` matches**: the preamble's first `OP_VERIFY`, merged into the Miniscript's
    last opcode or not, lexes as `Verify` after the Miniscript's tokens. -/
theorem lex_encode {d : CovenantDescriptor PublicKey Bytes} (hw : d.ms.node.WellSized = true) :
    ∃ toks, lex d.ms.encodeFull = .ok toks ∧
      lex d.encode = .ok (toks ++ (covTokensRev d.pk).reverse) := by
  obtain ⟨toks, hL, hlex⟩ := lex_encodeFull hw
  have h := (hL.verify (Terminal.items_ne_nil _ _ _)).append (Lexes.preamble d.pk)
  refine ⟨toks, hlex, ?_⟩
  rw [encode_eq, lex_serItems h.1, h.2, List.nil_append, List.append_assoc]
  rfl

/-- **A decoder that keeps its law reads the components of an encoding back**, when the inner
    Miniscript is built by the library, passes the segwit context's global checks and is a `B`
    expression. -/
theorem parseCovComponents_encode {L : Library} (hL : DecodesBack L)
    {d : CovenantDescriptor PublicKey Bytes} (hms : Built L .segwitv0 d.ms)
    (hB : d.ms.ty.base = .B) (hg : segwitv0CheckGlobalValidity d.ms = .ok ()) :
    parseCovComponents L d.encode = .ok (d.pk, d.ms) := by
  obtain ⟨toks, hms', henc⟩ := lex_encode hms.wellSized
  simp only [parseCovComponents, henc, ok_bind, List.reverse_append, List.reverse_reverse,
    checkCovScript_covTokensRev, hL _ _ hms hms', hg, hB]
  rfl

/-- The covenant over `PublicKey.sample` around `1`. -/
def sample : CovenantDescriptor PublicKey Bytes := ⟨PublicKey.sample, msTrue⟩

/-- The covenant over `PublicKey.sample` around `c:pk_k(K)` of the same key, whose
    `OP_CHECKSIG` merges with the preamble's first `OP_VERIFY`. -/
def samplePk : CovenantDescriptor PublicKey Bytes := ⟨PublicKey.sample, msPk PublicKey.sample⟩

/-- A library whose type checker knows `1` and `c:pk_k(K)` (`typeCheckPk`) and whose decoder
    reads them back from their tokens, last token first. -/
def covLibrary : Library :=
  { Library.sample with
    typeCheck := fun _ => typeCheckPk
    decodeParse := fun
      | [.num 1] => .ok (msTrue, [])
      | [.checkSig, .pubkey pk] => .ok (msPk pk, [])
      | _ => .error .libraryError }

/-- `covLibrary`'s decoder keeps its law: the encodings of `1` and `c:pk_k(K)` lex to
    `Num(1)` and to the key and `CheckSig`, which it reads back. -/
theorem decodesBack_covLibrary : DecodesBack covLibrary := by
  intro ms toks hms hlex
  obtain ⟨toks', hL, hlex'⟩ := lex_encodeFull hms.wellSized
  rw [hlex] at hlex'
  cases hlex'
  rcases fromAst_typeCheckPk hms.fromAst with rfl | ⟨pk, rfl⟩
  · cases hL.unique (Lexes.int (n := 1) (by decide))
    rfl
  · cases hL.unique ((Lexes.key pk).cons (.op [.checkSig] (by decide) .nil))
    rfl

/-! ## 5. Satisfaction and its weight -/

/-- `CovenantDescriptor::satisfy`: the covenant signature and the eleven sighash items in the
    fixed order, then the inner Miniscript's witness. -/
def satisfy (L : Library) (d : CovenantDescriptor PublicKey Bytes) (s : Satisfier PublicKey) :
    Except Error (List Bytes) := do
  let nVersion ← s.lookupNversion.okOr (.covError (.missingSighashItem 1))
  let hashPrevouts ← s.lookupHashprevouts.okOr (.covError (.missingSighashItem 1))
  let hashSequence ← s.lookupHashsequence.okOr (.covError (.missingSighashItem 3))
  let hashIssuances ← s.lookupHashissuances.okOr (.covError (.missingSighashItem 3))
  let outpoint ← s.lookupOutpoint.okOr (.covError (.missingSighashItem 4))
  let scriptCode ← s.lookupScriptcode.okOr (.covError (.missingSighashItem 5))
  let value ← s.lookupValue.okOr (.covError (.missingSighashItem 6))
  let nSequence ← s.lookupNsequence.okOr (.covError (.missingSighashItem 7))
  let outputs ← s.lookupOutputs.okOr (.covError (.missingSighashItem 8))
  let hashOutputs := L.sha256d outputs.flatten
  let nLocktime ← s.lookupNlocktime.okOr (.covError (.missingSighashItem 9))
  let sighashTy ← s.lookupSighashu32.okOr (.covError (.missingSighashItem 10))
  let sig ← (s.lookupSig d.pk).okOr (.covError .missingCovSignature)
  if sighashTy ≠ sig.hashTy then .error (.covError .covenantSighashTypeMismatch)
  else
    let wit := [sig.sig.der, serializeU32 nVersion, hashPrevouts.bytes, hashSequence.bytes,
      hashIssuances.bytes, outpoint.serialize, serializeScript scriptCode, value.serialize,
      serializeU32 nSequence, hashOutputs, serializeU32 nLocktime, serializeU32 sighashTy]
    let msWit ← L.satisfy .segwitv0 d.ms s
    pure (wit ++ msWit)

/-- `DescriptorTrait::get_satisfaction`: the witness with the explicit script last, and an
    empty scriptSig. -/
def getSatisfaction (L : Library) (d : CovenantDescriptor PublicKey Bytes)
    (s : Satisfier PublicKey) : Except Error (List Bytes × Bytes) := do
  let witness ← d.satisfy L s
  pure (witness ++ [d.encode], [])

/-- `Miniscript::max_satisfaction_witness_elements`: the satisfaction's elements and the
    witness script. -/
def maxSatisfactionWitnessElements (ms : Miniscript Pk Pkh) : Except Error Nat :=
  (ms.ext.stackElemCountSat.map (· + 1)).okOr .impossibleSatisfaction

/-- `Miniscript::max_satisfaction_size` under the segwit context. -/
def maxSatisfactionSize (ms : Miniscript Pk Pkh) : Except Error Nat :=
  ms.ext.maxSatSize.okOr .impossibleSatisfaction

/-- `DescriptorTrait::max_satisfaction_weight`: the scriptSig length byte, the witness script
    with its length, the element count, and the elements with twelve covenant items counted
    as 275 bytes. -/
def maxSatisfactionWeight (d : CovenantDescriptor Pk Pkh) : Except Error Nat := do
  let scriptSize := d.ms.scriptSize + 58 - freeVerify d.ms
  let maxSatElems := (← maxSatisfactionWitnessElements d.ms) + 12
  let maxSatSize := (← maxSatisfactionSize d.ms) + 275
  pure (4 + varintLen scriptSize + scriptSize + varintLen maxSatElems + maxSatSize)

/-- `DescriptorTrait::sanity_check`: the inner Miniscript's own checks, then the script size
    against the standard P2WSH limit. -/
def sanityCheck (msSanity : Miniscript Pk Pkh → Except Error Unit) (d : CovenantDescriptor Pk Pkh) :
    Except Error Unit := do
  msSanity d.ms
  if d.ms.scriptSize + (58 - freeVerify d.ms) > MAX_STANDARD_P2WSH_SCRIPT_SIZE then
    throw .scriptSizeTooLarge

/-! ## 6. `for_each_key` -/

section ForEachKey

variable (pred : ForEach Pk Pkh → Bool)

/-- `ForEachKey::for_each_key`: the predicate on the binding key, then `for_any_key` on the inner
    Miniscript. -/
def forEachKey (d : CovenantDescriptor Pk Pkh) : Bool := pred (.key d.pk) && d.ms.forAnyKey pred

/-- `ForEachKey::for_any_key`, the trait's default over `forEachKey`. -/
def forAnyKey (d : CovenantDescriptor Pk Pkh) : Bool := !d.forEachKey (fun k => !pred k)

/-- **A covenant's `for_each_key` holds when the predicate holds on the binding key and on one
    key or key hash of the inner Miniscript**, not on every one; so its `for_any_key` holds when
    the predicate holds on the binding key or on every key and key hash of the Miniscript. -/
theorem forEachKey_iff (d : CovenantDescriptor Pk Pkh) :
    (d.forEachKey pred = true ↔ pred (.key d.pk) = true ∧ ∃ k ∈ d.ms.node.keys, pred k = true) ∧
    (d.forAnyKey pred = true ↔ pred (.key d.pk) = true ∨ ∀ k ∈ d.ms.node.keys, pred k = true) := by
  have h (p : ForEach Pk Pkh → Bool) :
      d.forEachKey p = true ↔ p (.key d.pk) = true ∧ ∃ k ∈ d.ms.node.keys, p k = true := by
    rw [forEachKey, Bool.and_eq_true, Miniscript.forAnyKey_eq_true]
  refine ⟨h pred, ?_⟩
  rw [forAnyKey, Bool.not_eq_true', ← Bool.not_eq_true, h, or_iff_not_imp_left]
  simp

end ForEachKey

/-- `sample` holds no key in its Miniscript `1`: the predicate that accepts every key holds on
    all of its keys, and its `for_each_key` is false. -/
theorem forEachKey_sample :
    (∀ k ∈ ForEach.key sample.pk :: sample.ms.node.keys, (fun _ => true) k = true) ∧
      sample.forEachKey (fun _ => true) = false :=
  ⟨fun _ _ => rfl,
    Bool.eq_false_iff.mpr fun h => by
      simpa [sample, msTrue, Terminal.keys] using ((forEachKey_iff _ sample).1.mp h).2⟩

end CovenantDescriptor

end ElementsMiniscript
