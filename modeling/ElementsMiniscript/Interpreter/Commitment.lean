/-
  File:      ElementsMiniscript/Interpreter/Commitment.lean
  Subject:   What a successful `from_txdata` has established about a spend, read off the
             inversion lemmas of its sections (Inner.lean).

  * `fromTxdata_conserves`: no stack element is lost or duplicated; by the classification, the
    residual stack is the scriptSig's or the witness's elements less exactly those the section
    consumed (`Conserved`).
  * `fromTxdata_publicKey`: a key classification authenticates the key over the raw bytes the
    spender revealed (`KeyAuthenticated`).
  * `fromTxdata_covScript_anyProgram`: the covenant path of a P2WSH output never compares the
    output's program with the revealed script; a covenant script is accepted against every
    32-byte program.
  * `fromTxdata_wsh_satisfied`: the witness element `[1]` is read as the script `1`, and the
    program is checked against, and the script code is, its encoding `[0x51]`, not the bytes
    the spender revealed.
-/
import ElementsMiniscript.Interpreter.Inner

namespace ElementsMiniscript

namespace Interpreter

section Results

variable (L : Library)

/-! ## 1. No element lost or duplicated -/

/-- How the residual stack of a classification relates to the scriptSig's elements `S` and the
    witness's elements `W`: the section consumed the revealed key or script, and for a taproot
    script spend the control block too. -/
def Conserved (S W : Stack) : Classified → Prop
  | (.publicKey _ .pk, stack, _) | (.script _ .bare, stack, _) => W = [] ∧ stack = S
  | (.publicKey _ .pkh, stack, _) | (.script _ .sh, stack, _) => W = [] ∧ ∃ x, S = stack ++ [x]
  | (.publicKey _ .wpkh, stack, _) | (.script _ .wsh, stack, _) | (.covScript _ _, stack, _) =>
    S = [] ∧ ∃ x, W = stack ++ [x]
  | (.publicKey _ .shWpkh, stack, _) | (.script _ .shWsh, stack, _) =>
    (∃ r, S = [.push r]) ∧ ∃ x, W = stack ++ [x]
  | (.publicKey _ .tr, stack, _) => S = [] ∧ stack = W ∧ W.length = 1
  | (.script _ .tr, stack, _) => S = [] ∧ ∃ t c, W = stack ++ [t, c]

theorem fromStacks_conserves {spk : Bytes} {S W : Stack} {r : Classified}
    (h : fromStacks L spk S W = .ok r) : Conserved S W r := by
  rcases fromStacks_ok L h with h | h | h | h | h | h | h
  · obtain ⟨rfl, pk, -, rfl⟩ := fromP2pk_ok h
    exact ⟨rfl, rfl⟩
  · obtain ⟨rfl, S', pk, rfl, -, rfl⟩ := fromP2pkh_ok L h
    exact ⟨rfl, _, rfl⟩
  · obtain ⟨rfl, W', pk, rfl, -, -, rfl⟩ := fromV0P2wpkh_ok L h
    exact ⟨rfl, _, rfl⟩
  · obtain ⟨rfl, W', elem, rfl, ⟨k, ms, -, rfl⟩ | ⟨-, m, -, -, rfl⟩⟩ := fromV0P2wsh_ok L h <;>
      exact ⟨rfl, _, rfl⟩
  · obtain ⟨rfl, xk, -, -, ⟨hl, rfl⟩ | ⟨-, h⟩⟩ := fromV1P2tr_ok L h
    · exact ⟨rfl, rfl, hl⟩
    · obtain ⟨W', t, cb, m, rfl, -, -, -, rfl⟩ := tapScriptSpend_ok L h
      exact ⟨rfl, t, _, rfl⟩
  · obtain ⟨S', elem, rfl, ⟨slice, rfl, -, -, h⟩ | ⟨slice, rfl, -, -, -, h⟩ | h⟩ := fromP2sh_ok L h
    · obtain ⟨rfl, W', pk, rfl, -, -, rfl⟩ := shWpkh_ok L h
      exact ⟨⟨slice, rfl⟩, _, rfl⟩
    · obtain ⟨rfl, W', elem, m, rfl, -, -, rfl⟩ := shWsh_ok L h
      exact ⟨⟨slice, rfl⟩, _, rfl⟩
    · obtain ⟨rfl, m, -, -, rfl⟩ := legacyP2sh_ok L h
      exact ⟨rfl, _, rfl⟩
  · obtain ⟨rfl, m, -, rfl⟩ := fromBare_ok L h
    exact ⟨rfl, rfl⟩

/-- **No element is lost or duplicated** by a successful classification. -/
theorem fromTxdata_conserves {spk scriptSig : Bytes} {witness : List Bytes} {r : Classified}
    (h : fromTxdata L spk scriptSig witness = .ok r) :
    ∃ S, ssigElements scriptSig = .ok S ∧ Conserved S (witness.map Element.ofBytes) r := by
  obtain ⟨S, hS, h⟩ := fromTxdata_ok L h
  exact ⟨S, hS, fromStacks_conserves L h⟩

set_option maxRecDepth 2000 in
/-- A P2WPKH spend of `PublicKey.sample` with a signature below the key: the key is consumed,
    the signature stays. -/
theorem fromTxdata_conserves_wpkh :
    ∃ S, ssigElements [] = .ok S ∧
      Conserved S ([List.replicate 9 0x30, PublicKey.sample.bytes].map Element.ofBytes)
        (.publicKey (.fullkey PublicKey.sample) .wpkh, [.push (List.replicate 9 0x30)],
          some (newP2pkh (Library.sample.hash160 PublicKey.sample.bytes))) :=
  fromTxdata_conserves Library.sample
    (by rw [fromTxdata_nil]; rfl : fromTxdata Library.sample
      (newV0Wpkh (Library.sample.hash160 PublicKey.sample.bytes)) [] _ = _)

/-! ## 2. Keys are authenticated over the revealed bytes -/

/-- What a key classification establishes, by spend type: `k` is the key whose raw bytes the
    spender revealed, and the output script commits to those bytes. -/
def KeyAuthenticated (spk scriptSig : Bytes) (S : Stack) (witness : List Bytes) :
    BitcoinKey → PubkeyType → Option Bytes → Prop
  | k, .pk, sc => witness = [] ∧ ∃ pk, k = .fullkey pk ∧ (spk.drop 1).dropLast = pk.bytes ∧
      sc = some spk
  | k, .pkh, sc => witness = [] ∧ ∃ pk S', k = .fullkey pk ∧ S = S' ++ [.push pk.bytes] ∧
      spk = newP2pkh (L.hash160 pk.bytes) ∧ sc = some spk
  | k, .wpkh, sc => scriptSig = [] ∧ ∃ pk wit, k = .fullkey pk ∧ pk.compressed = true ∧
      witness = wit ++ [pk.bytes] ∧ spk = newV0Wpkh (L.hash160 pk.bytes) ∧
      sc = some (newP2pkh (L.hash160 pk.bytes))
  | k, .shWpkh, sc => ∃ r, S = [.push r] ∧ spk = newP2sh (L.hash160 r) ∧ ∃ pk wit,
      k = .fullkey pk ∧ pk.compressed = true ∧ witness = wit ++ [pk.bytes] ∧
      r = newV0Wpkh (L.hash160 pk.bytes) ∧ sc = some (newP2pkh (L.hash160 pk.bytes))
  | k, .tr, sc => scriptSig = [] ∧ witness.length = 1 ∧ ∃ xk, k = .xOnlyPublicKey xk ∧
      xk.bytes = spk.drop 2 ∧ sc = none

/-- **A key classification authenticates the key** over the bytes the spender revealed. -/
theorem fromTxdata_publicKey {spk scriptSig : Bytes} {witness : List Bytes} {k : BitcoinKey}
    {ty : PubkeyType} {stack : Stack} {sc : Option Bytes}
    (h : fromTxdata L spk scriptSig witness = .ok (.publicKey k ty, stack, sc)) :
    ∃ S, ssigElements scriptSig = .ok S ∧ KeyAuthenticated L spk scriptSig S witness k ty sc := by
  obtain ⟨S, hS, h⟩ := fromTxdata_ok L h
  refine ⟨S, hS, ?_⟩
  rcases fromStacks_ok L h with h | h | h | h | h | h | h
  · obtain ⟨hW, pk, hpk, hr⟩ := fromP2pk_ok h
    cases hr
    exact ⟨List.map_eq_nil_iff.mp hW, pk, rfl, (pkFromSlice_ok hpk).1, rfl⟩
  · obtain ⟨hW, S', pk, hS', hspk, hr⟩ := fromP2pkh_ok L h
    cases hr
    exact ⟨List.map_eq_nil_iff.mp hW, pk, _, rfl, hS', hspk, rfl⟩
  · obtain ⟨rfl, W', pk, hW, hc, hspk, hr⟩ := fromV0P2wpkh_ok L h
    cases hr
    obtain ⟨wit, rfl, -⟩ := map_ofBytes_eq_append_push hW
    exact ⟨eq_nil_of_ssigElements hS, pk, wit, rfl, hc, rfl, hspk, rfl⟩
  · obtain ⟨-, _, _, -, ⟨_, _, -, hr⟩ | ⟨-, _, -, -, hr⟩⟩ := fromV0P2wsh_ok L h <;> cases hr
  · obtain ⟨rfl, xk, hxk, -, ⟨hl, hr⟩ | ⟨-, h⟩⟩ := fromV1P2tr_ok L h
    · cases hr
      exact ⟨eq_nil_of_ssigElements hS, by simpa using hl, xk, rfl,
        XOnlyPublicKey.toBytes_of_fromSlice hxk, rfl⟩
    · obtain ⟨_, _, _, _, -, -, -, -, hr⟩ := tapScriptSpend_ok L h
      cases hr
  · obtain ⟨S', elem, rfl, ⟨slice, rfl, hspk, -, h⟩ | ⟨_, -, -, -, -, h⟩ | h⟩ := fromP2sh_ok L h
    · obtain ⟨rfl, W', pk, hW, hc, hsl, hr⟩ := shWpkh_ok L h
      cases hr
      obtain ⟨wit, rfl, -⟩ := map_ofBytes_eq_append_push hW
      exact ⟨slice, rfl, hspk, pk, wit, rfl, hc, rfl, hsl, rfl⟩
    · obtain ⟨-, _, _, _, -, -, -, hr⟩ := shWsh_ok L h
      cases hr
    · obtain ⟨-, _, -, -, hr⟩ := legacyP2sh_ok L h
      cases hr
  · obtain ⟨-, _, -, hr⟩ := fromBare_ok L h
    cases hr

set_option maxRecDepth 2000 in
/-- The same P2WPKH spend: the key is the compressed `PublicKey.sample` revealed last. -/
theorem fromTxdata_publicKey_wpkh :
    ∃ S, ssigElements [] = .ok S ∧
      KeyAuthenticated Library.sample (newV0Wpkh (Library.sample.hash160 PublicKey.sample.bytes))
        [] S [List.replicate 9 0x30, PublicKey.sample.bytes] (.fullkey PublicKey.sample) .wpkh
        (some (newP2pkh (Library.sample.hash160 PublicKey.sample.bytes))) :=
  fromTxdata_publicKey Library.sample (by rw [fromTxdata_nil]; rfl)

/-! ## 3. Scripts: what the P2WSH section compares -/

/-- **What a covenant classification establishes**: the top witness element parses as the
    classification's binding key and inner Miniscript, and the script code is the covenant's.
    The output's program is not among the premises. -/
theorem fromTxdata_covScript {spk scriptSig : Bytes} {witness : List Bytes} {k : BitcoinKey}
    {ms : Miniscript BitcoinKey TypedHash160} {stack : Stack} {sc : Option Bytes}
    (h : fromTxdata L spk scriptSig witness = .ok (.covScript k ms, stack, sc)) :
    ∃ e, witness.map Element.ofBytes = stack ++ [e] ∧ covComponentsFromStackelem L e = some (k, ms) ∧
      sc = some CovenantDescriptor.covScriptCode := by
  obtain ⟨S, -, h⟩ := fromTxdata_ok L h
  rcases fromStacks_ok L h with h | h | h | h | h | h | h
  · obtain ⟨-, _, -, hr⟩ := fromP2pk_ok h
    cases hr
  · obtain ⟨-, _, _, -, -, hr⟩ := fromP2pkh_ok L h
    cases hr
  · obtain ⟨-, _, _, -, -, -, hr⟩ := fromV0P2wpkh_ok L h
    cases hr
  · obtain ⟨-, W', e, hW, ⟨k', ms', hcov, hr⟩ | ⟨-, _, -, -, hr⟩⟩ := fromV0P2wsh_ok L h <;> cases hr
    exact ⟨e, hW, hcov, rfl⟩
  · obtain ⟨-, _, -, -, ⟨-, hr⟩ | ⟨-, h⟩⟩ := fromV1P2tr_ok L h
    · cases hr
    · obtain ⟨_, _, _, _, -, -, -, -, hr⟩ := tapScriptSpend_ok L h
      cases hr
  · obtain ⟨_, _, -, ⟨_, -, -, -, h⟩ | ⟨_, -, -, -, -, h⟩ | h⟩ := fromP2sh_ok L h
    · obtain ⟨-, _, _, -, -, -, hr⟩ := shWpkh_ok L h
      cases hr
    · obtain ⟨-, _, _, _, -, -, -, hr⟩ := shWsh_ok L h
      cases hr
    · obtain ⟨-, _, -, -, hr⟩ := legacyP2sh_ok L h
      cases hr
  · obtain ⟨-, _, -, hr⟩ := fromBare_ok L h
    cases hr

/-- **A covenant script is accepted against every P2WSH program**: the covenant path returns
    before the program is compared with a hash of the revealed script. -/
theorem fromTxdata_covScript_anyProgram {w h : Bytes} {pk : PublicKey}
    {m : Miniscript PublicKey Bytes} (hl : h.length = 32) (hw1 : w ≠ [1]) (hw0 : w ≠ [])
    (hcov : CovenantDescriptor.parseCovComponents L w = .ok (pk, m)) :
    fromTxdata L (newV0Wsh h) [] [w] =
      .ok (.covScript (.fullkey pk) m.toNoChecksMs, [], some CovenantDescriptor.covScriptCode) := by
  rw [fromTxdata_nil, fromStacks_newV0Wsh L hl]
  simp [fromV0P2wsh, Element.ofBytes, hw1, hw0, pop, covComponentsFromStackelem, hcov]

/-- The encoding of `CovenantDescriptor.sample` against a program of `0xee` bytes, which is not
    its hash. -/
theorem fromTxdata_covScript_sample :
    fromTxdata CovenantDescriptor.covLibrary (newV0Wsh (List.replicate 32 0xee)) []
        [CovenantDescriptor.sample.encode] =
      .ok (.covScript (.fullkey PublicKey.sample) msTrue.toNoChecksMs, [],
        some CovenantDescriptor.covScriptCode) ∧
      newV0Wsh (List.replicate 32 0xee) ≠
        newV0Wsh (CovenantDescriptor.covLibrary.sha256 CovenantDescriptor.sample.encode) :=
  ⟨fromTxdata_covScript_anyProgram CovenantDescriptor.covLibrary (by decide) (by decide)
    (by decide) (CovenantDescriptor.parseCovComponents_encode
      CovenantDescriptor.decodesBack_covLibrary ⟨rfl, rfl⟩ rfl rfl), by decide⟩

/-- **The witness element `[1]` is revealed as the script `1`**: the program is compared with
    the hash of its encoding `[0x51]`, which is also the script code returned. -/
theorem fromTxdata_wsh_satisfied {ty : Ty} {ext : ExtData}
    (htc : L.typeCheck .segwitv0 .true = .ok (ty, ext)) :
    fromTxdata L (newV0Wsh (L.sha256 [OP_PUSHNUM_1])) [] [[1]] =
      .ok (.script (Miniscript.toNoChecksMs ⟨.true, ty, ext⟩) .wsh, [], some [OP_PUSHNUM_1]) := by
  have he : (⟨.true, ty, ext⟩ : Miniscript PublicKey Bytes).encodeFull = [OP_PUSHNUM_1] := rfl
  rw [fromTxdata_nil, fromStacks_newV0Wsh L (L.sha256_length _)]
  simp [fromV0P2wsh, Element.ofBytes, pop, covComponentsFromStackelem, scriptFromStackElem,
    Miniscript.fromAst, htc, Except.mapError, he]

theorem fromTxdata_wsh_satisfied_sample :
    fromTxdata Library.sample (newV0Wsh (Library.sample.sha256 [OP_PUSHNUM_1])) [] [[1]] =
      .ok (.script msTrue.toNoChecksMs .wsh, [], some [OP_PUSHNUM_1]) ∧ [OP_PUSHNUM_1] ≠ [1] :=
  ⟨fromTxdata_wsh_satisfied Library.sample rfl, by decide⟩

end Results

end Interpreter

end ElementsMiniscript
