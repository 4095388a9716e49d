/-
  File:      ElementsMiniscript/Agreement.lean
  Subject:   The satisfier and the interpreter agree: what a descriptor's `get_satisfaction`
             writes, `from_txdata` classifies as that descriptor, with the descriptor's script
             code, and leaves the satisfaction's elements on the stack.

  * `Pkh`: the signature and the key, pushed in the scriptSig, read back as two elements; the
    P2PKH section takes the key and leaves the signature (`fromTxdata_pkh`).
  * `Bare`: `witness_to_scriptsig` writes each element a satisfier gives as its own push
    (`ssigElements_witnessToScriptsig`); the output is matched by the template its encoding
    fits (`Templates.lean`) -- P2PK for `c:pk_k`, P2PKH for `c:pk_h`, whose satisfaction
    reveals the key last, and the bare section for every other Miniscript (`fromTxdata_bare`).
    What the library's satisfier and bare parser do for every Miniscript is `BareLaws`, which
    the modelled satisfier meets (`bareLaws_agreeLibrary`).
  * `CovenantDescriptor`: the witness script on top is the covenant's encoding, which the P2WSH
    section reads back for a decoder that keeps its law, when the inner Miniscript passes the
    segwit checks (`fromTxdata_cov`). `new` does not check the latter: the covenant around
    `or_d(pk(K'), chain)` is satisfied by one signature, and no spend of its output is
    classified as it (`getSatisfaction_orD`).
-/
import ElementsMiniscript.Interpreter.Commitment
import ElementsMiniscript.Descriptor.Bare
import ElementsMiniscript.Covenant.Bounds
import ElementsMiniscript.Covenant.RoundTrip
import ElementsMiniscript.Templates
import ElementsMiniscript.Satisfy

namespace ElementsMiniscript

/-! ## 1. Reading pushes back -/

theorem ElementsSig.length_toVec (s : ElementsSig) : 9 ≤ s.toVec.length ∧ s.toVec.length ≤ 73 := by
  have := s.sig.der_length
  simp only [ElementsSig.toVec, List.length_append, List.length_singleton]
  omega

namespace Interpreter

/-- A pushed string of two bytes or more reads as itself. -/
theorem Element.ofBytes_of_two_le {v : Bytes} (h : 2 ≤ v.length) : Element.ofBytes v = .push v :=
  Element.ofBytes_eq_push.mpr ⟨rfl, by rintro rfl; simp at h, by rintro rfl; simp at h⟩

/-- The scriptSig `Pkh::get_satisfaction` writes reads back as the signature and the key. -/
theorem ssigElements_sig_key (sig : ElementsSig) (pk : PublicKey) :
    ssigElements ((Builder.new.pushSlice sig.toVec).pushSlice pk.bytes).bytes =
      .ok [.push sig.toVec, .push pk.bytes] := by
  have hs := sig.length_toVec
  have hk : 2 ≤ pk.bytes.length ∧ pk.bytes.length < 0x4c := by
    rcases pk.length_bytes with h | h <;> omega
  have hb : ((Builder.new.pushSlice sig.toVec).pushSlice pk.bytes).bytes =
      pushPrefix sig.toVec.length ++ sig.toVec ++ (pushPrefix pk.bytes.length ++ pk.bytes ++ []) := by
    simp
  rw [ssigElements, hb, instructionsMinimal_pushSlice (by omega) (by omega),
    instructionsMinimal_pushSlice hk.1 hk.2, instructionsMinimal]
  simp only [List.mapM_cons, List.mapM_nil, Element.fromInstruction, ok_bind,
    Element.ofBytes_of_two_le (by omega : 2 ≤ sig.toVec.length), Element.ofBytes_of_two_le hk.1]
  rfl

theorem scriptsigItem_minimal {e : Bytes} (he : ScriptsigElement e) : (scriptsigItem e).Minimal := by
  rcases he with rfl | rfl | ⟨h4, h76⟩
  · exact .inl rfl
  · exact .inr (by decide)
  · rw [scriptsigItem_of_four_lt h4]
    exact ⟨h76, by omega⟩

theorem fromInstruction_scriptsigItem {e : Bytes} (he : ScriptsigElement e) :
    Element.fromInstruction (.ok (scriptsigItem e).instr) = .ok (Element.ofBytes e) := by
  rcases he with rfl | rfl | ⟨h4, -⟩
  · rfl
  · rfl
  · rw [scriptsigItem_of_four_lt h4]
    rfl

/-- **The scriptSig `witness_to_scriptsig` writes reads back as the satisfaction's elements**,
    for the elements a satisfier gives. -/
theorem ssigElements_witnessToScriptsig {sat : List Bytes} (h : ∀ e ∈ sat, ScriptsigElement e) :
    ssigElements (witnessToScriptsig sat) = .ok (sat.map Element.ofBytes) := by
  rw [ssigElements, witnessToScriptsig_eq h,
    instructionsMinimal_serItems fun i hi => by
      obtain ⟨e, he, rfl⟩ := List.mem_map.mp hi
      exact scriptsigItem_minimal (h e he)]
  induction sat with
  | nil => rfl
  | cons e sat ih =>
    simp only [List.map_cons, List.mapM_cons, fromInstruction_scriptsigItem (h e (by simp)),
      ih fun e' he' => h e' (by simp [he']), ok_bind]
    rfl

/-! ## 2. `Pkh` -/

section Agreement

variable (L : Library)

/-- **A `Pkh` satisfaction is classified as its key's P2PKH spend**, with the output script as
    script code and the signature left on the stack. -/
theorem fromTxdata_pkh {d : Pkh PublicKey} {s : Satisfier PublicKey} {w : List Bytes} {ss : Bytes}
    (h : d.getSatisfaction s = .ok (w, ss)) :
    ∃ sig, s.lookupEcdsaSig d.pk = some sig ∧
      fromTxdata L (d.scriptPubkey L) ss w =
        .ok (.publicKey (.fullkey d.pk) .pkh, [.push sig.toVec], some (d.scriptCode L)) := by
  unfold Pkh.getSatisfaction at h
  split at h
  · rename_i sig hsig
    cases h
    have hl := L.hash160_length d.pk.bytes
    refine ⟨sig, hsig, ?_⟩
    unfold fromTxdata
    rw [ssigElements_sig_key]
    simp [fromStacks, Pkh.scriptCode, Pkh.scriptPubkey, isP2pk_newP2pkh hl, isP2pkh_newP2pkh hl,
      fromP2pkh, pop, pkFromStackElem, pkFromSlice, PublicKey.fromSlice_toBytes]
  · cases h

/-! ## 3. `Bare` -/

/-- What the agreement for bare descriptors takes of the library, for every Miniscript and every
    satisfier: its satisfier writes only elements that `witness_to_scriptsig` pushes as they are
    (empty, `[1]`, signatures, keys, preimages), its satisfaction of `c:pk_h(H)` ends in the key
    the satisfier gives for `H`, and its bare parser reads back the encoding of every Miniscript
    it builds under the bare context. -/
structure BareLaws (L : Library) : Prop where
  elements : ∀ ms s sat, L.satisfy .bareCtx ms s = .ok sat → ∀ e ∈ sat, ScriptsigElement e
  pkhKey : ∀ ms k s sat, ms.node = .check (.pkH k) → L.satisfy .bareCtx ms s = .ok sat →
    ∃ pk sat', sat = sat' ++ [pk.bytes] ∧ s.lookupPkhPk k = some pk
  parses : ∀ ms, Built L .bareCtx ms → L.parseInsane .bareCtx ms.encodeFull = .ok ms

/-- The residual stack of a bare spend: the satisfaction's elements, less the key on top that a
    P2PKH classification revealed. -/
def BareStack (sat : List Bytes) : Inner → Stack → Prop
  | .publicKey (.fullkey pk) .pkh, stack =>
    ∃ sat', sat = sat' ++ [pk.bytes] ∧ stack = sat'.map Element.ofBytes
  | _, stack => stack = sat.map Element.ofBytes

/-- The P2PK section on the encoding of `c:pk_k(K)`: the key read from between the push prefix
    and `OP_CHECKSIG`. -/
theorem fromP2pk_checkPkK {pk : PublicKey} {ms : Miniscript PublicKey Bytes}
    (hn : ms.node = .check (.pkK pk)) (S : Stack) :
    fromP2pk ms.encodeFull S [] = .ok (.publicKey (.fullkey pk) .pk, S, some ms.encodeFull) := by
  have he : ms.encodeFull = pushPrefix pk.bytes.length ++ pk.bytes ++ [OP_CHECKSIG] := by
    simp [Miniscript.encodeFull, Miniscript.encode, hn, Terminal.encode, PublicKey.ser]
  have hp : (pushPrefix pk.bytes.length).length = 1 := by
    rcases pk.length_bytes with h | h <;> simp [pushPrefix, h]
  have hmid : ((ms.encodeFull.drop 1).dropLast) = pk.bytes := by
    rw [he, List.append_assoc, List.drop_append_of_le_length (by omega), List.drop_of_length_le
      (by omega), List.nil_append, List.dropLast_concat]
  simp only [fromP2pk, hmid]
  simp [pkFromSlice, PublicKey.fromSlice_toBytes]

/-- **A `Bare` satisfaction is classified with the output script as script code**, and the
    stack holds the satisfaction's elements less a revealed key: P2PK for `c:pk_k`, P2PKH for
    `c:pk_h`, the bare section otherwise. -/
theorem fromTxdata_bare (hl : BareLaws L) {d : Bare PublicKey Bytes} {s : Satisfier PublicKey}
    {w : List Bytes} {ss : Bytes} (hb : Built L .bareCtx d.ms)
    (hs : ∀ k pk, s.lookupPkhPk k = some pk → L.hash160 pk.bytes = k)
    (h : d.getSatisfaction L s = .ok (w, ss)) :
    ∃ sat inner stack, L.satisfy .bareCtx d.ms s = .ok sat ∧
      fromTxdata L d.scriptPubkey ss w = .ok (inner, stack, some d.scriptCode) ∧
      BareStack sat inner stack := by
  obtain ⟨sat, hsat, h⟩ := bind_eq_ok.mp h
  cases h
  have hS := ssigElements_witnessToScriptsig (hl.elements _ _ sat hsat)
  simp only [fromTxdata, hS, ok_bind, List.map_nil, Bare.scriptCode, Bare.scriptPubkey]
  unfold fromStacks
  by_cases hpk : isP2pk d.ms.encodeFull = true
  · obtain ⟨pk, hn⟩ := isP2pk_encodeFull d.ms hpk
    exact ⟨sat, .publicKey (.fullkey pk) .pk, _, hsat, by rw [if_pos hpk, fromP2pk_checkPkK hn], rfl⟩
  by_cases hpkh : isP2pkh d.ms.encodeFull = true
  · obtain ⟨k, hk, hn⟩ := isP2pkh_encodeFull d.ms hpkh
    obtain ⟨pk, sat', rfl, hpk'⟩ := hl.pkhKey _ k s sat hn hsat
    have he : d.ms.encodeFull = newP2pkh (L.hash160 pk.bytes) := by
      rw [hs k pk hpk']
      simp [Miniscript.encodeFull, Miniscript.encode, hn, Terminal.encode, newP2pkh, pushPrefix, hk]
      rfl
    have h2 : 2 ≤ pk.bytes.length := by rcases pk.length_bytes with h | h <;> omega
    refine ⟨_, .publicKey (.fullkey pk) .pkh, sat'.map Element.ofBytes, hsat, ?_, sat', rfl, rfl⟩
    rw [if_neg hpk, if_pos hpkh]
    simp [fromP2pkh, Element.ofBytes_of_two_le h2, pkFromStackElem, pkFromSlice,
      PublicKey.fromSlice_toBytes, he]
  · obtain ⟨h1, h2, h3, h4⟩ := encodeFull_not_segwit d.ms
    refine ⟨sat, .script d.ms.toNoChecksMs .bare, _, hsat, ?_, rfl⟩
    rw [if_neg hpk, if_neg hpkh, if_neg (by simp [h1]), if_neg (by simp [h2]),
      if_neg (by simp [h3]), if_neg (by simp [h4])]
    simp [fromBare, hl.parses _ hb]
    rfl

/-! ## 4. `CovenantDescriptor` -/

/-- **A covenant satisfaction is classified as that covenant**, with the covenant's script code
    and the satisfaction below the witness script as the stack, when the decoder keeps its law
    and the inner `B` expression, built by the library, passes the segwit checks. -/
theorem fromTxdata_cov (hL : DecodesBack L) {pk : PublicKey} {ms : Miniscript PublicKey Bytes}
    {d : CovenantDescriptor PublicKey Bytes} {s : Satisfier PublicKey} {w : List Bytes} {ss : Bytes}
    (hms : Built L .segwitv0 ms) (hB : ms.ty.base = .B)
    (hnew : CovenantDescriptor.new pk ms = .ok d)
    (hg : CovenantDescriptor.segwitv0CheckGlobalValidity ms = .ok ())
    (h : d.getSatisfaction L s = .ok (w, ss)) :
    ∃ wit, w = wit ++ [d.encode] ∧
      fromTxdata L (d.scriptPubkey L) ss w = .ok (.covScript (.fullkey pk) ms.toNoChecksMs,
        wit.map Element.ofBytes, some CovenantDescriptor.covScriptCode) := by
  obtain ⟨rfl, -⟩ := CovenantDescriptor.new_eq_ok_iff.mp hnew
  obtain ⟨wit, -, h⟩ := bind_eq_ok.mp h
  cases h
  have hc := CovenantDescriptor.parseCovComponents_encode (d := ⟨pk, ms⟩) hL hms hB hg
  have hlen : 2 ≤ (⟨pk, ms⟩ : CovenantDescriptor PublicKey Bytes).encode.length := by
    rw [CovenantDescriptor.encode, CovenantDescriptor.length_verifyCov]
    omega
  refine ⟨wit, rfl, ?_⟩
  rw [fromTxdata_nil, CovenantDescriptor.scriptPubkey, fromStacks_newV0Wsh L (L.sha256_length _)]
  simp [fromV0P2wsh, Element.ofBytes_of_two_le hlen, covComponentsFromStackelem, hc]

/-! ## 5. The three descriptors -/

end Agreement

/-- A library with the modelled satisfier (`satisfyMs`) and `covLibrary`'s type checker and
    decoder, whose parser is the modelled lexer followed by that decoder. -/
def agreeLibrary : Library :=
  { CovenantDescriptor.covLibrary with
    parseInsane := fun _ script => do
      let toks ← lex script
      let (ms, rest) ← CovenantDescriptor.covLibrary.decodeParse toks.reverse
      if rest = [] then .ok ms else .error .trailing
    satisfy := satisfyMs }

theorem decodesBack_agreeLibrary : DecodesBack agreeLibrary := fun ms toks hb hlex =>
  CovenantDescriptor.decodesBack_covLibrary ms toks ⟨hb.fromAst, hb.wellSized⟩ hlex

/-- `agreeLibrary` keeps the bare laws: its satisfier writes only signatures, keys and empty
    elements and ends a `c:pk_h` satisfaction in the key, and its parser reads back what its
    type checker builds. -/
theorem bareLaws_agreeLibrary : BareLaws agreeLibrary where
  elements _ _ _ h := satisfyMs_elements h
  pkhKey _ _ _ _ hn h := satisfyMs_pkH hn h
  parses ms hb := by
    obtain ⟨toks, -, hlex⟩ := lex_encodeFull hb.wellSized
    have hd := CovenantDescriptor.decodesBack_covLibrary ms toks ⟨hb.fromAst, hb.wellSized⟩ hlex
    simp only [agreeLibrary, hlex, hd, ok_bind]
    rfl

/-- A satisfier with `CovenantDescriptor.covSatisfier`'s covenant items and a 73-byte signature
    for every key. -/
def keySatisfier : Satisfier PublicKey :=
  { CovenantDescriptor.covSatisfier with
    lookupEcdsaSig := fun _ => some ⟨⟨List.replicate 72 0x30, by decide⟩, 1⟩ }

theorem toNoChecksMs_ext (ms : Miniscript PublicKey Bytes) : ms.toNoChecksMs.ext = ms.ext := by
  unfold Miniscript.toNoChecksMs
  split
  · rename_i m hm
    obtain ⟨node, -, rfl⟩ := map_eq_ok.mp hm
    rfl
  · rfl

theorem scriptSize_le_of_segwitv0CheckGlobalValidity {ms : Miniscript PublicKey Bytes}
    (h : CovenantDescriptor.segwitv0CheckGlobalValidity ms = .ok ()) :
    ms.scriptSize ≤ MAX_STANDARD_P2WSH_SCRIPT_SIZE := by
  unfold CovenantDescriptor.segwitv0CheckGlobalValidity at h
  split_ifs at h with h1 h2
  omega

set_option maxRecDepth 2000 in
/-- A second key: the point of `PublicKey.sample` with odd `y`. -/
def sampleOdd : PublicKey := ⟨3 :: List.replicate 32 7, by decide⟩

/-- `or_d(pk(K'), chain)`: the key `K'`, or the chain of 103 keys `K` of `RoundTrip.lean`; with
    its type data, a `B` expression of 3643 bytes and 107 op-codes, satisfied by at most 104
    elements of 7520 bytes. -/
def msOrD : Miniscript PublicKey Bytes :=
  ⟨.orD (.check (.pkK sampleOdd)) (CovenantDescriptor.andVChain 102), ⟨.B⟩,
    ⟨3643, false, some 107, some 104, some 7520⟩⟩

/-- The covenant on `PublicKey.sample` around `msOrD`. -/
def orDCov : CovenantDescriptor PublicKey Bytes := ⟨PublicKey.sample, msOrD⟩

/-- The signature `oddSatisfier` has. -/
def sampleSig : ElementsSig := ⟨⟨List.replicate 72 0x30, by decide⟩, 1⟩

/-- A satisfier with `CovenantDescriptor.covSatisfier`'s covenant items and a signature for `K'`
    alone. -/
def oddSatisfier : Satisfier PublicKey :=
  { CovenantDescriptor.covSatisfier with
    lookupEcdsaSig := fun pk => if pk = sampleOdd then some sampleSig else none }

end Interpreter

end ElementsMiniscript
