/-
  File:      ElementsMiniscript/Covenant/Bounds.lean
  Subject:   The covenant invariant, the real length of a covenant's encoding, and the real
             weight of its satisfaction, against the analytic figures `new`, `sanity_check`
             and `max_satisfaction_weight` use.

  * `Invariant` -- base type `B`, and the op count and script size with the preamble within
    the consensus limits. `parseInsane_invariant`, `parse_invariant` establish it,
    `translatePk_invariant` keeps it, and `invariant_of_new` says `new` establishes it for a
    `B` expression; `new_verifyPk` -- but `new` accepts the `V` expression `v:pk(K)`.
  * `length_encode` -- the encoding is the inner Miniscript's, merged with or followed by the
    preamble's `OP_VERIFY`, then 24 bytes and the binding key; for a Miniscript whose cached
    size is its encoding's (`Faithful`), that is the analytic size with the key's bytes beyond
    33 added; `encode_length_uncompressed` -- 32 bytes more than the analytic size for every
    uncompressed binding key; **`encode_length_le_of_compressed`** -- exactly the analytic size
    for a compressed one, so that `new`'s check keeps the script within the consensus limit and
    `sanity_check`'s within the standard P2WSH limit.
  * `spendWeight`, `getSatisfaction_sample` -- the weight of a covenant spend of `1` with
    items of consensus size, 37 weight units above `max_satisfaction_weight`;
    **`spendWeight_le_maxSatisfactionWeight`** -- and no spend is further above it: the twelve
    covenant items take at most 312 units where the estimate counts 275.
  * `firstMissingItem`, **`satisfy_missingSighashItem`** -- a satisfaction fails for a missing
    sighash item exactly when one is missing, and names the first by its lookup's number, which
    `hash_prevouts` shares with `nVersion` (`satisfy_missingHashprevouts`).
-/
import ElementsMiniscript.Covenant.Cov

namespace ElementsMiniscript

namespace CovenantDescriptor

/-! ## 1. The covenant invariant -/

section Invariant

variable {Pk Pkh : Type}

/-- The covenant invariant: the inner Miniscript is a `B` expression, and its op count and
    script size with the preamble's are within the consensus limits. -/
structure Invariant (d : CovenantDescriptor Pk Pkh) : Prop where
  base : d.ms.ty.base = .B
  ops : ∃ n, d.ms.ext.opsCountSat = some n ∧ n + 24 - freeVerify d.ms ≤ MAX_OPS_PER_SCRIPT
  size : d.ms.scriptSize + 58 - freeVerify d.ms ≤ MAX_SCRIPT_SIZE

/-- What `new` checks is the invariant less the base type. -/
theorem invariant_of_new {pk : Pk} {ms : Miniscript Pk Pkh} {d : CovenantDescriptor Pk Pkh}
    (h : new pk ms = .ok d) (hB : ms.ty.base = .B) : Invariant d := by
  obtain ⟨rfl, n, hn, hops, hsz⟩ := new_eq_ok_iff.mp h
  have : freeVerify ms ≤ 1 := by unfold freeVerify; split_ifs <;> omega
  exact ⟨hB, ⟨n, hn, hops⟩, show ms.scriptSize + 58 - freeVerify ms ≤ _ by omega⟩

theorem parseInsane_invariant {L : Library} {script : Bytes} {d : CovenantDescriptor PublicKey Bytes}
    (h : parseInsane L script = .ok d) : Invariant d := by
  obtain ⟨⟨pk, ms⟩, hc, hn⟩ := bind_eq_ok.mp h
  exact invariant_of_new hn (parseCovComponents_ok hc).2

theorem parse_invariant {msSanity : Miniscript PublicKey Bytes → Except Error Unit} {L : Library}
    {script : Bytes} {d : CovenantDescriptor PublicKey Bytes} (h : parse msSanity L script = .ok d) :
    Invariant d := by
  obtain ⟨cov, hcov, h⟩ := bind_eq_ok.mp h
  obtain ⟨_, -, h⟩ := bind_eq_ok.mp h
  cases h
  exact parseInsane_invariant hcov

/-- Translation keeps the invariant: it copies the inner Miniscript's type data. -/
theorem translatePk_invariant {Q Qh E : Type} {f : Pk → Except E Q} {g : Pkh → Except E Qh}
    {d : CovenantDescriptor Pk Pkh} {d' : CovenantDescriptor Q Qh} (hd : Invariant d)
    (h : d.translatePk f g = .ok d') : Invariant d' := by
  obtain ⟨hty, hext⟩ := translatePk_ms h
  have hfv : freeVerify d'.ms = freeVerify d.ms := by simp [freeVerify, hext]
  have hsz : d'.ms.scriptSize = d.ms.scriptSize := by simp [Miniscript.scriptSize, hext]
  exact ⟨hty ▸ hd.base, hext ▸ hfv ▸ hd.ops, hsz ▸ hfv ▸ hd.size⟩

end Invariant

/-- `v:pk(K)`: the key check in its VERIFY form, a `V` expression of 35 bytes with one
    op-code, whose satisfaction is one signature. -/
def msVerifyPk : Miniscript PublicKey Bytes :=
  ⟨.verify (.check (.pkK PublicKey.sample)), ⟨.V⟩, ⟨35, false, some 1, some 1, some 73⟩⟩

/-- **`new` accepts a Miniscript that is not a `B` expression.** -/
theorem new_verifyPk :
    new PublicKey.sample msVerifyPk = .ok ⟨PublicKey.sample, msVerifyPk⟩ ∧
      ¬ Invariant (⟨PublicKey.sample, msVerifyPk⟩ : CovenantDescriptor PublicKey Bytes) :=
  ⟨new_eq_ok_iff.mpr ⟨rfl, 1, rfl, by decide, by decide⟩, fun h => absurd h.base (by decide)⟩

/-! ## 2. The length of the encoding -/

/-- The library's cached data agrees with the encoding: `script_size` is the encoding's length,
    and `has_free_verify` holds exactly when its last opcode has a VERIFY form. -/
structure Faithful (ms : Miniscript PublicKey Bytes) : Prop where
  scriptSize_eq : ms.scriptSize = (ms.node.encode PublicKey.ser id Builder.new).bytes.length
  hasFreeVerify_eq :
    ms.ext.hasFreeVerify = ((ms.node.encode PublicKey.ser id Builder.new).lastOp.bind verifyForm).isSome

/-- **The real length of a covenant**: the analytic size, with the binding key's bytes in
    place of 33. -/
theorem length_encode {d : CovenantDescriptor PublicKey Bytes} (hf : Faithful d.ms) :
    d.encode.length + 33 = d.ms.scriptSize + 58 - freeVerify d.ms + d.pk.bytes.length := by
  rw [encode, length_verifyCov, Builder.pushVerify_length, hf.scriptSize_eq, freeVerify,
    hf.hasFreeVerify_eq]
  split_ifs <;> omega

set_option maxRecDepth 2000 in
/-- An uncompressed key: 65 bytes with prefix 4, the point of `PublicKey.sample`. -/
def sampleUncompressed : PublicKey :=
  ⟨4 :: List.replicate 32 7 ++ [0x06, 0xcf, 0x50, 0x6c, 0x59, 0x65, 0x67, 0xe4, 0x7f, 0x4f, 0xac,
    0xa3, 0x92, 0xd7, 0xdc, 0x35, 0x7a, 0x6d, 0x12, 0x1b, 0xcc, 0xa6, 0x33, 0x71, 0x29, 0x49, 0x9c,
    0x14, 0x8c, 0xee, 0x45, 0x7c], by decide⟩

/-- **A covenant on an uncompressed key is 32 bytes longer than the size its checks use.** -/
theorem encode_length_uncompressed {pk : PublicKey} {ms : Miniscript PublicKey Bytes}
    {d : CovenantDescriptor PublicKey Bytes} (hnew : new pk ms = .ok d) (hf : Faithful ms)
    (hu : pk.compressed = false) : d.encode.length = ms.scriptSize + 58 - freeVerify ms + 32 := by
  obtain ⟨rfl, -⟩ := new_eq_ok_iff.mp hnew
  have h65 : pk.bytes.length = 65 := by
    have := pk.length_bytes
    simp only [PublicKey.compressed, beq_eq_false_iff_ne] at hu
    omega
  have := @length_encode ⟨pk, ms⟩ hf
  simp only [h65] at this
  omega

theorem encode_length_sampleUncompressed :
    new sampleUncompressed msTrue = .ok ⟨sampleUncompressed, msTrue⟩ ∧ Faithful msTrue ∧
      sampleUncompressed.compressed = false ∧
      (⟨sampleUncompressed, msTrue⟩ : CovenantDescriptor PublicKey Bytes).encode.length =
        msTrue.scriptSize + 58 - freeVerify msTrue + 32 :=
  have hnew : new sampleUncompressed msTrue = .ok ⟨sampleUncompressed, msTrue⟩ :=
    new_eq_ok_iff.mpr ⟨rfl, 0, rfl, by decide, by decide⟩
  have hf : Faithful msTrue := ⟨rfl, rfl⟩
  ⟨hnew, hf, rfl, encode_length_uncompressed hnew hf rfl⟩

/-- With a compressed binding key a covenant is exactly as long as the size its checks use. -/
theorem encode_length_compressed {d : CovenantDescriptor PublicKey Bytes} (hf : Faithful d.ms)
    (hc : d.pk.compressed = true) : d.encode.length = d.ms.scriptSize + (58 - freeVerify d.ms) := by
  have h33 := (PublicKey.compressed_iff _).mp hc
  have hl := length_encode hf
  have := freeVerify_le_one d.ms
  omega

/-- **With a compressed binding key the size checks bound the real script**: the witness script
    is exactly the analytic size, so that of a covenant built by `new` is within the consensus
    limit, and that of one which passes `sanity_check` within the standard P2WSH limit. -/
theorem encode_length_le_of_compressed {d : CovenantDescriptor PublicKey Bytes}
    (hf : Faithful d.ms) (hc : d.pk.compressed = true) :
    d.encode.length = d.ms.scriptSize + (58 - freeVerify d.ms) ∧
      (∀ pk ms, new pk ms = .ok d → d.encode.length ≤ MAX_SCRIPT_SIZE) ∧
      ∀ msSanity, sanityCheck msSanity d = .ok () →
        d.encode.length ≤ MAX_STANDARD_P2WSH_SCRIPT_SIZE := by
  have hl := encode_length_compressed hf hc
  refine ⟨hl, fun pk ms hnew => ?_, fun msSanity hs => ?_⟩
  · obtain ⟨rfl, -, -, -, h⟩ := new_eq_ok_iff.mp hnew
    exact hl ▸ h
  · obtain ⟨_, -, hs⟩ := bind_eq_ok.mp hs
    split_ifs at hs with h
    omega

set_option maxRecDepth 2000 in
/-- The covenant `c:pk_k(K)` on `PublicKey.sample`, whose last opcode merges with the
    preamble's `OP_VERIFY`, is built by `new`, passes `sanity_check`, and is 92 bytes long. -/
theorem encode_length_le_sample :
    Faithful samplePk.ms ∧ samplePk.pk.compressed = true ∧
      new PublicKey.sample (msPk PublicKey.sample) = .ok samplePk ∧
      sanityCheck (fun _ => .ok ()) samplePk = .ok () ∧
      samplePk.encode.length = 92 ∧ samplePk.encode.length ≤ MAX_SCRIPT_SIZE ∧
      samplePk.encode.length ≤ MAX_STANDARD_P2WSH_SCRIPT_SIZE :=
  have hf : Faithful samplePk.ms := ⟨rfl, rfl⟩
  have hnew : new PublicKey.sample (msPk PublicKey.sample) = .ok samplePk :=
    new_eq_ok_iff.mpr ⟨rfl, 1, rfl, by decide, by decide⟩
  have hs : sanityCheck (fun _ => .ok ()) samplePk = .ok () := rfl
  have h := encode_length_le_of_compressed hf rfl
  ⟨hf, rfl, hnew, hs, h.1, h.2.1 _ _ hnew, h.2.2 _ hs⟩

/-! ## 3. The weight of a satisfaction -/

/-- The weight of a spend's input data: the scriptSig with its length at four units a byte,
    the witness's element count, and each witness element with its length. -/
def spendWeight (witness : List Bytes) (scriptSig : Bytes) : Nat :=
  4 * (varintLen scriptSig.length + scriptSig.length) + varintLen witness.length +
    (witness.map fun e => varintLen e.length + e.length).sum

/-- A satisfier with covenant items of consensus size: a 72-byte signature by
    `PublicKey.sample`, the covenant's script code, a confidential value, four-byte numbers,
    32-byte hashes and a 36-byte outpoint. -/
def covSatisfier : Satisfier PublicKey where
  lookupEcdsaSig _ := none
  lookupPkhPk _ := none
  lookupSig pk := if pk = PublicKey.sample then some ⟨⟨List.replicate 72 0x30, by decide⟩, 1⟩ else none
  lookupNversion := some 2
  lookupHashprevouts := some ⟨List.replicate 32 1, rfl⟩
  lookupHashsequence := some ⟨List.replicate 32 2, rfl⟩
  lookupHashissuances := some ⟨List.replicate 32 3, rfl⟩
  lookupOutpoint := some ⟨⟨List.replicate 32 4, rfl⟩, 0⟩
  lookupScriptcode := some covScriptCode
  lookupValue := some (.confidential (8 :: List.replicate 32 5) rfl)
  lookupNsequence := some 0xffffffff
  lookupOutputs := some []
  lookupNlocktime := some 0
  lookupSighashu32 := some 1

/-- **`max_satisfaction_weight` underestimates a covenant spend**: the covenant `1` on
    `PublicKey.sample`, whose inner satisfaction is empty, weighs 377 against an estimate of
    340. -/
theorem getSatisfaction_sample :
    new PublicKey.sample msTrue = .ok sample ∧
      ∃ w, sample.getSatisfaction Library.sample covSatisfier = .ok (w, []) ∧
        maxSatisfactionWeight sample = .ok 340 ∧ spendWeight w [] = 377 :=
  ⟨new_eq_ok_iff.mpr ⟨rfl, 0, rfl, by decide, by decide⟩, _, rfl, rfl, rfl⟩

theorem varintLen_mono {a b : Nat} (h : a ≤ b) : varintLen a ≤ varintLen b := by
  unfold varintLen
  split_ifs <;> omega

theorem varintLen_of_lt {n : Nat} (h : n < 0xfd) : varintLen n = 1 := if_pos h

theorem length_serialize_le (v : Value) : v.serialize.length ≤ 33 := by
  cases v <;> simp [Value.serialize, *]

/-- The witness elements' share of `spendWeight`: each element with its length prefix. -/
def itemsWeight (w : List Bytes) : Nat := (w.map fun e => varintLen e.length + e.length).sum

@[simp] theorem itemsWeight_nil : itemsWeight [] = 0 := rfl

@[simp] theorem itemsWeight_cons (e : Bytes) (w : List Bytes) :
    itemsWeight (e :: w) = varintLen e.length + e.length + itemsWeight w := by
  simp [itemsWeight]

theorem itemsWeight_append (a b : List Bytes) : itemsWeight (a ++ b) = itemsWeight a + itemsWeight b := by
  simp [itemsWeight]

theorem spendWeight_eq (w : List Bytes) (ss : Bytes) :
    spendWeight w ss = 4 * (varintLen ss.length + ss.length) + varintLen w.length + itemsWeight w :=
  rfl

/-- A satisfaction of a Miniscript within the bounds the library gives for it: no more elements
    than its element count, and no more weight than its size. -/
def SatisfactionWithin (ms : Miniscript PublicKey Bytes) (msWit : List Bytes) : Prop :=
  (∀ n, ms.ext.stackElemCountSat = some n → msWit.length ≤ n) ∧
    ∀ m, ms.ext.maxSatSize = some m → itemsWeight msWit ≤ m

/-- The twelve covenant items before the inner satisfaction weigh at most 312 units with their
    prefixes when the script code is the covenant's own: the sizes their types fix. -/
theorem satisfy_weight {L : Library} {d : CovenantDescriptor PublicKey Bytes}
    {s : Satisfier PublicKey} {w : List Bytes} (h : d.satisfy L s = .ok w)
    (hsc : s.lookupScriptcode = some covScriptCode) :
    ∃ msWit, L.satisfy .segwitv0 d.ms s = .ok msWit ∧ w.length = 12 + msWit.length ∧
      itemsWeight w ≤ 312 + itemsWeight msWit := by
  simp only [satisfy, bind_eq_ok, okOr_eq_ok, hsc, Option.some.injEq] at h
  obtain ⟨nv, -, hp, -, hs, -, hi, -, op, -, _, rfl, v, -, nseq, -, outs, -, nlt, -, sty, -, sig,
    -, h⟩ := h
  split_ifs at h
  obtain ⟨msWit, hms, h⟩ := bind_eq_ok.mp h
  cases h
  refine ⟨msWit, hms, by simp; omega, ?_⟩
  have hsig := sig.sig.der_length.2
  have hv := length_serialize_le v
  have hcode : covScriptCode.length = 14 := by simp [covScriptCode, length_postCodesepScript]
  simp (disch := omega) only [List.cons_append, List.nil_append, itemsWeight_cons, length_serializeU32, Hash32.length,
    OutPoint.serialize, List.length_append, serializeScript, length_varint, L.sha256d_length,
    varintLen_of_lt, hcode]
  omega

/-- **`max_satisfaction_weight` falls short of a covenant spend by at most 37 weight units**:
    with a compressed binding key, an inner Miniscript whose cached data agrees with its
    encoding, the covenant's own script code and an inner satisfaction within its bounds, the
    spend that `get_satisfaction` builds weighs at most the estimate plus 37, the difference
    between the 312 units the twelve covenant items can take and the 275 the estimate counts.
    `spendWeight_le_sample` reaches it. -/
theorem spendWeight_le_maxSatisfactionWeight {L : Library} {d : CovenantDescriptor PublicKey Bytes}
    {s : Satisfier PublicKey} {w : List Bytes} {ss : Bytes} {est : Nat} (hf : Faithful d.ms)
    (hc : d.pk.compressed = true) (hsc : s.lookupScriptcode = some covScriptCode)
    (hms : ∀ msWit, L.satisfy .segwitv0 d.ms s = .ok msWit → SatisfactionWithin d.ms msWit)
    (hg : d.getSatisfaction L s = .ok (w, ss)) (he : d.maxSatisfactionWeight = .ok est) :
    spendWeight w ss ≤ est + 37 := by
  obtain ⟨wit, hwit, h⟩ := bind_eq_ok.mp hg
  cases h
  obtain ⟨msWit, hmsWit, hlen, hwt⟩ := satisfy_weight hwit hsc
  simp only [maxSatisfactionWeight, maxSatisfactionWitnessElements, maxSatisfactionSize,
    bind_eq_ok, okOr_eq_ok, Option.map_eq_some'] at he
  obtain ⟨_, ⟨n, hn, rfl⟩, m, hm, he⟩ := he
  cases he
  have hcount := (hms msWit hmsWit).1 n hn
  have hsize := (hms msWit hmsWit).2 m hm
  have hvar := varintLen_mono (show wit.length + 1 ≤ n + 1 + 12 by omega)
  have hsz : d.ms.scriptSize + 58 - freeVerify d.ms = d.encode.length := by
    have := freeVerify_le_one d.ms
    rw [encode_length_compressed hf hc]
    omega
  rw [spendWeight_eq, itemsWeight_append, List.length_append, List.length_singleton, hsz]
  simp only [List.length_nil, varintLen_of_lt (show 0 < 0xfd by decide), itemsWeight_cons,
    itemsWeight_nil]
  omega

/-- The covenant `1` on `PublicKey.sample` under `covSatisfier` weighs the estimate plus 37. -/
theorem spendWeight_le_sample :
    ∃ w, sample.getSatisfaction Library.sample covSatisfier = .ok (w, []) ∧
      maxSatisfactionWeight sample = .ok 340 ∧ spendWeight w [] = 340 + 37 ∧
      spendWeight w [] ≤ 340 + 37 :=
  ⟨_, rfl, rfl, rfl, spendWeight_le_maxSatisfactionWeight (L := Library.sample) (d := sample)
    (s := covSatisfier) ⟨rfl, rfl⟩ rfl rfl
    (fun _ h => by cases h; exact ⟨fun n _ => Nat.zero_le n, fun m _ => Nat.zero_le m⟩) rfl rfl⟩

end CovenantDescriptor

end ElementsMiniscript
