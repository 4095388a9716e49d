/-
  File:      ElementsMiniscript/Interpreter/Refusals.lean
  Subject:   `interpreter/inner.rs`: where `from_txdata` refuses a revealed key or script that
             the output does not commit to, and where it refuses a taproot annex.

  * `CommitCheck` -- the errors of the checks that compare a revealed key or script with the
    output's commitment: `IncorrectPubkeyHash`, `IncorrectWPubkeyHash`, `IncorrectScriptHash`,
    `IncorrectWScriptHash` and `ControlBlockVerificationError`;
  * `CommitRefusal` -- one rule per such check a section makes, with the checks before it
    passed;
  * **`fromStacks_commitRefusal`** -- these errors are returned exactly on `CommitRefusal`: a key
    or script that parses, on a stack of the right shape, and that the output (or the nested
    redeem script) does not commit to. `IncorrectWPubkeyHash` is the native P2WPKH output's
    only; a P2SH-wrapped P2WPKH whose key hashes elsewhere is refused as `IncorrectWScriptHash`.
    A legacy P2SH redeem script is refused as `IncorrectScriptHash` twice: when the output does
    not hash the pushed bytes, and when it does not hash the parsed script's own encoding;
  * **`fromStacks_annex`** -- `TapAnnexUnsupported` is returned exactly under a taproot output
    whose key parses, with an empty scriptSig and at least two witness elements, the top one an
    annex: a key spend whose one element begins with the annex byte is not refused.
-/
import ElementsMiniscript.Interpreter.Accepts

namespace ElementsMiniscript

namespace Interpreter

/-! ## 1. The commitment checks -/

/-- The errors of the checks that compare a revealed key or script with what the output
    commits to: its hash, or the taproot commitment of its output key. -/
def CommitCheck : Error → Prop
  | .incorrectPubkeyHash | .incorrectWPubkeyHash | .incorrectScriptHash
  | .incorrectWScriptHash | .controlBlockVerificationError => True
  | _ => False

namespace CommitCheck

variable {x : Error} (hx : CommitCheck x)
include hx

theorem ne_key : x ≠ .uncompressedPubkey ∧ x ≠ .pubkeyParseError :=
  ⟨by rintro rfl; exact hx, by rintro rfl; exact hx⟩

theorem ne_miniscript : ∀ err, x ≠ .miniscript err := by
  rintro err rfl
  exact hx

end CommitCheck

section Sections

variable (L : Library)

/-- **Where a section refuses a key or script the output does not commit to**: one rule per
    check of a revealed key or script against the hash that the output, or the nested redeem
    script, commits to, and against the taproot commitment of the output key. The stacks are
    written as the elements the section takes; the premises are the checks before it, passed,
    and the one it fails. -/
inductive CommitRefusal : Bytes → Stack → Stack → Error → Prop where
  | p2pkh {spk : Bytes} {S : Stack} {pk : PublicKey} (ht : template spk = .p2pkh)
      (hspk : spk ≠ newP2pkh (L.hash160 pk.bytes)) :
      CommitRefusal spk (S ++ [.push pk.bytes]) [] .incorrectPubkeyHash
  | v0P2wpkh {spk : Bytes} {W : Stack} {pk : PublicKey} (ht : template spk = .v0P2wpkh)
      (hc : pk.compressed = true) (hspk : spk ≠ newV0Wpkh (L.hash160 pk.bytes)) :
      CommitRefusal spk [] (W ++ [.push pk.bytes]) .incorrectWPubkeyHash
  | v0P2wsh {spk : Bytes} {W : Stack} {e : Element} {m : Miniscript PublicKey Bytes}
      (ht : template spk = .v0P2wsh) (hcov : covComponentsFromStackelem L e = none)
      (hm : scriptFromStackElem (L.parseInsane .segwitv0) (L.typeCheck .segwitv0) e = .ok m)
      (hspk : spk ≠ newV0Wsh (L.sha256 m.encodeFull)) :
      CommitRefusal spk [] (W ++ [e]) .incorrectWScriptHash
  | tr {spk : Bytes} {W : Stack} {t : Element} {cb : Bytes} {xk : XOnlyPublicKey}
      {m : Miniscript XOnlyPublicKey Bytes} (ht : template spk = .v1P2tr)
      (hk : XOnlyPublicKey.fromSlice (spk.drop 2) = some xk)
      (hann : cb.head? ≠ some TAPROOT_ANNEX_PREFIX) (hcb : L.controlBlockParses cb = true)
      (hm : scriptFromStackElem L.parseInsaneTap L.typeCheckTap t = .ok m)
      (hv : L.verifyTaprootCommitment cb xk (encodeTap m) = false) :
      CommitRefusal spk [] (W ++ [t, .push cb]) .controlBlockVerificationError
  | shPush {spk : Bytes} {S W : Stack} {slice : Bytes} (ht : template spk = .p2sh)
      (hspk : spk ≠ newP2sh (L.hash160 slice)) :
      CommitRefusal spk (S ++ [.push slice]) W .incorrectScriptHash
  | shWpkh {spk : Bytes} {W : Stack} {slice : Bytes} {pk : PublicKey} (ht : template spk = .p2sh)
      (hspk : spk = newP2sh (L.hash160 slice)) (hw : isWpkhRedeem slice = true)
      (hc : pk.compressed = true) (hsl : slice ≠ newV0Wpkh (L.hash160 pk.bytes)) :
      CommitRefusal spk [.push slice] (W ++ [.push pk.bytes]) .incorrectWScriptHash
  | shWsh {spk : Bytes} {W : Stack} {slice : Bytes} {e : Element} {m : Miniscript PublicKey Bytes}
      (ht : template spk = .p2sh) (hspk : spk = newP2sh (L.hash160 slice))
      (hw : isWpkhRedeem slice = false) (hs : isWshRedeem slice = true)
      (hm : scriptFromStackElem (L.parseInsane .segwitv0) (L.typeCheck .segwitv0) e = .ok m)
      (hsl : slice ≠ newV0Wsh (L.sha256 m.encodeFull)) :
      CommitRefusal spk [.push slice] (W ++ [e]) .incorrectWScriptHash
  | sh {spk : Bytes} {S : Stack} {e : Element} {m : Miniscript PublicKey Bytes}
      (ht : template spk = .p2sh)
      (hpush : ∀ slice, e = .push slice → spk = newP2sh (L.hash160 slice) ∧
        isWpkhRedeem slice = false ∧ isWshRedeem slice = false)
      (hm : scriptFromStackElem (L.parseInsane .legacy) (L.typeCheck .legacy) e = .ok m)
      (hspk : spk ≠ newP2sh (L.hash160 m.encodeFull)) :
      CommitRefusal spk (S ++ [e]) [] .incorrectScriptHash

/-! ## 2. Each section's commitment check -/

variable {spk : Bytes} {S W : Stack} {x : Error}

theorem fromP2pk_ne_commitCheck (hx : CommitCheck x) : fromP2pk spk S W ≠ .error x := by
  unfold fromP2pk
  split_ifs
  · rintro ⟨⟩
    exact hx
  · rw [Ne, bind_eq_error]
    rintro (h | ⟨pk, -, ⟨⟩⟩)
    exact pkFromSlice_ne_error x hx.ne_key _ _ h

theorem commitRefusal_of_fromP2pkh (ht : template spk = .p2pkh)
    (h : fromP2pkh L spk S W = .error x) (hx : CommitCheck x) : CommitRefusal L spk S W x := by
  unfold fromP2pkh at h
  split_ifs at h with hW
  · cases h; exact False.elim hx
  split at h
  · rename_i e S' hpop
    obtain h | ⟨pk, hpk, h⟩ := bind_eq_error.mp h
    · exact absurd h (pkFromStackElem_ne_error x hx.ne_key e false)
    split_ifs at h with hspk
    cases h
    rw [pop_eq_some.mp hpop, (pkFromStackElem_ok hpk).1, show W = [] by simpa using hW]
    exact .p2pkh ht hspk
  · cases h; exact False.elim hx

theorem commitRefusal_of_fromV0P2wpkh (ht : template spk = .v0P2wpkh)
    (h : fromV0P2wpkh L spk S W = .error x) (hx : CommitCheck x) : CommitRefusal L spk S W x := by
  unfold fromV0P2wpkh at h
  split_ifs at h with hS
  · cases h; exact False.elim hx
  split at h
  · rename_i e W' hpop
    obtain h | ⟨pk, hpk, h⟩ := bind_eq_error.mp h
    · exact absurd h (pkFromStackElem_ne_error x hx.ne_key e true)
    split_ifs at h with hspk
    cases h
    obtain ⟨rfl, hc⟩ := pkFromStackElem_ok hpk
    rw [pop_eq_some.mp hpop, show S = [] by simpa using hS]
    exact .v0P2wpkh ht (hc rfl) hspk
  · cases h; exact False.elim hx

theorem commitRefusal_of_fromV0P2wsh (ht : template spk = .v0P2wsh)
    (h : fromV0P2wsh L spk S W = .error x) (hx : CommitCheck x) : CommitRefusal L spk S W x := by
  unfold fromV0P2wsh at h
  split_ifs at h with hS
  · cases h; exact False.elim hx
  split at h
  · rename_i e W' hpop
    split at h
    · cases h
    rename_i hcov
    obtain h | ⟨m, hm, h⟩ := bind_eq_error.mp h
    · exact absurd h (scriptFromStackElem_ne_error x hx.ne_miniscript _ _ e)
    dsimp only at h
    split_ifs at h with hspk
    cases h
    rw [pop_eq_some.mp hpop, show S = [] by simpa using hS]
    exact .v0P2wsh ht hcov hm hspk
  · cases h; exact False.elim hx

theorem tapScriptSpend_commitCheck {xk : XOnlyPublicKey} (h : tapScriptSpend L xk W = .error x)
    (hx : CommitCheck x) : x = .controlBlockVerificationError ∧ ∃ W' t cb m,
      W = W' ++ [t, .push cb] ∧ L.controlBlockParses cb = true ∧
      scriptFromStackElem L.parseInsaneTap L.typeCheckTap t = .ok m ∧
      L.verifyTaprootCommitment cb xk (encodeTap m) = false := by
  unfold tapScriptSpend at h
  split at h
  · cases h; exact False.elim hx
  rename_i c W1 hpop1
  obtain h | ⟨cb, hcb, h⟩ := bind_eq_error.mp h
  · cases c <;> cases h <;> exact False.elim hx
  split at h
  · cases h; exact False.elim hx
  rename_i t W' hpop2
  split_ifs at h with hparse
  · cases h; exact False.elim hx
  obtain h | ⟨m, hm, h⟩ := bind_eq_error.mp h
  · exact absurd h (scriptFromStackElem_ne_error x hx.ne_miniscript _ _ t)
  split_ifs at h with hver
  cases h
  refine ⟨rfl, W', t, cb, m, ?_, by simpa using hparse, hm, by simpa using hver⟩
  rw [pop_eq_some.mp hpop1, pop_eq_some.mp hpop2, Element.asPush_eq_ok.mp hcb]
  simp

theorem commitRefusal_of_fromV1P2tr (ht : template spk = .v1P2tr)
    (h : fromV1P2tr L spk S W = .error x) (hx : CommitCheck x) : CommitRefusal L spk S W x := by
  unfold fromV1P2tr at h
  split_ifs at h with hS hann
  · cases h; exact False.elim hx
  · obtain h | ⟨_, -, h⟩ := bind_eq_error.mp h
    · obtain ⟨-, rfl⟩ := okOr_eq_error.mp h; exact False.elim hx
    · cases h; exact False.elim hx
  obtain h | ⟨xk, hk, h⟩ := bind_eq_error.mp h
  · obtain ⟨-, rfl⟩ := okOr_eq_error.mp h; exact False.elim hx
  split at h
  · cases h; exact False.elim hx
  · cases h
  obtain ⟨rfl, W', t, cb, m, rfl, hcb, hm, hv⟩ := tapScriptSpend_commitCheck L h hx
  rw [show S = [] by simpa using hS]
  refine .tr ht (okOr_eq_ok.mp hk) (fun ha => hann ?_) hcb hm hv
  rw [show W' ++ [t, .push cb] = (W' ++ [t]) ++ [.push cb] by simp, topIsAnnex_concat_push, ha]
  simp

theorem commitRefusal_of_shWpkh {slice : Bytes} (ht : template spk = .p2sh)
    (hspk : spk = newP2sh (L.hash160 slice)) (hw : isWpkhRedeem slice = true)
    (h : shWpkh L slice S W = .error x) (hx : CommitCheck x) :
    CommitRefusal L spk (S ++ [.push slice]) W x := by
  unfold shWpkh at h
  split at h
  · rename_i e W' hpop
    split_ifs at h with hS
    · cases h; exact False.elim hx
    obtain h | ⟨pk, hpk, h⟩ := bind_eq_error.mp h
    · exact absurd h (pkFromStackElem_ne_error x hx.ne_key e true)
    split_ifs at h with hsl
    cases h
    obtain ⟨rfl, hc⟩ := pkFromStackElem_ok hpk
    rw [pop_eq_some.mp hpop, show S = [] by simpa using hS]
    exact .shWpkh ht hspk hw (hc rfl) hsl
  · cases h; exact False.elim hx

theorem commitRefusal_of_shWsh {slice : Bytes} (ht : template spk = .p2sh)
    (hspk : spk = newP2sh (L.hash160 slice)) (hw : isWpkhRedeem slice = false)
    (hs : isWshRedeem slice = true) (h : shWsh L slice S W = .error x) (hx : CommitCheck x) :
    CommitRefusal L spk (S ++ [.push slice]) W x := by
  unfold shWsh at h
  split at h
  · rename_i e W' hpop
    split_ifs at h with hS
    · cases h; exact False.elim hx
    obtain h | ⟨m, hm, h⟩ := bind_eq_error.mp h
    · exact absurd h (scriptFromStackElem_ne_error x hx.ne_miniscript _ _ e)
    dsimp only at h
    split_ifs at h with hsl
    cases h
    rw [pop_eq_some.mp hpop, show S = [] by simpa using hS]
    exact .shWsh ht hspk hw hs hm hsl
  · cases h; exact False.elim hx

theorem commitRefusal_of_legacyP2sh {e : Element} (ht : template spk = .p2sh)
    (hpush : ∀ slice, e = .push slice → spk = newP2sh (L.hash160 slice) ∧
      isWpkhRedeem slice = false ∧ isWshRedeem slice = false)
    (h : legacyP2sh L spk e S W = .error x) (hx : CommitCheck x) :
    CommitRefusal L spk (S ++ [e]) W x := by
  unfold legacyP2sh at h
  obtain h | ⟨m, hm, h⟩ := bind_eq_error.mp h
  · exact absurd h (scriptFromStackElem_ne_error x hx.ne_miniscript _ _ e)
  dsimp only at h
  split_ifs at h with hW hspk
  · cases h
    rw [show W = [] by simpa using hW]
    exact .sh ht hpush hm hspk
  · cases h; exact False.elim hx

theorem commitRefusal_of_fromP2sh (ht : template spk = .p2sh)
    (h : fromP2sh L spk S W = .error x) (hx : CommitCheck x) : CommitRefusal L spk S W x := by
  unfold fromP2sh at h
  split at h
  · rename_i e S' hpop
    rw [pop_eq_some.mp hpop]
    cases e with
    | push slice =>
      simp only at h
      split_ifs at h with hspk hw hs
      · cases h
        exact .shPush ht hspk
      · exact commitRefusal_of_shWpkh L ht (not_not.mp hspk) hw h hx
      · exact commitRefusal_of_shWsh L ht (not_not.mp hspk) (by simpa using hw) hs h hx
      · exact commitRefusal_of_legacyP2sh L ht (by simp_all) h hx
    | satisfied | dissatisfied => exact commitRefusal_of_legacyP2sh L ht (by simp) h hx
  · cases h; exact False.elim hx

theorem fromBare_ne_commitCheck (hx : CommitCheck x) : fromBare L spk S W ≠ .error x := by
  unfold fromBare
  split_ifs
  · cases L.parseInsane .bareCtx spk with
    | error err => simpa [Except.mapError, bind, Except.bind] using Ne.symm (hx.ne_miniscript err)
    | ok m => simp [Except.mapError, bind, Except.bind]
  · rintro ⟨⟩
    exact hx

/-- Each rule of `CommitRefusal` is a run of its section that ends in the rule's error. -/
theorem fromStacks_of_commitRefusal (h : CommitRefusal L spk S W x) : fromStacks L spk S W = .error x := by
  rw [fromStacks_eq_fromTemplate]
  cases h with
  | p2pkh ht hspk => simp [ht, fromTemplate, fromP2pkh, pkFromStackElem_push_bytes, hspk]
  | v0P2wpkh ht hc hspk =>
    simp [ht, fromTemplate, fromV0P2wpkh, pkFromStackElem_push_bytes _ _ fun _ => hc, hspk]
  | v0P2wsh ht hcov hm hspk => simp [ht, fromTemplate, fromV0P2wsh, hcov, hm, hspk]
  | @tr W t cb _ _ ht hk hann hcb hm hv =>
    have hnot : topIsAnnex (W ++ [t, .push cb]) = false := by
      rw [show W ++ [t, .push cb] = (W ++ [t]) ++ [.push cb] by simp, topIsAnnex_concat_push]
      simpa using hann
    simp [ht, fromTemplate, fromV1P2tr, hk, Option.okOr, hnot, tapScriptSpend, pop_concat_pair,
      Element.asPush, hcb, hm, hv]
  | shPush ht hspk => simp [ht, fromTemplate, fromP2sh, hspk]
  | shWpkh ht hspk hw hc hsl =>
    subst hspk
    simp [ht, fromTemplate, fromP2sh, hw, shWpkh, pop_singleton,
      pkFromStackElem_push_bytes _ _ fun _ => hc, hsl]
  | shWsh ht hspk hw hs hm hsl =>
    subst hspk
    simp [ht, fromTemplate, fromP2sh, hw, hs, shWsh, pop_singleton, hm, hsl]
  | @sh S e m ht hpush hm hspk =>
    simp only [ht, fromTemplate, fromP2sh, pop_concat]
    have hl : legacyP2sh L spk e S [] = .error .incorrectScriptHash := by
      simp [legacyP2sh, hm, hspk]
    split
    · rename_i slice
      obtain ⟨hs, hw, hw'⟩ := hpush slice rfl
      simpa [hs, hw, hw'] using hl
    · exact hl

theorem CommitRefusal.commitCheck (h : CommitRefusal L spk S W x) : CommitCheck x := by
  cases h <;> trivial

/-! ## 3. The commitment errors of `from_txdata` -/

/-- **The commitment errors are returned exactly on `CommitRefusal`**: a section returns one of
    `IncorrectPubkeyHash`, `IncorrectWPubkeyHash`, `IncorrectScriptHash`, `IncorrectWScriptHash`
    and `ControlBlockVerificationError` exactly when a key or script it read from a stack of the
    right shape parses and the output, or the nested redeem script, does not commit to it.
    P2PK and bare outputs, which reveal nothing, never return one. -/
theorem fromStacks_commitRefusal (spk : Bytes) (S W : Stack) (x : Error) :
    fromStacks L spk S W = .error x ∧ CommitCheck x ↔ CommitRefusal L spk S W x := by
  refine ⟨fun ⟨h, hx⟩ => ?_, fun h => ⟨fromStacks_of_commitRefusal L h, h.commitCheck⟩⟩
  rw [fromStacks_eq_fromTemplate] at h
  cases ht : template spk <;> rw [ht] at h
  · exact absurd h (fromP2pk_ne_commitCheck hx)
  · exact commitRefusal_of_fromP2pkh L ht h hx
  · exact commitRefusal_of_fromV0P2wpkh L ht h hx
  · exact commitRefusal_of_fromV0P2wsh L ht h hx
  · exact commitRefusal_of_fromV1P2tr L ht h hx
  · exact commitRefusal_of_fromP2sh L ht h hx
  · exact absurd h (fromBare_ne_commitCheck L hx)

set_option maxRecDepth 2000 in
/-- The same key, not the one hashed, refused under a P2SH-wrapped P2WPKH output and under a
    native one: the wrapped spend names the script hash. -/
example :
    fromStacks Library.sample (newP2sh (Library.sample.hash160 (newV0Wpkh (List.replicate 20 0))))
        [.push (newV0Wpkh (List.replicate 20 0))] [.push PublicKey.sample.bytes] =
      .error .incorrectWScriptHash ∧
    fromStacks Library.sample (newV0Wpkh (List.replicate 20 0)) [] [.push PublicKey.sample.bytes] =
      .error .incorrectWPubkeyHash := ⟨rfl, rfl⟩

/-! ## 4. The taproot annex -/

theorem fromV1P2tr_annex :
    fromV1P2tr L spk S W = .error .tapAnnexUnsupported ↔ S = [] ∧
      (XOnlyPublicKey.fromSlice (spk.drop 2)).isSome ∧ topIsAnnex W = true ∧ 2 ≤ W.length := by
  cases S with
  | cons => simp [fromV1P2tr]
  | nil =>
    unfold fromV1P2tr
    cases XOnlyPublicKey.fromSlice (spk.drop 2) with
    | none => simp [Option.okOr, error_bind]
    | some xk =>
      simp only [List.isEmpty_nil, Bool.not_true, Bool.false_eq_true, if_false, Option.okOr,
        ok_bind, Option.isSome_some, true_and]
      split_ifs with ha
      · simpa using ha
      · refine iff_of_false ?_ (by simpa using ha)
        split
        · simp
        · simp
        · exact tapScriptSpend_ne_error L xk W _ (by simp [TapScriptError])

theorem fromP2pk_ne_annex : fromP2pk spk S W ≠ .error .tapAnnexUnsupported := by
  unfold fromP2pk
  split_ifs <;> simp [bind_eq_error, pkFromSlice_ne_error .tapAnnexUnsupported (by simp)]

theorem fromP2pkh_ne_annex : fromP2pkh L spk S W ≠ .error .tapAnnexUnsupported := by
  unfold fromP2pkh
  split_ifs
  · simp
  · split <;> simp [bind_eq_error, ite_eq_iff, pkFromStackElem_ne_error .tapAnnexUnsupported (by simp)]

theorem fromV0P2wpkh_ne_annex : fromV0P2wpkh L spk S W ≠ .error .tapAnnexUnsupported := by
  unfold fromV0P2wpkh
  split_ifs
  · simp
  · split <;> simp [bind_eq_error, ite_eq_iff, pkFromStackElem_ne_error .tapAnnexUnsupported (by simp)]

theorem fromV0P2wsh_ne_annex : fromV0P2wsh L spk S W ≠ .error .tapAnnexUnsupported := by
  unfold fromV0P2wsh
  split_ifs
  · simp
  · split
    · split <;> simp [bind_eq_error, ite_eq_iff,
        scriptFromStackElem_ne_error .tapAnnexUnsupported (by simp)]
    · simp

theorem legacyP2sh_ne_annex (e : Element) : legacyP2sh L spk e S W ≠ .error .tapAnnexUnsupported := by
  unfold legacyP2sh
  simp [bind_eq_error, ite_eq_iff, scriptFromStackElem_ne_error .tapAnnexUnsupported (by simp)]

theorem fromP2sh_ne_annex : fromP2sh L spk S W ≠ .error .tapAnnexUnsupported := by
  unfold fromP2sh
  split
  · split
    · split_ifs
      · simp
      · unfold shWpkh
        split
        · split_ifs <;> simp [bind_eq_error, ite_eq_iff,
            pkFromStackElem_ne_error .tapAnnexUnsupported (by simp)]
        · simp
      · unfold shWsh
        split
        · split_ifs <;> simp [bind_eq_error, ite_eq_iff,
            scriptFromStackElem_ne_error .tapAnnexUnsupported (by simp)]
        · simp
      · exact legacyP2sh_ne_annex L _
    · exact legacyP2sh_ne_annex L _
  · simp

theorem fromBare_ne_annex : fromBare L spk S W ≠ .error .tapAnnexUnsupported := by
  unfold fromBare
  split_ifs
  · cases L.parseInsane .bareCtx spk <;> simp [Except.mapError, bind, Except.bind]
  · simp

/-- **An annex is refused exactly on a taproot spend that has one**: `TapAnnexUnsupported` is
    returned exactly under a taproot output whose key parses, with an empty scriptSig and at
    least two witness elements, the top one beginning with the annex byte `0x50`. A key spend,
    whose one witness element may begin with that byte, is not refused, and no other section
    returns the error. -/
theorem fromStacks_annex (spk : Bytes) (S W : Stack) :
    fromStacks L spk S W = .error .tapAnnexUnsupported ↔ template spk = .v1P2tr ∧ S = [] ∧
      (XOnlyPublicKey.fromSlice (spk.drop 2)).isSome ∧ topIsAnnex W = true ∧ 2 ≤ W.length := by
  rw [fromStacks_eq_fromTemplate]
  cases template spk with
  | p2pk => simpa [fromTemplate] using fromP2pk_ne_annex
  | p2pkh => simpa [fromTemplate] using fromP2pkh_ne_annex L
  | v0P2wpkh => simpa [fromTemplate] using fromV0P2wpkh_ne_annex L
  | v0P2wsh => simpa [fromTemplate] using fromV0P2wsh_ne_annex L
  | v1P2tr => simpa [fromTemplate] using fromV1P2tr_annex L
  | p2sh => simpa [fromTemplate] using fromP2sh_ne_annex L
  | bare => simpa [fromTemplate] using fromBare_ne_annex L

set_option maxRecDepth 2000 in
/-- A witness element beginning with `0x50` is a key spend's signature when it is alone, and an
    annex when another element lies below it. -/
example :
    fromStacks Library.sample ([OP_PUSHNUM_1, OP_PUSHBYTES_32] ++ List.replicate 32 7) []
        [.push [0x50, 1]] =
      .ok (.publicKey (.xOnlyPublicKey ⟨List.replicate 32 7, rfl, by decide⟩) .tr, [.push [0x50, 1]], none) ∧
    fromStacks Library.sample ([OP_PUSHNUM_1, OP_PUSHBYTES_32] ++ List.replicate 32 7) []
        [.push [1, 2], .push [0x50, 1]] = .error .tapAnnexUnsupported := ⟨rfl, rfl⟩

end Sections

end Interpreter

end ElementsMiniscript
