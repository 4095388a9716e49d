/-
  File:      ElementsMiniscript/Interpreter/Accepts.lean
  Subject:   What `from_txdata` accepts, as a relation over the output template, the revealed
             stack elements and the result, without the order in which each section checks;
             which stack its shape errors blame, what its script code is bound to, and where
             it refuses an uncompressed key.

  * `Template`, `template` -- the output template that the first shape test that holds
    selects; `fromStacks_eq_fromTemplate` -- the dispatch runs that template's section;
  * `Accepts` -- one rule per way a section succeeds;
  * **`fromStacks_eq_ok_iff`** -- the sections succeed exactly on the spends `Accepts` admits,
    with the result it names: the relation is neither weaker nor stronger than the code;
  * `BlamesWitness`, `BlamesScriptSig`, **`fromStacks_blame`** -- `NonEmptyWitness` and
    `NonEmptyScriptSig` are returned exactly where a section that wants that stack empty finds
    it populated once its earlier checks have passed; neither ever names an empty stack;
  * `CodeBound`, **`fromStacks_scriptCode`** -- the script code returned is bound to the output
    by the output's own hash or taproot commitment, except the covenant's fixed script code;
  * `RefusesUncompressed`, **`fromStacks_uncompressed`** -- `UncompressedPubkey` is returned
    exactly on the segwit v0 key-hash spends whose top witness element is an uncompressed key.
-/
import ElementsMiniscript.Interpreter.Safety

namespace ElementsMiniscript

namespace Interpreter

/-! ## 1. The template of an output script -/

/-- The output templates `from_txdata` tells apart, in the order it tests them. -/
inductive Template where
  | p2pk
  | p2pkh
  | v0P2wpkh
  | v0P2wsh
  | v1P2tr
  | p2sh
  | bare
  deriving DecidableEq, Repr

/-- The template of the first shape test that holds. -/
def template (spk : Bytes) : Template :=
  if isP2pk spk then .p2pk else if isP2pkh spk then .p2pkh
  else if isV0P2wpkh spk then .v0P2wpkh else if isV0P2wsh spk then .v0P2wsh
  else if isV1P2tr spk then .v1P2tr else if isP2sh spk then .p2sh else .bare

/-- `TAPROOT_ANNEX_PREFIX` is read off the top witness element only. -/
theorem topIsAnnex_concat_push (W : Stack) (cb : Bytes) :
    topIsAnnex (W ++ [.push cb]) = (cb.head? == some TAPROOT_ANNEX_PREFIX) := by
  cases cb <;> simp [topIsAnnex]

theorem isWpkhRedeem_newV0Wpkh {h : Bytes} (hl : h.length = 20) : isWpkhRedeem (newV0Wpkh h) = true := by
  simp [isWpkhRedeem, newV0Wpkh, hl, OP_0, OP_PUSHBYTES_20]

theorem isWpkhRedeem_newV0Wsh {h : Bytes} (hl : h.length = 32) : isWpkhRedeem (newV0Wsh h) = false := by
  simp [isWpkhRedeem, newV0Wsh, hl]

theorem isWshRedeem_newV0Wsh {h : Bytes} (hl : h.length = 32) : isWshRedeem (newV0Wsh h) = true := by
  simp [isWshRedeem, newV0Wsh, hl, OP_0, OP_PUSHBYTES_32]

theorem pkFromSlice_false_eq_ok {slice : Bytes} {pk : PublicKey} :
    pkFromSlice slice false = .ok pk ↔ PublicKey.fromSlice slice = some pk := by
  unfold pkFromSlice
  cases PublicKey.fromSlice slice <;> simp

theorem pkFromStackElem_push_bytes (pk : PublicKey) (rc : Bool) (hc : rc = true → pk.compressed = true) :
    pkFromStackElem (.push pk.bytes) rc = .ok pk := by
  cases rc <;> simp_all [pkFromStackElem, pkFromSlice, PublicKey.fromSlice_toBytes]

theorem pop_singleton (e : Element) : pop [e] = some (e, []) := pop_concat [] e

theorem pop_concat_pair (s : Stack) (a b : Element) : pop (s ++ [a, b]) = some (b, s ++ [a]) :=
  pop_eq_some.mpr (by simp)

section Sections

variable (L : Library)

/-- The section of `from_txdata` that handles a template. -/
def fromTemplate : Template → Bytes → Stack → Stack → Except Error Classified
  | .p2pk => fromP2pk
  | .p2pkh => fromP2pkh L
  | .v0P2wpkh => fromV0P2wpkh L
  | .v0P2wsh => fromV0P2wsh L
  | .v1P2tr => fromV1P2tr L
  | .p2sh => fromP2sh L
  | .bare => fromBare L

theorem fromStacks_eq_fromTemplate (spk : Bytes) (S W : Stack) :
    fromStacks L spk S W = fromTemplate L (template spk) spk S W := by
  unfold fromStacks template
  cases isP2pk spk; case true => rfl
  cases isP2pkh spk; case true => rfl
  cases isV0P2wpkh spk; case true => rfl
  cases isV0P2wsh spk; case true => rfl
  cases isV1P2tr spk; case true => rfl
  cases isP2sh spk <;> rfl

/-! ## 2. What the sections accept -/

/-- **What the sections of `from_txdata` accept**: one rule per way a section succeeds. The
    stacks are written as the elements the section takes; the premises are what it checked --
    the template, the revealed key or script against the output's hash, compression where a
    segwit spend asks for it, and for a taproot script spend a control block that parses, is
    no annex and commits to the script. A P2SH redeem script that is a push is hashed against
    the output before its shape is tested. -/
inductive Accepts : Bytes → Stack → Stack → Classified → Prop where
  | p2pk {spk : Bytes} {S : Stack} {pk : PublicKey} (ht : template spk = .p2pk)
      (hk : PublicKey.fromSlice ((spk.drop 1).dropLast) = some pk) :
      Accepts spk S [] (.publicKey (.fullkey pk) .pk, S, some spk)
  | p2pkh {spk : Bytes} {S : Stack} {pk : PublicKey} (ht : template spk = .p2pkh)
      (hspk : spk = newP2pkh (L.hash160 pk.bytes)) :
      Accepts spk (S ++ [.push pk.bytes]) [] (.publicKey (.fullkey pk) .pkh, S, some spk)
  | v0P2wpkh {spk : Bytes} {W : Stack} {pk : PublicKey} (ht : template spk = .v0P2wpkh)
      (hc : pk.compressed = true) (hspk : spk = newV0Wpkh (L.hash160 pk.bytes)) :
      Accepts spk [] (W ++ [.push pk.bytes])
        (.publicKey (.fullkey pk) .wpkh, W, some (newP2pkh (L.hash160 pk.bytes)))
  | v0P2wshCov {spk : Bytes} {W : Stack} {e : Element} {k : BitcoinKey}
      {ms : Miniscript BitcoinKey TypedHash160} (ht : template spk = .v0P2wsh)
      (hcov : covComponentsFromStackelem L e = some (k, ms)) :
      Accepts spk [] (W ++ [e]) (.covScript k ms, W, some CovenantDescriptor.covScriptCode)
  | v0P2wsh {spk : Bytes} {W : Stack} {e : Element} {m : Miniscript PublicKey Bytes}
      (ht : template spk = .v0P2wsh) (hcov : covComponentsFromStackelem L e = none)
      (hm : scriptFromStackElem (L.parseInsane .segwitv0) (L.typeCheck .segwitv0) e = .ok m)
      (hspk : spk = newV0Wsh (L.sha256 m.encodeFull)) :
      Accepts spk [] (W ++ [e]) (.script m.toNoChecksMs .wsh, W, some m.encodeFull)
  | v1P2trKey {spk : Bytes} {e : Element} {xk : XOnlyPublicKey} (ht : template spk = .v1P2tr)
      (hk : XOnlyPublicKey.fromSlice (spk.drop 2) = some xk) :
      Accepts spk [] [e] (.publicKey (.xOnlyPublicKey xk) .tr, [e], none)
  | v1P2trScript {spk : Bytes} {W : Stack} {t : Element} {cb : Bytes} {xk : XOnlyPublicKey}
      {m : Miniscript XOnlyPublicKey Bytes} (ht : template spk = .v1P2tr)
      (hk : XOnlyPublicKey.fromSlice (spk.drop 2) = some xk)
      (hann : cb.head? ≠ some TAPROOT_ANNEX_PREFIX) (hcb : L.controlBlockParses cb = true)
      (hm : scriptFromStackElem L.parseInsaneTap L.typeCheckTap t = .ok m)
      (hv : L.verifyTaprootCommitment cb xk (encodeTap m) = true) :
      Accepts spk [] (W ++ [t, .push cb]) (.script m.toNoChecksMsTap .tr, W, some (encodeTap m))
  | shWpkh {spk : Bytes} {W : Stack} {pk : PublicKey} (ht : template spk = .p2sh)
      (hc : pk.compressed = true)
      (hspk : spk = newP2sh (L.hash160 (newV0Wpkh (L.hash160 pk.bytes)))) :
      Accepts spk [.push (newV0Wpkh (L.hash160 pk.bytes))] (W ++ [.push pk.bytes])
        (.publicKey (.fullkey pk) .shWpkh, W, some (newP2pkh (L.hash160 pk.bytes)))
  | shWsh {spk : Bytes} {W : Stack} {e : Element} {m : Miniscript PublicKey Bytes}
      (ht : template spk = .p2sh)
      (hm : scriptFromStackElem (L.parseInsane .segwitv0) (L.typeCheck .segwitv0) e = .ok m)
      (hspk : spk = newP2sh (L.hash160 (newV0Wsh (L.sha256 m.encodeFull)))) :
      Accepts spk [.push (newV0Wsh (L.sha256 m.encodeFull))] (W ++ [e])
        (.script m.toNoChecksMs .shWsh, W, some m.encodeFull)
  | sh {spk : Bytes} {S : Stack} {e : Element} {m : Miniscript PublicKey Bytes}
      (ht : template spk = .p2sh)
      (hpush : ∀ slice, e = .push slice → spk = newP2sh (L.hash160 slice) ∧
        isWpkhRedeem slice = false ∧ isWshRedeem slice = false)
      (hm : scriptFromStackElem (L.parseInsane .legacy) (L.typeCheck .legacy) e = .ok m)
      (hspk : spk = newP2sh (L.hash160 m.encodeFull)) :
      Accepts spk (S ++ [e]) [] (.script m.toNoChecksMs .sh, S, some m.encodeFull)
  | bare {spk : Bytes} {S : Stack} {m : Miniscript PublicKey Bytes} (ht : template spk = .bare)
      (hm : L.parseInsane .bareCtx spk = .ok m) :
      Accepts spk S [] (.script m.toNoChecksMs .bare, S, some spk)

/-- A P2SH section that succeeds took one of the three nested paths. -/
theorem accepts_of_fromP2sh {spk : Bytes} {S W : Stack} {r : Classified}
    (ht : template spk = .p2sh) (h : fromP2sh L spk S W = .ok r) : Accepts L spk S W r := by
  unfold fromP2sh at h
  split at h
  · rename_i elem S' hpop
    obtain rfl := pop_eq_some.mp hpop
    have legacy (hpush : ∀ slice, elem = .push slice → spk = newP2sh (L.hash160 slice) ∧
        isWpkhRedeem slice = false ∧ isWshRedeem slice = false)
        (h : legacyP2sh L spk elem S' W = .ok r) : Accepts L spk (S' ++ [elem]) W r := by
      obtain ⟨rfl, m, hm, hspk, rfl⟩ := legacyP2sh_ok L h
      exact .sh ht hpush hm hspk
    cases elem with
    | push slice =>
      dsimp only at h
      split_ifs at h with hspk hw hs
      · obtain ⟨rfl, W', pk, rfl, hc, rfl, rfl⟩ := shWpkh_ok L h
        exact .shWpkh ht hc (not_not.mp hspk)
      · obtain ⟨rfl, W', e, m, rfl, hm, rfl, rfl⟩ := shWsh_ok L h
        exact .shWsh ht hm (not_not.mp hspk)
      · exact legacy (fun _ he => by
          cases he; exact ⟨not_not.mp hspk, by simpa using hw, by simpa using hs⟩) h
    | satisfied | dissatisfied => exact legacy (fun _ he => by cases he) h
  · cases h

theorem accepts_of_fromStacks {spk : Bytes} {S W : Stack} {r : Classified}
    (h : fromStacks L spk S W = .ok r) : Accepts L spk S W r := by
  rw [fromStacks_eq_fromTemplate] at h
  generalize ht : template spk = t at h
  cases t with
  | p2pk =>
    obtain ⟨rfl, pk, hpk, rfl⟩ := fromP2pk_ok h
    exact .p2pk ht (pkFromSlice_false_eq_ok.mp hpk)
  | p2pkh =>
    obtain ⟨rfl, S', pk, rfl, hspk, rfl⟩ := fromP2pkh_ok L h
    exact .p2pkh ht hspk
  | v0P2wpkh =>
    obtain ⟨rfl, W', pk, rfl, hc, hspk, rfl⟩ := fromV0P2wpkh_ok L h
    exact .v0P2wpkh ht hc hspk
  | v0P2wsh =>
    obtain ⟨rfl, W', e, rfl, ⟨k, ms, hcov, rfl⟩ | ⟨hcov, m, hm, hspk, rfl⟩⟩ := fromV0P2wsh_ok L h
    · exact .v0P2wshCov ht hcov
    · exact .v0P2wsh ht hcov hm hspk
  | v1P2tr =>
    obtain ⟨rfl, xk, hk, hann, ⟨hl, rfl⟩ | ⟨-, h⟩⟩ := fromV1P2tr_ok L h
    · obtain ⟨e, rfl⟩ := List.length_eq_one.mp hl
      exact .v1P2trKey ht hk
    · obtain ⟨W', t, cb, m, rfl, hcb, hm, hv, rfl⟩ := tapScriptSpend_ok L h
      refine .v1P2trScript ht hk (fun ha => hann ⟨?_, by simp⟩) hcb hm hv
      rw [show W' ++ [t, .push cb] = (W' ++ [t]) ++ [.push cb] by simp, topIsAnnex_concat_push, ha]
      rfl
  | p2sh => exact accepts_of_fromP2sh L ht h
  | bare =>
    obtain ⟨rfl, m, hm, rfl⟩ := fromBare_ok L h
    exact .bare ht hm

theorem fromStacks_of_accepts {spk : Bytes} {S W : Stack} {r : Classified}
    (h : Accepts L spk S W r) : fromStacks L spk S W = .ok r := by
  rw [fromStacks_eq_fromTemplate]
  cases h with
  | p2pk ht hk =>
    rw [ht]
    simp only [fromTemplate, fromP2pk, List.isEmpty_nil, Bool.not_true, Bool.false_eq_true,
      if_false, (pkFromSlice_false_eq_ok).mpr hk]
    rfl
  | p2pkh ht hspk =>
    subst hspk
    simp [ht, fromTemplate, fromP2pkh, pkFromStackElem_push_bytes]
  | v0P2wpkh ht hc hspk =>
    subst hspk
    simp [ht, fromTemplate, fromV0P2wpkh, pkFromStackElem_push_bytes _ _ fun _ => hc]
  | v0P2wshCov ht hcov => simp [ht, fromTemplate, fromV0P2wsh, hcov]
  | v0P2wsh ht hcov hm hspk =>
    subst hspk
    simp [ht, fromTemplate, fromV0P2wsh, hcov, hm]
  | v1P2trKey ht hk => simp [ht, fromTemplate, fromV1P2tr, hk, Option.okOr]
  | @v1P2trScript W t cb _ _ ht hk hann hcb hm hv =>
    have hnot : topIsAnnex (W ++ [t, .push cb]) = false := by
      rw [show W ++ [t, .push cb] = (W ++ [t]) ++ [.push cb] by simp, topIsAnnex_concat_push]
      simpa using hann
    simp [ht, fromTemplate, fromV1P2tr, hk, Option.okOr, hnot, tapScriptSpend, pop_concat_pair,
      Element.asPush, hcb, hm, hv]
  | shWpkh ht hc hspk =>
    subst hspk
    simp [ht, fromTemplate, fromP2sh, pop_singleton, isWpkhRedeem_newV0Wpkh (L.hash160_length _), shWpkh,
      pkFromStackElem_push_bytes _ _ fun _ => hc]
  | shWsh ht hm hspk =>
    subst hspk
    simp [ht, fromTemplate, fromP2sh, pop_singleton, isWpkhRedeem_newV0Wsh (L.sha256_length _),
      isWshRedeem_newV0Wsh (L.sha256_length _), shWsh, hm]
  | @sh S e m ht hpush hm hspk =>
    simp only [ht, fromTemplate, fromP2sh, pop_concat]
    have hl : legacyP2sh L spk e S [] = .ok (.script m.toNoChecksMs .sh, S, some m.encodeFull) := by
      simp [legacyP2sh, hm, ← hspk]
    split
    · rename_i slice
      obtain ⟨hs, hw, hw'⟩ := hpush slice rfl
      simpa [hs, hw, hw'] using hl
    · exact hl
  | bare ht hm => simp [ht, fromTemplate, fromBare, hm, Except.mapError]

/-- **The sections of `from_txdata` succeed exactly on the spends `Accepts` admits**, with the
    result it names: every accepted spend is one of its rules, and every rule is accepted. -/
theorem fromStacks_eq_ok_iff (spk : Bytes) (S W : Stack) (r : Classified) :
    fromStacks L spk S W = .ok r ↔ Accepts L spk S W r :=
  ⟨accepts_of_fromStacks L, fromStacks_of_accepts L⟩

/-! ## 3. Which stack the shape errors blame -/

theorem pkFromSlice_ne_error (x : Error) (hx : x ≠ .uncompressedPubkey ∧ x ≠ .pubkeyParseError)
    (slice : Bytes) (rc : Bool) : pkFromSlice slice rc ≠ .error x := by
  intro h
  unfold pkFromSlice at h
  split at h
  · split_ifs at h
    exact hx.1 (Except.error.inj h).symm
  · exact hx.2 (Except.error.inj h).symm

theorem pkFromStackElem_ne_error (x : Error) (hx : x ≠ .uncompressedPubkey ∧ x ≠ .pubkeyParseError)
    (e : Element) (rc : Bool) : pkFromStackElem e rc ≠ .error x := by
  cases e with
  | push slice => exact pkFromSlice_ne_error x hx slice rc
  | satisfied | dissatisfied => exact fun h => hx.2 (Except.error.inj h).symm

theorem scriptFromStackElem_ne_error {Pk : Type} (x : Error) (hx : ∀ err, x ≠ .miniscript err)
    (parse : Bytes → Except ElementsMiniscript.Error (Miniscript Pk Bytes))
    (tc : Terminal Pk Bytes → Except ElementsMiniscript.Error (Ty × ExtData)) (e : Element) :
    scriptFromStackElem parse tc e ≠ .error x := by
  have h {α : Type} (y : Except ElementsMiniscript.Error α) : y.mapError Error.miniscript ≠ .error x := by
    cases y <;> simp [Except.mapError, Ne.symm (hx _)]
  cases e <;> exact h _

/-- Where a section finds the witness populated although it wants it empty, once its earlier
    checks have passed: under a P2PK, P2PKH or bare output, and under a P2SH output whose
    redeem script took the legacy path and parsed. -/
def BlamesWitness (spk : Bytes) (S W : Stack) : Prop :=
  W ≠ [] ∧ match template spk with
    | .p2pk | .p2pkh | .bare => True
    | .p2sh => ∃ S' e m, S = S' ++ [e] ∧
        (∀ slice, e = .push slice → spk = newP2sh (L.hash160 slice) ∧
          isWpkhRedeem slice = false ∧ isWshRedeem slice = false) ∧
        scriptFromStackElem (L.parseInsane .legacy) (L.typeCheck .legacy) e = .ok m
    | .v0P2wpkh | .v0P2wsh | .v1P2tr => False

/-- Where a section finds the scriptSig populated although it wants it empty: under a segwit
    or taproot output, and under a P2SH output whose redeem script is a nested segwit one and
    which left more scriptSig elements below it and a witness to take from. -/
def BlamesScriptSig (spk : Bytes) (S W : Stack) : Prop :=
  S ≠ [] ∧ match template spk with
    | .v0P2wpkh | .v0P2wsh | .v1P2tr => True
    | .p2sh => W ≠ [] ∧ ∃ S' slice, S = S' ++ [.push slice] ∧ S' ≠ [] ∧
        spk = newP2sh (L.hash160 slice) ∧ (isWpkhRedeem slice || isWshRedeem slice) = true
    | .p2pk | .p2pkh | .bare => False

/-- The errors the taproot script path returns itself. -/
def TapScriptError : Error → Prop
  | .unexpectedStackEnd | .expectedPush | .controlBlockParse | .controlBlockVerificationError
  | .miniscript _ => True
  | _ => False

theorem tapScriptSpend_ne_error (xk : XOnlyPublicKey) (W : Stack) (x : Error)
    (hx : ¬TapScriptError x) : tapScriptSpend L xk W ≠ .error x := by
  have hs := scriptFromStackElem_ne_error x (fun err he => hx (he ▸ trivial))
    L.parseInsaneTap L.typeCheckTap
  unfold tapScriptSpend
  split
  · exact fun h => hx (by cases h; trivial)
  · rw [Ne, bind_eq_error]
    rintro (h | ⟨cb, -, h⟩)
    · rename_i c _ _
      cases c <;> simp only [Element.asPush, Except.error.injEq, reduceCtorEq] at h
      all_goals exact hx (h ▸ trivial)
    · split at h
      · exact hx (by cases h; trivial)
      · split_ifs at h
        · exact hx (by cases h; trivial)
        · obtain ⟨-, -, -, rfl⟩ : ∃ m, _ ∧ _ ∧ Error.controlBlockVerificationError = x := by
            simpa [bind_eq_error, ite_eq_iff, hs] using h
          exact hx trivial

theorem fromP2pk_blame (spk : Bytes) (S W : Stack) :
    (fromP2pk spk S W = .error .nonEmptyWitness ↔ W ≠ []) ∧
      fromP2pk spk S W ≠ .error .nonEmptyScriptSig := by
  unfold fromP2pk
  cases W with
  | cons => simp
  | nil =>
    simp [bind_eq_error, pkFromSlice_ne_error .nonEmptyWitness (by decide),
      pkFromSlice_ne_error .nonEmptyScriptSig (by decide)]

theorem fromP2pkh_blame (spk : Bytes) (S W : Stack) :
    (fromP2pkh L spk S W = .error .nonEmptyWitness ↔ W ≠ []) ∧
      fromP2pkh L spk S W ≠ .error .nonEmptyScriptSig := by
  unfold fromP2pkh
  cases W with
  | cons => simp
  | nil =>
    rcases S.eq_nil_or_concat with rfl | ⟨S', e, rfl⟩
    · simp [pop]
    · simp [bind_eq_error, ite_eq_iff, pkFromStackElem_ne_error .nonEmptyWitness (by decide),
        pkFromStackElem_ne_error .nonEmptyScriptSig (by decide)]

theorem fromV0P2wpkh_blame (spk : Bytes) (S W : Stack) :
    fromV0P2wpkh L spk S W ≠ .error .nonEmptyWitness ∧
      (fromV0P2wpkh L spk S W = .error .nonEmptyScriptSig ↔ S ≠ []) := by
  unfold fromV0P2wpkh
  cases S with
  | cons => simp
  | nil =>
    rcases W.eq_nil_or_concat with rfl | ⟨W', e, rfl⟩
    · simp [pop]
    · simp [bind_eq_error, ite_eq_iff, pkFromStackElem_ne_error .nonEmptyWitness (by decide),
        pkFromStackElem_ne_error .nonEmptyScriptSig (by decide)]

theorem fromV0P2wsh_blame (spk : Bytes) (S W : Stack) :
    fromV0P2wsh L spk S W ≠ .error .nonEmptyWitness ∧
      (fromV0P2wsh L spk S W = .error .nonEmptyScriptSig ↔ S ≠ []) := by
  unfold fromV0P2wsh
  cases S with
  | cons => simp
  | nil =>
    rcases W.eq_nil_or_concat with rfl | ⟨W', e, rfl⟩
    · simp [pop]
    · simp only [List.concat_eq_append, pop_concat]
      cases covComponentsFromStackelem L e <;>
        simp [bind_eq_error, ite_eq_iff, scriptFromStackElem_ne_error .nonEmptyWitness (by simp),
          scriptFromStackElem_ne_error .nonEmptyScriptSig (by simp)]

theorem fromV1P2tr_nil_ne_error (spk : Bytes) (W : Stack) (x : Error)
    (hx : x ≠ .xOnlyPublicKeyParseError ∧ x ≠ .tapAnnexUnsupported ∧ ¬TapScriptError x) :
    fromV1P2tr L spk [] W ≠ .error x := by
  obtain ⟨hk, ha, ht⟩ := hx
  unfold fromV1P2tr
  simp only [List.isEmpty_nil, Bool.not_true, Bool.false_eq_true, if_false]
  rw [Ne, bind_eq_error]
  rintro (h | ⟨xk, -, h⟩)
  · cases hxk : XOnlyPublicKey.fromSlice (spk.drop 2) <;> simp only [hxk, Option.okOr] at h
    · exact hk (Except.error.inj h).symm
    · cases h
  · split_ifs at h
    · exact ha (Except.error.inj h).symm
    · split at h
      · exact ht (by cases h; trivial)
      · cases h
      · exact tapScriptSpend_ne_error L xk W x ht h

theorem fromV1P2tr_blame (spk : Bytes) (S W : Stack) :
    fromV1P2tr L spk S W ≠ .error .nonEmptyWitness ∧
      (fromV1P2tr L spk S W = .error .nonEmptyScriptSig ↔ S ≠ []) := by
  cases S with
  | cons => simp [fromV1P2tr]
  | nil =>
    exact ⟨fromV1P2tr_nil_ne_error L spk W _ (by simp [TapScriptError]),
      iff_of_false (fromV1P2tr_nil_ne_error L spk W _ (by simp [TapScriptError])) (by simp)⟩

theorem legacyP2sh_blame (spk : Bytes) (e : Element) (S W : Stack) :
    (legacyP2sh L spk e S W = .error .nonEmptyWitness ↔
        W ≠ [] ∧ ∃ m, scriptFromStackElem (L.parseInsane .legacy) (L.typeCheck .legacy) e = .ok m) ∧
      legacyP2sh L spk e S W ≠ .error .nonEmptyScriptSig := by
  unfold legacyP2sh
  cases h : scriptFromStackElem (L.parseInsane .legacy) (L.typeCheck .legacy) e with
  | error err =>
    have h1 := scriptFromStackElem_ne_error .nonEmptyWitness (by simp) (L.parseInsane .legacy)
      (L.typeCheck .legacy) e
    have h2 := scriptFromStackElem_ne_error .nonEmptyScriptSig (by simp) (L.parseInsane .legacy)
      (L.typeCheck .legacy) e
    simp only [bind, Except.bind, Except.error.injEq, h, ne_eq, reduceCtorEq, and_false,
      exists_false, iff_false]
    exact ⟨fun he => h1 (he ▸ h), fun he => h2 (he ▸ h)⟩
  | ok m => cases W <;> simp [ite_eq_iff]

theorem shWpkh_blame (slice : Bytes) (S W : Stack) :
    shWpkh L slice S W ≠ .error .nonEmptyWitness ∧
      (shWpkh L slice S W = .error .nonEmptyScriptSig ↔ W ≠ [] ∧ S ≠ []) := by
  unfold shWpkh
  rcases W.eq_nil_or_concat with rfl | ⟨W', e, rfl⟩
  · simp [pop]
  · cases S <;> simp [bind_eq_error, ite_eq_iff, pkFromStackElem_ne_error .nonEmptyWitness (by decide),
      pkFromStackElem_ne_error .nonEmptyScriptSig (by decide)]

theorem shWsh_blame (slice : Bytes) (S W : Stack) :
    shWsh L slice S W ≠ .error .nonEmptyWitness ∧
      (shWsh L slice S W = .error .nonEmptyScriptSig ↔ W ≠ [] ∧ S ≠ []) := by
  unfold shWsh
  rcases W.eq_nil_or_concat with rfl | ⟨W', e, rfl⟩
  · simp [pop]
  · cases S <;> simp [bind_eq_error, ite_eq_iff,
      scriptFromStackElem_ne_error .nonEmptyWitness (by simp),
      scriptFromStackElem_ne_error .nonEmptyScriptSig (by simp)]

theorem fromP2sh_blame (spk : Bytes) (S W : Stack) :
    (fromP2sh L spk S W = .error .nonEmptyWitness ↔
      W ≠ [] ∧ ∃ S' e m, S = S' ++ [e] ∧
        (∀ slice, e = .push slice → spk = newP2sh (L.hash160 slice) ∧
          isWpkhRedeem slice = false ∧ isWshRedeem slice = false) ∧
        scriptFromStackElem (L.parseInsane .legacy) (L.typeCheck .legacy) e = .ok m) ∧
    (fromP2sh L spk S W = .error .nonEmptyScriptSig ↔
      S ≠ [] ∧ W ≠ [] ∧ ∃ S' slice, S = S' ++ [.push slice] ∧ S' ≠ [] ∧
        spk = newP2sh (L.hash160 slice) ∧ (isWpkhRedeem slice || isWshRedeem slice) = true) := by
  unfold fromP2sh
  rcases S.eq_nil_or_concat with rfl | ⟨S', e, rfl⟩
  · simp only [pop, List.reverse_nil, Except.error.injEq, reduceCtorEq, ne_eq, List.nil_eq,
      List.append_eq_nil, List.cons_ne_self, and_false, false_and, exists_false, exists_const,
      not_true_eq_false, and_self]
  simp only [List.concat_eq_append, pop_concat, append_singleton_inj, and_assoc, exists_and_left,
    exists_eq_left', ne_eq, List.append_eq_nil, List.cons_ne_nil, and_false, not_false_eq_true,
    true_and]
  cases e with
  | push slice =>
    simp only [Element.push.injEq, exists_eq_left', forall_eq']
    split_ifs with hspk hw hs
    · obtain ⟨h1, h2⟩ := shWpkh_blame L slice S' W
      simp [h1, h2, hspk, hw]
    · obtain ⟨h1, h2⟩ := shWsh_blame L slice S' W
      simp [h1, h2, hspk, hw, hs]
    · subst hspk
      simpa [hw, hs] using legacyP2sh_blame L _ (.push slice) S' W
    · simp [hspk]
  | satisfied | dissatisfied => simpa using legacyP2sh_blame L spk _ S' W

theorem fromBare_blame (spk : Bytes) (S W : Stack) :
    (fromBare L spk S W = .error .nonEmptyWitness ↔ W ≠ []) ∧
      fromBare L spk S W ≠ .error .nonEmptyScriptSig := by
  unfold fromBare
  cases W with
  | cons => simp
  | nil => cases L.parseInsane .bareCtx spk <;> simp [Except.mapError, bind, Except.bind]

/-- **The stack-shape errors blame a populated stack, exactly where a section wants it empty**:
    `NonEmptyWitness` is returned exactly on `BlamesWitness`, `NonEmptyScriptSig` exactly on
    `BlamesScriptSig`, so neither names a stack that holds nothing, and neither is returned once
    a section has failed an earlier check. -/
theorem fromStacks_blame (spk : Bytes) (S W : Stack) :
    (fromStacks L spk S W = .error .nonEmptyWitness ↔ BlamesWitness L spk S W) ∧
      (fromStacks L spk S W = .error .nonEmptyScriptSig ↔ BlamesScriptSig L spk S W) := by
  rw [fromStacks_eq_fromTemplate]
  unfold BlamesWitness BlamesScriptSig
  cases template spk with
  | p2pk =>
    obtain ⟨h1, h2⟩ := fromP2pk_blame spk S W
    simpa [fromTemplate] using ⟨h1, h2⟩
  | p2pkh =>
    obtain ⟨h1, h2⟩ := fromP2pkh_blame L spk S W
    simpa [fromTemplate] using ⟨h1, h2⟩
  | v0P2wpkh =>
    obtain ⟨h1, h2⟩ := fromV0P2wpkh_blame L spk S W
    simpa [fromTemplate] using ⟨h1, h2⟩
  | v0P2wsh =>
    obtain ⟨h1, h2⟩ := fromV0P2wsh_blame L spk S W
    simpa [fromTemplate] using ⟨h1, h2⟩
  | v1P2tr =>
    obtain ⟨h1, h2⟩ := fromV1P2tr_blame L spk S W
    simpa [fromTemplate] using ⟨h1, h2⟩
  | p2sh => exact fromP2sh_blame L spk S W
  | bare =>
    obtain ⟨h1, h2⟩ := fromBare_blame L spk S W
    simpa [fromTemplate] using ⟨h1, h2⟩

/-! ## 4. What the script code is bound to -/

/-- What binds the script code a classification returns to the output it spends: the output
    itself for a key or bare output, the hash the output commits to for a key hash or script
    hash, the taproot commitment of the output's key for a script path; no script code for a
    key path, and the fixed covenant script code for a covenant. -/
def CodeBound (spk : Bytes) : Classified → Prop
  | (.publicKey _ .pk, _, sc) | (.publicKey _ .pkh, _, sc) | (.script _ .bare, _, sc) =>
    sc = some spk
  | (.publicKey (.fullkey pk) .wpkh, _, sc) =>
    sc = some (newP2pkh (L.hash160 pk.bytes)) ∧ spk = newV0Wpkh (L.hash160 pk.bytes)
  | (.publicKey (.fullkey pk) .shWpkh, _, sc) =>
    sc = some (newP2pkh (L.hash160 pk.bytes)) ∧
      spk = newP2sh (L.hash160 (newV0Wpkh (L.hash160 pk.bytes)))
  | (.publicKey _ .tr, _, sc) => sc = none
  | (.script _ .sh, _, sc) => ∃ c, sc = some c ∧ spk = newP2sh (L.hash160 c)
  | (.script _ .wsh, _, sc) => ∃ c, sc = some c ∧ spk = newV0Wsh (L.sha256 c)
  | (.script _ .shWsh, _, sc) => ∃ c, sc = some c ∧ spk = newP2sh (L.hash160 (newV0Wsh (L.sha256 c)))
  | (.script _ .tr, _, sc) => ∃ c cb xk, sc = some c ∧
      XOnlyPublicKey.fromSlice (spk.drop 2) = some xk ∧ L.verifyTaprootCommitment cb xk c = true
  | (.covScript _ _, _, sc) => sc = some CovenantDescriptor.covScriptCode
  | _ => False

/-- **The script code of every classification is bound to the output it spends**: the sighash
    is computed over the output, over the script whose hash the output holds, or over the
    script the output's taproot key commits to -- except on the covenant path, whose script
    code is the covenant's fixed one, whatever the output. -/
theorem fromStacks_scriptCode {spk : Bytes} {S W : Stack} {r : Classified}
    (h : fromStacks L spk S W = .ok r) : CodeBound L spk r := by
  cases accepts_of_fromStacks L h with
  | p2pk | p2pkh | v0P2wshCov | v1P2trKey | bare => rfl
  | v0P2wpkh _ _ hspk | shWpkh _ _ hspk => exact ⟨rfl, hspk⟩
  | v0P2wsh _ _ _ hspk | shWsh _ _ hspk | sh _ _ _ hspk => exact ⟨_, rfl, hspk⟩
  | v1P2trScript _ hk _ _ _ hv => exact ⟨_, _, _, rfl, hk, hv⟩

/-- A P2WSH spend of `1` by the witness element `[1]`: its script code is the encoding `[0x51]`,
    whose hash the program holds. -/
theorem fromStacks_scriptCode_wsh :
    fromStacks Library.sample (newV0Wsh (Library.sample.sha256 msTrue.encodeFull)) [] [.satisfied] =
        .ok (.script msTrue.toNoChecksMs .wsh, [], some msTrue.encodeFull) ∧
      CodeBound Library.sample (newV0Wsh (Library.sample.sha256 msTrue.encodeFull))
        (.script msTrue.toNoChecksMs .wsh, [], some msTrue.encodeFull) :=
  have h : fromStacks Library.sample (newV0Wsh (Library.sample.sha256 msTrue.encodeFull)) []
      [.satisfied] = .ok (.script msTrue.toNoChecksMs .wsh, [], some msTrue.encodeFull) := rfl
  ⟨h, fromStacks_scriptCode Library.sample h⟩

/-! ## 5. Where an uncompressed key is refused -/

theorem pkFromSlice_eq_uncompressed (slice : Bytes) (rc : Bool) :
    pkFromSlice slice rc = .error .uncompressedPubkey ↔
      rc = true ∧ ∃ pk, PublicKey.fromSlice slice = some pk ∧ pk.compressed = false := by
  unfold pkFromSlice
  cases PublicKey.fromSlice slice with
  | none => simp
  | some pk => cases rc <;> cases pk.compressed <;> simp

theorem pkFromStackElem_eq_uncompressed (e : Element) (rc : Bool) :
    pkFromStackElem e rc = .error .uncompressedPubkey ↔ rc = true ∧
      ∃ slice pk, e = .push slice ∧ PublicKey.fromSlice slice = some pk ∧ pk.compressed = false := by
  cases e <;> simp [pkFromStackElem, pkFromSlice_eq_uncompressed]

/-- The top witness element parses as an uncompressed key. -/
def TopUncompressed (W : Stack) : Prop :=
  ∃ W' slice pk, W = W' ++ [.push slice] ∧ PublicKey.fromSlice slice = some pk ∧
    pk.compressed = false

/-- Where a section refuses an uncompressed key: a P2WPKH spend with an empty scriptSig, or a
    P2SH spend whose scriptSig is exactly the P2WPKH redeem script the output hashes. -/
def RefusesUncompressed (spk : Bytes) (S W : Stack) : Prop :=
  TopUncompressed W ∧ match template spk with
    | .v0P2wpkh => S = []
    | .p2sh => ∃ r, S = [.push r] ∧ spk = newP2sh (L.hash160 r) ∧ isWpkhRedeem r = true
    | .p2pk | .p2pkh | .v0P2wsh | .v1P2tr | .bare => False

theorem fromP2pk_ne_uncompressed (spk : Bytes) (S W : Stack) :
    fromP2pk spk S W ≠ .error .uncompressedPubkey := by
  unfold fromP2pk
  split_ifs <;> simp [bind_eq_error, pkFromSlice_eq_uncompressed]

theorem fromP2pkh_ne_uncompressed (spk : Bytes) (S W : Stack) :
    fromP2pkh L spk S W ≠ .error .uncompressedPubkey := by
  unfold fromP2pkh
  split_ifs
  · simp
  · split <;> simp [bind_eq_error, ite_eq_iff, pkFromStackElem_eq_uncompressed]

theorem fromV0P2wpkh_uncompressed (spk : Bytes) (S W : Stack) :
    fromV0P2wpkh L spk S W = .error .uncompressedPubkey ↔ S = [] ∧ TopUncompressed W := by
  unfold fromV0P2wpkh TopUncompressed
  cases S with
  | cons => simp
  | nil =>
    rcases W.eq_nil_or_concat with rfl | ⟨W', e, rfl⟩
    · simp [pop]
    · simp [bind_eq_error, ite_eq_iff, pkFromStackElem_eq_uncompressed, append_singleton_inj,
        and_assoc, exists_and_left, exists_eq_left']

theorem fromV0P2wsh_ne_uncompressed (spk : Bytes) (S W : Stack) :
    fromV0P2wsh L spk S W ≠ .error .uncompressedPubkey := by
  unfold fromV0P2wsh
  split_ifs
  · simp
  · split
    · split <;> simp [bind_eq_error, ite_eq_iff,
        scriptFromStackElem_ne_error .uncompressedPubkey (by simp)]
    · simp

theorem fromV1P2tr_ne_uncompressed (spk : Bytes) (S W : Stack) :
    fromV1P2tr L spk S W ≠ .error .uncompressedPubkey := by
  cases S with
  | cons => simp [fromV1P2tr]
  | nil => exact fromV1P2tr_nil_ne_error L spk W _ (by simp [TapScriptError])

theorem legacyP2sh_ne_uncompressed (spk : Bytes) (e : Element) (S W : Stack) :
    legacyP2sh L spk e S W ≠ .error .uncompressedPubkey := by
  unfold legacyP2sh
  simp [bind_eq_error, ite_eq_iff, scriptFromStackElem_ne_error .uncompressedPubkey (by simp)]

theorem shWpkh_uncompressed (slice : Bytes) (S W : Stack) :
    shWpkh L slice S W = .error .uncompressedPubkey ↔ S = [] ∧ TopUncompressed W := by
  unfold shWpkh TopUncompressed
  rcases W.eq_nil_or_concat with rfl | ⟨W', e, rfl⟩
  · simp [pop]
  · cases S <;> simp [bind_eq_error, ite_eq_iff, pkFromStackElem_eq_uncompressed,
      append_singleton_inj, and_assoc, exists_and_left, exists_eq_left']

theorem shWsh_ne_uncompressed (slice : Bytes) (S W : Stack) :
    shWsh L slice S W ≠ .error .uncompressedPubkey := by
  unfold shWsh
  split
  · split_ifs <;> simp [bind_eq_error, ite_eq_iff,
      scriptFromStackElem_ne_error .uncompressedPubkey (by simp)]
  · simp

theorem fromP2sh_uncompressed (spk : Bytes) (S W : Stack) :
    fromP2sh L spk S W = .error .uncompressedPubkey ↔ TopUncompressed W ∧
      ∃ r, S = [.push r] ∧ spk = newP2sh (L.hash160 r) ∧ isWpkhRedeem r = true := by
  unfold fromP2sh
  rcases S.eq_nil_or_concat with rfl | ⟨S', e, rfl⟩
  · simp [pop]
  have hS (r : Bytes) : S' ++ [e] = [.push r] ↔ S' = [] ∧ e = .push r := by
    simpa using @append_singleton_inj S' [] e (.push r)
  simp only [List.concat_eq_append, pop_concat, hS]
  cases e with
  | push slice =>
    simp only [Element.push.injEq]
    split_ifs with hspk hw hs
    · simp [hspk]
    · rw [shWpkh_uncompressed]
      simp [not_not.mp hspk, hw, and_assoc, exists_eq_left', and_comm]
    · simp [shWsh_ne_uncompressed, hw]
    · simp [legacyP2sh_ne_uncompressed, hw]
  | satisfied | dissatisfied => simp [legacyP2sh_ne_uncompressed]

theorem fromBare_ne_uncompressed (spk : Bytes) (S W : Stack) :
    fromBare L spk S W ≠ .error .uncompressedPubkey := by
  unfold fromBare
  split_ifs
  · cases L.parseInsane .bareCtx spk <;> simp [Except.mapError, bind, Except.bind]
  · simp

/-- **An uncompressed key is refused exactly on the segwit v0 key-hash spends**: the P2WPKH
    output and the P2SH-wrapped P2WPKH one refuse a top witness element that parses as an
    uncompressed key, once their stack-shape checks have passed; P2PK and P2PKH accept such a
    key, and no other section reads one. -/
theorem fromStacks_uncompressed (spk : Bytes) (S W : Stack) :
    fromStacks L spk S W = .error .uncompressedPubkey ↔ RefusesUncompressed L spk S W := by
  rw [fromStacks_eq_fromTemplate]
  unfold RefusesUncompressed
  cases template spk with
  | p2pk => simpa [fromTemplate] using fromP2pk_ne_uncompressed spk S W
  | p2pkh => simpa [fromTemplate] using fromP2pkh_ne_uncompressed L spk S W
  | v0P2wpkh => simpa [fromTemplate, and_comm] using fromV0P2wpkh_uncompressed L spk S W
  | v0P2wsh => simpa [fromTemplate] using fromV0P2wsh_ne_uncompressed L spk S W
  | v1P2tr => simpa [fromTemplate] using fromV1P2tr_ne_uncompressed L spk S W
  | p2sh => exact fromP2sh_uncompressed L spk S W
  | bare => simpa [fromTemplate] using fromBare_ne_uncompressed L spk S W

end Sections

end Interpreter

end ElementsMiniscript
