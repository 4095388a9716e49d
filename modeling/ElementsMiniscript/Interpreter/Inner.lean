/-
  File:      ElementsMiniscript/Interpreter/Inner.lean
  Subject:   `interpreter/inner.rs`: `from_txdata`, which classifies a spend from the prior
             output script, the scriptSig and the witness, and returns the `Inner`
             classification, the residual stack and the script code.

  `from_txdata` is one decision over the output script's shape; each of its sections
  (`// ** pay to pubkey **`, ...) is a function here (`fromP2pk`, `fromP2pkh`, `fromV0P2wpkh`,
  `fromV0P2wsh`, `fromV1P2tr`, `fromP2sh`, `fromBare`), and each is followed by the lemma that
  says everything a successful run of it did (`fromP2pkh_ok`, ...). The results about whole
  runs (`Commitment.lean`) are read off these lemmas and never unfold a section again.

  The stack layer (`interpreter/stack.rs`, absent from `src/`) is modelled from the spec: a
  witness element `[1]` reads as `Satisfied`, an empty one as `Dissatisfied`, and so do the
  scriptSig instructions `OP_1` and `OP_0`.
-/
import ElementsMiniscript.Covenant.Cov

namespace ElementsMiniscript

namespace Interpreter

/-! ## 1. Errors, stack elements, the stack -/

/-- `interpreter::Error`, the variants `from_txdata` produces. -/
inductive Error where
  | uncompressedPubkey
  | pubkeyParseError
  | nonEmptyWitness
  | nonEmptyScriptSig
  | unexpectedStackEnd
  | incorrectPubkeyHash
  | incorrectWPubkeyHash
  | incorrectWScriptHash
  | incorrectScriptHash
  | xOnlyPublicKeyParseError
  | tapAnnexUnsupported
  | controlBlockParse
  | controlBlockVerificationError
  | expectedPush
  | miniscript (e : ElementsMiniscript.Error)
  deriving DecidableEq, Repr

/-- Modelled from the spec: `stack::Element` (its file is absent from `src/`): a pushed byte
    string, or one of the two sentinels. -/
inductive Element where
  | push (b : Bytes)
  | satisfied
  | dissatisfied
  deriving DecidableEq, Repr

namespace Element

/-- Modelled from the spec: `Element::from(&[u8])`: `[1]` is `Satisfied`, the empty string
    `Dissatisfied`, anything else a push. -/
def ofBytes (v : Bytes) : Element :=
  if v = [1] then .satisfied else if v = [] then .dissatisfied else .push v

/-- Modelled from the spec: `Element::from_instruction`: a push as `ofBytes` reads it, `OP_1`
    as `Satisfied`; any other opcode, or a decoding error, is not a push. -/
def fromInstruction : Except ScriptError Instruction → Except Error Element
  | .ok (.pushBytes v) => .ok (ofBytes v)
  | .ok (.op o) => if o = OP_PUSHNUM_1 then .ok .satisfied else .error .expectedPush
  | .error _ => .error .expectedPush

/-- `Element::as_push`. -/
def asPush : Element → Except Error Bytes
  | .push b => .ok b
  | _ => .error .expectedPush

theorem ofBytes_eq_push {v b : Bytes} : ofBytes v = .push b ↔ v = b ∧ v ≠ [1] ∧ v ≠ [] := by
  unfold ofBytes
  split_ifs <;> simp_all [eq_comm]

theorem asPush_eq_ok {e : Element} {b : Bytes} : e.asPush = .ok b ↔ e = .push b := by
  cases e <;> simp [asPush]

end Element

/-- `Stack`: the elements, bottom first, so that the top is the last element. -/
abbrev Stack := List Element

/-- `Stack::pop`: the top element and the stack under it. -/
def pop (s : Stack) : Option (Element × Stack) :=
  match s.reverse with
  | [] => none
  | e :: r => some (e, r.reverse)

theorem pop_eq_some {s s' : Stack} {e : Element} : pop s = some (e, s') ↔ s = s' ++ [e] := by
  unfold pop
  constructor
  · intro h
    split at h
    · cases h
    · rename_i r hr
      cases h
      rw [← List.reverse_reverse s, hr]; simp
  · rintro rfl; simp

@[simp] theorem pop_concat (s : Stack) (e : Element) : pop (s ++ [e]) = some (e, s) :=
  pop_eq_some.mpr rfl

theorem pop_eq_none {s : Stack} : pop s = none ↔ s = [] := by
  unfold pop
  split <;> simp_all [List.reverse_eq_nil_iff]

/-- A witness whose elements end in a push ends in the pushed bytes. -/
theorem map_ofBytes_eq_append_push {witness : List Bytes} {W : Stack} {b : Bytes}
    (h : witness.map Element.ofBytes = W ++ [.push b]) :
    ∃ wit, witness = wit ++ [b] ∧ W = wit.map Element.ofBytes := by
  obtain ⟨wit, l, rfl, rfl, hl⟩ := List.map_eq_append_iff.mp h
  obtain ⟨x, l', rfl, hx, hl'⟩ := List.map_eq_cons_iff.mp hl
  rw [List.map_eq_nil_iff.mp hl', (Element.ofBytes_eq_push.mp hx).1]
  exact ⟨wit, rfl, rfl⟩

/-! ## 2. Keys and scripts from stack elements -/

/-- `pk_from_slice`: a full key, refused when uncompressed if compression is asked for. -/
def pkFromSlice (slice : Bytes) (requireCompressed : Bool) : Except Error PublicKey :=
  match PublicKey.fromSlice slice with
  | some pk => if requireCompressed && !pk.compressed then .error .uncompressedPubkey else .ok pk
  | none => .error .pubkeyParseError

/-- `pk_from_stack_elem`: only a push can hold a key. -/
def pkFromStackElem : Element → Bool → Except Error PublicKey
  | .push slice, rc => pkFromSlice slice rc
  | _, _ => .error .pubkeyParseError

/-- A key read from a slice is the key the slice serializes. -/
theorem pkFromSlice_ok {slice : Bytes} {rc : Bool} {pk : PublicKey}
    (h : pkFromSlice slice rc = .ok pk) : slice = pk.bytes ∧ (rc = true → pk.compressed = true) := by
  cases hs : PublicKey.fromSlice slice with
  | none => simp [pkFromSlice, hs] at h
  | some pk' =>
    simp only [pkFromSlice, hs] at h
    split_ifs at h with hc
    cases h
    exact ⟨(PublicKey.toBytes_of_fromSlice hs).symm, fun hrc => by simpa [hrc] using hc⟩

/-- **A key read from the stack is the key whose serialization was pushed.** -/
theorem pkFromStackElem_ok {e : Element} {rc : Bool} {pk : PublicKey}
    (h : pkFromStackElem e rc = .ok pk) : e = .push pk.bytes ∧ (rc = true → pk.compressed = true) := by
  cases e with
  | push slice =>
    obtain ⟨rfl, hc⟩ := pkFromSlice_ok h
    exact ⟨rfl, hc⟩
  | satisfied | dissatisfied => simp [pkFromStackElem] at h

/-- `script_from_stack_elem`: a push is parsed as a script under the context; the sentinels
    become the scripts `1` and `0`. -/
def scriptFromStackElem {Pk : Type} (parse : Bytes → Except ElementsMiniscript.Error (Miniscript Pk Bytes))
    (tc : Terminal Pk Bytes → Except ElementsMiniscript.Error (Ty × ExtData)) :
    Element → Except Error (Miniscript Pk Bytes)
  | .push sl => (parse sl).mapError .miniscript
  | .satisfied => (Miniscript.fromAst tc .true).mapError .miniscript
  | .dissatisfied => (Miniscript.fromAst tc .false).mapError .miniscript

/-- `cov_components_from_stackelem`: a pushed covenant script, as its binding key and its inner
    Miniscript in the "no checks" context. -/
def covComponentsFromStackelem (L : Library) :
    Element → Option (BitcoinKey × Miniscript BitcoinKey TypedHash160)
  | .push sl =>
    match CovenantDescriptor.parseCovComponents L sl with
    | .ok (pk, ms) => some (.fullkey pk, ms.toNoChecksMs)
    | .error _ => none
  | _ => none

theorem covComponentsFromStackelem_some {L : Library} {e : Element} {k : BitcoinKey}
    {ms : Miniscript BitcoinKey TypedHash160} (h : covComponentsFromStackelem L e = some (k, ms)) :
    ∃ w pk m, e = .push w ∧ CovenantDescriptor.parseCovComponents L w = .ok (pk, m) ∧
      k = .fullkey pk ∧ ms = m.toNoChecksMs := by
  cases e with
  | push w =>
    cases hp : CovenantDescriptor.parseCovComponents L w with
    | error => simp [covComponentsFromStackelem, hp] at h
    | ok p =>
      obtain ⟨pk, m⟩ := p
      simp only [covComponentsFromStackelem, hp, Option.some.injEq, Prod.mk.injEq] at h
      obtain ⟨rfl, rfl⟩ := h
      exact ⟨w, pk, m, rfl, hp, rfl, rfl⟩
  | satisfied | dissatisfied => simp [covComponentsFromStackelem] at h

/-- The encoding of a tap script: x-only keys in their 32 bytes. -/
def encodeTap (ms : Miniscript XOnlyPublicKey Bytes) : Bytes := ms.encode XOnlyPublicKey.bytes id

/-! ## 3. The classification -/

/-- `PubkeyType`: the five key-only spend shapes. -/
inductive PubkeyType where
  | pk | pkh | wpkh | shWpkh | tr
  deriving DecidableEq, Repr

/-- `ScriptType`: the five script spend shapes. -/
inductive ScriptType where
  | bare | sh | wsh | shWsh | tr
  deriving DecidableEq, Repr

/-- `Inner`: a key, a script, or a recognised covenant. -/
inductive Inner where
  | publicKey (k : BitcoinKey) (ty : PubkeyType)
  | script (ms : Miniscript BitcoinKey TypedHash160) (ty : ScriptType)
  | covScript (k : BitcoinKey) (ms : Miniscript BitcoinKey TypedHash160)
  deriving DecidableEq

/-- What `from_txdata` returns on success: the classification, the residual stack, and the
    script code (none for a taproot key spend). -/
abbrev Classified := Inner × Stack × Option Bytes

/-- `TAPROOT_ANNEX_PREFIX`. -/
def TAPROOT_ANNEX_PREFIX : UInt8 := 0x50

/-- Whether the top witness element is a push starting with the annex prefix. -/
def topIsAnnex (s : Stack) : Bool :=
  match s.getLast? with
  | some (.push x) => !x.isEmpty && x.head? == some TAPROOT_ANNEX_PREFIX
  | _ => false

section Sections

variable (L : Library)

/-- `// ** pay to pubkey **`. -/
def fromP2pk (spk : Bytes) (ssigStack witStack : Stack) : Except Error Classified :=
  if !witStack.isEmpty then .error .nonEmptyWitness
  else do
    let pk ← pkFromSlice ((spk.drop 1).dropLast) false
    .ok (.publicKey (.fullkey pk) .pk, ssigStack, some spk)

theorem fromP2pk_ok {spk : Bytes} {S W : Stack} {r : Classified} (h : fromP2pk spk S W = .ok r) :
    W = [] ∧ ∃ pk, pkFromSlice ((spk.drop 1).dropLast) false = .ok pk ∧
      r = (.publicKey (.fullkey pk) .pk, S, some spk) := by
  unfold fromP2pk at h
  split_ifs at h with hW
  obtain ⟨pk, hpk, h⟩ := bind_eq_ok.mp h
  cases h
  exact ⟨by simpa using hW, pk, hpk, rfl⟩

/-- `// ** pay to pubkeyhash **`. -/
def fromP2pkh (spk : Bytes) (ssigStack witStack : Stack) : Except Error Classified :=
  if !witStack.isEmpty then .error .nonEmptyWitness
  else match pop ssigStack with
    | some (elem, ssigStack) => do
      let pk ← pkFromStackElem elem false
      if spk = newP2pkh (L.hash160 pk.bytes) then
        .ok (.publicKey (.fullkey pk) .pkh, ssigStack, some spk)
      else .error .incorrectPubkeyHash
    | none => .error .unexpectedStackEnd

theorem fromP2pkh_ok {spk : Bytes} {S W : Stack} {r : Classified}
    (h : fromP2pkh L spk S W = .ok r) :
    W = [] ∧ ∃ S' pk, S = S' ++ [.push pk.bytes] ∧ spk = newP2pkh (L.hash160 pk.bytes) ∧
      r = (.publicKey (.fullkey pk) .pkh, S', some spk) := by
  unfold fromP2pkh at h
  split_ifs at h with hW
  split at h
  · rename_i elem S' hpop
    obtain ⟨pk, hpk, h⟩ := bind_eq_ok.mp h
    split_ifs at h with hspk
    cases h
    exact ⟨by simpa using hW, S', pk, by rw [pop_eq_some.mp hpop, (pkFromStackElem_ok hpk).1],
      hspk, rfl⟩
  · cases h

/-- `// ** pay to witness pubkeyhash **`; the script code is the P2PKH script of the key. -/
def fromV0P2wpkh (spk : Bytes) (ssigStack witStack : Stack) : Except Error Classified :=
  if !ssigStack.isEmpty then .error .nonEmptyScriptSig
  else match pop witStack with
    | some (elem, witStack) => do
      let pk ← pkFromStackElem elem true
      if spk = newV0Wpkh (L.hash160 pk.bytes) then
        .ok (.publicKey (.fullkey pk) .wpkh, witStack, some (newP2pkh (L.hash160 pk.bytes)))
      else .error .incorrectWPubkeyHash
    | none => .error .unexpectedStackEnd

theorem fromV0P2wpkh_ok {spk : Bytes} {S W : Stack} {r : Classified}
    (h : fromV0P2wpkh L spk S W = .ok r) :
    S = [] ∧ ∃ W' pk, W = W' ++ [.push pk.bytes] ∧ pk.compressed = true ∧
      spk = newV0Wpkh (L.hash160 pk.bytes) ∧
      r = (.publicKey (.fullkey pk) .wpkh, W', some (newP2pkh (L.hash160 pk.bytes))) := by
  unfold fromV0P2wpkh at h
  split_ifs at h with hS
  split at h
  · rename_i elem W' hpop
    obtain ⟨pk, hpk, h⟩ := bind_eq_ok.mp h
    split_ifs at h with hspk
    cases h
    obtain ⟨he, hc⟩ := pkFromStackElem_ok hpk
    exact ⟨by simpa using hS, W', pk, by rw [pop_eq_some.mp hpop, he], hc rfl, hspk, rfl⟩
  · cases h

/-- `// ** pay to witness scripthash **`: covenant recognition first, with the post-codesep
    script as the script code; otherwise a segwit Miniscript whose hash the output holds. -/
def fromV0P2wsh (spk : Bytes) (ssigStack witStack : Stack) : Except Error Classified :=
  if !ssigStack.isEmpty then .error .nonEmptyScriptSig
  else match pop witStack with
    | some (elem, witStack) =>
      match covComponentsFromStackelem L elem with
      | some (pk, ms) => .ok (.covScript pk ms, witStack, some CovenantDescriptor.covScriptCode)
      | none => do
        let miniscript ← scriptFromStackElem (L.parseInsane .segwitv0) (L.typeCheck .segwitv0) elem
        let script := miniscript.encodeFull
        if spk = newV0Wsh (L.sha256 script) then
          .ok (.script miniscript.toNoChecksMs .wsh, witStack, some script)
        else .error .incorrectWScriptHash
    | none => .error .unexpectedStackEnd

theorem fromV0P2wsh_ok {spk : Bytes} {S W : Stack} {r : Classified}
    (h : fromV0P2wsh L spk S W = .ok r) :
    S = [] ∧ ∃ W' elem, W = W' ++ [elem] ∧
      ((∃ k ms, covComponentsFromStackelem L elem = some (k, ms) ∧
          r = (.covScript k ms, W', some CovenantDescriptor.covScriptCode)) ∨
        (covComponentsFromStackelem L elem = none ∧ ∃ m,
          scriptFromStackElem (L.parseInsane .segwitv0) (L.typeCheck .segwitv0) elem = .ok m ∧
          spk = newV0Wsh (L.sha256 m.encodeFull) ∧
          r = (.script m.toNoChecksMs .wsh, W', some m.encodeFull))) := by
  unfold fromV0P2wsh at h
  split_ifs at h with hS
  split at h
  · rename_i elem W' hpop
    refine ⟨by simpa using hS, W', elem, pop_eq_some.mp hpop, ?_⟩
    split at h
    · rename_i k ms hcov
      cases h
      exact .inl ⟨k, ms, hcov, rfl⟩
    · rename_i hcov
      obtain ⟨m, hm, h⟩ := bind_eq_ok.mp h
      dsimp only at h
      split_ifs at h with hspk
      cases h
      exact .inr ⟨hcov, m, hm, hspk, rfl⟩
  · cases h

/-- The taproot script spend: the control block and the tap script taken from the top, the
    commitment of the script to the output key checked. -/
def tapScriptSpend (outputKey : XOnlyPublicKey) (witStack : Stack) : Except Error Classified :=
  match pop witStack with
  | none => .error .unexpectedStackEnd
  | some (ctrlBlk, witStack) => do
    let ctrlBlk ← ctrlBlk.asPush
    match pop witStack with
    | none => .error .unexpectedStackEnd
    | some (tapScript, witStack) =>
      if !L.controlBlockParses ctrlBlk then .error .controlBlockParse
      else do
        let tapScript ← scriptFromStackElem L.parseInsaneTap L.typeCheckTap tapScript
        let ms := tapScript.toNoChecksMsTap
        if L.verifyTaprootCommitment ctrlBlk outputKey (encodeTap tapScript) then
          .ok (.script ms .tr, witStack, some (encodeTap tapScript))
        else .error .controlBlockVerificationError

theorem tapScriptSpend_ok {xk : XOnlyPublicKey} {W : Stack} {r : Classified}
    (h : tapScriptSpend L xk W = .ok r) :
    ∃ W' t cb m, W = W' ++ [t, .push cb] ∧ L.controlBlockParses cb = true ∧
      scriptFromStackElem L.parseInsaneTap L.typeCheckTap t = .ok m ∧
      L.verifyTaprootCommitment cb xk (encodeTap m) = true ∧
      r = (.script m.toNoChecksMsTap .tr, W', some (encodeTap m)) := by
  unfold tapScriptSpend at h
  split at h
  · cases h
  · rename_i c W1 hpop1
    obtain ⟨cb, hcb, h⟩ := bind_eq_ok.mp h
    split at h
    · cases h
    · rename_i t W' hpop2
      split_ifs at h with hparse
      obtain ⟨m, hm, h⟩ := bind_eq_ok.mp h
      split_ifs at h with hver
      cases h
      refine ⟨W', t, cb, m, ?_, by simpa using hparse, hm, hver, rfl⟩
      rw [pop_eq_some.mp hpop1, pop_eq_some.mp hpop2, Element.asPush_eq_ok.mp hcb]
      simp

/-- `// ** pay to taproot **`: an annex is refused; one element is a key spend, more are a
    script spend. -/
def fromV1P2tr (spk : Bytes) (ssigStack witStack : Stack) : Except Error Classified :=
  if !ssigStack.isEmpty then .error .nonEmptyScriptSig
  else do
    let outputKey ← (XOnlyPublicKey.fromSlice (spk.drop 2)).okOr .xOnlyPublicKeyParseError
    if topIsAnnex witStack && 2 ≤ witStack.length then .error .tapAnnexUnsupported
    else match witStack.length with
      | 0 => .error .unexpectedStackEnd
      | 1 => .ok (.publicKey (.xOnlyPublicKey outputKey) .tr, witStack, none)
      | _ + 2 => tapScriptSpend L outputKey witStack

theorem fromV1P2tr_ok {spk : Bytes} {S W : Stack} {r : Classified}
    (h : fromV1P2tr L spk S W = .ok r) :
    S = [] ∧ ∃ xk, XOnlyPublicKey.fromSlice (spk.drop 2) = some xk ∧
      ¬(topIsAnnex W = true ∧ 2 ≤ W.length) ∧
      ((W.length = 1 ∧ r = (.publicKey (.xOnlyPublicKey xk) .tr, W, none)) ∨
        (2 ≤ W.length ∧ tapScriptSpend L xk W = .ok r)) := by
  unfold fromV1P2tr at h
  split at h
  · cases h
  rename_i hS
  obtain ⟨xk, hxk, h⟩ := bind_eq_ok.mp h
  refine ⟨by simpa using hS, xk, okOr_eq_ok.mp hxk, ?_⟩
  split at h
  · cases h
  rename_i hann
  refine ⟨by simpa using hann, ?_⟩
  split at h
  · cases h
  · rename_i hl; cases h; exact .inl ⟨hl, rfl⟩
  · rename_i n hl; exact .inr ⟨by omega, h⟩

/-- The redeem script of a nested P2WPKH: `0 20 <20 bytes>`. -/
def isWpkhRedeem (slice : Bytes) : Bool :=
  slice.length == 22 && slice[0]? == some 0 && slice[1]? == some 20

/-- The redeem script of a nested P2WSH: `0 32 <32 bytes>`. -/
def isWshRedeem (slice : Bytes) : Bool :=
  slice.length == 34 && slice[0]? == some 0 && slice[1]? == some 32

/-- `// normal p2sh parsed in Legacy context`. -/
def legacyP2sh (spk : Bytes) (elem : Element) (ssigStack witStack : Stack) :
    Except Error Classified := do
  let miniscript ← scriptFromStackElem (L.parseInsane .legacy) (L.typeCheck .legacy) elem
  let script := miniscript.encodeFull
  if witStack.isEmpty then
    if spk = newP2sh (L.hash160 script) then .ok (.script miniscript.toNoChecksMs .sh, ssigStack, some script)
    else .error .incorrectScriptHash
  else .error .nonEmptyWitness

theorem legacyP2sh_ok {spk : Bytes} {elem : Element} {S W : Stack} {r : Classified}
    (h : legacyP2sh L spk elem S W = .ok r) :
    W = [] ∧ ∃ m, scriptFromStackElem (L.parseInsane .legacy) (L.typeCheck .legacy) elem = .ok m ∧
      spk = newP2sh (L.hash160 m.encodeFull) ∧ r = (.script m.toNoChecksMs .sh, S, some m.encodeFull) := by
  unfold legacyP2sh at h
  obtain ⟨m, hm, h⟩ := bind_eq_ok.mp h
  dsimp only at h
  split_ifs at h with hW hspk
  cases h
  exact ⟨by simpa using hW, m, hm, hspk, rfl⟩

/-- `// ** p2sh-wrapped wpkh **`. -/
def shWpkh (slice : Bytes) (ssigStack witStack : Stack) : Except Error Classified :=
  match pop witStack with
  | some (elem, witStack) =>
    if !ssigStack.isEmpty then .error .nonEmptyScriptSig
    else do
      let pk ← pkFromStackElem elem true
      if slice = newV0Wpkh (L.hash160 pk.bytes) then
        .ok (.publicKey (.fullkey pk) .shWpkh, witStack, some (newP2pkh (L.hash160 pk.bytes)))
      else .error .incorrectWScriptHash
  | none => .error .unexpectedStackEnd

theorem shWpkh_ok {slice : Bytes} {S W : Stack} {r : Classified} (h : shWpkh L slice S W = .ok r) :
    S = [] ∧ ∃ W' pk, W = W' ++ [.push pk.bytes] ∧ pk.compressed = true ∧
      slice = newV0Wpkh (L.hash160 pk.bytes) ∧
      r = (.publicKey (.fullkey pk) .shWpkh, W', some (newP2pkh (L.hash160 pk.bytes))) := by
  unfold shWpkh at h
  split at h
  · rename_i elem W' hpop
    split_ifs at h with hS
    obtain ⟨pk, hpk, h⟩ := bind_eq_ok.mp h
    split_ifs at h with hsl
    cases h
    obtain ⟨he, hc⟩ := pkFromStackElem_ok hpk
    exact ⟨by simpa using hS, W', pk, by rw [pop_eq_some.mp hpop, he], hc rfl, hsl, rfl⟩
  · cases h

/-- `// ** p2sh-wrapped wsh **`. -/
def shWsh (slice : Bytes) (ssigStack witStack : Stack) : Except Error Classified :=
  match pop witStack with
  | some (elem, witStack) =>
    if !ssigStack.isEmpty then .error .nonEmptyScriptSig
    else do
      let miniscript ← scriptFromStackElem (L.parseInsane .segwitv0) (L.typeCheck .segwitv0) elem
      let script := miniscript.encodeFull
      if slice = newV0Wsh (L.sha256 script) then
        .ok (.script miniscript.toNoChecksMs .shWsh, witStack, some script)
      else .error .incorrectWScriptHash
  | none => .error .unexpectedStackEnd

theorem shWsh_ok {slice : Bytes} {S W : Stack} {r : Classified} (h : shWsh L slice S W = .ok r) :
    S = [] ∧ ∃ W' elem m, W = W' ++ [elem] ∧
      scriptFromStackElem (L.parseInsane .segwitv0) (L.typeCheck .segwitv0) elem = .ok m ∧
      slice = newV0Wsh (L.sha256 m.encodeFull) ∧
      r = (.script m.toNoChecksMs .shWsh, W', some m.encodeFull) := by
  unfold shWsh at h
  split at h
  · rename_i elem W' hpop
    split_ifs at h with hS
    obtain ⟨m, hm, h⟩ := bind_eq_ok.mp h
    dsimp only at h
    split_ifs at h with hsl
    cases h
    exact ⟨by simpa using hS, W', elem, m, pop_eq_some.mp hpop, hm, hsl, rfl⟩
  · cases h

/-- `// ** pay to scripthash **`: the redeem script's hash checked when it is a push, the
    nested segwit shapes tried first, the Legacy context otherwise. -/
def fromP2sh (spk : Bytes) (ssigStack witStack : Stack) : Except Error Classified :=
  match pop ssigStack with
  | some (elem, ssigStack) =>
    match elem with
    | .push slice =>
      if spk ≠ newP2sh (L.hash160 slice) then .error .incorrectScriptHash
      else if isWpkhRedeem slice then shWpkh L slice ssigStack witStack
      else if isWshRedeem slice then shWsh L slice ssigStack witStack
      else legacyP2sh L spk elem ssigStack witStack
    | _ => legacyP2sh L spk elem ssigStack witStack
  | none => .error .unexpectedStackEnd

theorem fromP2sh_ok {spk : Bytes} {S W : Stack} {r : Classified} (h : fromP2sh L spk S W = .ok r) :
    ∃ S' elem, S = S' ++ [elem] ∧
      ((∃ slice, elem = .push slice ∧ spk = newP2sh (L.hash160 slice) ∧
          isWpkhRedeem slice = true ∧ shWpkh L slice S' W = .ok r) ∨
        (∃ slice, elem = .push slice ∧ spk = newP2sh (L.hash160 slice) ∧
          isWpkhRedeem slice = false ∧ isWshRedeem slice = true ∧ shWsh L slice S' W = .ok r) ∨
        (legacyP2sh L spk elem S' W = .ok r)) := by
  unfold fromP2sh at h
  split at h
  · rename_i elem S' hpop
    refine ⟨S', elem, pop_eq_some.mp hpop, ?_⟩
    split at h
    · rename_i slice
      split_ifs at h with hspk hw hs
      · exact .inl ⟨slice, rfl, not_not.mp hspk, hw, h⟩
      · exact .inr (.inl ⟨slice, rfl, not_not.mp hspk, by simpa using hw, hs, h⟩)
      · exact .inr (.inr h)
    · exact .inr (.inr h)
  · cases h

/-- `// ** bare script **`: parsed as a whole under the bare context. -/
def fromBare (spk : Bytes) (ssigStack witStack : Stack) : Except Error Classified :=
  if witStack.isEmpty then do
    let miniscript ← (L.parseInsane .bareCtx spk).mapError .miniscript
    .ok (.script miniscript.toNoChecksMs .bare, ssigStack, some spk)
  else .error .nonEmptyWitness

theorem fromBare_ok {spk : Bytes} {S W : Stack} {r : Classified} (h : fromBare L spk S W = .ok r) :
    W = [] ∧ ∃ m, L.parseInsane .bareCtx spk = .ok m ∧ r = (.script m.toNoChecksMs .bare, S, some spk) := by
  unfold fromBare at h
  split_ifs at h with hW
  obtain ⟨m, hm, h⟩ := bind_eq_ok.mp h
  cases h
  exact ⟨by simpa using hW, m, mapError_eq_ok.mp hm, rfl⟩

/-! ## 4. `from_txdata` -/

/-- The scriptSig's instructions as stack elements; the first failure is returned. -/
def ssigElements (scriptSig : Bytes) : Except Error Stack :=
  (instructionsMinimal scriptSig).mapM Element.fromInstruction

theorem ssigElements_nil : ssigElements [] = .ok [] := by
  simp [ssigElements, instructionsMinimal]; rfl

/-- A scriptSig without instructions is the empty script. -/
theorem eq_nil_of_ssigElements {scriptSig : Bytes} (h : ssigElements scriptSig = .ok []) :
    scriptSig = [] := by
  unfold ssigElements at h
  cases hi : instructionsMinimal scriptSig with
  | nil => exact instructionsMinimal_eq_nil.mp hi
  | cons x xs =>
    rw [hi, List.mapM_cons] at h
    obtain ⟨e, -, h⟩ := bind_eq_ok.mp h
    obtain ⟨es, -, h⟩ := bind_eq_ok.mp h
    cases h

/-- The sections of `from_txdata` over the two stacks: the first shape test that holds decides
    which one runs. -/
def fromStacks (spk : Bytes) (ssigStack witStack : Stack) : Except Error Classified :=
  if isP2pk spk then fromP2pk spk ssigStack witStack
  else if isP2pkh spk then fromP2pkh L spk ssigStack witStack
  else if isV0P2wpkh spk then fromV0P2wpkh L spk ssigStack witStack
  else if isV0P2wsh spk then fromV0P2wsh L spk ssigStack witStack
  else if isV1P2tr spk then fromV1P2tr L spk ssigStack witStack
  else if isP2sh spk then fromP2sh L spk ssigStack witStack
  else fromBare L spk ssigStack witStack

/-- `from_txdata`: the scriptSig decoded into a stack, the witness read as one, then the
    section the output script's shape selects. -/
def fromTxdata (spk scriptSig : Bytes) (witness : List Bytes) : Except Error Classified := do
  let ssigStack ← ssigElements scriptSig
  fromStacks L spk ssigStack (witness.map Element.ofBytes)

theorem fromTxdata_nil (spk : Bytes) (witness : List Bytes) :
    fromTxdata L spk [] witness = fromStacks L spk [] (witness.map Element.ofBytes) := by
  simp [fromTxdata, ssigElements_nil, bind, Except.bind]

theorem fromTxdata_ok {spk scriptSig : Bytes} {witness : List Bytes} {r : Classified}
    (h : fromTxdata L spk scriptSig witness = .ok r) :
    ∃ S, ssigElements scriptSig = .ok S ∧ fromStacks L spk S (witness.map Element.ofBytes) = .ok r :=
  bind_eq_ok.mp h

/-- A successful classification ran one of the sections to success. -/
theorem fromStacks_ok {spk : Bytes} {S W : Stack} {r : Classified} (h : fromStacks L spk S W = .ok r) :
    fromP2pk spk S W = .ok r ∨ fromP2pkh L spk S W = .ok r ∨ fromV0P2wpkh L spk S W = .ok r ∨
      fromV0P2wsh L spk S W = .ok r ∨ fromV1P2tr L spk S W = .ok r ∨ fromP2sh L spk S W = .ok r ∨
      fromBare L spk S W = .ok r := by
  unfold fromStacks at h
  split_ifs at h <;> simp only [h, true_or, or_true]

/-- A P2WSH output is classified by the P2WSH section. -/
theorem fromStacks_newV0Wsh {h : Bytes} (hl : h.length = 32) (S W : Stack) :
    fromStacks L (newV0Wsh h) S W = fromV0P2wsh L (newV0Wsh h) S W := by
  obtain ⟨h1, h2, h3⟩ := newV0Wsh_not_earlier hl
  simp [fromStacks, h1, h2, h3, isV0P2wsh_iff.mpr ⟨h, hl, rfl⟩]

end Sections

end Interpreter

end ElementsMiniscript
