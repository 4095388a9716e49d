/-
  File:      ElementsMiniscript/Interpreter/Safety.lean
  Subject:   `from_txdata` does not panic. The sections of `inner.rs` slice and index byte strings
             (`&spk[1..spk.len() - 1]`, `&spk[2..]`, `slice[0]`, `slice[1]`, `x[0]`), which
             `Inner.lean` reads as total functions; here they are Rust's, `none` where Rust
             panics, and the run with them is shown to be the model's on every input.

  * `sliceRange`, `sliceFrom` -- `&s[a..b]` and `&s[a..]` on bytes; `s[i]` is `s[i]?`;
  * `fromP2pkRun`, `fromV1P2trRun`, `fromP2shRun` -- the three sections that slice or index,
    with Rust's checks; `fromStacksRun`, `fromTxdataRun` -- the dispatch over them;
  * `fromTxdataRun_eq` -- on every output script, scriptSig and witness the checked run returns,
    and returns what `fromTxdata` does: the shape tests keep every slice and index in range;
  * `PopsEmpty`, `fromStacks_eq_unexpectedStackEnd` -- a section that takes from an empty stack
    fails with `UnexpectedStackEnd`, and no other failure has that error (one iff per section);
  * `fromTxdata_noPanic` -- the refinement and the iff, with the `expect` of `to_no_checks_ms`,
    which never meets a failed translation.
-/
import ElementsMiniscript.Interpreter.Inner

namespace ElementsMiniscript

namespace Interpreter

/-! ## 1. Rust's slices -/

/-- `&s[a..b]` on bytes: `none` where Rust panics, on a reversed range or one past the end. -/
def sliceRange (s : Bytes) (a b : Nat) : Option Bytes :=
  if a ≤ b ∧ b ≤ s.length then some ((s.take b).drop a) else none

/-- `&s[a..]` on bytes: `none` past the end. -/
def sliceFrom (s : Bytes) (a : Nat) : Option Bytes :=
  if a ≤ s.length then some (s.drop a) else none

theorem sliceRange_inner {s : Bytes} (h : 2 ≤ s.length) :
    sliceRange s 1 (s.length - 1) = some ((s.drop 1).dropLast) := by
  rw [sliceRange, if_pos (by omega), List.dropLast_eq_take, List.drop_take, List.length_drop]

theorem sliceFrom_of_le {s : Bytes} {a : Nat} (h : a ≤ s.length) : sliceFrom s a = some (s.drop a) :=
  if_pos h

theorem two_le_of_isP2pk {s : Bytes} (h : isP2pk s = true) : 2 ≤ s.length := by
  simp only [isP2pk, Bool.or_eq_true, Bool.and_eq_true, beq_iff_eq] at h
  omega

theorem two_le_of_isV1P2tr {s : Bytes} (h : isV1P2tr s = true) : 2 ≤ s.length := by
  simp only [isV1P2tr, Bool.and_eq_true, beq_iff_eq] at h
  omega

/-! ## 2. The sections that slice or index -/

/-- `!x.is_empty() && x[0] == TAPROOT_ANNEX_PREFIX` on the top element when it is a push, the
    index checked; `false` otherwise. -/
def topIsAnnexRun (s : Stack) : Option Bool :=
  match s.getLast? with
  | some (.push x) => if x.isEmpty then some false else x[0]?.map (· == TAPROOT_ANNEX_PREFIX)
  | _ => some false

/-- `slice.len() == n && slice[0] == 0 && slice[1] == b`, the indexes checked. -/
def isRedeemRun (slice : Bytes) (n : Nat) (b : UInt8) : Option Bool :=
  if slice.length = n then
    slice[0]?.bind fun x0 => if x0 = 0 then slice[1]?.map (· == b) else some false
  else some false

theorem topIsAnnexRun_eq (s : Stack) : topIsAnnexRun s = some (topIsAnnex s) := by
  unfold topIsAnnexRun topIsAnnex
  rcases s.getLast? with _ | ⟨⟨_ | ⟨_, _⟩⟩ | _ | _⟩ <;> simp

theorem isRedeemRun_eq (slice : Bytes) {n : Nat} (hn : 2 ≤ n) (b : UInt8) :
    isRedeemRun slice n b = some (slice.length == n && slice[0]? == some 0 && slice[1]? == some b) := by
  unfold isRedeemRun
  split_ifs with hl
  · match slice, hl with
    | x0 :: x1 :: _, rfl => by_cases h0 : x0 = 0 <;> simp [h0]
    | [], hl | [_], hl => simp at hl; omega
  · simp [hl]

section Sections

variable (L : Library)

/-- `// ** pay to pubkey **` with Rust's slice `&spk[1..spk.len() - 1]`. -/
def fromP2pkRun (spk : Bytes) (ssigStack witStack : Stack) : Option (Except Error Classified) :=
  if !witStack.isEmpty then some (.error .nonEmptyWitness)
  else (sliceRange spk 1 (spk.length - 1)).map fun slice => do
    let pk ← pkFromSlice slice false
    .ok (.publicKey (.fullkey pk) .pk, ssigStack, some spk)

/-- `// ** pay to taproot **` with Rust's slice `&spk[2..]` and index `x[0]`. -/
def fromV1P2trRun (spk : Bytes) (ssigStack witStack : Stack) : Option (Except Error Classified) :=
  if !ssigStack.isEmpty then some (.error .nonEmptyScriptSig)
  else (sliceFrom spk 2).bind fun program =>
    match XOnlyPublicKey.fromSlice program with
    | none => some (.error .xOnlyPublicKeyParseError)
    | some outputKey => (topIsAnnexRun witStack).map fun annex =>
      if annex && 2 ≤ witStack.length then .error .tapAnnexUnsupported
      else match witStack.length with
        | 0 => .error .unexpectedStackEnd
        | 1 => .ok (.publicKey (.xOnlyPublicKey outputKey) .tr, witStack, none)
        | _ + 2 => tapScriptSpend L outputKey witStack

/-- `// ** pay to scripthash **` with Rust's indexes `slice[0]` and `slice[1]`. -/
def fromP2shRun (spk : Bytes) (ssigStack witStack : Stack) : Option (Except Error Classified) :=
  match pop ssigStack with
  | some (elem, ssigStack) =>
    match elem with
    | .push slice =>
      if spk ≠ newP2sh (L.hash160 slice) then some (.error .incorrectScriptHash)
      else (isRedeemRun slice 22 20).bind fun wpkh =>
        if wpkh then some (shWpkh L slice ssigStack witStack)
        else (isRedeemRun slice 34 32).map fun wsh =>
          if wsh then shWsh L slice ssigStack witStack
          else legacyP2sh L spk elem ssigStack witStack
    | _ => some (legacyP2sh L spk elem ssigStack witStack)
  | none => some (.error .unexpectedStackEnd)

/-- Under a P2PK output the slice is in range. -/
theorem fromP2pkRun_eq {spk : Bytes} (h : isP2pk spk = true) (S W : Stack) :
    fromP2pkRun spk S W = some (fromP2pk spk S W) := by
  unfold fromP2pkRun fromP2pk
  split_ifs
  · rfl
  · rw [sliceRange_inner (two_le_of_isP2pk h)]; rfl

/-- Under a taproot output the slice and the index are in range. -/
theorem fromV1P2trRun_eq {spk : Bytes} (h : isV1P2tr spk = true) (S W : Stack) :
    fromV1P2trRun L spk S W = some (fromV1P2tr L spk S W) := by
  unfold fromV1P2trRun fromV1P2tr
  by_cases hS : S.isEmpty = true
  · simp only [hS, Bool.not_true, Bool.false_eq_true, if_false,
      sliceFrom_of_le (two_le_of_isV1P2tr h), Option.some_bind, topIsAnnexRun_eq]
    cases XOnlyPublicKey.fromSlice (spk.drop 2) <;> rfl
  · simp [hS]

/-- The indexes of the redeem script are read only past its length test. -/
theorem fromP2shRun_eq (spk : Bytes) (S W : Stack) :
    fromP2shRun L spk S W = some (fromP2sh L spk S W) := by
  unfold fromP2shRun fromP2sh
  cases pop S with
  | none => rfl
  | some p =>
    obtain ⟨e, S'⟩ := p
    cases e with
    | push slice =>
      simp only [isRedeemRun_eq _ (by decide : 2 ≤ 22), isRedeemRun_eq _ (by decide : 2 ≤ 34),
        Option.some_bind, Option.map_some', isWpkhRedeem, isWshRedeem]
      split_ifs <;> rfl
    | satisfied | dissatisfied => rfl

end Sections

/-! ## 3. The run -/

section Run

variable (L : Library)

/-- `from_txdata`'s dispatch over the sections, with Rust's slices and indexes. -/
def fromStacksRun (spk : Bytes) (ssigStack witStack : Stack) : Option (Except Error Classified) :=
  if isP2pk spk then fromP2pkRun spk ssigStack witStack
  else if isP2pkh spk then some (fromP2pkh L spk ssigStack witStack)
  else if isV0P2wpkh spk then some (fromV0P2wpkh L spk ssigStack witStack)
  else if isV0P2wsh spk then some (fromV0P2wsh L spk ssigStack witStack)
  else if isV1P2tr spk then fromV1P2trRun L spk ssigStack witStack
  else if isP2sh spk then fromP2shRun L spk ssigStack witStack
  else some (fromBare L spk ssigStack witStack)

/-- `from_txdata` with Rust's slices and indexes: `none` where it panics. -/
def fromTxdataRun (spk scriptSig : Bytes) (witness : List Bytes) :
    Option (Except Error Classified) :=
  match ssigElements scriptSig with
  | .error e => some (.error e)
  | .ok ssigStack => fromStacksRun L spk ssigStack (witness.map Element.ofBytes)

theorem fromStacksRun_eq (spk : Bytes) (S W : Stack) :
    fromStacksRun L spk S W = some (fromStacks L spk S W) := by
  unfold fromStacksRun fromStacks
  cases h1 : isP2pk spk
  case true => exact fromP2pkRun_eq h1 S W
  cases isP2pkh spk; case true => rfl
  cases isV0P2wpkh spk; case true => rfl
  cases isV0P2wsh spk; case true => rfl
  cases h5 : isV1P2tr spk
  case true => exact fromV1P2trRun_eq L h5 S W
  cases isP2sh spk
  case true => exact fromP2shRun_eq L spk S W
  rfl

/-- **The checked run of `from_txdata` returns, and returns the model's result**, on every output
    script, scriptSig and witness. -/
theorem fromTxdataRun_eq (spk scriptSig : Bytes) (witness : List Bytes) :
    fromTxdataRun L spk scriptSig witness = some (fromTxdata L spk scriptSig witness) := by
  unfold fromTxdataRun fromTxdata
  cases ssigElements scriptSig with
  | error e => rfl
  | ok S => exact fromStacksRun_eq L spk S _

/-! ## 4. Taking from an empty stack

`UnexpectedStackEnd` is returned by the pops and by a taproot spend with an empty witness, and by
nothing else: the key and script parsers fail with their own errors. -/

theorem pkFromSlice_ne_stackEnd (slice : Bytes) (rc : Bool) :
    pkFromSlice slice rc ≠ .error .unexpectedStackEnd := by
  unfold pkFromSlice
  split
  · split_ifs <;> simp
  · simp

theorem pkFromStackElem_ne_stackEnd : ∀ (e : Element) (rc : Bool),
    pkFromStackElem e rc ≠ .error .unexpectedStackEnd
  | .push slice, rc => pkFromSlice_ne_stackEnd slice rc
  | .satisfied, _ | .dissatisfied, _ => by simp [pkFromStackElem]

theorem scriptFromStackElem_ne_stackEnd {Pk : Type}
    (parse : Bytes → Except ElementsMiniscript.Error (Miniscript Pk Bytes))
    (tc : Terminal Pk Bytes → Except ElementsMiniscript.Error (Ty × ExtData)) (e : Element) :
    scriptFromStackElem parse tc e ≠ .error .unexpectedStackEnd := by
  have h {α : Type} (x : Except ElementsMiniscript.Error α) :
      x.mapError Error.miniscript ≠ .error .unexpectedStackEnd := by
    cases x <;> simp [Except.mapError]
  cases e <;> exact h _

theorem append_singleton_inj {l l' : Stack} {a b : Element} :
    l ++ [a] = l' ++ [b] ↔ l = l' ∧ a = b := by
  simpa only [List.concat_eq_append] using List.concat_inj

/-- Where `from_txdata` takes from an empty stack, one clause per section: the scriptSig under a
    P2PKH or a P2SH output, the witness under a segwit v0 output or below a nested segwit redeem
    script, and an empty witness under a taproot output whose key parses. -/
def PopsEmpty (spk : Bytes) (S W : Stack) : Prop :=
  if isP2pk spk then False
  else if isP2pkh spk then W = [] ∧ S = []
  else if isV0P2wpkh spk then S = [] ∧ W = []
  else if isV0P2wsh spk then S = [] ∧ W = []
  else if isV1P2tr spk then S = [] ∧ (XOnlyPublicKey.fromSlice (spk.drop 2)).isSome ∧ W = []
  else if isP2sh spk then
    S = [] ∨ ∃ S' slice, S = S' ++ [.push slice] ∧ spk = newP2sh (L.hash160 slice) ∧
      (isWpkhRedeem slice || isWshRedeem slice) = true ∧ W = []
  else False

theorem fromP2pk_ne_stackEnd (spk : Bytes) (S W : Stack) :
    fromP2pk spk S W ≠ .error .unexpectedStackEnd := by
  unfold fromP2pk
  split_ifs
  · simp
  · simp [bind_eq_error, pkFromSlice_ne_stackEnd]

theorem fromP2pkh_eq_stackEnd (spk : Bytes) (S W : Stack) :
    fromP2pkh L spk S W = .error .unexpectedStackEnd ↔ W = [] ∧ S = [] := by
  unfold fromP2pkh
  cases W with
  | cons => simp
  | nil =>
    rcases S.eq_nil_or_concat with rfl | ⟨S', e, rfl⟩
    · simp [pop]
    · simp [bind_eq_error, ite_eq_iff, pkFromStackElem_ne_stackEnd]

theorem fromV0P2wpkh_eq_stackEnd (spk : Bytes) (S W : Stack) :
    fromV0P2wpkh L spk S W = .error .unexpectedStackEnd ↔ S = [] ∧ W = [] := by
  unfold fromV0P2wpkh
  cases S with
  | cons => simp
  | nil =>
    rcases W.eq_nil_or_concat with rfl | ⟨W', e, rfl⟩
    · simp [pop]
    · simp [bind_eq_error, ite_eq_iff, pkFromStackElem_ne_stackEnd]

theorem fromV0P2wsh_eq_stackEnd (spk : Bytes) (S W : Stack) :
    fromV0P2wsh L spk S W = .error .unexpectedStackEnd ↔ S = [] ∧ W = [] := by
  unfold fromV0P2wsh
  cases S with
  | cons => simp
  | nil =>
    rcases W.eq_nil_or_concat with rfl | ⟨W', e, rfl⟩
    · simp [pop]
    · simp only [List.concat_eq_append, pop_concat, List.isEmpty_nil, Bool.not_true,
        Bool.false_eq_true, if_false, true_and, List.append_eq_nil, List.cons_ne_nil, and_false,
        iff_false]
      split
      · simp
      · simp [bind_eq_error, ite_eq_iff, scriptFromStackElem_ne_stackEnd]

theorem tapScriptSpend_ne_stackEnd {xk : XOnlyPublicKey} {W : Stack} (h : 2 ≤ W.length) :
    tapScriptSpend L xk W ≠ .error .unexpectedStackEnd := by
  rcases W.eq_nil_or_concat with rfl | ⟨W₁, c, rfl⟩
  · simp at h
  rcases W₁.eq_nil_or_concat with rfl | ⟨W', t, rfl⟩
  · simp at h
  unfold tapScriptSpend
  simp only [List.concat_eq_append, pop_concat]
  rw [Ne, bind_eq_error]
  rintro (h | ⟨cb, -, h⟩)
  · cases c <;> simp [Element.asPush] at h
  · split_ifs at h
    · simp at h
    · simp [bind_eq_error, ite_eq_iff, scriptFromStackElem_ne_stackEnd] at h

theorem fromV1P2tr_eq_stackEnd (spk : Bytes) (S W : Stack) :
    fromV1P2tr L spk S W = .error .unexpectedStackEnd ↔
      S = [] ∧ (XOnlyPublicKey.fromSlice (spk.drop 2)).isSome ∧ W = [] := by
  unfold fromV1P2tr
  cases S with
  | cons => simp
  | nil =>
    cases hk : XOnlyPublicKey.fromSlice (spk.drop 2) with
    | none => simp [Option.okOr, bind_eq_error]
    | some xk =>
      rcases W with _ | ⟨a, _ | ⟨b, W⟩⟩
      · simp [Option.okOr, topIsAnnex]
      · simp [Option.okOr]
      · simp only [Option.okOr, List.isEmpty_nil, Bool.not_true, Bool.false_eq_true, if_false,
          ok_bind, List.length_cons, Option.isSome_some, List.cons_ne_nil, and_false, iff_false]
        split_ifs
        · simp
        · exact tapScriptSpend_ne_stackEnd L (by simp)

theorem legacyP2sh_ne_stackEnd (spk : Bytes) (e : Element) (S W : Stack) :
    legacyP2sh L spk e S W ≠ .error .unexpectedStackEnd := by
  simp [legacyP2sh, bind_eq_error, ite_eq_iff, scriptFromStackElem_ne_stackEnd]

theorem shWpkh_eq_stackEnd (slice : Bytes) (S W : Stack) :
    shWpkh L slice S W = .error .unexpectedStackEnd ↔ W = [] := by
  unfold shWpkh
  rcases W.eq_nil_or_concat with rfl | ⟨W', e, rfl⟩
  · simp [pop]
  · simp only [List.concat_eq_append, pop_concat, List.append_eq_nil, List.cons_ne_nil,
      and_false, iff_false]
    split_ifs
    · simp
    · simp [bind_eq_error, ite_eq_iff, pkFromStackElem_ne_stackEnd]

theorem shWsh_eq_stackEnd (slice : Bytes) (S W : Stack) :
    shWsh L slice S W = .error .unexpectedStackEnd ↔ W = [] := by
  unfold shWsh
  rcases W.eq_nil_or_concat with rfl | ⟨W', e, rfl⟩
  · simp [pop]
  · simp only [List.concat_eq_append, pop_concat, List.append_eq_nil, List.cons_ne_nil,
      and_false, iff_false]
    split_ifs
    · simp
    · simp [bind_eq_error, ite_eq_iff, scriptFromStackElem_ne_stackEnd]

theorem fromP2sh_eq_stackEnd (spk : Bytes) (S W : Stack) :
    fromP2sh L spk S W = .error .unexpectedStackEnd ↔
      S = [] ∨ ∃ S' slice, S = S' ++ [.push slice] ∧ spk = newP2sh (L.hash160 slice) ∧
        (isWpkhRedeem slice || isWshRedeem slice) = true ∧ W = [] := by
  unfold fromP2sh
  rcases S.eq_nil_or_concat with rfl | ⟨S', e, rfl⟩
  · simp [pop]
  simp only [List.concat_eq_append, pop_concat, List.append_eq_nil, List.cons_ne_nil, and_false,
    false_or, append_singleton_inj, and_assoc, exists_and_left, exists_eq_left']
  cases e with
  | push slice =>
    simp only [Element.push.injEq, exists_eq_left']
    split_ifs with hspk hw hs
    · simp [hspk]
    · simp [shWpkh_eq_stackEnd, not_not.mp hspk, hw]
    · simp [shWsh_eq_stackEnd, not_not.mp hspk, hs]
    · simp [legacyP2sh_ne_stackEnd, hw, hs]
  | satisfied | dissatisfied => simp [legacyP2sh_ne_stackEnd]

theorem fromBare_ne_stackEnd (spk : Bytes) (S W : Stack) :
    fromBare L spk S W ≠ .error .unexpectedStackEnd := by
  unfold fromBare
  split_ifs
  · cases L.parseInsane .bareCtx spk <;> simp [Except.mapError, bind, Except.bind]
  · simp

/-- **`UnexpectedStackEnd` is exactly a take from an empty stack**: a section that pops an empty
    stack, or finds an empty taproot witness, fails with it, and no other failure has it. -/
theorem fromStacks_eq_unexpectedStackEnd (spk : Bytes) (S W : Stack) :
    fromStacks L spk S W = .error .unexpectedStackEnd ↔ PopsEmpty L spk S W := by
  unfold fromStacks PopsEmpty
  cases isP2pk spk; case true => exact iff_false_intro (fromP2pk_ne_stackEnd spk S W)
  cases isP2pkh spk; case true => exact fromP2pkh_eq_stackEnd L spk S W
  cases isV0P2wpkh spk; case true => exact fromV0P2wpkh_eq_stackEnd L spk S W
  cases isV0P2wsh spk; case true => exact fromV0P2wsh_eq_stackEnd L spk S W
  cases isV1P2tr spk; case true => exact fromV1P2tr_eq_stackEnd L spk S W
  cases isP2sh spk; case true => exact fromP2sh_eq_stackEnd L spk S W
  exact iff_false_intro (fromBare_ne_stackEnd L spk S W)

end Run

/-! ## 5. No panic -/

/-- **`from_txdata` does not panic.** On every output script, scriptSig and witness its run with
    Rust's slices and indexes returns, and returns what the model does; the translations behind
    `to_no_checks_ms` succeed on every Miniscript, so its `expect` never meets an error; and a
    take from an empty stack is exactly what fails with `UnexpectedStackEnd`. -/
theorem fromTxdata_noPanic :
    (∀ (L : Library) (spk scriptSig : Bytes) (witness : List Bytes),
      fromTxdataRun L spk scriptSig witness = some (fromTxdata L spk scriptSig witness)) ∧
    (∀ ms : Miniscript PublicKey Bytes, ∃ m,
      (ms.translatePk (fun pk => .ok (.fullkey pk)) (fun h => .ok (.fullKey h)) :
        Except Unit (Miniscript BitcoinKey TypedHash160)) = .ok m) ∧
    (∀ ms : Miniscript XOnlyPublicKey Bytes, ∃ m,
      (ms.translatePk (fun pk => .ok (.xOnlyPublicKey pk)) (fun h => .ok (.xonlyKey h)) :
        Except Unit (Miniscript BitcoinKey TypedHash160)) = .ok m) ∧
    (∀ (L : Library) (spk : Bytes) (S W : Stack),
      fromStacks L spk S W = .error .unexpectedStackEnd ↔ PopsEmpty L spk S W) :=
  ⟨fromTxdataRun_eq, fun ms => ⟨_, Miniscript.translatePk_pure _ _ ms⟩,
    fun ms => ⟨_, Miniscript.translatePk_pure _ _ ms⟩, fromStacks_eq_unexpectedStackEnd⟩

end Interpreter

end ElementsMiniscript
