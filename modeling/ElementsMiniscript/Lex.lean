/-
  File:      ElementsMiniscript/Lex.lean
  Subject:   The crate's lexer `miniscript::lex` (its file is absent from `src/`): the
             instructions of a script, read by the minimal instruction decoder, turned into
             tokens one at a time; and what it yields for the encoding of a Miniscript.

  * `opTokens`, `pushToken`, `instrTokens`, `lex` -- an opcode's tokens (a VERIFY form is its
    base opcode's token followed by `Verify`), a push's token by its length, and the refusal
    of an `OP_VERIFY` after `Equal`, `CheckSig` or `CheckMultiSig`, which `push_verify`
    merges instead;
  * `instructionsMinimal_serItems`, `lex_serItems` -- the bytes of instructions the decoder
    reads back as written (`Item.Minimal`) decode to those instructions, so that lexing the
    bytes is lexing the instructions (`lexFrom`);
  * **`lexFrom_verifyItems`** -- lexing what `push_verify` writes is lexing what it was given,
    then `Verify`: the merged VERIFY form splits back, and an appended `OP_VERIFY` is never
    refused, since it follows no opcode with a VERIFY form;
  * **`Terminal.lexes`** -- the encoding of every fragment whose hashes and numbers have the
    sizes of their Rust types (`Terminal.WellSized`) is read back instruction by instruction
    and lexes, after any tokens, to tokens of its own (`Lexes`); so does `Miniscript.encodeFull`
    (`lex_encodeFull`);
  * `Built`, `DecodesBack` -- a Miniscript as the library builds it, and the law of the
    decoder: it reads such a Miniscript back from the tokens of its encoding.
-/
import ElementsMiniscript.Library
import ElementsMiniscript.Templates

namespace ElementsMiniscript

/-! ## 1. The lexer -/

/-- The opcodes `lex` names, other than `OP_1` .. `OP_16`, with their tokens: a VERIFY form is
    its base opcode's token and `Verify`; an opcode `check_cov_script` does not name is its own
    token. -/
def opTable : List (UInt8 × List Token) :=
  [(OP_VERIFY, [.verify]), (OP_EQUAL, [.equal]), (OP_EQUALVERIFY, [.equal, .verify]),
    (OP_CHECKSIG, [.checkSig]), (OP_CHECKSIGVERIFY, [.checkSig, .verify]),
    (OP_CHECKMULTISIG, [.checkMultiSig]), (OP_CHECKMULTISIGVERIFY, [.checkMultiSig, .verify]),
    (OP_NUMEQUAL, [.op OP_NUMEQUAL]), (OP_NUMEQUALVERIFY, [.op OP_NUMEQUAL, .verify]),
    (OP_CHECKSIGFROMSTACK, [.checkSigFromStack]), (OP_FROMALTSTACK, [.fromAltStack]),
    (OP_TOALTSTACK, [.toAltStack]), (OP_SHA256, [.sha256]), (OP_CAT, [.cat]),
    (OP_CODESEPARATOR, [.codeSep]), (OP_DUP, [.dup]), (OP_LEFT, [.left]), (OP_OVER, [.over]),
    (OP_PICK, [.pick])] ++
  [OP_IF, OP_NOTIF, OP_ELSE, OP_ENDIF, OP_IFDUP, OP_SWAP, OP_SIZE, OP_0NOTEQUAL, OP_ADD,
    OP_BOOLAND, OP_BOOLOR, OP_RIPEMD160, OP_HASH160, OP_HASH256, OP_CLTV, OP_CSV,
    OP_CHECKSIGADD].map fun o => (o, [.op o])

/-- The tokens of an opcode: `OP_1` .. `OP_16` as their numbers, the others by `opTable`;
    `none` for an opcode `lex` refuses. -/
def opTokens (o : UInt8) : Option (List Token) :=
  if 0x51 ≤ o.toNat ∧ o.toNat ≤ 0x60 then some [.num (o.toNat - 0x50)] else opTable.lookup o

/-- The token of a data push, by its length: a 20-byte hash, 32 bytes, a key (which must
    parse), or a number that `push_int` writes as exactly this push (`read_scriptint` of at most
    four bytes, then the minimality check). -/
def pushToken (d : Bytes) : Except Error Token :=
  if d.length = 20 then .ok (.hash20 d)
  else if d.length = 32 then .ok (.bytes32 d)
  else if d.length = 33 ∨ d.length = 65 then .pubkey <$> (PublicKey.fromSlice d).okOr .badPubkey
  else if d.length ≤ 4 ∧ (Builder.new.pushInt (readUint d)).bytes.drop 1 = d then
    .ok (.num (readUint d))
  else .error .invalidPush

/-- The tokens `lex` appends for one instruction after tokens that end in `prev`: an
    `OP_VERIFY` after `Equal`, `CheckSig` or `CheckMultiSig` is refused
    (`Error::NonMinimalVerify`). -/
def instrTokens (prev : Option Token) : Instruction → Except Error (List Token)
  | .pushBytes d => (fun t => [t]) <$> pushToken d
  | .op o =>
    if o = OP_VERIFY ∧ (prev = some .equal ∨ prev = some .checkSig ∨ prev = some .checkMultiSig)
    then .error .nonMinimalVerify
    else (opTokens o).okOr .invalidOpcode

/-- One step of `lex`: the tokens of the next instruction appended to those so far. -/
def lexStep (toks : List Token) (i : Instruction) : Except Error (List Token) :=
  (toks ++ ·) <$> instrTokens toks.getLast? i

/-- `lex::lex`: the instructions of the script in order, each through `lexStep`; an instruction
    the decoder refuses ends it (`Error::Script`). -/
def lex (script : Bytes) : Except Error (List Token) :=
  (instructionsMinimal script).foldlM (fun toks ins => ins.mapError (fun _ => .script) >>= lexStep toks)
    []

/-- The opcodes with a VERIFY form. -/
theorem verifyForm_base {o o' : UInt8} (h : verifyForm o = some o') :
    o = OP_EQUAL ∨ o = OP_NUMEQUAL ∨ o = OP_CHECKSIG ∨ o = OP_CHECKMULTISIG := by
  unfold verifyForm at h
  split_ifs at h <;> simp_all

/-- The tokens a VERIFY form's base opcode stands for are the form's, less the last. -/
theorem opTokens_verifyForm {o o' : UInt8} (h : verifyForm o = some o') :
    ∃ ts, opTokens o = some ts ∧ opTokens o' = some (ts ++ [.verify]) := by
  unfold verifyForm at h
  split_ifs at h <;> cases h <;> subst_vars <;> exact ⟨_, rfl, rfl⟩

/-- Every opcode `lex` names stands for at least one token, and only `OP_EQUAL`,
    `OP_CHECKSIG` and `OP_CHECKMULTISIG`, which have VERIFY forms, end in a token after which
    `OP_VERIFY` is refused. -/
theorem opTable_tokens :
    opTable.all fun e => e.2 != [] &&
      (!(e.2.getLast? == some .equal || e.2.getLast? == some .checkSig ||
        e.2.getLast? == some .checkMultiSig) || (verifyForm e.1).isSome) := by
  decide

/-- An opcode's tokens are not empty, and end in `Equal`, `CheckSig` or `CheckMultiSig` only
    for an opcode with a VERIFY form. -/
theorem opTokens_cases {o : UInt8} {ts : List Token} (h : opTokens o = some ts) :
    ts ≠ [] ∧ ((ts.getLast? = some .equal ∨ ts.getLast? = some .checkSig ∨
      ts.getLast? = some .checkMultiSig) → (verifyForm o).isSome) := by
  unfold opTokens at h
  split_ifs at h
  · cases h; simp
  · obtain ⟨l₁, l₂, hl, -⟩ := List.lookup_eq_some_iff.mp h
    have hm : (o, ts) ∈ opTable := hl ▸ by simp
    have := List.all_eq_true.mp opTable_tokens _ hm
    simp only [Bool.and_eq_true, bne_iff_ne, ne_eq, Bool.or_eq_true, Bool.not_eq_true',
      Bool.or_eq_false_iff, beq_eq_false_iff_ne] at this
    exact ⟨this.1, fun hb => this.2.resolve_left (by rcases hb with hb | hb | hb <;> simp [hb])⟩

/-- The tokens of one instruction are not empty, and end in `Equal`, `CheckSig` or
    `CheckMultiSig` only for an opcode with a VERIFY form. -/
theorem instrTokens_cases {prev : Option Token} {i : Instruction} {ts : List Token}
    (h : instrTokens prev i = .ok ts) :
    ts ≠ [] ∧ ((ts.getLast? = some .equal ∨ ts.getLast? = some .checkSig ∨
      ts.getLast? = some .checkMultiSig) → ∃ o, i = .op o ∧ (verifyForm o).isSome) := by
  cases i with
  | pushBytes d =>
    obtain ⟨t, ht, rfl⟩ := map_eq_ok.mp h
    refine ⟨by simp, fun hb => ?_⟩
    unfold pushToken at ht
    split_ifs at ht <;> (try obtain ⟨_, -, ht⟩ := map_eq_ok.mp ht) <;> cases ht <;> simp at hb
  | op o =>
    simp only [instrTokens] at h
    split_ifs at h
    have := opTokens_cases (okOr_eq_ok.mp h)
    exact ⟨this.1, fun hb => ⟨o, rfl, this.2 hb⟩⟩

/-! ## 2. Instructions read back -/

/-- The instruction the decoder reads for one the builder wrote: `OP_0` is the empty push. -/
def Item.instr : Item → Instruction
  | .op o => if o = OP_0 then .pushBytes [] else .op o
  | .push d => .pushBytes d

/-- Only an opcode is read as that opcode. -/
theorem Item.instr_eq_op {i : Item} {o : UInt8} (h : i.instr = .op o) : i = .op o := by
  cases i with
  | op o' => by_cases h0 : o' = OP_0 <;> simp_all [Item.instr]
  | push d => cases h

/-- Whether the decoder reads an instruction back as written: an opcode outside the push
    opcodes `0x01` .. `0x4e`, or a push of fewer than 76 bytes that is not a one-byte number
    minimality asks to write as an opcode. -/
def Item.Minimal : Item → Prop
  | .op o => o = OP_0 ∨ 0x4f ≤ o.toNat
  | .push d => d.length < 0x4c ∧ (d.length = 1 → needsPushnum (d.headD 0) = false)

theorem instructionsMinimal_cons {op : UInt8} {rest rest' : Bytes} {i : Instruction}
    (h : readInstruction op rest = .ok (i, rest')) :
    instructionsMinimal (op :: rest) = .ok i :: instructionsMinimal rest' := by
  rw [instructionsMinimal]
  split <;> simp_all

/-- One instruction the decoder reads back as written. -/
theorem instructionsMinimal_ser {i : Item} (hi : i.Minimal) (rest : Bytes) :
    instructionsMinimal (i.ser ++ rest) = .ok i.instr :: instructionsMinimal rest := by
  cases i with
  | op o =>
    refine instructionsMinimal_cons ?_
    rcases hi with rfl | hi
    · rfl
    · have h0 : o ≠ OP_0 := by rintro rfl; exact absurd hi (by decide)
      have hp : o ≠ OP_PUSHDATA1 ∧ o ≠ OP_PUSHDATA2 ∧ o ≠ OP_PUSHDATA4 := by
        refine ⟨?_, ?_, ?_⟩ <;> rintro rfl <;> exact absurd hi (by decide)
      simp [readInstruction, Item.instr, h0, hp, show ¬ o.toNat < 0x4c by omega]
  | push d =>
    obtain ⟨hl, h1⟩ := hi
    have hop : (UInt8.ofNat d.length).toNat = d.length := show d.length % 256 = _ by omega
    have hs : (Item.push d).ser ++ rest = UInt8.ofNat d.length :: (d ++ rest) := by
      simp [Item.ser, pushPrefix, hl]
    rw [hs]
    refine instructionsMinimal_cons ?_
    have hn : ¬ (d.length = 1 ∧ needsPushnum ((d ++ rest).headD 0) = true) := by
      rintro ⟨h, hn⟩
      obtain ⟨a, rfl⟩ := List.length_eq_one.mp h
      simp_all
    rw [readInstruction, if_pos (by omega), if_neg (by simp [hop]), if_neg (by rw [hop]; exact hn),
      hop, List.take_left, List.drop_left]
    rfl

/-- **Instructions the decoder reads back as written decode to themselves.** -/
theorem instructionsMinimal_serItems {is : List Item} (h : ∀ i ∈ is, i.Minimal) :
    instructionsMinimal (serItems is) = is.map fun i => .ok i.instr := by
  induction is with
  | nil => simp [instructionsMinimal]
  | cons i is ih =>
    rw [serItems_cons, instructionsMinimal_ser (h i (by simp)), ih fun j hj => h j (by simp [hj]),
      List.map_cons]

/-- Lexing a list of instructions after the tokens `acc`. -/
def lexFrom (acc : List Token) (is : List Item) : Except Error (List Token) :=
  is.foldlM (fun toks i => lexStep toks i.instr) acc

@[simp] theorem lexFrom_nil (acc : List Token) : lexFrom acc [] = .ok acc := rfl

theorem lexFrom_append (acc : List Token) (is js : List Item) :
    lexFrom acc (is ++ js) = lexFrom acc is >>= fun a => lexFrom a js :=
  List.foldlM_append ..

theorem lexFrom_singleton (acc : List Token) (i : Item) :
    lexFrom acc [i] = (acc ++ ·) <$> instrTokens acc.getLast? i.instr := by
  simp [lexFrom, lexStep]

/-- **Lexing the bytes of instructions the decoder reads back is lexing the instructions.** -/
theorem lex_serItems {is : List Item} (h : ∀ i ∈ is, i.Minimal) : lex (serItems is) = lexFrom [] is := by
  rw [lex, instructionsMinimal_serItems h, List.foldlM_map]
  rfl

/-! ## 3. `push_verify` -/

/-- The tokens of a non-empty list of instructions end in those of its last instruction. -/
theorem lexFrom_concat {acc a : List Token} {is : List Item} {i : Item}
    (h : lexFrom acc (is ++ [i]) = .ok a) :
    ∃ a' ts, a = a' ++ ts ∧ instrTokens a'.getLast? i.instr = .ok ts := by
  rw [lexFrom_append] at h
  obtain ⟨a', -, h⟩ := bind_eq_ok.mp h
  rw [lexFrom_singleton] at h
  obtain ⟨ts, hts, rfl⟩ := map_eq_ok.mp h
  exact ⟨a', ts, rfl, hts⟩

/-- **Lexing what `push_verify` writes is lexing what it was given, then `Verify`**: a merged
    VERIFY form lexes as its base opcode and `Verify`, and an appended `OP_VERIFY` follows no
    opcode with a VERIFY form, so `lex` does not refuse it. -/
theorem lexFrom_verifyItems (acc : List Token) {is : List Item} (h : is ≠ []) :
    lexFrom acc (verifyItems is) = (· ++ [.verify]) <$> lexFrom acc is := by
  obtain ⟨is, i, rfl⟩ := (List.eq_nil_or_concat is).resolve_left h
  simp only [List.concat_eq_append, verifyItems, List.getLast?_concat, List.dropLast_concat]
  have hop (o : UInt8) (ho : o ≠ OP_0) : (Item.op o).instr = .op o := by simp [Item.instr, ho]
  -- the appended `OP_VERIFY` is lexed as `Verify` after tokens whose last instruction has no
  -- VERIFY form
  have happ (hv : ∀ o, i = .op o → verifyForm o = none) :
      lexFrom acc (is ++ [i] ++ [.op OP_VERIFY]) = (· ++ [.verify]) <$> lexFrom acc (is ++ [i]) := by
    rw [lexFrom_append]
    cases hl : lexFrom acc (is ++ [i]) with
    | error e => rfl
    | ok a =>
      obtain ⟨a', ts, rfl, hts⟩ := lexFrom_concat hl
      obtain ⟨hne, hbad⟩ := instrTokens_cases hts
      have hlast : (a' ++ ts).getLast? = ts.getLast? := by
        rw [List.getLast?_append, Option.or_of_isSome (by simpa using hne)]
      have hv' : ¬ ((a' ++ ts).getLast? = some .equal ∨ (a' ++ ts).getLast? = some .checkSig ∨
          (a' ++ ts).getLast? = some .checkMultiSig) := by
        rw [hlast]
        intro hb
        obtain ⟨o, hi, ho⟩ := hbad hb
        simp [hv o (Item.instr_eq_op hi)] at ho
      rw [ok_bind, lexFrom_singleton, hop OP_VERIFY (by decide)]
      simp only [instrTokens, true_and, if_neg hv']
      rfl
  split
  · rename_i o hlast
    split
    · rename_i o' hv
      obtain ⟨ts, h₁, h₂⟩ := opTokens_verifyForm hv
      have hne : o ≠ OP_0 ∧ o ≠ OP_VERIFY := by
        rcases verifyForm_base hv with rfl | rfl | rfl | rfl <;> decide
      have hne' : o' ≠ OP_0 ∧ o' ≠ OP_VERIFY := by
        rcases verifyForm_eq_some hv with rfl | rfl | rfl | rfl <;> decide
      cases hlast
      rw [lexFrom_append, lexFrom_append]
      cases lexFrom acc is with
      | error e => rfl
      | ok a =>
        simp [lexFrom_singleton, hop o hne.1, hop o' hne'.1, instrTokens, hne.2, hne'.2, h₁, h₂]
    · rename_i hv
      exact happ fun o' ho => by cases ho; simp_all
  · rename_i hlast
    exact happ fun o ho => by simp_all

/-! ## 4. The encoding of a fragment -/

/-- Instructions that the decoder reads back as written and that lex, after any tokens, to
    `toks`. -/
def Lexes (is : List Item) (toks : List Token) : Prop :=
  (∀ i ∈ is, i.Minimal) ∧ ∀ acc, lexFrom acc is = .ok (acc ++ toks)

namespace Lexes

theorem nil : Lexes [] [] := ⟨by simp, fun acc => by simp⟩

theorem append {is js : List Item} {t₁ t₂ : List Token} (h₁ : Lexes is t₁) (h₂ : Lexes js t₂) :
    Lexes (is ++ js) (t₁ ++ t₂) :=
  ⟨fun i hi => (List.mem_append.mp hi).elim (h₁.1 i) (h₂.1 i), fun acc => by
    simp [lexFrom_append, h₁.2, h₂.2]⟩

/-- Instructions lex to one list of tokens. -/
theorem unique {is : List Item} {t₁ t₂ : List Token} (h₁ : Lexes is t₁) (h₂ : Lexes is t₂) :
    t₁ = t₂ := by
  simpa using (h₁.2 []).symm.trans (h₂.2 [])

theorem cons {i : Item} {is : List Item} {t₁ t₂ : List Token} (h₁ : Lexes [i] t₁)
    (h₂ : Lexes is t₂) : Lexes (i :: is) (t₁ ++ t₂) :=
  h₁.append h₂

/-- An opcode other than `OP_VERIFY` lexes to its tokens whatever precedes it. -/
theorem of_opTokens {o : UInt8} {ts : List Token}
    (h : o ≠ OP_0 ∧ o ≠ OP_VERIFY ∧ 0x4f ≤ o.toNat ∧ opTokens o = some ts) :
    Lexes [.op o] ts :=
  ⟨by simpa [Item.Minimal] using .inr h.2.2.1, fun acc => by
    simp [lexFrom_singleton, Item.instr, instrTokens, h.1, h.2.1, h.2.2.2]⟩

/-- An opcode other than `OP_VERIFY` with the tokens it names, before instructions that lex. -/
theorem op {o : UInt8} {is : List Item} (ts : List Token) {ts' : List Token}
    (h : o ≠ OP_0 ∧ o ≠ OP_VERIFY ∧ 0x4f ≤ o.toNat ∧ opTokens o = some ts) (h₂ : Lexes is ts') :
    Lexes (.op o :: is) (ts ++ ts') :=
  (of_opTokens h).cons h₂

/-- A named opcode other than `OP_VERIFY`, as `decide` checks it. -/
theorem opcode {o : UInt8} (h : o ≠ OP_0 ∧ o ≠ OP_VERIFY ∧ 0x4f ≤ o.toNat ∧ (opTokens o).isSome) :
    Lexes [.op o] ((opTokens o).getD []) := by
  obtain ⟨ts, hts⟩ := Option.isSome_iff_exists.mp h.2.2.2
  exact of_opTokens ⟨h.1, h.2.1, h.2.2.1, by simp [hts]⟩

theorem key (pk : PublicKey) : Lexes [.push pk.bytes] [.pubkey pk] := by
  have hl := pk.length_bytes
  refine ⟨by simp [Item.Minimal]; omega, fun acc => ?_⟩
  simp only [lexFrom_singleton, Item.instr, instrTokens, pushToken]
  rcases hl with hl | hl <;> simp [hl, PublicKey.fromSlice_toBytes]

theorem hash {d : Bytes} (h : d.length = 20 ∨ d.length = 32) : ∃ t, Lexes [.push d] [t] := by
  refine ⟨if d.length = 20 then .hash20 d else .bytes32 d, by simp [Item.Minimal]; omega,
    fun acc => ?_⟩
  rcases h with h | h <;> simp [lexFrom_singleton, Item.instr, instrTokens, pushToken, h]

theorem verify {is : List Item} {toks : List Token} (h : Lexes is toks) (hne : is ≠ []) :
    Lexes (verifyItems is) (toks ++ [.verify]) := by
  refine ⟨fun i hi => ?_, fun acc => by simp [lexFrom_verifyItems acc hne, h.2]⟩
  obtain ⟨is, j, rfl⟩ := (List.eq_nil_or_concat is).resolve_left hne
  simp only [List.concat_eq_append, verifyItems, List.getLast?_concat, List.dropLast_concat] at hi h
  have hop (o : UInt8) : (Item.op o).Minimal ↔ o = OP_0 ∨ 0x4f ≤ o.toNat := Iff.rfl
  split at hi
  · split at hi
    · rename_i o' hv
      rcases List.mem_append.mp hi with hi | hi
      · exact h.1 i (by simp [hi])
      · rw [List.mem_singleton.mp hi, hop]
        rcases verifyForm_eq_some hv with rfl | rfl | rfl | rfl <;> decide
    · rcases List.mem_append.mp hi with hi | hi
      · exact h.1 i hi
      · rw [List.mem_singleton.mp hi, hop]; decide
  · rcases List.mem_append.mp hi with hi | hi
    · exact h.1 i hi
    · rw [List.mem_singleton.mp hi, hop]; decide

end Lexes

/-! ### Numbers -/

theorem toNat_ofNat_byte (n : Nat) : (UInt8.ofNat n).toNat = n % 256 := rfl

theorem readUint_scriptintAux : ∀ {fuel n : Nat}, n < 256 ^ fuel → readUint (scriptintAux fuel n) = n
  | 0, n, h => by simp at h; simp [h, scriptintAux, readUint]
  | fuel + 1, n, h => by
    unfold scriptintAux
    split_ifs with h₁ h₂
    · simp [readUint, toNat_ofNat_byte]; omega
    · simp [readUint, toNat_ofNat_byte]; omega
    · have := @readUint_scriptintAux fuel (n / 256) (by rw [pow_succ] at h; omega)
      simp [readUint, this, toNat_ofNat_byte]; omega

/-- `read_scriptint` reads back the number `build_scriptint` writes. -/
theorem readUint_scriptint (n : Nat) : readUint (scriptint n) = n :=
  readUint_scriptintAux (Nat.lt_of_lt_of_le (Nat.lt_two_pow n)
    (Nat.pow_le_pow_left (by decide) n))

theorem length_scriptintAux_le : ∀ {fuel n k : Nat}, n < 128 * 256 ^ k →
    (scriptintAux fuel n).length ≤ k + 1
  | 0, _, _, _ => by simp [scriptintAux]
  | fuel + 1, n, k, h => by
    unfold scriptintAux
    split_ifs with h₁ h₂
    · have : k ≠ 0 := by rintro rfl; simp at h; omega
      simp; omega
    · simp
    · have hk : k ≠ 0 := by rintro rfl; simp at h; omega
      obtain ⟨k, rfl⟩ : ∃ j, k = j + 1 := ⟨k - 1, by omega⟩
      have := @length_scriptintAux_le fuel (n / 256) k (by rw [pow_succ] at h; omega)
      simp; omega

/-- A number below `2³¹` is written in at most four bytes. -/
theorem length_scriptint_le {n : Nat} (h : n < 2 ^ 31) : (scriptint n).length ≤ 4 :=
  length_scriptintAux_le (k := 3) (by norm_num at h ⊢; omega)

theorem scriptint_of_lt {n : Nat} (h₀ : 0 < n) (h : n < 0x80) : scriptint n = [UInt8.ofNat n] := by
  obtain ⟨m, rfl⟩ : ∃ m, n = m + 1 := ⟨n - 1, by omega⟩
  simp [scriptint, scriptintAux, show m + 1 ≤ 0xff by omega, show ¬ 0x80 ≤ m + 1 by omega]

theorem two_le_length_scriptint {n : Nat} (h : 0x80 ≤ n) : 2 ≤ (scriptint n).length := by
  obtain ⟨m, rfl⟩ : ∃ m, n = m + 1 := ⟨n - 1, by omega⟩
  unfold scriptint scriptintAux
  split_ifs with h₁
  · simp [show 0x80 ≤ m + 1 from h]
  · cases m with
    | zero => omega
    | succ m => simp [scriptintAux]; split_ifs <;> simp

/-- A byte above 16 other than `0x81` is pushed as data, with no PUSHNUM form. -/
theorem needsPushnum_eq_false {b : UInt8} (h₁ : 16 < b.toNat) (h₂ : b.toNat ≠ 0x81) :
    needsPushnum b = false := by
  have e₁ : b ≠ 0x81 := fun h => h₂ (by rw [h]; rfl)
  have e₂ : ¬ b ≤ 16 := fun h => by
    have := UInt8.le_def.mp h
    rw [BitVec.le_def] at this
    exact absurd this (by change ¬ b.toNat ≤ 16; omega)
  simp [needsPushnum, e₁, e₂]

/-- A number's push of at most four bytes, which the decoder reads back as written. -/
theorem minimal_scriptint {n : Nat} (h₁ : 16 < n) (h : n < 2 ^ 31) :
    (Item.push (scriptint n)).Minimal ∧ 0 < (scriptint n).length ∧ (scriptint n).length ≤ 4 := by
  have hl := length_scriptint_le h
  rcases Nat.lt_or_ge n 0x80 with hn | hn
  · rw [scriptint_of_lt (by omega) hn]
    have hv : (UInt8.ofNat n).toNat = n := show n % 256 = n by omega
    exact ⟨⟨by simp, fun _ => by
      simpa using needsPushnum_eq_false (b := UInt8.ofNat n) (by omega) (by omega)⟩, by simp, by simp⟩
  · have := two_le_length_scriptint hn
    exact ⟨⟨by omega, fun h1 => by omega⟩, by omega, hl⟩

/-- `push_int` writes a number below `2³¹` as an instruction that lexes to that number. -/
theorem Lexes.int {n : Nat} (h : n < 2 ^ 31) : Lexes [intItem n] [.num n] := by
  unfold intItem
  split_ifs with h₀ h₁
  · subst h₀
    exact ⟨by simp [Item.Minimal], fun acc => rfl⟩
  · have hp : (pushnum n).toNat = 0x50 + n := show (0x50 + n) % 256 = _ by omega
    have h0 : OP_0.toNat = 0 := rfl
    have hv : OP_VERIFY.toNat = 0x69 := rfl
    refine Lexes.of_opTokens ⟨fun he => ?_, fun he => ?_, by omega, ?_⟩
    · have := congrArg UInt8.toNat he; omega
    · have := congrArg UInt8.toNat he; omega
    · simp only [opTokens, hp]
      rw [if_pos (by omega)]
      simp
  · obtain ⟨hmin, hpos, hl⟩ := minimal_scriptint (by omega) h
    have hpre : Builder.new.pushInt n = Builder.new.pushSlice (scriptint n) := by
      simp [Builder.pushInt, h₀, h₁]
    refine ⟨by simpa using hmin, fun acc => ?_⟩
    have hp : pushPrefix (scriptint n).length = [UInt8.ofNat (scriptint n).length] := by
      simp [pushPrefix]; omega
    simp [lexFrom_singleton, Item.instr, instrTokens, pushToken, readUint_scriptint, hpre, hp,
      show (scriptint n).length ≠ 20 by omega, show (scriptint n).length ≠ 32 by omega,
      show (scriptint n).length ≠ 33 by omega, show (scriptint n).length ≠ 65 by omega, hl]

/-! ### Fragments -/

mutual
/-- The hashes of a fragment have the sizes of their Rust types and the numbers its encoding
    pushes are below `2³¹`, as in every Miniscript the library builds. -/
def Terminal.WellSized {Pk : Type} : Terminal Pk Bytes → Bool
  | .pkH h | .ripemd160 h | .hash160 h => h.length == 20
  | .sha256 h | .hash256 h => h.length == 32
  | .after n | .older n => decide (n < 2 ^ 31)
  | .alt s | .swap s | .check s | .dupIf s | .verify s | .nonZero s | .zeroNotEqual s =>
      s.WellSized
  | .andV l r | .andB l r | .orB l r | .orD l r | .orC l r | .orI l r =>
      l.WellSized && r.WellSized
  | .andOr x y z => x.WellSized && y.WellSized && z.WellSized
  | .thresh k subs => decide (k < 2 ^ 31) && Terminals.WellSized subs
  | .multi k pks | .multiA k pks => decide (k < 2 ^ 31) && decide (pks.length < 2 ^ 31)
  | .true | .false | .pkK _ => true

/-- Every sub-fragment of a `thresh` is well sized. -/
def Terminals.WellSized {Pk : Type} : Terminals Pk Bytes → Bool
  | .nil => true
  | .cons t ts => t.WellSized && Terminals.WellSized ts
end

/-- The keys of a `multi`, each pushed. -/
theorem Lexes.keys : ∀ pks : List PublicKey,
    Lexes (pks.map fun pk => .push (PublicKey.ser pk)) (pks.map .pubkey)
  | [] => .nil
  | pk :: pks => (Lexes.key pk).cons (Lexes.keys pks)

/-- The later keys of a `multi_a`, each pushed and followed by `OP_CHECKSIGADD`. -/
theorem Lexes.keysAdd : ∀ pks : List PublicKey, ∃ toks,
    Lexes (pks.flatMap fun pk => [.push (PublicKey.ser pk), .op OP_CHECKSIGADD]) toks
  | [] => ⟨[], .nil⟩
  | pk :: pks =>
    have ⟨_, h⟩ := Lexes.keysAdd pks
    ⟨_, ((Lexes.key pk).cons (Lexes.opcode (by decide))).append h⟩

mutual
/-- **The encoding of a well-sized fragment is read back instruction by instruction and lexes,
    after any tokens, to tokens of its own.** -/
theorem Terminal.lexes : ∀ t : Terminal PublicKey Bytes, t.WellSized = true →
    ∃ toks, Lexes (t.items PublicKey.ser id) toks
  | .true, _ => ⟨_, Lexes.opcode (by decide)⟩
  | .false, _ => ⟨_, Lexes.int (n := 0) (by decide)⟩
  | .pkK pk, _ => ⟨_, Lexes.key pk⟩
  | .pkH h, hw => by
    have ⟨_, hh⟩ := Lexes.hash (d := h) (.inl (by simpa [Terminal.WellSized] using hw))
    exact ⟨_, (Lexes.opcode (by decide)).cons ((Lexes.opcode (by decide)).cons
      (hh.cons (Lexes.opcode (o := OP_EQUALVERIFY) (by decide))))⟩
  | .after n, hw | .older n, hw => by
    simp only [Terminal.WellSized, decide_eq_true_eq] at hw
    exact ⟨_, (Lexes.int hw).cons (Lexes.opcode (by decide))⟩
  | .sha256 h, hw | .hash256 h, hw | .ripemd160 h, hw | .hash160 h, hw => by
    simp only [Terminal.WellSized, beq_iff_eq] at hw
    have ⟨_, hh⟩ := Lexes.hash (d := h) (by omega)
    exact ⟨_, (Lexes.opcode (by decide)).cons ((Lexes.int (n := 32) (by decide)).cons
      ((Lexes.opcode (by decide)).cons ((Lexes.opcode (by decide)).cons
        (hh.cons (Lexes.opcode (o := OP_EQUAL) (by decide))))))⟩
  | .alt s, hw => by
    have ⟨_, hs⟩ := Terminal.lexes s hw
    exact ⟨_, ((Lexes.opcode (by decide)).cons hs).append (Lexes.opcode (o := OP_FROMALTSTACK) (by decide))⟩
  | .swap s, hw => by
    have ⟨_, hs⟩ := Terminal.lexes s hw
    exact ⟨_, (Lexes.opcode (by decide)).cons hs⟩
  | .check s, hw => by
    have ⟨_, hs⟩ := Terminal.lexes s hw
    exact ⟨_, hs.append (Lexes.opcode (o := OP_CHECKSIG) (by decide))⟩
  | .dupIf s, hw => by
    have ⟨_, hs⟩ := Terminal.lexes s hw
    exact ⟨_, ((Lexes.opcode (by decide)).cons ((Lexes.opcode (by decide)).cons hs)).append
      (Lexes.opcode (o := OP_ENDIF) (by decide))⟩
  | .verify s, hw => by
    have ⟨_, hs⟩ := Terminal.lexes s hw
    exact ⟨_, hs.verify (Terminal.items_ne_nil _ _ s)⟩
  | .nonZero s, hw => by
    have ⟨_, hs⟩ := Terminal.lexes s hw
    exact ⟨_, ((Lexes.opcode (by decide)).cons ((Lexes.opcode (by decide)).cons
      ((Lexes.opcode (by decide)).cons hs))).append (Lexes.opcode (o := OP_ENDIF) (by decide))⟩
  | .zeroNotEqual s, hw => by
    have ⟨_, hs⟩ := Terminal.lexes s hw
    exact ⟨_, hs.append (Lexes.opcode (o := OP_0NOTEQUAL) (by decide))⟩
  | .andV l r, hw => by
    simp only [Terminal.WellSized, Bool.and_eq_true] at hw
    have ⟨_, hl⟩ := Terminal.lexes l hw.1
    have ⟨_, hr⟩ := Terminal.lexes r hw.2
    exact ⟨_, hl.append hr⟩
  | .andB l r, hw | .orB l r, hw => by
    simp only [Terminal.WellSized, Bool.and_eq_true] at hw
    have ⟨_, hl⟩ := Terminal.lexes l hw.1
    have ⟨_, hr⟩ := Terminal.lexes r hw.2
    exact ⟨_, (hl.append hr).append (Lexes.opcode (by decide))⟩
  | .orD l r, hw => by
    simp only [Terminal.WellSized, Bool.and_eq_true] at hw
    have ⟨_, hl⟩ := Terminal.lexes l hw.1
    have ⟨_, hr⟩ := Terminal.lexes r hw.2
    exact ⟨_, (hl.append ((Lexes.opcode (by decide)).cons ((Lexes.opcode (by decide)).cons hr))).append
      (Lexes.opcode (o := OP_ENDIF) (by decide))⟩
  | .orC l r, hw => by
    simp only [Terminal.WellSized, Bool.and_eq_true] at hw
    have ⟨_, hl⟩ := Terminal.lexes l hw.1
    have ⟨_, hr⟩ := Terminal.lexes r hw.2
    exact ⟨_, (hl.append ((Lexes.opcode (by decide)).cons hr)).append
      (Lexes.opcode (o := OP_ENDIF) (by decide))⟩
  | .orI l r, hw => by
    simp only [Terminal.WellSized, Bool.and_eq_true] at hw
    have ⟨_, hl⟩ := Terminal.lexes l hw.1
    have ⟨_, hr⟩ := Terminal.lexes r hw.2
    exact ⟨_, (((Lexes.opcode (by decide)).cons hl).append ((Lexes.opcode (by decide)).cons hr)).append
      (Lexes.opcode (o := OP_ENDIF) (by decide))⟩
  | .andOr x y z, hw => by
    simp only [Terminal.WellSized, Bool.and_eq_true] at hw
    have ⟨_, hx⟩ := Terminal.lexes x hw.1.1
    have ⟨_, hy⟩ := Terminal.lexes y hw.1.2
    have ⟨_, hz⟩ := Terminal.lexes z hw.2
    exact ⟨_, ((hx.append ((Lexes.opcode (by decide)).cons hz)).append
      ((Lexes.opcode (by decide)).cons hy)).append (Lexes.opcode (o := OP_ENDIF) (by decide))⟩
  | .thresh k subs, hw => by
    simp only [Terminal.WellSized, Bool.and_eq_true, decide_eq_true_eq] at hw
    have ⟨_, hs⟩ := Terminals.threshLexes subs hw.2
    exact ⟨_, hs.append ((Lexes.int hw.1).cons (Lexes.opcode (o := OP_EQUAL) (by decide)))⟩
  | .multi k pks, hw => by
    simp only [Terminal.WellSized, Bool.and_eq_true, decide_eq_true_eq] at hw
    exact ⟨_, ((Lexes.int hw.1).cons (Lexes.keys pks)).append
      ((Lexes.int hw.2).cons (Lexes.opcode (o := OP_CHECKMULTISIG) (by decide)))⟩
  | .multiA k [], hw => by
    simp only [Terminal.WellSized, Bool.and_eq_true, decide_eq_true_eq] at hw
    exact ⟨_, (Lexes.int hw.1).cons (Lexes.opcode (o := OP_NUMEQUAL) (by decide))⟩
  | .multiA k (pk :: rest), hw => by
    simp only [Terminal.WellSized, Bool.and_eq_true, decide_eq_true_eq] at hw
    have ⟨_, hr⟩ := Lexes.keysAdd rest
    exact ⟨_, ((Lexes.key pk).cons ((Lexes.opcode (by decide)).cons hr)).append
      ((Lexes.int hw.1).cons (Lexes.opcode (o := OP_NUMEQUAL) (by decide)))⟩

/-- The sub-fragments of a `thresh`. -/
theorem Terminals.threshLexes : ∀ ts : Terminals PublicKey Bytes, Terminals.WellSized ts = true →
    ∃ toks, Lexes (Terminals.threshItems PublicKey.ser id ts) toks
  | .nil, _ => ⟨[], by simp [Terminals.threshItems], fun acc => by simp [Terminals.threshItems]⟩
  | .cons t ts, hw => by
    simp only [Terminals.WellSized, Bool.and_eq_true] at hw
    have ⟨_, ht⟩ := Terminal.lexes t hw.1
    have ⟨_, hs⟩ := Terminals.addLexes ts hw.2
    exact ⟨_, ht.append hs⟩

/-- The later sub-fragments of a `thresh`, each followed by `OP_ADD`. -/
theorem Terminals.addLexes : ∀ ts : Terminals PublicKey Bytes, Terminals.WellSized ts = true →
    ∃ toks, Lexes (Terminals.addItems PublicKey.ser id ts) toks
  | .nil, _ => ⟨[], by simp [Terminals.addItems], fun acc => by simp [Terminals.addItems]⟩
  | .cons t ts, hw => by
    simp only [Terminals.WellSized, Bool.and_eq_true] at hw
    have ⟨_, ht⟩ := Terminal.lexes t hw.1
    have ⟨_, hs⟩ := Terminals.addLexes ts hw.2
    exact ⟨_, ht.append ((Lexes.opcode (by decide)).cons hs)⟩
end

/-- **The encoding of a well-sized Miniscript lexes** to the tokens of its instructions. -/
theorem lex_encodeFull {ms : Miniscript PublicKey Bytes} (hw : ms.node.WellSized = true) :
    ∃ toks, Lexes (ms.node.items PublicKey.ser id) toks ∧ lex ms.encodeFull = .ok toks := by
  obtain ⟨toks, h⟩ := Terminal.lexes ms.node hw
  refine ⟨toks, h, ?_⟩
  rw [encodeFull_eq_serItems, lex_serItems h.1, h.2]
  rfl

/-! ## 5. The decoder's law -/

/-- A Miniscript as the library builds it under a context: its type data is what the type
    checker gives its tree (`Miniscript::from_ast`), and its hashes and numbers have the sizes
    of their Rust types. -/
structure Built (L : Library) (ctx : Ctx) (ms : Miniscript PublicKey Bytes) : Prop where
  fromAst : Miniscript.fromAst (L.typeCheck ctx) ms.node = .ok ms
  wellSized : ms.node.WellSized = true

/-- The decoder's law (`decode::parse`, absent from `src/`): it reads every Miniscript the
    library builds under the segwit context back from the tokens of its encoding, given last
    token first, with none left over. -/
def DecodesBack (L : Library) : Prop :=
  ∀ ms toks, Built L .segwitv0 ms → lex ms.encodeFull = .ok toks → L.decodeParse toks.reverse = .ok (ms, [])

end ElementsMiniscript
