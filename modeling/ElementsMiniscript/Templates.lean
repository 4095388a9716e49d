/-
  File:      ElementsMiniscript/Templates.lean
  Subject:   The instructions a Miniscript's encoding consists of, and which of the output
             templates that `from_txdata` tests for such an encoding can match.

  `Terminal.encode` writes through the builder; `Terminal.items` lists the instructions it
  writes, with `push_verify`'s merge done on the list (`encode_eq`). From the list:

  * every opcode written is `OP_0` or lies above the push opcodes, so the bytes read back as
    the instructions, one at a time (`serItems_eq_push`, `serItems_eq_op`, `serItems_eq_zero`);
  * a fragment never starts with `OP_HASH160` (`head_items_ne_hash160`), a last push pushes a
    key (`getLast_items_push`), a one-instruction fragment is `1`, `0` or `pk_k`
    (`items_eq_singleton`), and a fragment that starts `OP_DUP OP_HASH160` starts with a whole
    `pk_h` (`items_dupHash160`);
  * so an encoding is P2PK only for `c:pk_k(K)` (`isP2pk_encode`), P2PKH only for
    `c:pk_h(H)` (`isP2pkh_encode`), and never P2WPKH, P2WSH, P2TR or P2SH
    (`encode_not_segwit`).
-/
import ElementsMiniscript.Miniscript

namespace ElementsMiniscript

/-! ## 1. Instructions -/

/-- An instruction as the builder writes it: an opcode, or a data push. -/
inductive Item where
  | op (o : UInt8)
  | push (d : Bytes)
  deriving DecidableEq

namespace Item

/-- The bytes the builder writes for an instruction. -/
def ser : Item → Bytes
  | op o => [o]
  | push d => pushPrefix d.length ++ d

/-- An opcode the builder writes is `OP_0` or lies above the push opcodes `0x01` .. `0x4e`. -/
def Wf : Item → Prop
  | op o => o = OP_0 ∨ 0x4f ≤ o.toNat
  | push _ => True

instance (i : Item) : Decidable i.Wf :=
  match i with
  | .op o => inferInstanceAs (Decidable (o = OP_0 ∨ 0x4f ≤ o.toNat))
  | .push _ => inferInstanceAs (Decidable True)

@[simp] theorem wf_push (d : Bytes) : (push d).Wf := trivial

end Item

/-- Whether every opcode of a list of instructions is `OP_0` or lies above the push opcodes. -/
def wfItems (is : List Item) : Bool := is.all fun i => decide i.Wf

@[simp] theorem wfItems_nil : wfItems [] = true := rfl

@[simp] theorem wfItems_cons (i : Item) (is : List Item) :
    wfItems (i :: is) = (decide i.Wf && wfItems is) := rfl

@[simp] theorem wfItems_append (is js : List Item) :
    wfItems (is ++ js) = (wfItems is && wfItems js) := List.all_append

@[simp] theorem wfItems_map_push {α : Type} (f : α → Bytes) (l : List α) :
    wfItems (l.map fun a => .push (f a)) = true := by
  simp [wfItems]

@[simp] theorem wfItems_flatMap_push_op {α : Type} (f : α → Bytes) (o : UInt8) (ho : (Item.op o).Wf)
    (l : List α) : wfItems (l.flatMap fun a => [.push (f a), .op o]) = true := by
  simp [wfItems, ho]

/-- The bytes of a list of instructions. -/
def serItems (is : List Item) : Bytes := (is.map Item.ser).flatten

@[simp] theorem serItems_nil : serItems [] = [] := rfl

@[simp] theorem serItems_cons (i : Item) (is : List Item) :
    serItems (i :: is) = i.ser ++ serItems is := rfl

@[simp] theorem serItems_append (is js : List Item) :
    serItems (is ++ js) = serItems is ++ serItems js := by
  simp [serItems]

/-- `push_verify` on a list of instructions: a last opcode with a VERIFY form is replaced by
    it, otherwise `OP_VERIFY` is appended. -/
def verifyItems (is : List Item) : List Item :=
  match is.getLast? with
  | some (.op o) =>
    match verifyForm o with
    | some o' => is.dropLast ++ [.op o']
    | none => is ++ [.op OP_VERIFY]
  | _ => is ++ [.op OP_VERIFY]

/-- `push_verify` ends in `OP_VERIFY` or in a VERIFY form. -/
theorem getLast?_verifyItems (is : List Item) :
    ∃ o, (verifyItems is).getLast? = some (.op o) ∧ (o = OP_VERIFY ∨ ∃ o₀, verifyForm o₀ = some o) := by
  unfold verifyItems
  split
  · split
    · rename_i o _ _ o' hv
      exact ⟨o', by simp, .inr ⟨o, hv⟩⟩
    · exact ⟨_, by simp, .inl rfl⟩
  · exact ⟨_, by simp, .inl rfl⟩

theorem verifyItems_append {is js : List Item} (h : js ≠ []) :
    verifyItems (is ++ js) = is ++ verifyItems js := by
  obtain ⟨js, j, rfl⟩ := (List.eq_nil_or_concat js).resolve_left h
  simp only [List.concat_eq_append, verifyItems, ← List.append_assoc, List.getLast?_concat]
  split <;> (try split) <;> simp

theorem verifyItems_ne_nil (is : List Item) : verifyItems is ≠ [] := by
  unfold verifyItems
  split <;> (try split) <;> simp

theorem verifyItems_cons (a : Item) {tl : List Item} (h : tl ≠ []) :
    verifyItems (a :: tl) = a :: verifyItems tl :=
  @verifyItems_append [a] tl h

/-- An opcode without a VERIFY form stays, and is followed by at least one instruction. -/
theorem verifyItems_cons_op {o : UInt8} (hv : verifyForm o = none) (tl : List Item) :
    ∃ ys, verifyItems (.op o :: tl) = .op o :: ys ∧ ys ≠ [] := by
  cases tl with
  | nil => exact ⟨[.op OP_VERIFY], by simp [verifyItems, hv], by simp⟩
  | cons b tl => exact ⟨_, verifyItems_cons _ (by simp), verifyItems_ne_nil _⟩

/-- The VERIFY forms. -/
theorem verifyForm_eq_some {o o' : UInt8} (h : verifyForm o = some o') :
    o' = OP_EQUALVERIFY ∨ o' = OP_NUMEQUALVERIFY ∨ o' = OP_CHECKSIGVERIFY ∨
      o' = OP_CHECKMULTISIGVERIFY := by
  unfold verifyForm at h
  split_ifs at h <;> cases h <;> simp

theorem verifyItems_wf {is : List Item} (h : wfItems is = true) : wfItems (verifyItems is) = true := by
  obtain rfl | ⟨is, i, rfl⟩ := List.eq_nil_or_concat is
  · decide
  simp only [List.concat_eq_append, wfItems_append, Bool.and_eq_true] at h ⊢
  unfold verifyItems
  rw [List.getLast?_concat]
  split
  · split
    · rename_i hv
      simp only [List.dropLast_concat, wfItems_append, h.1, Bool.true_and]
      rcases verifyForm_eq_some hv with rfl | rfl | rfl | rfl <;> decide
    · simpa [h.1] using ⟨by simpa using h.2, by decide⟩
  · simpa [h.1] using ⟨by simpa using h.2, by decide⟩

/-- Where the first instruction after `push_verify` comes from. -/
theorem head?_verifyItems {is : List Item} (h : is ≠ []) :
    (verifyItems is).head? = is.head? ∨
      ∃ o o', is = [.op o] ∧ verifyForm o = some o' ∧ (verifyItems is).head? = some (.op o') := by
  match is, h with
  | a :: b :: tl, _ => exact .inl (by rw [verifyItems_cons _ (by simp)]; rfl)
  | [.push d], _ => exact .inl rfl
  | [.op o], _ =>
    cases hv : verifyForm o with
    | none => exact .inl (by simp [verifyItems, hv])
    | some o' => exact .inr ⟨o, o', rfl, hv, by simp [verifyItems, hv]⟩

/-- Two non-empty lists that make two elements make one each. -/
theorem append_eq_pair {α : Type} {xs ys : List α} {a b : α} (hx : xs ≠ []) (hy : ys ≠ [])
    (h : xs ++ ys = [a, b]) : xs = [a] ∧ ys = [b] := by
  have hl := congrArg List.length h
  have := List.length_pos.mpr hx
  have := List.length_pos.mpr hy
  simp only [List.length_append, List.length_cons, List.length_nil] at hl
  exact @List.append_inj _ xs [a] ys [b] h (by simp; omega)

namespace Builder

/-- An instruction written. -/
def pushItem (b : Builder) : Item → Builder
  | .op o => b.pushOpcode o
  | .push d => b.pushSlice d

/-- Instructions written in order. -/
def pushItems (b : Builder) (is : List Item) : Builder := is.foldl pushItem b

@[simp] theorem pushItem_op (b : Builder) (o : UInt8) : b.pushItem (.op o) = b.pushOpcode o := rfl

@[simp] theorem pushItem_push (b : Builder) (d : Bytes) : b.pushItem (.push d) = b.pushSlice d := rfl

theorem ext {b₁ b₂ : Builder} (hb : b₁.bytes = b₂.bytes) (ho : b₁.lastOp = b₂.lastOp) :
    b₁ = b₂ := by
  cases b₁; cases b₂; cases hb; cases ho; rfl

@[simp] theorem pushItems_nil (b : Builder) : b.pushItems [] = b := rfl

@[simp] theorem pushItems_cons (b : Builder) (i : Item) (is : List Item) :
    b.pushItems (i :: is) = (b.pushItem i).pushItems is := rfl

@[simp] theorem pushItems_append (b : Builder) (is js : List Item) :
    b.pushItems (is ++ js) = (b.pushItems is).pushItems js := List.foldl_append ..

theorem bytes_pushItems (b : Builder) (is : List Item) :
    (b.pushItems is).bytes = b.bytes ++ serItems is := by
  induction is generalizing b with
  | nil => simp
  | cons i is ih => cases i <;> simp [ih, Item.ser]

/-- **`push_verify` after some instructions writes `verifyItems` of them.** -/
theorem pushVerify_pushItems (b : Builder) {is : List Item} (h : is ≠ []) :
    (b.pushItems is).pushVerify = b.pushItems (verifyItems is) := by
  obtain ⟨is, i, rfl⟩ := (List.eq_nil_or_concat is).resolve_left h
  simp only [List.concat_eq_append, verifyItems, List.getLast?_concat, pushItems_append,
    pushItems_cons, pushItems_nil]
  cases i with
  | op o =>
    cases hv : verifyForm o with
    | none => simp [pushVerify, hv]
    | some o' => exact ext (by simp [pushVerify, hv]) (by simp [pushVerify, hv])
  | push d => simp [pushVerify]

end Builder

/-! ## 2. The instructions of a fragment -/

section Items

variable {Pk Pkh : Type} (ser : Pk → Bytes) (hser : Pkh → Bytes)

/-- The instruction `push_int` writes for a non-negative number. -/
def intItem (n : Nat) : Item :=
  if n = 0 then .op OP_0 else if n ≤ 16 then .op (pushnum n) else .push (scriptint n)

/-- The instructions of the hash-lock fragments. -/
def hashLockItems (op : UInt8) (h : Bytes) : List Item :=
  [.op OP_SIZE, intItem 32, .op OP_EQUALVERIFY, .op op, .push h, .op OP_EQUAL]

mutual
/-- The instructions `Terminal.encode` writes, one case per fragment. -/
def Terminal.items : Terminal Pk Pkh → List Item
  | .true => [.op OP_PUSHNUM_1]
  | .false => [.op OP_0]
  | .pkK pk => [.push (ser pk)]
  | .pkH h => [.op OP_DUP, .op OP_HASH160, .push (hser h), .op OP_EQUALVERIFY]
  | .after n => [intItem n, .op OP_CLTV]
  | .older n => [intItem n, .op OP_CSV]
  | .sha256 h => hashLockItems OP_SHA256 h
  | .hash256 h => hashLockItems OP_HASH256 h
  | .ripemd160 h => hashLockItems OP_RIPEMD160 h
  | .hash160 h => hashLockItems OP_HASH160 h
  | .alt s => .op OP_TOALTSTACK :: s.items ++ [.op OP_FROMALTSTACK]
  | .swap s => .op OP_SWAP :: s.items
  | .check s => s.items ++ [.op OP_CHECKSIG]
  | .dupIf s => .op OP_DUP :: .op OP_IF :: s.items ++ [.op OP_ENDIF]
  | .verify s => verifyItems s.items
  | .nonZero s => .op OP_SIZE :: .op OP_0NOTEQUAL :: .op OP_IF :: s.items ++ [.op OP_ENDIF]
  | .zeroNotEqual s => s.items ++ [.op OP_0NOTEQUAL]
  | .andV l r => l.items ++ r.items
  | .andB l r => l.items ++ r.items ++ [.op OP_BOOLAND]
  | .andOr x y z =>
      x.items ++ .op OP_NOTIF :: z.items ++ .op OP_ELSE :: y.items ++ [.op OP_ENDIF]
  | .orB l r => l.items ++ r.items ++ [.op OP_BOOLOR]
  | .orD l r => l.items ++ .op OP_IFDUP :: .op OP_NOTIF :: r.items ++ [.op OP_ENDIF]
  | .orC l r => l.items ++ .op OP_NOTIF :: r.items ++ [.op OP_ENDIF]
  | .orI l r => .op OP_IF :: l.items ++ .op OP_ELSE :: r.items ++ [.op OP_ENDIF]
  | .thresh k subs => Terminals.threshItems subs ++ [intItem k, .op OP_EQUAL]
  | .multi k pks =>
      intItem k :: pks.map (fun pk => .push (ser pk)) ++ [intItem pks.length, .op OP_CHECKMULTISIG]
  | .multiA k pks =>
      match pks with
      | [] => [intItem k, .op OP_NUMEQUAL]
      | pk :: rest =>
        .push (ser pk) :: .op OP_CHECKSIG ::
          rest.flatMap (fun pk => [.push (ser pk), .op OP_CHECKSIGADD]) ++
          [intItem k, .op OP_NUMEQUAL]

/-- The instructions of `thresh`'s sub-fragments. -/
def Terminals.threshItems : Terminals Pk Pkh → List Item
  | .nil => []
  | .cons t ts => t.items ++ Terminals.addItems ts

/-- The instructions of `thresh`'s later sub-fragments, each followed by `OP_ADD`. -/
def Terminals.addItems : Terminals Pk Pkh → List Item
  | .nil => []
  | .cons t ts => t.items ++ .op OP_ADD :: Terminals.addItems ts
end

theorem Builder.pushInt_eq (b : Builder) (n : Nat) : b.pushInt n = b.pushItem (intItem n) := by
  unfold Builder.pushInt intItem
  split_ifs <;> rfl

theorem hashLock_eq (op : UInt8) (h : Bytes) (b : Builder) :
    hashLock op h b = b.pushItems (hashLockItems op h) := by
  simp [hashLock, hashLockItems, Builder.pushInt_eq]

theorem pushKeys_eq (pks : List Pk) (b : Builder) :
    pushKeys ser pks b = b.pushItems (pks.map fun pk => .push (ser pk)) := by
  induction pks generalizing b with
  | nil => rfl
  | cons pk pks ih => simp [pushKeys, ih]

theorem pushKeysAdd_eq (pks : List Pk) (b : Builder) :
    pushKeysAdd ser pks b =
      b.pushItems (pks.flatMap fun pk => [.push (ser pk), .op OP_CHECKSIGADD]) := by
  induction pks generalizing b with
  | nil => rfl
  | cons pk pks ih => simp [pushKeysAdd, ih]

/-- **No fragment writes nothing.** -/
theorem Terminal.items_ne_nil : ∀ t : Terminal Pk Pkh, t.items ser hser ≠ []
  | .andV l _ => by simp [Terminal.items, Terminal.items_ne_nil l]
  | .verify s => verifyItems_ne_nil _
  | .multiA _ pks => by cases pks <;> simp [Terminal.items]
  | .true | .false | .pkK _ | .pkH _ | .after _ | .older _ | .sha256 _ | .hash256 _
  | .ripemd160 _ | .hash160 _ | .alt _ | .swap _ | .check _ | .dupIf _ | .nonZero _
  | .zeroNotEqual _ | .andB _ _ | .andOr _ _ _ | .orB _ _ | .orD _ _ | .orC _ _ | .orI _ _
  | .thresh _ _ | .multi _ _ => by simp [Terminal.items, hashLockItems]

mutual
/-- **`Terminal.encode` writes `Terminal.items`.** -/
theorem Terminal.encode_eq : ∀ (t : Terminal Pk Pkh) (b : Builder),
    t.encode ser hser b = b.pushItems (t.items ser hser)
  | .true, _ | .false, _ | .pkK _, _ | .pkH _, _ => rfl
  | .after _, _ | .older _, _ => by simp [Terminal.encode, Terminal.items, Builder.pushInt_eq]
  | .sha256 _, _ | .hash256 _, _ | .ripemd160 _, _ | .hash160 _, _ => hashLock_eq ..
  | .alt s, b | .swap s, b | .check s, b | .dupIf s, b | .nonZero s, b | .zeroNotEqual s, b => by
      simp [Terminal.encode, Terminal.items, Terminal.encode_eq s]
  | .verify s, b => by
      rw [Terminal.encode, Terminal.encode_eq s,
        Builder.pushVerify_pushItems _ (Terminal.items_ne_nil ser hser s), Terminal.items]
  | .andV l r, b | .andB l r, b | .orB l r, b | .orD l r, b | .orC l r, b | .orI l r, b => by
      simp [Terminal.encode, Terminal.items, Terminal.encode_eq l, Terminal.encode_eq r]
  | .andOr x y z, b => by
      simp [Terminal.encode, Terminal.items, Terminal.encode_eq x, Terminal.encode_eq y,
        Terminal.encode_eq z]
  | .thresh k subs, b => by
      simp [Terminal.encode, Terminal.items, Terminals.encodeThresh_eq subs, Builder.pushInt_eq]
  | .multi k pks, b => by
      simp [Terminal.encode, Terminal.items, pushKeys_eq, Builder.pushInt_eq]
  | .multiA k [], b => by simp [Terminal.encode, Terminal.items, Builder.pushInt_eq]
  | .multiA k (pk :: rest), b => by
      simp [Terminal.encode, Terminal.items, pushKeysAdd_eq, Builder.pushInt_eq]

theorem Terminals.encodeThresh_eq : ∀ (ts : Terminals Pk Pkh) (b : Builder),
    Terminals.encodeThresh ser hser ts b = b.pushItems (Terminals.threshItems ser hser ts)
  | .nil, _ => rfl
  | .cons t ts, b => by
      simp [Terminals.encodeThresh, Terminals.threshItems, Terminal.encode_eq t,
        Terminals.encodeAdd_eq ts]

theorem Terminals.encodeAdd_eq : ∀ (ts : Terminals Pk Pkh) (b : Builder),
    Terminals.encodeAdd ser hser ts b = b.pushItems (Terminals.addItems ser hser ts)
  | .nil, _ => rfl
  | .cons t ts, b => by
      simp [Terminals.encodeAdd, Terminals.addItems, Terminal.encode_eq t,
        Terminals.encodeAdd_eq ts]
end

/-- The bytes of an encoding are the bytes of its instructions. -/
theorem Terminal.bytes_encode (t : Terminal Pk Pkh) :
    (t.encode ser hser Builder.new).bytes = serItems (t.items ser hser) := by
  rw [Terminal.encode_eq, Builder.bytes_pushItems, Builder.new_bytes, List.nil_append]

/-! ## 3. The first and last instructions of a fragment -/

/-- `push_int` writes `OP_0`, one of `OP_1` .. `OP_16`, or a push. -/
theorem intItem_cases (n : Nat) :
    intItem n = .op OP_0 ∨ (∃ o, intItem n = .op o ∧ 0x51 ≤ o.toNat ∧ o.toNat ≤ 0x60) ∨
      ∃ d, intItem n = .push d := by
  unfold intItem
  split_ifs with h0 h16
  · exact .inl rfl
  · exact .inr (.inl ⟨_, rfl, show 0x51 ≤ (0x50 + n) % 256 ∧ (0x50 + n) % 256 ≤ 0x60 by omega⟩)
  · exact .inr (.inr ⟨_, rfl⟩)

@[simp] theorem intItem_wf (n : Nat) : (intItem n).Wf := by
  rcases intItem_cases n with h | ⟨o, h, h1, -⟩ | ⟨d, h⟩ <;> rw [h]
  · exact .inl rfl
  · exact .inr (by omega)
  · trivial

/-- `push_int` writes none of the opcodes outside `OP_0` .. `OP_16`. -/
theorem intItem_ne_op {n : Nat} {o : UInt8} (h0 : o ≠ OP_0) (h : 0x60 < o.toNat) :
    intItem n ≠ .op o := by
  rcases intItem_cases n with hn | ⟨o', hn, -, h'⟩ | ⟨d, hn⟩ <;> rw [hn] <;> intro he <;>
    cases he
  · exact h0 rfl
  · omega

mutual
/-- **Every opcode a fragment writes is `OP_0` or lies above the push opcodes.** -/
theorem Terminal.items_wf : ∀ t : Terminal Pk Pkh, wfItems (t.items ser hser) = true
  | .pkK _ => by simp [Terminal.items]
  | .true | .false | .pkH _ | .after _ | .older _ | .sha256 _ | .hash256 _ | .ripemd160 _
  | .hash160 _ | .multi _ _ | .multiA _ [] => by simp [Terminal.items, hashLockItems]; decide
  | .multiA _ (_ :: _) => by
      simp [Terminal.items, wfItems_flatMap_push_op _ _ (show (Item.op OP_CHECKSIGADD).Wf by decide)]
      decide
  | .alt s | .swap s | .check s | .dupIf s | .nonZero s | .zeroNotEqual s => by
      simp [Terminal.items, Terminal.items_wf s]; decide
  | .verify s => verifyItems_wf (Terminal.items_wf s)
  | .andV l r => by simp [Terminal.items, Terminal.items_wf l, Terminal.items_wf r]
  | .andB l r | .orB l r | .orD l r | .orC l r | .orI l r => by
      simp [Terminal.items, Terminal.items_wf l, Terminal.items_wf r]; decide
  | .andOr x y z => by
      simp [Terminal.items, Terminal.items_wf x, Terminal.items_wf y, Terminal.items_wf z]; decide
  | .thresh _ subs => by simp [Terminal.items, Terminals.threshItems_wf subs]; decide

theorem Terminals.threshItems_wf : ∀ ts : Terminals Pk Pkh, wfItems (ts.threshItems ser hser) = true
  | .nil => rfl
  | .cons t ts => by
      simp [Terminals.threshItems, Terminal.items_wf t, Terminals.addItems_wf ts]

theorem Terminals.addItems_wf : ∀ ts : Terminals Pk Pkh, wfItems (ts.addItems ser hser) = true
  | .nil => rfl
  | .cons t ts => by
      simp [Terminals.addItems, Terminal.items_wf t, Terminals.addItems_wf ts]; decide
end

@[simp] theorem Terminal.head?_items_append (t : Terminal Pk Pkh) (l : List Item) :
    (t.items ser hser ++ l).head? = (t.items ser hser).head? :=
  List.head?_append_of_ne_nil _ (Terminal.items_ne_nil ser hser t)

mutual
/-- **No fragment starts with `OP_HASH160`.** -/
theorem Terminal.head?_items : ∀ t : Terminal Pk Pkh,
    (t.items ser hser).head? ≠ some (.op OP_HASH160)
  | .true | .false | .pkH _ | .sha256 _ | .hash256 _ | .ripemd160 _ | .hash160 _ | .alt _
  | .swap _ | .dupIf _ | .nonZero _ | .orI _ _ => by
      simp [Terminal.items, hashLockItems]; decide
  | .pkK _ | .multiA _ (_ :: _) => by simp [Terminal.items]
  | .after n | .older n | .multi n _ | .multiA n [] => by
      simpa [Terminal.items] using intItem_ne_op (n := n) (by decide) (by decide)
  | .check s | .zeroNotEqual s => by
      simpa only [Terminal.items, Terminal.head?_items_append] using Terminal.head?_items s
  | .andV l _ | .andB l _ | .andOr l _ _ | .orB l _ | .orD l _ | .orC l _ => by
      simpa only [Terminal.items, List.append_assoc, Terminal.head?_items_append] using
        Terminal.head?_items l
  | .verify s => by
      rw [Terminal.items]
      rcases head?_verifyItems (Terminal.items_ne_nil ser hser s) with h | ⟨o, o', -, hv, h⟩ <;>
        rw [h]
      · exact Terminal.head?_items s
      · rcases verifyForm_eq_some hv with rfl | rfl | rfl | rfl <;> decide
  | .thresh k subs => by
      have ih := Terminals.head?_threshItems subs
      rw [Terminal.items, List.head?_append]
      cases h : (subs.threshItems ser hser).head? with
      | none => simpa using intItem_ne_op (n := k) (by decide) (by decide)
      | some i => rw [h] at ih; simpa using ih

theorem Terminals.head?_threshItems : ∀ ts : Terminals Pk Pkh,
    (ts.threshItems ser hser).head? ≠ some (.op OP_HASH160)
  | .nil => by simp [Terminals.threshItems]
  | .cons t ts => by
      simpa only [Terminals.threshItems, Terminal.head?_items_append] using Terminal.head?_items t
end

/-- **A fragment that ends in a push pushes a key there.** -/
theorem Terminal.getLast?_items_push : ∀ (t : Terminal Pk Pkh) {d : Bytes},
    (t.items ser hser).getLast? = some (.push d) → ∃ pk, d = ser pk
  | .pkK pk, _, h => ⟨pk, by simpa [Terminal.items, eq_comm] using h⟩
  | .andV _ r, _, h => by
      rw [Terminal.items, List.getLast?_append_of_ne_nil _ (Terminal.items_ne_nil ser hser r)] at h
      exact Terminal.getLast?_items_push r h
  | .swap s, _, h => by
      rw [Terminal.items, ← List.singleton_append,
        List.getLast?_append_of_ne_nil _ (Terminal.items_ne_nil ser hser s)] at h
      exact Terminal.getLast?_items_push s h
  | .verify s, _, h => by
      obtain ⟨o, ho, -⟩ := getLast?_verifyItems (s.items ser hser)
      rw [Terminal.items, ho] at h
      cases h
  | .multiA _ pks, _, h => by cases pks <;> simp [Terminal.items, List.getLast?_cons] at h
  | .true, _, h | .false, _, h | .pkH _, _, h | .after _, _, h | .older _, _, h
  | .sha256 _, _, h | .hash256 _, _, h | .ripemd160 _, _, h | .hash160 _, _, h | .alt _, _, h
  | .check _, _, h | .dupIf _, _, h | .nonZero _, _, h | .zeroNotEqual _, _, h | .andB _ _, _, h
  | .andOr _ _ _, _, h | .orB _ _, _, h | .orD _ _, _, h | .orC _ _, _, h | .orI _ _, _, h
  | .thresh _ _, _, h | .multi _ _, _, h => by
      simp [Terminal.items, hashLockItems, List.getLast?_cons] at h

/-- **A fragment that ends in `OP_CHECKSIG` is a `c:`, an `and_v` or an `s:` fragment.** -/
theorem Terminal.getLast?_items_checksig {t : Terminal Pk Pkh}
    (h : (t.items ser hser).getLast? = some (.op OP_CHECKSIG)) :
    (∃ s, t = .check s) ∨ (∃ l r, t = .andV l r) ∨ ∃ s, t = .swap s := by
  cases t
  case check s => exact .inl ⟨s, rfl⟩
  case andV l r => exact .inr (.inl ⟨l, r, rfl⟩)
  case swap s => exact .inr (.inr ⟨s, rfl⟩)
  case verify s =>
    obtain ⟨o, ho, hv⟩ := getLast?_verifyItems (s.items ser hser)
    rw [Terminal.items, ho] at h
    cases h
    rcases hv with h | ⟨o₀, hv⟩
    · exact absurd h (by decide)
    · rcases verifyForm_eq_some hv with h | h | h | h <;> exact absurd h (by decide)
  case multiA k pks =>
    cases pks <;> simp [Terminal.items, List.getLast?_cons] at h <;> exact absurd h (by decide)
  all_goals simp [Terminal.items, hashLockItems, List.getLast?_cons] at h <;> exact absurd h (by decide)

/-- `1`, `0` and `pk_k` write one instruction, which has no VERIFY form. -/
theorem verifyItems_leaf {t : Terminal Pk Pkh} (ht : t = .true ∨ t = .false ∨ ∃ pk, t = .pkK pk) :
    verifyItems (t.items ser hser) = t.items ser hser ++ [.op OP_VERIFY] := by
  rcases ht with rfl | rfl | ⟨pk, rfl⟩ <;> rfl

/-- **A fragment of one instruction is `1`, `0` or `pk_k`.** -/
theorem Terminal.items_eq_singleton : ∀ {t : Terminal Pk Pkh} {i : Item},
    t.items ser hser = [i] → t = .true ∨ t = .false ∨ ∃ pk, t = .pkK pk
  | .true, _, _ => .inl rfl
  | .false, _, _ => .inr (.inl rfl)
  | .pkK pk, _, _ => .inr (.inr ⟨pk, rfl⟩)
  | .verify s, _, h => by
      rw [Terminal.items] at h
      match hs : s.items ser hser with
      | [] => exact absurd hs (Terminal.items_ne_nil ser hser s)
      | [_] =>
        rw [verifyItems_leaf ser hser (Terminal.items_eq_singleton hs), hs] at h
        simp at h
      | _ :: _ :: _ => simp [hs, verifyItems_cons, verifyItems_ne_nil] at h
  | .andV l r, _, h => by
      simp [Terminal.items, List.append_eq_cons_iff, Terminal.items_ne_nil ser hser l,
        Terminal.items_ne_nil ser hser r] at h
  | .multiA _ pks, _, h => by cases pks <;> simp [Terminal.items] at h
  | .alt s, _, h | .swap s, _, h | .check s, _, h | .dupIf s, _, h | .nonZero s, _, h
  | .zeroNotEqual s, _, h | .andB s _, _, h | .andOr s _ _, _, h | .orB s _, _, h
  | .orD s _, _, h | .orC s _, _, h | .orI s _, _, h => by
      simp [Terminal.items, List.append_eq_cons_iff, Terminal.items_ne_nil ser hser s] at h
  | .pkH _, _, h | .after _, _, h | .older _, _, h | .sha256 _, _, h | .hash256 _, _, h
  | .ripemd160 _, _, h | .hash160 _, _, h | .thresh _ _, _, h | .multi _ _, _, h => by
      simp [Terminal.items, hashLockItems, List.append_eq_cons_iff] at h

/-- The instruction of a one-instruction fragment is not `OP_DUP`. -/
theorem Terminal.ne_dup_of_items_eq_singleton {t : Terminal Pk Pkh} {a : Item}
    (h : t.items ser hser = [a]) : a ≠ .op OP_DUP := by
  rcases Terminal.items_eq_singleton ser hser h with rfl | rfl | ⟨pk, rfl⟩ <;>
    cases (List.cons.inj h).1 <;> simp [OP_PUSHNUM_1, OP_0, OP_DUP]

/-- What follows `OP_DUP OP_HASH160` at the start of a fragment: a key hash's push and
    `OP_EQUALVERIFY`, then nothing exactly when the fragment is that `pk_h`. -/
def DupHash160Rest (t : Terminal Pk Pkh) (rest : List Item) : Prop :=
  ∃ h rest', rest = .push (hser h) :: .op OP_EQUALVERIFY :: rest' ∧ (rest' = [] → t = .pkH h)

/-- A fragment followed by more that starts `OP_DUP OP_HASH160` does so itself, and what it is
    followed by comes after its `pk_h` prefix. -/
theorem dupHash160_append {t : Terminal Pk Pkh} {more rest : List Item}
    (ih : ∀ rest, t.items ser hser = .op OP_DUP :: .op OP_HASH160 :: rest →
      DupHash160Rest hser t rest)
    (h : t.items ser hser ++ more = .op OP_DUP :: .op OP_HASH160 :: rest) :
    ∃ k rest', rest = .push (hser k) :: .op OP_EQUALVERIFY :: (rest' ++ more) := by
  match ht : t.items ser hser with
  | [] => exact absurd ht (Terminal.items_ne_nil ser hser t)
  | [a] =>
    rw [ht] at h
    exact absurd (List.cons.inj h).1 (Terminal.ne_dup_of_items_eq_singleton ser hser ht)
  | a :: b :: tl =>
    rw [ht] at h
    obtain ⟨rfl, rfl, rfl⟩ : a = _ ∧ b = _ ∧ tl ++ more = rest := by simpa using h
    obtain ⟨k, rest', rfl, -⟩ := ih tl ht
    exact ⟨k, rest', rfl⟩

/-- A first sub-fragment followed by more: nothing is left after a `pk_h` prefix only if nothing
    followed. -/
theorem DupHash160Rest.of_append {t t' : Terminal Pk Pkh} {more rest : List Item}
    (ih : ∀ rest, t.items ser hser = .op OP_DUP :: .op OP_HASH160 :: rest →
      DupHash160Rest hser t rest)
    (hm : more ≠ []) (h : t.items ser hser ++ more = .op OP_DUP :: .op OP_HASH160 :: rest) :
    DupHash160Rest hser t' rest := by
  obtain ⟨k, rest', rfl⟩ := dupHash160_append ser hser ih h
  exact ⟨k, rest' ++ more, rfl, fun h0 => absurd (List.append_eq_nil.mp h0).2 hm⟩

/-- `OP_0`, `OP_1` .. `OP_16` and a push are neither `OP_DUP` nor `OP_HASH160`. -/
theorem intItem_ne_dup (n : Nat) : intItem n ≠ .op OP_DUP :=
  intItem_ne_op (by decide) (by decide)

mutual
/-- **A fragment that starts `OP_DUP OP_HASH160` starts with a whole `pk_h`.** -/
theorem Terminal.items_dupHash160 : ∀ (t : Terminal Pk Pkh) (rest : List Item),
    t.items ser hser = .op OP_DUP :: .op OP_HASH160 :: rest → DupHash160Rest hser t rest
  | .pkH k, rest, h => by
      obtain rfl : [Item.push (hser k), .op OP_EQUALVERIFY] = rest := by simpa [Terminal.items] using h
      exact ⟨k, [], rfl, fun _ => rfl⟩
  | .check s, _, h | .zeroNotEqual s, _, h => by
      simp only [Terminal.items] at h
      exact DupHash160Rest.of_append ser hser (Terminal.items_dupHash160 s) (by simp) h
  | .andV l r, _, h => by
      simp only [Terminal.items] at h
      exact DupHash160Rest.of_append ser hser (Terminal.items_dupHash160 l)
        (Terminal.items_ne_nil ser hser r) h
  | .andB l _, _, h | .andOr l _ _, _, h | .orB l _, _, h | .orD l _, _, h | .orC l _, _, h => by
      simp only [Terminal.items, List.append_assoc, List.cons_append] at h
      exact DupHash160Rest.of_append ser hser (Terminal.items_dupHash160 l) (by simp) h
  | .verify s, rest, h => by
      simp only [Terminal.items] at h
      match hs : s.items ser hser with
      | [] => exact absurd hs (Terminal.items_ne_nil ser hser s)
      | [a] =>
        rw [verifyItems_leaf ser hser (Terminal.items_eq_singleton ser hser hs), hs] at h
        exact absurd (List.cons.inj h).1 (Terminal.ne_dup_of_items_eq_singleton ser hser hs)
      | a :: b :: tl =>
        rw [hs, verifyItems_cons _ (by simp)] at h
        replace h := List.cons.inj h
        obtain ⟨rfl, h⟩ := h
        have hb : b = .op OP_HASH160 := by
          rcases head?_verifyItems (List.cons_ne_nil b tl) with h' | ⟨o, o', -, hv, h'⟩ <;>
            rw [h] at h'
          · simpa using h'.symm
          · rcases verifyForm_eq_some hv with rfl | rfl | rfl | rfl <;>
              simp only [List.head?_cons, Option.some.injEq, Item.op.injEq] at h' <;>
              exact absurd h' (by decide)
        subst hb
        obtain ⟨k, rest', rfl, -⟩ := Terminal.items_dupHash160 s tl hs
        obtain ⟨ys, hys, hne⟩ := verifyItems_cons_op (o := OP_EQUALVERIFY) (by decide) rest'
        rw [verifyItems_cons _ (by simp), verifyItems_cons _ (by simp), hys] at h
        obtain ⟨-, rfl⟩ := List.cons.inj h
        exact ⟨k, ys, rfl, fun h0 => absurd h0 hne⟩
  | .thresh _ .nil, _, h => by
      simp [Terminal.items, Terminals.threshItems, intItem_ne_dup] at h
  | .thresh _ (.cons t _), _, h => by
      simp only [Terminal.items, Terminals.threshItems, List.append_assoc] at h
      exact DupHash160Rest.of_append ser hser (Terminal.items_dupHash160 t) (by simp) h
  | .after n, _, h | .older n, _, h | .multi n _, _, h | .multiA n [], _, h => by
      simp [Terminal.items, intItem_ne_dup] at h
  | .pkK _, _, h | .multiA _ (_ :: _), _, h => by simp [Terminal.items] at h
  | .true, _, h | .false, _, h | .sha256 _, _, h | .hash256 _, _, h | .ripemd160 _, _, h
  | .hash160 _, _, h | .alt _, _, h | .swap _, _, h | .nonZero _, _, h | .orI _ _, _, h => by
      simp [Terminal.items, hashLockItems] at h <;> exact absurd h.1 (by decide)
  | .dupIf _, _, h => by simp [Terminal.items] at h; exact absurd h.1 (by decide)
end

/-- **Instructions `<D> OP_CHECKSIG` are those of `c:pk_k(K)` with `D` the key.** -/
theorem Terminal.items_eq_p2pk {t : Terminal Pk Pkh} {D : Bytes}
    (h : t.items ser hser = [.push D, .op OP_CHECKSIG]) :
    ∃ pk, t = .check (.pkK pk) ∧ ser pk = D := by
  rcases Terminal.getLast?_items_checksig ser hser (by rw [h]; rfl) with
    ⟨s, rfl⟩ | ⟨l, r, rfl⟩ | ⟨s, rfl⟩
  · have hs : s.items ser hser = [.push D] :=
      @List.append_inj_left' _ _ [.op OP_CHECKSIG] [.push D] [.op OP_CHECKSIG] h rfl
    rcases Terminal.items_eq_singleton ser hser hs with rfl | rfl | ⟨pk, rfl⟩ <;>
      simp [Terminal.items] at hs
    exact ⟨pk, rfl, hs⟩
  · obtain ⟨-, hr⟩ := append_eq_pair (Terminal.items_ne_nil ser hser l)
      (Terminal.items_ne_nil ser hser r) h
    rcases Terminal.items_eq_singleton ser hser hr with rfl | rfl | ⟨pk, rfl⟩ <;>
      simp [Terminal.items] at hr <;> exact absurd hr (by decide)
  · simp [Terminal.items] at h

/-- **Instructions `OP_DUP OP_HASH160 <H> OP_EQUALVERIFY OP_CHECKSIG` are those of `c:pk_h(H)`.** -/
theorem Terminal.items_eq_p2pkh {t : Terminal Pk Pkh} {H : Bytes}
    (h : t.items ser hser =
      [.op OP_DUP, .op OP_HASH160, .push H, .op OP_EQUALVERIFY, .op OP_CHECKSIG]) :
    ∃ k, t = .check (.pkH k) ∧ hser k = H := by
  rcases Terminal.getLast?_items_checksig ser hser (by rw [h]; rfl) with
    ⟨s, rfl⟩ | ⟨l, r, rfl⟩ | ⟨s, rfl⟩
  · have hs : s.items ser hser = [.op OP_DUP, .op OP_HASH160, .push H, .op OP_EQUALVERIFY] :=
      @List.append_inj_left' _ _ [.op OP_CHECKSIG] [.op OP_DUP, .op OP_HASH160, .push H,
        .op OP_EQUALVERIFY] [.op OP_CHECKSIG] h rfl
    obtain ⟨k, rest', hr, hk⟩ := Terminal.items_dupHash160 ser hser s _ hs
    obtain ⟨hH, rfl⟩ : Item.push H = .push (hser k) ∧ [] = rest' := by simpa using hr
    exact ⟨k, by rw [hk rfl], by simpa using hH.symm⟩
  · obtain ⟨k, rest', hr⟩ := dupHash160_append ser hser (Terminal.items_dupHash160 ser hser l) h
    simp only [List.cons.injEq, true_and] at hr
    rcases List.append_eq_cons_iff.mp hr.2.symm with ⟨-, hr⟩ | ⟨_, -, hr⟩
    · rcases Terminal.items_eq_singleton ser hser hr with rfl | rfl | ⟨pk, rfl⟩ <;>
        simp [Terminal.items] at hr <;> exact absurd hr (by decide)
    · exact absurd (List.append_eq_nil.mp hr.symm).2 (Terminal.items_ne_nil ser hser r)
  · simp [Terminal.items] at h; exact absurd h.1 (by decide)

end Items

/-! ## 4. Reading the bytes back as instructions -/

/-- The first byte `push_slice` writes: the length itself below `OP_PUSHDATA1`, one of the three
    `OP_PUSHDATA` opcodes otherwise. -/
theorem pushPrefix_cons (n : Nat) : ∃ x xs, pushPrefix n = x :: xs ∧
    (n < 0x4c → x.toNat = n ∧ xs = []) ∧ (0x4c ≤ n → 0x4c ≤ x.toNat ∧ x.toNat ≤ 0x4e) := by
  unfold pushPrefix
  split_ifs with h1 h2 h3
  · exact ⟨_, _, rfl, fun _ => ⟨show n % 256 = n by omega, rfl⟩, fun h => absurd h (by omega)⟩
  all_goals exact ⟨_, _, rfl, fun h => absurd h h1, fun _ => by decide⟩

theorem serItems_eq_nil {is : List Item} (h : serItems is = []) : is = [] := by
  match is, h with
  | [], _ => rfl
  | .op _ :: _, h => simp [Item.ser] at h
  | .push d :: _, h =>
    obtain ⟨x, xs, hp, -⟩ := pushPrefix_cons d.length
    simp [Item.ser, hp] at h

section Read

variable {is : List Item} {x : UInt8} {rest : Bytes}

/-- **A byte of `1` to `75` starts a push of that many bytes.** -/
theorem serItems_eq_push (hwf : wfItems is = true) (h : serItems is = x :: rest)
    (h1 : 1 ≤ x.toNat) (h2 : x.toNat < 0x4c) :
    ∃ d is', is = .push d :: is' ∧ d.length = x.toNat ∧ rest = d ++ serItems is' := by
  match is, hwf, h with
  | .op o :: _, hwf, h =>
    obtain ⟨rfl, -⟩ : o = x ∧ _ := by simpa [Item.ser] using h
    simp only [wfItems_cons, Bool.and_eq_true, decide_eq_true_eq, Item.Wf] at hwf
    rcases hwf.1 with rfl | h' <;> [exact absurd h1 (by decide); omega]
  | .push d :: is', _, h =>
    obtain ⟨y, ys, hp, hlt, hge⟩ := pushPrefix_cons d.length
    obtain ⟨rfl, hrest⟩ : y = x ∧ ys ++ (d ++ serItems is') = rest := by
      simpa [Item.ser, hp] using h
    by_cases hd : d.length < 0x4c
    · obtain ⟨hy, rfl⟩ := hlt hd
      exact ⟨d, is', rfl, hy.symm, by simpa using hrest.symm⟩
    · have := hge (by omega)
      omega

/-- **A byte above the push opcodes is that opcode.** -/
theorem serItems_eq_op (h : serItems is = x :: rest) (hx : 0x4f ≤ x.toNat) :
    ∃ is', is = .op x :: is' ∧ rest = serItems is' := by
  match is, h with
  | .op o :: is', h =>
    obtain ⟨rfl, hr⟩ : o = x ∧ serItems is' = rest := by simpa [Item.ser] using h
    exact ⟨is', rfl, hr.symm⟩
  | .push d :: is', h =>
    obtain ⟨y, ys, hp, hlt, hge⟩ := pushPrefix_cons d.length
    obtain ⟨rfl, -⟩ : y = x ∧ _ := by simpa [Item.ser, hp] using h
    by_cases hd : d.length < 0x4c
    · have := (hlt hd).1
      omega
    · have := hge (by omega)
      omega

/-- A zero byte is one instruction: `OP_0`, or the push of nothing. -/
theorem serItems_eq_zero (h : serItems is = x :: rest) (hx : x.toNat = 0) :
    ∃ i is', is = i :: is' ∧ rest = serItems is' := by
  match is, h with
  | .op o :: is', h =>
    obtain ⟨rfl, hr⟩ : o = x ∧ serItems is' = rest := by simpa [Item.ser] using h
    exact ⟨_, is', rfl, hr.symm⟩
  | .push d :: is', h =>
    obtain ⟨y, ys, hp, hlt, hge⟩ := pushPrefix_cons d.length
    obtain ⟨rfl, hrest⟩ : y = x ∧ ys ++ (d ++ serItems is') = rest := by
      simpa [Item.ser, hp] using h
    by_cases hd : d.length < 0x4c
    · obtain ⟨hy, rfl⟩ := hlt hd
      obtain rfl : d = [] := List.length_eq_zero.mp (by omega)
      exact ⟨_, is', rfl, by simpa using hrest.symm⟩
    · have := hge (by omega)
      omega

end Read

/-! ## 5. The templates a Miniscript's encoding can match -/

/-- The P2PK test: a push of 33 or 65 bytes, then `OP_CHECKSIG`. -/
theorem isP2pk_shape {s : Bytes} (h : isP2pk s = true) :
    ∃ x K, s = x :: (K ++ [OP_CHECKSIG]) ∧ x.toNat = K.length ∧ (K.length = 33 ∨ K.length = 65) := by
  match s, h with
  | [], h => simp [isP2pk] at h
  | x :: t, h =>
    obtain rfl | ⟨K, c, rfl⟩ := List.eq_nil_or_concat t
    · simp [isP2pk] at h
    rw [List.concat_eq_append] at h ⊢
    simp only [isP2pk, Bool.or_eq_true, Bool.and_eq_true, beq_iff_eq, List.length_cons,
      List.length_append, List.length_singleton, List.length_nil, List.getElem?_cons_zero,
      List.getElem?_cons_succ, Option.some.injEq] at h
    rcases h with ⟨⟨hl, rfl⟩, hc⟩ | ⟨⟨hl, rfl⟩, hc⟩
    · rw [show 65 = K.length by omega, List.getElem?_concat_length, Option.some.injEq] at hc
      exact ⟨_, K, by rw [hc], (show OP_PUSHBYTES_65.toNat = 65 by decide).trans (by omega),
        .inr (by omega)⟩
    · rw [show 33 = K.length by omega, List.getElem?_concat_length, Option.some.injEq] at hc
      exact ⟨_, K, by rw [hc], (show OP_PUSHBYTES_33.toNat = 33 by decide).trans (by omega),
        .inl (by omega)⟩

/-- The P2PKH test: the P2PKH template of a 20-byte hash. -/
theorem isP2pkh_shape {s : Bytes} (h : isP2pkh s = true) : ∃ H, H.length = 20 ∧ s = newP2pkh H := by
  match s, h with
  | [], h | [_], h | [_, _], h => simp [isP2pkh] at h
  | a :: b :: c :: t, h =>
    obtain rfl | ⟨t, e, rfl⟩ := List.eq_nil_or_concat t
    · simp [isP2pkh] at h
    obtain rfl | ⟨H, d, rfl⟩ := List.eq_nil_or_concat t
    · simp [isP2pkh] at h
    simp only [List.concat_eq_append] at h ⊢
    have hH : H.length = 20 := by simp [isP2pkh] at h; omega
    simp only [isP2pkh, Bool.and_eq_true, beq_iff_eq, List.getElem?_cons_zero,
      List.getElem?_cons_succ, Option.some.injEq] at h
    obtain ⟨⟨⟨⟨⟨-, rfl⟩, rfl⟩, rfl⟩, hd⟩, he⟩ := h
    rw [show 20 = H.length by omega, List.getElem?_append_left (by simp),
      List.getElem?_concat_length, Option.some.injEq] at hd
    rw [show 21 = (H ++ [d]).length by simp [hH], List.getElem?_concat_length,
      Option.some.injEq] at he
    subst hd he
    exact ⟨H, hH, by simp [newP2pkh]⟩

section Templates

variable (ms : Miniscript PublicKey Bytes)

theorem encodeFull_eq_serItems : ms.encodeFull = serItems (ms.node.items PublicKey.ser id) :=
  Terminal.bytes_encode ..

/-- **An encoding is P2PK only for `c:pk_k(K)`.** -/
theorem isP2pk_encodeFull (h : isP2pk ms.encodeFull = true) : ∃ pk, ms.node = .check (.pkK pk) := by
  obtain ⟨x, K, hs, hx, hK⟩ := isP2pk_shape h
  have hwf := Terminal.items_wf PublicKey.ser id ms.node
  rw [encodeFull_eq_serItems] at hs
  obtain ⟨d, is, his, hd, hrest⟩ := serItems_eq_push hwf hs (by omega) (by omega)
  obtain ⟨rfl, hr⟩ := List.append_inj hrest (by omega)
  obtain ⟨is', rfl, hnil⟩ := serItems_eq_op hr.symm (by decide)
  rw [serItems_eq_nil hnil.symm] at his
  obtain ⟨pk, hpk, -⟩ := Terminal.items_eq_p2pk PublicKey.ser id his
  exact ⟨pk, hpk⟩

/-- **An encoding is P2PKH only for `c:pk_h(H)`.** -/
theorem isP2pkh_encodeFull (h : isP2pkh ms.encodeFull = true) :
    ∃ k : Bytes, k.length = 20 ∧ ms.node = .check (.pkH k) := by
  obtain ⟨H, hH, hs⟩ := isP2pkh_shape h
  have hwf := Terminal.items_wf PublicKey.ser id ms.node
  have hs₀ : serItems (ms.node.items PublicKey.ser id) =
      OP_DUP :: OP_HASH160 :: OP_PUSHBYTES_20 :: (H ++ [OP_EQUALVERIFY, OP_CHECKSIG]) := by
    rw [← encodeFull_eq_serItems, hs]; simp [newP2pkh]
  obtain ⟨is₁, h₁, hs₁⟩ := serItems_eq_op hs₀ (by decide)
  obtain ⟨is₂, rfl, hs₂⟩ := serItems_eq_op hs₁.symm (by decide)
  simp only [h₁, wfItems_cons, Bool.and_eq_true] at hwf
  obtain ⟨d, is₃, rfl, hd, hs₃⟩ := serItems_eq_push hwf.2.2 hs₂.symm (by decide) (by decide)
  obtain ⟨rfl, hs₄⟩ := List.append_inj hs₃ (by rw [hd, hH]; decide)
  obtain ⟨is₄, rfl, hs₅⟩ := serItems_eq_op hs₄.symm (by decide)
  obtain ⟨is₅, rfl, hs₆⟩ := serItems_eq_op hs₅.symm (by decide)
  rw [serItems_eq_nil hs₆.symm] at h₁
  obtain ⟨k, hk, rfl⟩ := Terminal.items_eq_p2pkh PublicKey.ser id h₁
  exact ⟨k, hH, hk⟩

/-- An encoding is not one instruction followed by a push of 20 or 32 bytes that ends it: a
    fragment's last push is a key's 33 or 65 bytes. -/
theorem encodeFull_ne_program {y x : UInt8} {X : Bytes} (hy : y.toNat = 0 ∨ 0x4f ≤ y.toNat)
    (hx : x.toNat = X.length) (hX : X.length = 20 ∨ X.length = 32) :
    ms.encodeFull ≠ y :: x :: X := by
  intro hs
  have hwf := Terminal.items_wf PublicKey.ser id ms.node
  rw [encodeFull_eq_serItems] at hs
  obtain ⟨i, is, h₁, hs₁⟩ : ∃ i is, ms.node.items PublicKey.ser id = i :: is ∧
      x :: X = serItems is := by
    rcases hy with hy | hy
    · exact serItems_eq_zero hs hy
    · obtain ⟨is, h, hr⟩ := serItems_eq_op hs hy
      exact ⟨_, is, h, hr⟩
  simp only [h₁, wfItems_cons, Bool.and_eq_true] at hwf
  obtain ⟨d, is₂, rfl, hd, hs₂⟩ := serItems_eq_push hwf.2 hs₁.symm (by omega) (by omega)
  obtain ⟨rfl, hnil⟩ := List.append_inj (hs₂.symm.trans (List.append_nil X).symm) (by omega)
  rw [serItems_eq_nil hnil] at h₁
  obtain ⟨pk, hpk⟩ := Terminal.getLast?_items_push PublicKey.ser id ms.node (by rw [h₁]; rfl)
  rcases pk.length_bytes with h | h <;> simp only [PublicKey.ser] at hpk <;> subst hpk <;> omega

/-- **An encoding is never a P2WPKH, P2WSH or P2TR output, nor a P2SH one.** -/
theorem encodeFull_not_segwit :
    isV0P2wpkh ms.encodeFull = false ∧ isV0P2wsh ms.encodeFull = false ∧
      isV1P2tr ms.encodeFull = false ∧ isP2sh ms.encodeFull = false := by
  match hs : ms.encodeFull with
  | [] | [_] => simp [isV0P2wpkh, isV0P2wsh, isV1P2tr, isP2sh]
  | y :: x :: X =>
    have h20 : OP_PUSHBYTES_20.toNat = 20 := rfl
    have h32 : OP_PUSHBYTES_32.toNat = 32 := rfl
    simp only [isV0P2wpkh, isV0P2wsh, isV1P2tr, isP2sh, List.length_cons, List.getElem?_cons_zero,
      List.getElem?_cons_succ, Option.some.injEq, Bool.and_eq_true, beq_iff_eq, Bool.eq_false_iff,
      ne_eq]
    refine ⟨?wpkh, ?wsh, ?tr, ?sh⟩
    case wpkh =>
      rintro ⟨⟨hl, rfl⟩, rfl⟩
      exact encodeFull_ne_program ms (.inl (by decide)) (by omega) (.inl (by omega)) hs
    case wsh =>
      rintro ⟨⟨hl, rfl⟩, rfl⟩
      exact encodeFull_ne_program ms (.inl (by decide)) (by omega) (.inr (by omega)) hs
    case tr =>
      rintro ⟨⟨hl, rfl⟩, rfl⟩
      exact encodeFull_ne_program ms (.inr (by decide)) (by omega) (.inr (by omega)) hs
    case sh =>
      rintro ⟨⟨⟨-, rfl⟩, -⟩, -⟩
      rw [encodeFull_eq_serItems] at hs
      obtain ⟨is, his, -⟩ := serItems_eq_op hs (by decide)
      exact Terminal.head?_items PublicKey.ser id ms.node (by rw [his]; rfl)

end Templates

end ElementsMiniscript
