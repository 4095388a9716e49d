/-
  File:      ElementsMiniscript/Descriptor/Bare.lean
  Subject:   `descriptor/bare.rs`: the `Bare` and `Pkh` descriptors -- their constructors,
             their parsers from an expression tree, the printed form of `Pkh`, their output
             scripts and their satisfactions.

  * `verifyChecksum` -- the checksum check the parsers read (its file is absent from `src/`;
    it follows the spec's checksum codec). `Parsers` holds what the parsers call from outside
    the sources; the expression tree and its parser are `Expression.lean`.
    `verifyChecksum_append` -- a text printed as `desc#tag` passes the check and gives `desc`
    back, when neither part holds a `#` (`splitOn_hash` brings `String.splitOn` on `#` to
    `List.splitOn`).
  * `bareTopLevelChecks` -- `BareCtx::top_level_checks` (`context.rs`, absent from `src/`): a
    `B` expression of a `BareShape` (`c:pk_k`, `c:pk_h`, `multi` of at most three keys),
    which reads no key (`bareTopLevelChecks_eq_ok_iff`).
  * `Bare.fromTree` -- a name with the `el` prefix, parsed without it as a Miniscript under
    the bare context; `Pkh.fromTree` -- exactly the name `elpkh` over one leaf, the key.
  * `Pkh.getSatisfaction` -- the signature and the key pushed in the scriptSig, an empty
    witness; `Bare.getSatisfaction` -- the Miniscript's satisfaction as scriptSig pushes
    (`witnessToScriptsig`, `Satisfy.lean`).
  * `Bare.translatePk` -- the `expect` after `Bare::new` is never reached, since a translation
    keeps the shape and the type the bare context's check reads, and the translation fails
    exactly on a refused key (`Bare.translatePk_total`).
  * `Bare.fromStr` -- `&desc_str[2..]` cuts two characters before `Bare::from_tree` asks for
    `el`: whatever the two are, they are dropped (`Bare.fromStr_eq`), so the printed form of a
    `Bare` does not parse back, and a text shorter than two bytes panics (`Bare.fromStr_short`).
  * **`Pkh.fromStr_toString`** -- the printed form of a `Pkh` parses back, when the key's
    printer and parser and the tree parser read it back (`Pkh.ReadsBack`).
-/
import ElementsMiniscript.Descriptor.Expression
import ElementsMiniscript.Satisfy
import ElementsMiniscript.Translate

namespace ElementsMiniscript

/-! ## 1. Checksums -/

/-- `ELMTS_STR`: the namespace prefix of the elements descriptors. -/
def ELMTS_STR : String := "el"

/-- Modelled from the spec: `verify_checksum` (absent from `src/`): exactly one `#`, followed
    by the checksum of the text before it, which is returned. -/
def verifyChecksum (descChecksum : String → Except Error String) (s : String) :
    Except Error String :=
  match s.splitOn "#" with
  | [desc, tag] => do
    let sum ← descChecksum desc
    if sum = tag then .ok desc else .error .badDescriptor
  | _ => .error .badDescriptor

/-- `String.splitOnAux` on the separator `#`, from a valid position: the pieces of the rest of
    the text as `List.splitOnP` cuts it, the current piece `m` given. -/
theorem splitOnAux_hash (l m r : List Char) (acc : List String) :
    String.splitOnAux ⟨l ++ m ++ r⟩ "#" ⟨String.utf8Len l⟩ ⟨String.utf8Len l + String.utf8Len m⟩ 0
      acc = acc.reverse ++ (List.splitOnP.go (· == '#') r m.reverse).map String.mk := by
  induction r generalizing l m acc with
  | nil =>
    unfold String.splitOnAux
    simp only [List.append_assoc, String.atEnd_iff, String.endPos_eq, String.utf8Len_append,
      String.Pos.mk_le_mk, List.append_nil]
    simpa [List.splitOnP.go] using String.extract_of_valid l m []
  | cons c r ih =>
    have hsep : "#".get 0 = '#' ∧ "#".next 0 = ⟨1⟩ ∧ "#".endPos = ⟨1⟩ := ⟨rfl, rfl, rfl⟩
    have hn := String.next_of_valid (l ++ m) c r
    simp only [List.append_assoc, String.utf8Len_append] at hn
    unfold String.splitOnAux
    simp only [List.append_assoc, String.atEnd_iff, String.endPos_eq, String.utf8Len_append,
      String.Pos.mk_le_mk, String.utf8Len_cons, hsep, le_refl, if_true, List.splitOnP.go,
      by simpa using String.get_of_valid (l ++ m) (c :: r)]
    rw [if_neg (by have := Char.utf8Size_pos c; omega)]
    split
    · case isTrue h =>
      obtain rfl : c = '#' := by simpa using h
      have hp : (⟨String.utf8Len l + String.utf8Len m + '#'.utf8Size⟩ : String.Pos) - ⟨1⟩ =
          ⟨String.utf8Len l + String.utf8Len m⟩ := String.Pos.ext (by simp [Char.utf8Size])
      have he := String.extract_of_valid l m ('#' :: r)
      have ih' := ih (l ++ m ++ ['#']) [] (⟨m⟩ :: acc)
      simp only [List.append_assoc, List.singleton_append, String.utf8Len_append,
        String.utf8Len_cons, String.utf8Len_nil] at ih' he
      rw [hn, hp, he]
      simpa [Nat.add_assoc] using ih'
    · case isFalse =>
      have ih' := ih l (m ++ [c]) acc
      simp only [List.append_assoc, List.singleton_append, String.utf8Len_append] at ih'
      have hp : (⟨String.utf8Len l + String.utf8Len m⟩ : String.Pos) - 0 =
          ⟨String.utf8Len l + String.utf8Len m⟩ := rfl
      rw [hp, hn]
      simpa [Nat.add_assoc] using ih'

/-- Splitting a text on `#` is splitting its characters on `#`. -/
theorem splitOn_hash (s : String) : s.splitOn "#" = (s.data.splitOn '#').map String.mk := by
  simpa [String.splitOn, List.splitOn, List.splitOnP] using splitOnAux_hash [] [] s.data []

/-- A text printed as `desc#tag` passes the checksum check, which returns `desc`, when neither
    part holds a `#` and `tag` is the checksum of `desc`. -/
theorem verifyChecksum_append (descChecksum : String → Except Error String) {desc tag : String}
    (hd : '#' ∉ desc.data) (ht : '#' ∉ tag.data) (hc : descChecksum desc = .ok tag) :
    verifyChecksum descChecksum (desc ++ "#" ++ tag) = .ok desc := by
  have hs : (desc ++ "#" ++ tag).data = ['#'].intercalate [desc.data, tag.data] := by
    simp [List.intercalate]
  have hsplit : (desc ++ "#" ++ tag).splitOn "#" = [desc, tag] := by
    rw [splitOn_hash, hs, List.splitOn_intercalate]
    · rfl
    · simpa using ⟨hd, ht⟩
    · simp
  simp [verifyChecksum, hsplit, hc]

/-- What the descriptor parsers call from outside this repository's sources, over keys `Pk`
    and key hashes `H`. -/
structure Parsers (Pk H : Type) where
  /-- `desc_checksum`. -/
  descChecksum : String → Except Error String
  /-- `expression::Tree::from_str`. -/
  treeFromStr : String → Except Error Tree
  /-- `Pk::from_str`. -/
  pkFromStr : String → Except Error Pk
  /-- `Miniscript::from_tree` under the bare context. -/
  msFromTree : Tree → Except Error (Miniscript Pk H)

/-- The checksum codec writes its tags without `#` (the spec's tag of eight characters of a
    checksum alphabet). -/
def Parsers.TagsPlain {Pk H : Type} (P : Parsers Pk H) : Prop :=
  ∀ desc tag, P.descChecksum desc = .ok tag → '#' ∉ tag.data

/-! ## 2. `Bare` -/

/-- `Bare`: a Miniscript under the bare context, used as the output script itself. -/
structure Bare (Pk H : Type) where
  ms : Miniscript Pk H

section BareDescriptor

variable {Pk H : Type}

/-- `BareCtx::other_top_level_checks` (`miniscript/context.rs`, absent from `src/`): a bare
    output script is `c:pk_k`, `c:pk_h`, or a `multi` of at most three keys. -/
def bareOtherTopLevelChecks (ms : Miniscript Pk H) : Except Error Unit :=
  match ms.node with
  | .check s =>
    match s with
    | .pkH _ | .pkK _ => .ok ()
    | _ => .error .nonStandardBareScript
  | .multi _ subs => if subs.length ≤ 3 then .ok () else .error .nonStandardBareScript
  | _ => .error .nonStandardBareScript

/-- `ScriptContext::top_level_checks` under `BareCtx` (`context.rs`, absent from `src/`):
    `top_level_type_check`, a `B` expression, then `other_top_level_checks`. -/
def bareTopLevelChecks (ms : Miniscript Pk H) : Except Error Unit :=
  if ms.ty.base ≠ .B then .error .nonTopLevel else bareOtherTopLevelChecks ms

/-- The trees a bare output script may be, with their keys forgotten: `c:pk_k`, `c:pk_h`, or a
    `multi` of at most three keys. -/
def BareShape : Terminal Unit Unit → Bool
  | .check (.pkK _) | .check (.pkH _) => true
  | .multi _ pks => pks.length ≤ 3
  | _ => false

theorem bareOtherTopLevelChecks_eq_ok_iff (ms : Miniscript Pk H) :
    bareOtherTopLevelChecks ms = .ok () ↔ BareShape ms.node.shape = true := by
  obtain ⟨node, ty, ext⟩ := ms
  cases node with
  | check s =>
    cases s <;> simp only [bareOtherTopLevelChecks, BareShape, Terminal.shape, Terminal.mapKeys,
      reduceCtorEq, Bool.false_eq_true]
  | multi k pks =>
    by_cases h : pks.length ≤ 3 <;> simp only [bareOtherTopLevelChecks, BareShape, Terminal.shape,
      Terminal.mapKeys, List.length_map, h, if_true, if_false, reduceCtorEq, decide_eq_true_eq]
  | _ => simp only [bareOtherTopLevelChecks, BareShape, Terminal.shape, Terminal.mapKeys,
      reduceCtorEq, Bool.false_eq_true]

/-- **The bare context's check reads only the tree's shape and the type, never a key**: it
    passes exactly the `B` expressions of a `BareShape`. -/
theorem bareTopLevelChecks_eq_ok_iff (ms : Miniscript Pk H) :
    bareTopLevelChecks ms = .ok () ↔ ms.ty.base = .B ∧ BareShape ms.node.shape = true := by
  unfold bareTopLevelChecks
  split_ifs with h
  · simp [h]
  · simp [not_not.mp h, bareOtherTopLevelChecks_eq_ok_iff]

/-- `Bare::new`: the bare context's top-level checks. -/
def Bare.new (ms : Miniscript Pk H) : Except Error (Bare Pk H) := do
  bareTopLevelChecks ms
  pure ⟨ms⟩

/-- `Bare::from_tree`: a name with the `el` prefix, parsed without it; the top-level checks run
    before `Bare::new` runs them again. -/
def Bare.fromTree (P : Parsers Pk H) (top : Tree) : Except Error (Bare Pk H) :=
  if top.name.startsWith ELMTS_STR then do
    let sub ← P.msFromTree ⟨top.name.drop 2, top.args⟩
    bareTopLevelChecks sub
    Bare.new sub
  else .error .unexpected

end BareDescriptor

/-- `Bare::script_pubkey`: the Miniscript's encoding. -/
def Bare.scriptPubkey (d : Bare PublicKey Bytes) : Bytes := d.ms.encodeFull

/-- `Bare::script_code`: the output script itself. -/
def Bare.scriptCode (d : Bare PublicKey Bytes) : Bytes := d.scriptPubkey

/-- `Bare::get_satisfaction`: the Miniscript's satisfaction under the bare context, written as
    scriptSig pushes by `witness_to_scriptsig`; an empty witness. -/
def Bare.getSatisfaction (L : Library) (d : Bare PublicKey Bytes) (s : Satisfier PublicKey) :
    Except Error (List Bytes × Bytes) := do
  let ms ← L.satisfy .bareCtx d.ms s
  pure ([], witnessToScriptsig ms)

/-! ## 3. `Pkh` -/

/-- `Pkh`: pay to the hash of a key. -/
structure Pkh (Pk : Type) where
  pk : Pk

/-- `Pkh::new`. -/
def Pkh.new {Pk : Type} (pk : Pk) : Pkh Pk := ⟨pk⟩

/-- `Pkh::from_tree`: the name `elpkh` over one leaf, the key. -/
def Pkh.fromTree {Pk : Type} (pkFromStr : String → Except Error Pk) (top : Tree) :
    Except Error (Pkh Pk) :=
  if top.name = "elpkh" then
    match top.args with
    | [arg] => Pkh.new <$> terminal arg pkFromStr
    | _ => .error .unexpected
  else .error .unexpected

/-- **`Pkh::from_tree` accepts only the name `elpkh`.** -/
theorem Pkh.name_of_fromTree {Pk : Type} {pkFromStr : String → Except Error Pk} {top : Tree}
    {d : Pkh Pk} (h : Pkh.fromTree pkFromStr top = .ok d) : top.name = "elpkh" := by
  unfold Pkh.fromTree at h
  split_ifs at h with hn
  exact hn

/-- `Pkh`'s `Display`: `elpkh(<key>)`, then `#` and its checksum. -/
def Pkh.toString {Pk : Type} (pkToString : Pk → String)
    (descChecksum : String → Except Error String) (d : Pkh Pk) : Except Error String := do
  let desc := ELMTS_STR ++ "pkh(" ++ pkToString d.pk ++ ")"
  let checksum ← descChecksum desc
  pure (desc ++ "#" ++ checksum)

/-- `Pkh::script_pubkey`: the P2PKH script of the key's hash. -/
def Pkh.scriptPubkey (L : Library) (d : Pkh PublicKey) : Bytes := newP2pkh (L.hash160 d.pk.bytes)

/-- `Pkh::script_code`: the output script itself. -/
def Pkh.scriptCode (L : Library) (d : Pkh PublicKey) : Bytes := d.scriptPubkey L

/-- `Pkh::get_satisfaction`: the signature, then the key, pushed in the scriptSig; an empty
    witness. -/
def Pkh.getSatisfaction (d : Pkh PublicKey) (s : Satisfier PublicKey) :
    Except Error (List Bytes × Bytes) :=
  match s.lookupEcdsaSig d.pk with
  | some sig => .ok ([], ((Builder.new.pushSlice sig.toVec).pushSlice d.pk.bytes).bytes)
  | none => .error .missingSig

/-! ## 4. Keys and their translation -/

section Keys

variable {Pk H Q Qh E : Type}

/-- `Bare::for_each_key`: the inner Miniscript's. -/
def Bare.forEachKey (pred : ForEach Pk H → Bool) (d : Bare Pk H) : Bool := d.ms.forEachKey pred

/-- `Pkh::for_each_key`: the predicate on the key. -/
def Pkh.forEachKey (pred : ForEach Pk H → Bool) (d : Pkh Pk) : Bool := pred (.key d.pk)

/-- `Bare::translate_pk`: the inner Miniscript translated, then `Bare::new` under the bare
    context's checks at the new keys, with `expect` on its result: `none` where that panics. -/
def Bare.translatePk (f : Pk → Except E Q) (g : H → Except E Qh) (d : Bare Pk H) :
    Option (Except E (Bare Q Qh)) :=
  match d.ms.translatePk f g with
  | .error e => some (.error e)
  | .ok ms =>
    match Bare.new ms with
    | .ok b => some (.ok b)
    | .error _ => none

/-- `Pkh::translate_pk`: the key through `f`; the hash closure is not called. -/
def Pkh.translatePk (f : Pk → Except E Q) (d : Pkh Pk) : Except E (Pkh Q) :=
  Pkh.new <$> f d.pk

theorem Bare.check_of_new {ms : Miniscript Pk H} {b : Bare Pk H} (h : Bare.new ms = .ok b) :
    bareTopLevelChecks b.ms = .ok () := by
  obtain ⟨_, hc, h⟩ := bind_eq_ok.mp h
  cases h
  exact hc

theorem Bare.check_of_fromTree {P : Parsers Pk H} {top : Tree} {b : Bare Pk H}
    (h : Bare.fromTree P top = .ok b) : bareTopLevelChecks b.ms = .ok () := by
  unfold Bare.fromTree at h
  split_ifs at h
  obtain ⟨_, -, h⟩ := bind_eq_ok.mp h
  obtain ⟨_, -, h⟩ := bind_eq_ok.mp h
  exact Bare.check_of_new h

/-- **`Bare::translate_pk` never panics, and fails exactly on a refused key**: for a `Bare`
    built by `new` or `from_tree` and any closures, the translated Miniscript has the same shape
    and type, so it passes the bare context's checks again and the `expect` is never reached;
    the result is an error exactly when a closure refuses a key or key hash of the descriptor. -/
theorem Bare.translatePk_total {P : Parsers Pk H} {b : Bare Pk H}
    (hb : (∃ ms, Bare.new ms = .ok b) ∨ ∃ top, Bare.fromTree P top = .ok b)
    (f : Pk → Except E Q) (g : H → Except E Qh) :
    ∃ r, Bare.translatePk f g b = some r ∧ r.isOk = b.ms.node.keys.all (ForEach.accepted f g) := by
  have hc : bareTopLevelChecks b.ms = .ok () := by
    rcases hb with ⟨_, h⟩ | ⟨_, h⟩
    exacts [Bare.check_of_new h, Bare.check_of_fromTree h]
  have hok := Miniscript.isOk_translatePk f g b.ms
  unfold Bare.translatePk
  split
  · rename_i e he
    rw [he] at hok
    exact ⟨_, rfl, hok⟩
  · rename_i m hm
    obtain ⟨hs, hty, -⟩ := Miniscript.translatePk_eq_ok f g hm
    have hm' : bareTopLevelChecks m = .ok () := by
      rw [bareTopLevelChecks_eq_ok_iff] at hc ⊢
      rwa [hs, hty]
    rw [hm] at hok
    exact ⟨_, by simp [Bare.new, hm']; rfl, hok⟩

end Keys

/-- Parsers to evaluate the model on: every checksum is `cs`, a text is read as the leaf of that
    name, and the Miniscript parser reads the tree `pk(K)` as `c:pk_k(PublicKey.sample)`. -/
def Parsers.sample : Parsers PublicKey Bytes where
  descChecksum := fun _ => .ok "cs"
  treeFromStr := fun s => .ok ⟨s, []⟩
  pkFromStr := fun _ => .error .unexpected
  msFromTree := fun
    | ⟨"pk", [⟨"K", []⟩]⟩ => .ok (msPk PublicKey.sample)
    | _ => .error .unexpected

set_option maxRecDepth 2000 in
/-- The bare descriptor `pk(K)`, translated by `Except.ok`. -/
theorem Bare.translatePk_total_sample :
    Bare.new (msPk PublicKey.sample) = .ok ⟨msPk PublicKey.sample⟩ ∧
      ∃ r, Bare.translatePk (fun pk => (.ok pk : Except Unit PublicKey)) (fun h => .ok h)
        ⟨msPk PublicKey.sample⟩ = some r ∧
      r.isOk = (msPk PublicKey.sample).node.keys.all
        (ForEach.accepted (fun pk => (.ok pk : Except Unit PublicKey)) (fun h => .ok h)) :=
  have hnew : Bare.new (msPk PublicKey.sample) = .ok ⟨msPk PublicKey.sample⟩ := rfl
  ⟨hnew, Bare.translatePk_total (P := Parsers.sample) (.inl ⟨_, hnew⟩) _ _⟩

/-! ## 5. The string forms -/

/-- `&s[i..]` on a `str`: the text from byte `i` on; `none` where Rust panics, with `i` past the
    end or inside a character. -/
def strSliceFrom : List Char → Nat → Option String
  | cs, 0 => some ⟨cs⟩
  | [], _ + 1 => none
  | c :: cs, i + 1 => if c.utf8Size ≤ i + 1 then strSliceFrom cs (i + 1 - c.utf8Size) else none

/-- Past the end of the text the slice panics. -/
theorem strSliceFrom_eq_none {cs : List Char} {i : Nat} (h : String.utf8ByteSize.go cs < i) :
    strSliceFrom cs i = none := by
  induction cs generalizing i with
  | nil => obtain ⟨i, rfl⟩ : ∃ j, i = j + 1 := ⟨i - 1, by omega⟩; rfl
  | cons c cs ih =>
    simp only [String.utf8ByteSize.go] at h
    obtain ⟨i, rfl⟩ : ∃ j, i = j + 1 := ⟨i - 1, by omega⟩
    simp only [strSliceFrom]
    split_ifs
    · exact ih (by omega)
    · rfl

/-- `Parsers.sample` with the tree parser `Tree.fromStr`, and the key `K` read as
    `PublicKey.sample`. -/
def Parsers.call : Parsers PublicKey Bytes :=
  { Parsers.sample with
    treeFromStr := Tree.fromStr
    pkFromStr := fun s => if s = "K" then .ok PublicKey.sample else .error .unexpected }

theorem Parsers.call_tagsPlain : Parsers.call.TagsPlain := by
  rintro _ _ ⟨⟩
  decide

section Strings

variable {Pk H : Type} (P : Parsers Pk H)

/-- `Bare`'s `Display`: `el`, the Miniscript as `msToString` prints it (`Miniscript`'s `Display`,
    absent from `src/`), then `#` and the checksum. -/
def Bare.toString (msToString : Miniscript Pk H → String) (d : Bare Pk H) :
    Except Error String := do
  let desc := ELMTS_STR ++ msToString d.ms
  let checksum ← P.descChecksum desc
  pure (desc ++ "#" ++ checksum)

/-- `Bare::from_str`: the checksum checked and dropped, the first two bytes cut off by
    `&desc_str[2..]` (`none` where that panics), the rest parsed as a tree for `Bare::from_tree`. -/
def Bare.fromStr (s : String) : Option (Except Error (Bare Pk H)) :=
  match verifyChecksum P.descChecksum s with
  | .error e => some (.error e)
  | .ok descStr => (strSliceFrom descStr.data 2).map fun rest => do
    let top ← P.treeFromStr rest
    Bare.fromTree P top

/-- `Pkh::from_str`: the checksum checked and dropped, the text parsed as a tree for
    `Pkh::from_tree`. -/
def Pkh.fromStr (s : String) : Except Error (Pkh Pk) := do
  let descStr ← verifyChecksum P.descChecksum s
  let top ← P.treeFromStr descStr
  Pkh.fromTree P.pkFromStr top

/-- The key printer and the parsers read a printed `Pkh` back: the key's text holds no `#` and
    parses to the key, and the tree parser reads `elpkh(<key>)` as the name `elpkh` over that
    leaf. -/
def Pkh.ReadsBack (pkToString : Pk → String) (d : Pkh Pk) : Prop :=
  '#' ∉ (pkToString d.pk).data ∧ P.pkFromStr (pkToString d.pk) = .ok d.pk ∧
    P.treeFromStr (ELMTS_STR ++ "pkh(" ++ pkToString d.pk ++ ")") =
      .ok ⟨"elpkh", [⟨pkToString d.pk, []⟩]⟩

/-- **A `Pkh` reads back from its printed text**: `Display` writes `el` and `pkh` where
    `from_tree` asks for the name `elpkh`, over the one leaf it reads the key from, and the
    text has exactly one `#`, before the checksum. -/
theorem Pkh.fromStr_toString {pkToString : Pk → String} {d : Pkh Pk} {s : String}
    (hs : Pkh.toString pkToString P.descChecksum d = .ok s) (htags : P.TagsPlain)
    (hr : Pkh.ReadsBack P pkToString d) : Pkh.fromStr P s = .ok d := by
  obtain ⟨hh, hk, ht⟩ := hr
  obtain ⟨tag, hc, hs⟩ := bind_eq_ok.mp hs
  cases hs
  have hd : '#' ∉ (ELMTS_STR ++ "pkh(" ++ pkToString d.pk ++ ")").data := by
    simpa [ELMTS_STR] using hh
  simp [Pkh.fromStr, verifyChecksum_append P.descChecksum hd (htags _ _ hc) hc, ht, Pkh.fromTree,
    terminal, hk, Pkh.new]

unseal String.splitOnAux in
/-- The `Pkh` of `PublicKey.sample`, printed with the key as `K`, reads back under the sample
    parsers. -/
theorem Pkh.fromStr_toString_sample :
    Pkh.toString (fun _ => "K") Parsers.call.descChecksum ⟨PublicKey.sample⟩ = .ok "elpkh(K)#cs" ∧
      Parsers.call.TagsPlain ∧ Pkh.ReadsBack Parsers.call (fun _ => "K") ⟨PublicKey.sample⟩ ∧
      Pkh.fromStr Parsers.call "elpkh(K)#cs" = .ok ⟨PublicKey.sample⟩ :=
  have hs : Pkh.toString (fun _ => "K") Parsers.call.descChecksum ⟨PublicKey.sample⟩ =
      .ok "elpkh(K)#cs" := rfl
  have hr : Pkh.ReadsBack Parsers.call (fun _ => "K") ⟨PublicKey.sample⟩ := ⟨by decide, rfl, rfl⟩
  ⟨hs, Parsers.call_tagsPlain, hr, Pkh.fromStr_toString Parsers.call hs Parsers.call_tagsPlain hr⟩

/-- **`Bare::from_str` cuts off the first two characters of the checksum-stripped text, whatever
    they are, and hands the rest to `Bare::from_tree`**, which asks for the `el` prefix in what
    remains. -/
theorem Bare.fromStr_eq {s : String} {c₁ c₂ : Char} {rest : String}
    (hv : verifyChecksum P.descChecksum s = .ok ⟨c₁ :: c₂ :: rest.data⟩) (h₁ : c₁.utf8Size = 1)
    (h₂ : c₂.utf8Size = 1) :
    Bare.fromStr P s = some (P.treeFromStr rest >>= Bare.fromTree P) := by
  simp [Bare.fromStr, hv, strSliceFrom, h₁, h₂]

unseal String.splitOnAux String.substrEq.loop in
/-- `Bare` of `pk(K)` prints as `elpk(K)#cs` under the sample parsers; `from_str` refuses that
    text and accepts `xyelpk(K)#cs`, which does not start with `el`. -/
theorem Bare.fromStr_sample :
    Bare.toString Parsers.call (fun _ => "pk(K)") ⟨msPk PublicKey.sample⟩ = .ok "elpk(K)#cs" ∧
      Bare.fromStr Parsers.call "elpk(K)#cs" = some (.error .unexpected) ∧
      Bare.fromStr Parsers.call "xyelpk(K)#cs" = some (.ok ⟨msPk PublicKey.sample⟩) :=
  ⟨rfl,
    (Bare.fromStr_eq Parsers.call (show verifyChecksum Parsers.call.descChecksum "elpk(K)#cs" =
      .ok ⟨'e' :: 'l' :: "pk(K)".data⟩ from rfl) rfl rfl).trans rfl,
    (Bare.fromStr_eq Parsers.call (show verifyChecksum Parsers.call.descChecksum "xyelpk(K)#cs" =
      .ok ⟨'x' :: 'y' :: "elpk(K)".data⟩ from rfl) rfl rfl).trans rfl⟩

/-- **`Bare::from_str` panics on a text shorter than two bytes**: `&desc_str[2..]` is taken before
    anything else is checked. -/
theorem Bare.fromStr_short {s desc : String} (hv : verifyChecksum P.descChecksum s = .ok desc)
    (hd : desc.utf8ByteSize < 2) : Bare.fromStr P s = none := by
  simp only [Bare.fromStr, hv, strSliceFrom_eq_none hd, Option.map_none']

unseal String.splitOnAux in
/-- Under the sample parsers `#cs` passes the checksum check with an empty text, on which
    `from_str` panics. -/
theorem Bare.fromStr_short_sample :
    verifyChecksum Parsers.sample.descChecksum "#cs" = .ok "" ∧
      Bare.fromStr Parsers.sample "#cs" = none :=
  have hv : verifyChecksum Parsers.sample.descChecksum "#cs" = .ok "" := rfl
  ⟨hv, Bare.fromStr_short Parsers.sample hv (by decide)⟩

end Strings

end ElementsMiniscript
