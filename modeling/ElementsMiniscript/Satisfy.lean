/-
  File:      ElementsMiniscript/Satisfy.lean
  Subject:   The Miniscript satisfier of `miniscript/satisfy.rs` and `util::witness_to_scriptsig`
             (both absent from `src/`), which `get_satisfaction` calls: the witness a fragment
             is satisfied or dissatisfied by, and the scriptSig a witness is written as.

  * `Witness`, `Witness.combine`, `Satisfaction.minimum` -- a stack or why there is none; two
    stacks one below the other; the non-malleable choice between two satisfactions.
  * `satisfy`, `dissatisfy` -- `Satisfaction::satisfy` and `dissatisfy` on the fragments
    `1`, `0`, `pk_k`, `pk_h`, `c:`, `v:`, `and_v` and `or_d` (`Terminal.Covered`);
    `satisfyMs` -- `Miniscript::satisfy`: the stack, checked by the context, or
    `CouldNotSatisfy`; a tree with another fragment is outside this model (`libraryError`).
  * `satisfyMs_elements` -- every element the satisfier writes is empty, a signature or a
    key (`ScriptsigElement`); `satisfyMs_pkH` -- the satisfaction of `c:pk_h(H)` ends in the
    key the satisfier gives for `H`.
  * `readScriptint`, `witnessToScriptsig` -- each element pushed as a number when it reads as
    one, as data otherwise; for the elements a satisfier writes that is the element's own push
    (`witnessToScriptsig_eq`).
-/
import ElementsMiniscript.Library
import ElementsMiniscript.Templates

namespace ElementsMiniscript

/-! ## 1. Witnesses and satisfactions -/

/-- `satisfy::Witness`: a stack of elements, bottom first, or why there is none. -/
inductive Witness where
  | stack (s : List Bytes)
  | unavailable
  | impossible
  deriving DecidableEq, Repr

namespace Witness

/-- `Witness::push_0`: the empty element. -/
def push0 : Witness := .stack [[]]

/-- `Witness::empty`: no element. -/
def empty : Witness := .stack []

/-- `Witness::combine`: the first stack below the second; `Impossible` before `Unavailable`. -/
def combine : Witness → Witness → Witness
  | .impossible, _ | _, .impossible => .impossible
  | .unavailable, _ | _, .unavailable => .unavailable
  | .stack a, .stack b => .stack (a ++ b)

/-- `util::witness_size`: the elements' bytes and the length of their count. -/
def size (w : List Bytes) : Nat := (w.map List.length).sum + varintLen w.length

/-- `Witness`'s order: stacks by size, then `Impossible`, then `Unavailable`. -/
def lt : Witness → Witness → Bool
  | .stack a, .stack b => size a < size b
  | .stack _, _ => true
  | _, .stack _ => false
  | .impossible, .unavailable => true
  | _, _ => false

/-- `cmp::min`: the second only when it is strictly smaller. -/
def min (a b : Witness) : Witness := if lt b a then b else a

/-- `Witness::signature`: the signature the satisfier has for the key, as `to_vec` writes it. -/
def signature (s : Satisfier PublicKey) (pk : PublicKey) : Witness :=
  match s.lookupEcdsaSig pk with
  | some sig => .stack [sig.toVec]
  | none => .unavailable

/-- `Witness::pkh_public_key`: the key the satisfier has for the hash. -/
def pkhPublicKey (s : Satisfier PublicKey) (h : Bytes) : Witness :=
  match s.lookupPkhPk h with
  | some pk => .stack [pk.bytes]
  | none => .unavailable

/-- `Witness::pkh_signature`: the signature and then the key for the hash, through
    `lookup_pkh_ecdsa_sig`, the key's lookup followed by its signature's. -/
def pkhSignature (s : Satisfier PublicKey) (h : Bytes) : Witness :=
  match s.lookupPkhPk h with
  | some pk =>
    match s.lookupEcdsaSig pk with
    | some sig => .stack [sig.toVec, pk.bytes]
    | none => .unavailable
  | none => .unavailable

end Witness

/-- `satisfy::Satisfaction`: a witness and whether it holds a signature. -/
structure Satisfaction where
  stack : Witness
  hasSig : Bool

/-- `Satisfaction::minimum`, the non-malleable choice: the other when one is impossible; of two
    without a signature neither, since a third party could swap one for the other; of one with
    a signature and one without, the one without; of two with signatures the smaller. -/
def Satisfaction.minimum (sat1 sat2 : Satisfaction) : Satisfaction :=
  match sat1.stack, sat2.stack with
  | .impossible, _ => sat2
  | _, .impossible => sat1
  | _, _ =>
    match sat1.hasSig, sat2.hasSig with
    | false, false => ⟨.unavailable, false⟩
    | false, true => ⟨sat1.stack, false⟩
    | true, false => ⟨sat2.stack, false⟩
    | true, true => ⟨Witness.min sat1.stack sat2.stack, true⟩

/-! ## 2. Satisfying a fragment -/

/-- The fragments this model of the satisfier covers. -/
def Terminal.Covered : Terminal PublicKey Bytes → Bool
  | .true | .false | .pkK _ | .pkH _ => Bool.true
  | .check s | .verify s => s.Covered
  | .andV l r | .orD l r => l.Covered && r.Covered
  | _ => Bool.false

section Satisfy

variable (s : Satisfier PublicKey)

mutual

/-- `Satisfaction::satisfy`: `and_v` puts the right side's witness below the left's, and `or_d`
    takes the minimum of the left satisfaction and the right one above the left
    dissatisfaction. The `assert!` that the left dissatisfaction of `or_d` holds no signature
    is not modelled. -/
def satisfy : Terminal PublicKey Bytes → Satisfaction
  | .true => ⟨.empty, false⟩
  | .false => ⟨.impossible, false⟩
  | .pkK pk => ⟨.signature s pk, true⟩
  | .pkH h => ⟨.pkhSignature s h, true⟩
  | .check t | .verify t => satisfy t
  | .andV l r =>
    ⟨.combine (satisfy r).stack (satisfy l).stack, (satisfy l).hasSig || (satisfy r).hasSig⟩
  | .orD l r =>
    Satisfaction.minimum (satisfy l)
      ⟨.combine (satisfy r).stack (dissatisfy l).stack, (satisfy r).hasSig⟩
  | _ => ⟨.impossible, false⟩

/-- `Satisfaction::dissatisfy`: an empty element for `pk_k`, and the key above it for `pk_h`;
    `v:` and `1` cannot be dissatisfied. -/
def dissatisfy : Terminal PublicKey Bytes → Satisfaction
  | .true => ⟨.impossible, false⟩
  | .false => ⟨.empty, false⟩
  | .pkK _ => ⟨.push0, false⟩
  | .pkH h => ⟨.combine .push0 (.pkhPublicKey s h), false⟩
  | .check t => dissatisfy t
  | .verify _ => ⟨.impossible, false⟩
  | .andV v other =>
    ⟨.combine (dissatisfy other).stack (satisfy v).stack,
      (satisfy v).hasSig || (dissatisfy other).hasSig⟩
  | .orD l r =>
    ⟨.combine (dissatisfy r).stack (dissatisfy l).stack,
      (dissatisfy r).hasSig || (dissatisfy l).hasSig⟩
  | _ => ⟨.impossible, false⟩

end

end Satisfy

/-- `MAX_STANDARD_P2WSH_STACK_ITEMS`. -/
def MAX_STANDARD_P2WSH_STACK_ITEMS : Nat := 100

/-! ## 3. `witness_to_scriptsig` -/

/-- `script::read_scriptint`: at most four bytes, little-endian, the sign in the top bit of the
    last byte; longer data is not a number. -/
def readScriptint (v : Bytes) : Option Int :=
  if 4 < v.length then none
  else
    match v.getLast? with
    | none => some 0
    | some last =>
      if last.toNat < 0x80 then some (readUint v)
      else some (-((readUint v % 2 ^ (8 * v.length - 1) : Nat) : Int))

/-- `build_scriptint` of a negative number by its magnitude: the magnitude as `scriptint`
    writes it, with the sign bit set in its last byte. -/
def scriptintNeg (n : Nat) : Bytes :=
  match (scriptint n).reverse with
  | [] => []
  | b :: bs => bs.reverse ++ [b ||| 0x80]

/-- `push_int` on any number: `OP_1NEGATE` for `-1`, `Builder.pushInt` on the others that are
    not negative, the number as data otherwise. -/
def Builder.pushIntSigned (b : Builder) (n : Int) : Builder :=
  if n = -1 then b.pushOpcode OP_1NEGATE
  else if 0 ≤ n then b.pushInt n.toNat
  else b.pushSlice (scriptintNeg n.natAbs)

/-- One element of `witness_to_scriptsig`: a number when `read_scriptint` reads one. -/
def Builder.pushWitnessElem (b : Builder) (wit : Bytes) : Builder :=
  match readScriptint wit with
  | some n => b.pushIntSigned n
  | none => b.pushSlice wit

/-- `util::witness_to_scriptsig`: the elements pushed in order. -/
def witnessToScriptsig (witness : List Bytes) : Bytes :=
  (witness.foldl Builder.pushWitnessElem Builder.new).bytes

/-- The elements a satisfier writes: the empty element, `[1]`, and data of 5 to 75 bytes
    (signatures, keys, preimages). -/
def ScriptsigElement (e : Bytes) : Prop := e = [] ∨ e = [1] ∨ 4 < e.length ∧ e.length < 0x4c

/-- The instruction such an element is written as. -/
def scriptsigItem (e : Bytes) : Item :=
  if e = [] then .op OP_0 else if e = [1] then .op OP_PUSHNUM_1 else .push e

/-- Data of five bytes or more is written as a push. -/
theorem scriptsigItem_of_four_lt {e : Bytes} (h4 : 4 < e.length) : scriptsigItem e = .push e := by
  have hne : e ≠ [] := by rintro rfl; simp at h4
  have hne1 : e ≠ [1] := by rintro rfl; simp at h4
  simp [scriptsigItem, hne, hne1]

theorem pushWitnessElem_eq {e : Bytes} (he : ScriptsigElement e) (b : Builder) :
    b.pushWitnessElem e = b.pushItem (scriptsigItem e) := by
  rcases he with rfl | rfl | ⟨h4, -⟩
  · rfl
  · rfl
  · simp [Builder.pushWitnessElem, readScriptint, h4, scriptsigItem_of_four_lt h4]

/-- **`witness_to_scriptsig` writes each element a satisfier gives as its own push.** -/
theorem witnessToScriptsig_eq {w : List Bytes} (h : ∀ e ∈ w, ScriptsigElement e) :
    witnessToScriptsig w = serItems (w.map scriptsigItem) := by
  have hfold : ∀ (b : Builder), w.foldl Builder.pushWitnessElem b =
      b.pushItems (w.map scriptsigItem) := by
    induction w with
    | nil => intro b; rfl
    | cons e w ih =>
      intro b
      simp only [List.foldl_cons, List.map_cons, pushWitnessElem_eq (h e (by simp)),
        ih fun e' he' => h e' (by simp [he'])]
      rfl
  rw [witnessToScriptsig, hfold, Builder.bytes_pushItems]
  rfl

/-- `ScriptContext::check_witness` (`context.rs`, absent from `src/`): at most 100 elements
    under `Segwitv0`, 1000 under `Tap`, a scriptSig of at most 1650 bytes under `Legacy` and
    `BareCtx`. -/
def checkWitness : Ctx → List Bytes → Except Error Unit
  | .segwitv0, w => if w.length > MAX_STANDARD_P2WSH_STACK_ITEMS then .error .contextError else .ok ()
  | .tap, w => if w.length > 1000 then .error .contextError else .ok ()
  | .legacy, w | .bareCtx, w =>
    if (witnessToScriptsig w).length > 1650 then .error .contextError else .ok ()
  | .noChecks, _ => .ok ()

/-- `Miniscript::satisfy`: the satisfaction's stack, checked by the context, or
    `CouldNotSatisfy`; outside the fragments of this model, `libraryError`. -/
def satisfyMs (ctx : Ctx) (ms : Miniscript PublicKey Bytes) (s : Satisfier PublicKey) :
    Except Error (List Bytes) :=
  if ms.node.Covered then
    match (satisfy s ms.node).stack with
    | .stack stack => do
      checkWitness ctx stack
      pure stack
    | _ => .error .couldNotSatisfy
  else .error .libraryError

/-! ## 4. What the satisfier writes -/

/-- Every element of a witness, when it is a stack, is one a satisfier writes. -/
def Witness.Good : Witness → Prop
  | .stack w => ∀ e ∈ w, ScriptsigElement e
  | _ => True

namespace Witness

theorem good_combine {a b : Witness} (ha : a.Good) (hb : b.Good) : (combine a b).Good := by
  cases a <;> cases b <;> simp_all [combine, Good]
  rintro e (he | he)
  exacts [ha e he, hb e he]

theorem good_min {a b : Witness} (ha : a.Good) (hb : b.Good) : (min a b).Good := by
  unfold min
  split_ifs <;> assumption

theorem good_signature (s : Satisfier PublicKey) (pk : PublicKey) : (signature s pk).Good := by
  unfold signature
  split
  · rename_i sig _
    have := sig.sig.der_length
    simp [Good, ScriptsigElement, ElementsSig.toVec]
    omega
  · trivial

theorem good_key (pk : PublicKey) : ScriptsigElement pk.bytes := by
  rcases pk.length_bytes with h | h <;> simp [ScriptsigElement, h]

theorem good_pkhPublicKey (s : Satisfier PublicKey) (h : Bytes) : (pkhPublicKey s h).Good := by
  unfold pkhPublicKey
  split
  · simpa [Good] using good_key _
  · trivial

theorem good_pkhSignature (s : Satisfier PublicKey) (h : Bytes) : (pkhSignature s h).Good := by
  unfold pkhSignature
  split
  · rename_i pk _
    have := good_signature s pk
    unfold signature at this
    split <;> simp_all [Good, good_key]
  · trivial

end Witness

theorem Satisfaction.good_minimum {a b : Satisfaction} (ha : a.stack.Good) (hb : b.stack.Good) :
    (Satisfaction.minimum a b).stack.Good := by
  unfold Satisfaction.minimum
  split
  · exact hb
  · exact ha
  · split <;> first | trivial | assumption | exact Witness.good_min ha hb

/-- **Every element the satisfier writes is empty, a signature or a key**, in a satisfaction and
    in a dissatisfaction alike. -/
theorem good_satisfy (s : Satisfier PublicKey) :
    ∀ t : Terminal PublicKey Bytes, (satisfy s t).stack.Good ∧ (dissatisfy s t).stack.Good
  | .true => ⟨by simp [satisfy, Witness.empty, Witness.Good], trivial⟩
  | .false => ⟨trivial, by simp [dissatisfy, Witness.empty, Witness.Good]⟩
  | .pkK pk => ⟨Witness.good_signature s pk, by simp [dissatisfy, Witness.push0, Witness.Good,
      ScriptsigElement]⟩
  | .pkH h => ⟨Witness.good_pkhSignature s h, Witness.good_combine
      (by simp [Witness.push0, Witness.Good, ScriptsigElement]) (Witness.good_pkhPublicKey s h)⟩
  | .check t => good_satisfy s t
  | .verify t => ⟨(good_satisfy s t).1, trivial⟩
  | .andV l r =>
    have hl := good_satisfy s l
    have hr := good_satisfy s r
    ⟨Witness.good_combine hr.1 hl.1, Witness.good_combine hr.2 hl.1⟩
  | .orD l r =>
    have hl := good_satisfy s l
    have hr := good_satisfy s r
    ⟨Satisfaction.good_minimum hl.1 (Witness.good_combine hr.1 hl.2),
      Witness.good_combine hr.2 hl.2⟩
  | .after _ | .older _ | .sha256 _ | .hash256 _ | .ripemd160 _ | .hash160 _ | .alt _
  | .swap _ | .dupIf _ | .nonZero _ | .zeroNotEqual _ | .andB _ _ | .andOr _ _ _ | .orB _ _
  | .orC _ _ | .orI _ _ | .thresh _ _ | .multi _ _ | .multiA _ _ => ⟨trivial, trivial⟩

theorem satisfyMs_elements {ctx : Ctx} {ms : Miniscript PublicKey Bytes} {s : Satisfier PublicKey}
    {sat : List Bytes} (h : satisfyMs ctx ms s = .ok sat) : ∀ e ∈ sat, ScriptsigElement e := by
  unfold satisfyMs at h
  split_ifs at h
  have hg := (good_satisfy s ms.node).1
  split at h
  · rename_i stack hs
    obtain ⟨_, -, h⟩ := bind_eq_ok.mp h
    cases h
    rw [hs] at hg
    exact hg
  · cases h

/-- **The satisfaction of `c:pk_h(H)` is a signature, then the key the satisfier gives for `H`.** -/
theorem satisfyMs_pkH {ctx : Ctx} {ms : Miniscript PublicKey Bytes} {s : Satisfier PublicKey}
    {sat : List Bytes} {k : Bytes} (hn : ms.node = .check (.pkH k))
    (h : satisfyMs ctx ms s = .ok sat) :
    ∃ pk sat', sat = sat' ++ [pk.bytes] ∧ s.lookupPkhPk k = some pk := by
  simp only [satisfyMs, hn, Terminal.Covered, if_true, satisfy, Witness.pkhSignature] at h
  cases hpk : s.lookupPkhPk k with
  | none => simp [hpk] at h
  | some pk =>
    cases hsig : s.lookupEcdsaSig pk with
    | none => simp [hpk, hsig] at h
    | some sig =>
      simp only [hpk, hsig] at h
      obtain ⟨_, -, h⟩ := bind_eq_ok.mp h
      cases h
      exact ⟨pk, [sig.toVec], rfl, rfl⟩

end ElementsMiniscript
