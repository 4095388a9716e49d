/-
  File:      ElementsMiniscript/Miniscript.lean
  Subject:   The Miniscript values the descriptors and the interpreter pass around: the
             fragment tree `Terminal`, its encoding into script, the key translation behind
             `translate_pk` and `to_no_checks_ms`, and the type data the library caches on a
             Miniscript (`Miniscript { node, ty, ext }`).

  The Miniscript library itself (type checker, decoder, satisfier) lies outside this
  repository's sources. A Miniscript is therefore modelled as the library leaves it: a tree
  together with the cached `ty` and `ext` that the code under `src/` reads
  (`ty.corr.base`, `ext.ops_count_sat`, `ext.has_free_verify`, `script_size`, the
  satisfaction bounds). The library's operations are parameters (`Library.lean`).

  * `Terminal.encode` -- `Terminal::encode`, one case per fragment;
  * `Terminal.translatePk` -- `real_translate_pk` with fallible closures, left to right;
    `Miniscript.translatePk` copies `ty` and `ext`, as the library does;
  * `Miniscript.toNoChecksMs` -- `ToNoChecks::to_no_checks_ms` for full and for x-only keys.
-/
import ElementsMiniscript.Keys

namespace ElementsMiniscript

/-! ## 1. Fragments -/

mutual
/-- `miniscript::Terminal`: the fragments of the language, over keys `Pk` and key hashes `Pkh`.
    Extension fragments are not modelled. -/
inductive Terminal (Pk Pkh : Type) where
  | «true»
  | «false»
  | pkK (pk : Pk)
  | pkH (h : Pkh)
  | after (n : Nat)
  | older (n : Nat)
  | sha256 (h : Bytes)
  | hash256 (h : Bytes)
  | ripemd160 (h : Bytes)
  | hash160 (h : Bytes)
  | alt (s : Terminal Pk Pkh)
  | swap (s : Terminal Pk Pkh)
  | check (s : Terminal Pk Pkh)
  | dupIf (s : Terminal Pk Pkh)
  | verify (s : Terminal Pk Pkh)
  | nonZero (s : Terminal Pk Pkh)
  | zeroNotEqual (s : Terminal Pk Pkh)
  | andV (l r : Terminal Pk Pkh)
  | andB (l r : Terminal Pk Pkh)
  | andOr (a b c : Terminal Pk Pkh)
  | orB (l r : Terminal Pk Pkh)
  | orD (l r : Terminal Pk Pkh)
  | orC (l r : Terminal Pk Pkh)
  | orI (l r : Terminal Pk Pkh)
  | thresh (k : Nat) (subs : Terminals Pk Pkh)
  | multi (k : Nat) (pks : List Pk)
  | multiA (k : Nat) (pks : List Pk)

/-- The sub-fragments of a `thresh`. -/
inductive Terminals (Pk Pkh : Type) where
  | nil
  | cons (t : Terminal Pk Pkh) (ts : Terminals Pk Pkh)
end

deriving instance DecidableEq for Terminal

/-! ## 2. Encoding -/

section Encode

variable {Pk Pkh : Type} (ser : Pk → Bytes) (hser : Pkh → Bytes)

/-- The hash-lock fragments: `SIZE 32 EQUALVERIFY <hash op> <h> EQUAL`. -/
def hashLock (op : UInt8) (h : Bytes) (b : Builder) : Builder :=
  ((((b.pushOpcode OP_SIZE).pushInt 32).pushOpcode OP_EQUALVERIFY).pushOpcode op |>.pushSlice h)
    |>.pushOpcode OP_EQUAL

/-- `multi`'s keys, each pushed in full. -/
def pushKeys : List Pk → Builder → Builder
  | [], b => b
  | pk :: pks, b => pushKeys pks (b.pushSlice (ser pk))

/-- `multi_a`'s later keys, each followed by `OP_CHECKSIGADD`. -/
def pushKeysAdd : List Pk → Builder → Builder
  | [], b => b
  | pk :: pks, b => pushKeysAdd pks ((b.pushSlice (ser pk)).pushOpcode OP_CHECKSIGADD)

mutual
/-- `Terminal::encode`: the fragment appended to the builder. -/
def Terminal.encode : Terminal Pk Pkh → Builder → Builder
  | .true, b => b.pushOpcode OP_PUSHNUM_1
  | .false, b => b.pushOpcode OP_0
  | .pkK pk, b => b.pushSlice (ser pk)
  | .pkH h, b => (((b.pushOpcode OP_DUP).pushOpcode OP_HASH160).pushSlice (hser h)).pushOpcode
      OP_EQUALVERIFY
  | .after n, b => (b.pushInt n).pushOpcode OP_CLTV
  | .older n, b => (b.pushInt n).pushOpcode OP_CSV
  | .sha256 h, b => hashLock OP_SHA256 h b
  | .hash256 h, b => hashLock OP_HASH256 h b
  | .ripemd160 h, b => hashLock OP_RIPEMD160 h b
  | .hash160 h, b => hashLock OP_HASH160 h b
  | .alt s, b => (s.encode (b.pushOpcode OP_TOALTSTACK)).pushOpcode OP_FROMALTSTACK
  | .swap s, b => s.encode (b.pushOpcode OP_SWAP)
  | .check s, b => (s.encode b).pushOpcode OP_CHECKSIG
  | .dupIf s, b => (s.encode ((b.pushOpcode OP_DUP).pushOpcode OP_IF)).pushOpcode OP_ENDIF
  | .verify s, b => (s.encode b).pushVerify
  | .nonZero s, b =>
      (s.encode (((b.pushOpcode OP_SIZE).pushOpcode OP_0NOTEQUAL).pushOpcode OP_IF)).pushOpcode
        OP_ENDIF
  | .zeroNotEqual s, b => (s.encode b).pushOpcode OP_0NOTEQUAL
  | .andV l r, b => r.encode (l.encode b)
  | .andB l r, b => (r.encode (l.encode b)).pushOpcode OP_BOOLAND
  | .andOr x y z, b =>
      (y.encode ((z.encode ((x.encode b).pushOpcode OP_NOTIF)).pushOpcode OP_ELSE)).pushOpcode
        OP_ENDIF
  | .orB l r, b => (r.encode (l.encode b)).pushOpcode OP_BOOLOR
  | .orD l r, b =>
      (r.encode (((l.encode b).pushOpcode OP_IFDUP).pushOpcode OP_NOTIF)).pushOpcode OP_ENDIF
  | .orC l r, b => (r.encode ((l.encode b).pushOpcode OP_NOTIF)).pushOpcode OP_ENDIF
  | .orI l r, b =>
      (r.encode ((l.encode (b.pushOpcode OP_IF)).pushOpcode OP_ELSE)).pushOpcode OP_ENDIF
  | .thresh k subs, b => ((Terminals.encodeThresh subs b).pushInt k).pushOpcode OP_EQUAL
  | .multi k pks, b =>
      ((pushKeys ser pks (b.pushInt k)).pushInt pks.length).pushOpcode OP_CHECKMULTISIG
  | .multiA k pks, b =>
      match pks with
      | [] => (b.pushInt k).pushOpcode OP_NUMEQUAL
      | pk :: rest =>
        ((pushKeysAdd ser rest ((b.pushSlice (ser pk)).pushOpcode OP_CHECKSIG)).pushInt k).pushOpcode
          OP_NUMEQUAL

/-- `thresh`'s sub-fragments: the first one, then each later one followed by `OP_ADD`. -/
def Terminals.encodeThresh : Terminals Pk Pkh → Builder → Builder
  | .nil, b => b
  | .cons t ts, b => Terminals.encodeAdd ts (t.encode b)

/-- The later sub-fragments of a `thresh`, each followed by `OP_ADD`. -/
def Terminals.encodeAdd : Terminals Pk Pkh → Builder → Builder
  | .nil, b => b
  | .cons t ts, b => Terminals.encodeAdd ts ((t.encode b).pushOpcode OP_ADD)
end

end Encode

/-! ## 3. Key translation -/

section Translate

variable {Pk Pkh Q Qh E : Type} (f : Pk → Except E Q) (g : Pkh → Except E Qh)

mutual
/-- `Terminal::real_translate_pk`: every key through `f`, every key hash through `g`, left to
    right; the first failure is returned. -/
def Terminal.translatePk : Terminal Pk Pkh → Except E (Terminal Q Qh)
  | .true => pure .true
  | .false => pure .false
  | .pkK pk => .pkK <$> f pk
  | .pkH h => .pkH <$> g h
  | .after n => pure (.after n)
  | .older n => pure (.older n)
  | .sha256 h => pure (.sha256 h)
  | .hash256 h => pure (.hash256 h)
  | .ripemd160 h => pure (.ripemd160 h)
  | .hash160 h => pure (.hash160 h)
  | .alt s => .alt <$> s.translatePk
  | .swap s => .swap <$> s.translatePk
  | .check s => .check <$> s.translatePk
  | .dupIf s => .dupIf <$> s.translatePk
  | .verify s => .verify <$> s.translatePk
  | .nonZero s => .nonZero <$> s.translatePk
  | .zeroNotEqual s => .zeroNotEqual <$> s.translatePk
  | .andV l r => do return .andV (← l.translatePk) (← r.translatePk)
  | .andB l r => do return .andB (← l.translatePk) (← r.translatePk)
  | .andOr x y z => do return .andOr (← x.translatePk) (← y.translatePk) (← z.translatePk)
  | .orB l r => do return .orB (← l.translatePk) (← r.translatePk)
  | .orD l r => do return .orD (← l.translatePk) (← r.translatePk)
  | .orC l r => do return .orC (← l.translatePk) (← r.translatePk)
  | .orI l r => do return .orI (← l.translatePk) (← r.translatePk)
  | .thresh k subs => .thresh k <$> Terminals.translatePk subs
  | .multi k pks => .multi k <$> pks.mapM f
  | .multiA k pks => .multiA k <$> pks.mapM f

/-- The sub-fragments of a `thresh`, translated in order. -/
def Terminals.translatePk : Terminals Pk Pkh → Except E (Terminals Q Qh)
  | .nil => pure .nil
  | .cons t ts => do return .cons (← t.translatePk) (← Terminals.translatePk ts)
end

end Translate

/-! ## 4. Cached type data and the Miniscript value -/

/-- The base type of a fragment (`types::Base`). -/
inductive Base where
  | B | K | V | W
  deriving DecidableEq, Repr

/-- `types::Type`, of which the code reads the base type (`ty.corr.base`). -/
structure Ty where
  base : Base
  deriving DecidableEq, Repr

/-- `types::extra_props::ExtData`, the fields the code reads. `pkCost` is `script_size()`;
    `maxSatSize` is the segwit witness size of `max_sat_size`. -/
structure ExtData where
  pkCost : Nat
  hasFreeVerify : Bool
  opsCountSat : Option Nat
  stackElemCountSat : Option Nat
  maxSatSize : Option Nat
  deriving DecidableEq, Repr

/-- `Miniscript { node, ty, ext }`. -/
structure Miniscript (Pk Pkh : Type) where
  node : Terminal Pk Pkh
  ty : Ty
  ext : ExtData

instance {Pk Pkh : Type} [DecidableEq Pk] [DecidableEq Pkh] : DecidableEq (Miniscript Pk Pkh) :=
  fun a b => decidable_of_iff (a.node = b.node ∧ a.ty = b.ty ∧ a.ext = b.ext) (by
    cases a; cases b; simp)

namespace Miniscript

variable {Pk Pkh : Type}

/-- `Miniscript::script_size`. -/
def scriptSize (ms : Miniscript Pk Pkh) : Nat := ms.ext.pkCost

/-- `Miniscript::encode`. -/
def encode (ser : Pk → Bytes) (hser : Pkh → Bytes) (ms : Miniscript Pk Pkh) : Bytes :=
  (ms.node.encode ser hser Builder.new).bytes

/-- `Miniscript::translate_pk`: the keys translated, `ty` and `ext` copied. -/
def translatePk {Q Qh E : Type} (f : Pk → Except E Q) (g : Pkh → Except E Qh)
    (ms : Miniscript Pk Pkh) : Except E (Miniscript Q Qh) :=
  (fun node => ⟨node, ms.ty, ms.ext⟩) <$> ms.node.translatePk f g

/-- `to_no_checks_ms` for full keys: `real_translate_pk` with `TranslateFullPk`, whose closures
    cannot fail, and `expect` on its result. -/
def toNoChecksMs (ms : Miniscript PublicKey Bytes) : Miniscript BitcoinKey TypedHash160 :=
  match (ms.translatePk (fun pk => .ok (.fullkey pk)) (fun h => .ok (.fullKey h)) :
      Except Unit (Miniscript BitcoinKey TypedHash160)) with
  | .ok m => m
  | .error () => ⟨.false, ms.ty, ms.ext⟩

/-- `to_no_checks_ms` for x-only keys (`TranslateXOnlyPk`). -/
def toNoChecksMsTap (ms : Miniscript XOnlyPublicKey Bytes) : Miniscript BitcoinKey TypedHash160 :=
  match (ms.translatePk (fun pk => .ok (.xOnlyPublicKey pk)) (fun h => .ok (.xonlyKey h)) :
      Except Unit (Miniscript BitcoinKey TypedHash160)) with
  | .ok m => m
  | .error () => ⟨.false, ms.ty, ms.ext⟩

end Miniscript

/-- The serialization of a full key as `push_key` writes it. -/
def PublicKey.ser (pk : PublicKey) : Bytes := pk.bytes

/-- `Miniscript<bitcoin::PublicKey, _>::encode`: keys in their own serialization, key hashes as
    their 20 bytes. -/
def Miniscript.encodeFull (ms : Miniscript PublicKey Bytes) : Bytes := ms.encode PublicKey.ser id

end ElementsMiniscript
