/-
  File:      ElementsMiniscript/Keys.lean
  Subject:   Keys as the interpreter and the descriptors handle them: full keys in their
             compressed or uncompressed serialization, x-only keys, and the tagged forms of
             the "no checks" context (`BitcoinKey`, `TypedHash160`).

  * `isXCoord`, `isPoint` -- the points of secp256k1, `y² = x³ + 7` over its base field; an
    x-coordinate is recognised by Euler's criterion, computed by `powMod`;
  * `PublicKey` -- `bitcoin::PublicKey`, kept as its serialization, whose validity is a field:
    33 bytes with prefix 2 or 3 and the x-coordinate of a point, or 65 bytes with prefix 4 and
    a point;
  * `PublicKey.fromSlice` -- `PublicKey::from_slice`: exactly the valid serializations parse.
    A parsed key serializes to exactly the bytes it came from (`toBytes_of_fromSlice`), and a
    key parses from its serialization (`fromSlice_toBytes`);
  * `XOnlyPublicKey`, `BitcoinKey`, `TypedHash160` -- the 32-byte keys of taproot, an
    x-coordinate of a point, and the two tagged unions `to_no_checks_ms` translates into.
-/
import ElementsMiniscript.Script

namespace ElementsMiniscript

/-! ## 1. The curve -/

/-- The order of the base field of secp256k1. -/
def fieldSize : Nat := 2 ^ 256 - 2 ^ 32 - 977

/-- `b ^ e % m`, by squaring, over the low `n` bits of `e`. -/
def powMod (m : Nat) : (n b e : Nat) → Nat
  | 0, _, _ => 1
  | n + 1, b, e => (if e % 2 = 1 then b else 1) * powMod m n (b * b % m) (e / 2) % m

/-- The number a byte string writes, most significant byte first. -/
def bytesToNat (b : Bytes) : Nat := b.foldl (fun acc x => acc * 256 + x.toNat) 0

/-- Whether `x` is the x-coordinate of a point of secp256k1: a field element for which
    `x³ + 7` is a square, by Euler's criterion (`x³ + 7` is never zero on this curve). -/
def isXCoord (x : Nat) : Bool :=
  x < fieldSize && powMod fieldSize 256 ((x ^ 3 + 7) % fieldSize) ((fieldSize - 1) / 2) == 1

/-- Whether `(x, y)` is a point of secp256k1. -/
def isPoint (x y : Nat) : Bool :=
  x < fieldSize && y < fieldSize && y * y % fieldSize == (x ^ 3 + 7) % fieldSize

/-! ## 2. Full keys -/

/-- The byte strings `PublicKey::from_slice` accepts: 33 bytes, prefix 2 or 3, then the
    x-coordinate of a point; or 65 bytes, prefix 4, then the two coordinates of a point (the
    hybrid prefixes 6 and 7 are refused). -/
def validKey (b : Bytes) : Bool :=
  (b.length == 33 && (b.head? == some 2 || b.head? == some 3) && isXCoord (bytesToNat (b.drop 1))) ||
    (b.length == 65 && b.head? == some 4 &&
      isPoint (bytesToNat ((b.drop 1).take 32)) (bytesToNat (b.drop 33)))

/-- `bitcoin::PublicKey`, kept as its serialization (`to_bytes`). -/
structure PublicKey where
  bytes : Bytes
  valid : validKey bytes = true
  deriving DecidableEq

namespace PublicKey

/-- `PublicKey::compressed`. -/
def compressed (pk : PublicKey) : Bool := pk.bytes.length == 33

/-- `PublicKey::from_slice`. -/
def fromSlice (b : Bytes) : Option PublicKey :=
  if h : validKey b = true then some ⟨b, h⟩ else none

theorem toBytes_of_fromSlice {b : Bytes} {pk : PublicKey} (h : fromSlice b = some pk) :
    pk.bytes = b := by
  unfold fromSlice at h
  split at h
  · cases h; rfl
  · cases h

theorem fromSlice_toBytes (pk : PublicKey) : fromSlice pk.bytes = some pk := by
  simp [fromSlice, pk.valid]

/-- A key is 33 or 65 bytes long. -/
theorem length_bytes (pk : PublicKey) : pk.bytes.length = 33 ∨ pk.bytes.length = 65 := by
  have h := pk.valid
  simp only [validKey, Bool.or_eq_true, Bool.and_eq_true, beq_iff_eq] at h
  omega

theorem compressed_iff (pk : PublicKey) : pk.compressed = true ↔ pk.bytes.length = 33 := by
  simp [compressed]

end PublicKey

/-! ## 3. X-only keys and the tagged keys of the "no checks" context -/

/-- `bitcoin::XOnlyPublicKey`, kept as its 32 bytes, the x-coordinate of a point. -/
structure XOnlyPublicKey where
  bytes : Bytes
  length : bytes.length = 32
  onCurve : isXCoord (bytesToNat bytes) = true
  deriving DecidableEq

/-- `XOnlyPublicKey::from_slice`: 32 bytes, the x-coordinate of a point. -/
def XOnlyPublicKey.fromSlice (b : Bytes) : Option XOnlyPublicKey :=
  if h : b.length = 32 ∧ isXCoord (bytesToNat b) = true then some ⟨b, h.1, h.2⟩ else none

theorem XOnlyPublicKey.toBytes_of_fromSlice {b : Bytes} {pk : XOnlyPublicKey}
    (h : XOnlyPublicKey.fromSlice b = some pk) : pk.bytes = b := by
  unfold XOnlyPublicKey.fromSlice at h
  split at h
  · cases h; rfl
  · cases h

/-- `interpreter::BitcoinKey`: a key together with the encoding it was authenticated in. -/
inductive BitcoinKey where
  | fullkey (pk : PublicKey)
  | xOnlyPublicKey (pk : XOnlyPublicKey)
  deriving DecidableEq

set_option maxRecDepth 2000 in
/-- A compressed key to evaluate the model on: the point of x-coordinate `0x0707..07` with even
    y-coordinate. -/
def PublicKey.sample : PublicKey := ⟨2 :: List.replicate 32 7, by decide⟩

/-- `interpreter::TypedHash160`: a key hash together with the key encoding it commits to. -/
inductive TypedHash160 where
  | fullKey (h : Bytes)
  | xonlyKey (h : Bytes)
  deriving DecidableEq

end ElementsMiniscript
