/-
  File:      ElementsMiniscript/Descriptor/PreTaproot.lean
  Subject:   `descriptor/pretaproot.rs`: the pre-taproot descriptor enum and its parser from
             a string, which dispatches on the top name and arity of the expression tree.

  The `Wpkh`, `Sh` and `Wsh` descriptors and their parsers live in modules absent from
  `src/`; their types and their `from_tree` are parameters.

  * `PreTaprootDescriptor.fromTree` -- `("pkh", 1)`, `("wpkh", 1)`, `("sh", 1)`, `("wsh", 1)` to
    the wrappers, every other tree to `Bare::from_tree`;
  * **`fromStr_ne_pkh`** -- the dispatch sends `Pkh::from_tree` only trees named `pkh`, which
    it refuses for not being `elpkh`: no string parses to a `Pkh` descriptor, in particular not
    the one `Pkh` prints.
-/
import ElementsMiniscript.Descriptor.Bare

namespace ElementsMiniscript

/-- `PreTaprootDescriptor`: the five descriptors that predate taproot. -/
inductive PreTaprootDescriptor (Pk H Wpkh Sh Wsh : Type) where
  | bare (d : Bare Pk H)
  | pkh (d : Pkh Pk)
  | wpkh (d : Wpkh)
  | sh (d : Sh)
  | wsh (d : Wsh)

/-- The parsers `PreTaprootDescriptor::from_tree` dispatches to whose modules are absent from
    `src/`. -/
structure WrapperParsers (Pk H Wpkh Sh Wsh : Type) extends Parsers Pk H where
  /-- `Wpkh::from_tree`. -/
  wpkhFromTree : Tree → Except Error Wpkh
  /-- `Sh::from_tree`. -/
  shFromTree : Tree → Except Error Sh
  /-- `Wsh::from_tree`. -/
  wshFromTree : Tree → Except Error Wsh

namespace PreTaprootDescriptor

variable {Pk H Wpkh Sh Wsh : Type} (P : WrapperParsers Pk H Wpkh Sh Wsh)

/-- `PreTaprootDescriptor::from_tree`: the wrappers by exact name and arity, in the code's
    order; every other tree is a bare descriptor. -/
def fromTree (top : Tree) : Except Error (PreTaprootDescriptor Pk H Wpkh Sh Wsh) :=
  match top.name, top.args.length with
  | "pkh", 1 => pkh <$> Pkh.fromTree P.pkFromStr top
  | "wpkh", 1 => wpkh <$> P.wpkhFromTree top
  | "sh", 1 => sh <$> P.shFromTree top
  | "wsh", 1 => wsh <$> P.wshFromTree top
  | _, _ => bare <$> Bare.fromTree P.toParsers top

/-- `PreTaprootDescriptor::from_str`: the checksum checked and dropped, the tree parsed, then
    `fromTree`. -/
def fromStr (s : String) : Except Error (PreTaprootDescriptor Pk H Wpkh Sh Wsh) := do
  let descStr ← verifyChecksum P.descChecksum s
  let top ← P.treeFromStr descStr
  fromTree P top

/-- No tree parses to a `Pkh` descriptor. -/
theorem fromTree_ne_pkh (top : Tree) (d : Pkh Pk) : fromTree P top ≠ .ok (.pkh d) := by
  intro h
  unfold fromTree at h
  split at h
  · rename_i hn _
    obtain ⟨d', hd', -⟩ := map_eq_ok.mp h
    exact absurd (hn.symm.trans (Pkh.name_of_fromTree hd')) (by decide)
  all_goals obtain ⟨_, -, hd⟩ := map_eq_ok.mp h; cases hd

/-- **No string parses to a `Pkh` descriptor**, whatever the checksum, tree and key parsers. -/
theorem fromStr_ne_pkh (s : String) (d : Pkh Pk) : fromStr P s ≠ .ok (.pkh d) := by
  intro h
  obtain ⟨_, -, h⟩ := bind_eq_ok.mp h
  obtain ⟨top, -, h⟩ := bind_eq_ok.mp h
  exact fromTree_ne_pkh P top d h

end PreTaprootDescriptor

end ElementsMiniscript
