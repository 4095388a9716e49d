/-
  File:      ElementsMiniscript/Descriptor/Expression.lean
  Subject:   `expression.rs` (absent from `src/`), which the descriptor parsers read their text
             through: the expression tree, `terminal`, and `Tree::from_str`.

  * `Tree.fromSlice`, `Tree.fromArgs` -- a name up to the first `(`, `,` or `)`; after `(`, the
    arguments up to the closing `)`, each one level deeper, `MaxRecursiveDepthExceeded` at
    depth 402; `Tree.fromStr` -- ASCII only, one tree and nothing after it.
  * `Tree.print` -- a name, then its arguments in brackets, separated by commas.
  * **`Tree.fromStr_print`** -- a printed tree parses back, when its names are plain (ASCII,
    none of `(`, `,`, `)`) and it is nested less deep than the recursion limit. It is assembled
    from one lemma per level: `Tree.fromSlice_print` for a tree followed by `,` or `)`, and
    `Tree.fromArgs_printArgs` for the arguments followed by the closing `)`.
-/
import ElementsMiniscript.Library

namespace ElementsMiniscript

/-! ## 1. Trees -/

/-- `expression::Tree`: a name and its arguments. -/
structure Tree where
  name : String
  args : List Tree

/-- Modelled from the spec: `expression::terminal` (absent from `src/`): the name of a leaf,
    read by `convert`; a node with arguments is refused. -/
def terminal {α : Type} (t : Tree) (convert : String → Except Error α) : Except Error α :=
  if t.args.isEmpty then convert t.name else .error .unexpected

/-! ## 2. The parser -/

/-- `expression::MAX_RECURSION_DEPTH`. -/
def MAX_RECURSION_DEPTH : Nat := 402

/-- The characters at which `from_slice` ends a name. -/
def isDelim (c : Char) : Bool := c = '(' || c = ',' || c = ')'

mutual

/-- `Tree::from_slice` at `depth`: the name up to the first `(`, `,` or `)`; after `(`, the
    arguments up to the closing `)`, each one level deeper. `fuel` bounds the nesting of the
    calls; twice the text's length is enough (`Tree.fromStr`). -/
def Tree.fromSlice : (fuel depth : Nat) → List Char → Except Error (Tree × List Char)
  | 0, _, _ => .error .unexpected
  | fuel + 1, depth, sl =>
    if MAX_RECURSION_DEPTH ≤ depth then .error .maxRecursiveDepthExceeded
    else
      match sl.span (fun c => !isDelim c) with
      | (name, '(' :: rest) => do
        let (args, rest') ← Tree.fromArgs fuel (depth + 1) rest
        pure (⟨String.mk name, args⟩, rest')
      | (name, rest) => pure (⟨String.mk name, []⟩, rest)

/-- The loop of `from_slice` over a call's arguments: an argument, then `,` and the next, or the
    closing `)`; anything else, the end of the text included, is `ExpectedChar`. -/
def Tree.fromArgs : (fuel depth : Nat) → List Char → Except Error (List Tree × List Char)
  | 0, _, _ => .error .unexpected
  | fuel + 1, depth, sl => do
    let (arg, newSl) ← Tree.fromSlice fuel depth sl
    match newSl with
    | ',' :: rest => do
      let (args, rest') ← Tree.fromArgs fuel depth rest
      pure (arg :: args, rest')
    | ')' :: rest => pure ([arg], rest)
    | _ => .error .expectedChar

end

/-- `Tree::from_str`: ASCII only, then one tree from depth `0` and nothing after it. -/
def Tree.fromStr (s : String) : Except Error Tree :=
  if s.data.all (fun c => c.toNat < 0x80) then do
    let (top, rem) ← Tree.fromSlice (2 * s.length + 2) 0 s.data
    if rem.isEmpty then pure top else .error .unexpected
  else .error .unprintable

/-! ## 3. Printing, and parsing what is printed -/

mutual

/-- A tree as the descriptors print it: the name, then the arguments in brackets. -/
def Tree.print : Tree → List Char
  | ⟨name, []⟩ => name.data
  | ⟨name, a :: as⟩ => name.data ++ '(' :: Tree.printArgs (a :: as) ++ [')']

/-- Arguments separated by commas. -/
def Tree.printArgs : List Tree → List Char
  | [] => []
  | [a] => a.print
  | a :: b :: bs => a.print ++ ',' :: Tree.printArgs (b :: bs)

end

/-- A name the parser reads back: ASCII, and none of `(`, `,`, `)`. -/
def plainName (name : String) : Bool := name.data.all fun c => c.toNat < 0x80 && !isDelim c

mutual

/-- Every name of the tree is plain. -/
def Tree.plain : Tree → Bool
  | ⟨name, []⟩ => plainName name
  | ⟨name, a :: as⟩ => plainName name && Tree.plainArgs (a :: as)

def Tree.plainArgs : List Tree → Bool
  | [] => true
  | a :: as => a.plain && Tree.plainArgs as

end

mutual

/-- How deep the arguments nest. -/
def Tree.height : Tree → Nat
  | ⟨_, []⟩ => 0
  | ⟨_, a :: as⟩ => Tree.heightArgs (a :: as) + 1

def Tree.heightArgs : List Tree → Nat
  | [] => 0
  | a :: as => max a.height (Tree.heightArgs as)

end

/-- A plain name followed by a delimiter, or by nothing, is split off whole. -/
theorem span_plainName {name : String} (hn : plainName name = true) {rest : List Char}
    (hr : ∀ c ∈ rest.head?, isDelim c = true) :
    (name.data ++ rest).span (fun c => !isDelim c) = (name.data, rest) := by
  have hn' : ∀ c ∈ name.data, (!isDelim c) = true := fun c hc => by
    simp only [plainName, List.all_eq_true, Bool.and_eq_true] at hn
    exact (hn c hc).2
  rw [List.span_eq_take_drop, List.takeWhile_append_of_pos hn', List.dropWhile_append_of_pos hn']
  cases rest with
  | nil => simp
  | cons c r => simp [List.takeWhile_cons, List.dropWhile_cons, hr c rfl]

mutual

/-- A printed tree followed by `,`, `)` or nothing is read back, the rest left. -/
theorem Tree.fromSlice_print (t : Tree) (fuel depth : Nat) (rest : List Char)
    (hp : t.plain = true) (hf : 2 * t.print.length + 1 ≤ fuel)
    (hd : depth + t.height < MAX_RECURSION_DEPTH) (hr : ∀ c ∈ rest.head?, c = ',' ∨ c = ')') :
    Tree.fromSlice fuel depth (t.print ++ rest) = .ok (t, rest) := by
  obtain ⟨fuel, rfl⟩ : ∃ f, fuel = f + 1 := ⟨fuel - 1, by omega⟩
  match t with
  | ⟨name, []⟩ =>
    have hr' : ∀ c ∈ rest.head?, isDelim c = true := fun c hc => by
      rcases hr c hc with rfl | rfl <;> rfl
    simp only [Tree.height] at hd
    simp only [Tree.plain] at hp
    simp only [Tree.fromSlice, Tree.print, if_neg (show ¬MAX_RECURSION_DEPTH ≤ depth by omega),
      span_plainName hp hr']
    match rest, hr with
    | [], _ => rfl
    | c :: r, hr => rcases hr c rfl with rfl | rfl <;> rfl
  | ⟨name, a :: as⟩ =>
    simp only [Tree.plain, Bool.and_eq_true] at hp
    simp only [Tree.height] at hd
    simp only [Tree.print, List.length_append, List.length_cons, List.length_singleton] at hf
    have hargs := Tree.fromArgs_printArgs (a :: as) fuel (depth + 1) rest (List.cons_ne_nil a as)
      hp.2 (by omega) (by omega)
    have hs : (name.data ++ '(' :: Tree.printArgs (a :: as) ++ [')']) ++ rest =
        name.data ++ '(' :: (Tree.printArgs (a :: as) ++ ')' :: rest) := by simp
    have hpar : ∀ c ∈ ('(' :: (Tree.printArgs (a :: as) ++ ')' :: rest)).head?, isDelim c = true :=
      by simp [isDelim]
    simp only [Tree.fromSlice, Tree.print, hs, if_neg (show ¬MAX_RECURSION_DEPTH ≤ depth by omega),
      span_plainName hp.1 hpar, hargs]
    rfl

/-- Printed arguments followed by the closing `)` are read back, the rest after it left. -/
theorem Tree.fromArgs_printArgs (as : List Tree) (fuel depth : Nat) (rest : List Char)
    (hne : as ≠ []) (hp : Tree.plainArgs as = true) (hf : 2 * (Tree.printArgs as).length + 2 ≤ fuel)
    (hd : depth + Tree.heightArgs as < MAX_RECURSION_DEPTH) :
    Tree.fromArgs fuel depth (Tree.printArgs as ++ ')' :: rest) = .ok (as, rest) := by
  obtain ⟨fuel, rfl⟩ : ∃ f, fuel = f + 1 := ⟨fuel - 1, by omega⟩
  match as with
  | [] => exact absurd rfl hne
  | [a] =>
    simp only [Tree.plainArgs, Bool.and_eq_true] at hp
    simp only [Tree.heightArgs] at hd
    simp only [Tree.printArgs] at hf
    have ha := Tree.fromSlice_print a fuel depth (')' :: rest) hp.1 (by omega) (by omega)
      (by simp)
    simp only [Tree.fromArgs, Tree.printArgs, ha]
    rfl
  | a :: b :: bs =>
    simp only [Tree.plainArgs, Bool.and_eq_true] at hp
    rw [Tree.heightArgs] at hd
    have := le_max_left a.height (Tree.heightArgs (b :: bs))
    have := le_max_right a.height (Tree.heightArgs (b :: bs))
    rw [Tree.printArgs, List.length_append, List.length_cons] at hf
    have ha := Tree.fromSlice_print a fuel depth (',' :: (Tree.printArgs (b :: bs) ++ ')' :: rest))
      hp.1 (by omega) (by omega) (by simp)
    have hbs := Tree.fromArgs_printArgs (b :: bs) fuel depth rest (List.cons_ne_nil b bs)
      (by simpa [Tree.plainArgs] using hp.2) (by omega) (by omega)
    simp only [Tree.fromArgs, Tree.printArgs, List.append_assoc, List.cons_append, ha, ok_bind,
      hbs]
    rfl

end

mutual

theorem Tree.print_ascii (t : Tree) (hp : t.plain = true) : ∀ c ∈ t.print, c.toNat < 0x80 := by
  match t with
  | ⟨name, []⟩ =>
    simp only [Tree.plain, plainName, List.all_eq_true, Bool.and_eq_true, decide_eq_true_eq] at hp
    exact fun c hc => (hp c hc).1
  | ⟨name, a :: as⟩ =>
    simp only [Tree.plain, plainName, List.all_eq_true, Bool.and_eq_true, decide_eq_true_eq] at hp
    have hargs := Tree.printArgs_ascii (a :: as) hp.2
    intro c hc
    simp only [Tree.print, List.mem_append, List.mem_cons, List.mem_singleton,
      List.not_mem_nil, or_false] at hc
    rcases hc with (hc | rfl | hc) | rfl
    exacts [(hp.1 c hc).1, by decide, hargs c hc, by decide]

theorem Tree.printArgs_ascii (as : List Tree) (hp : Tree.plainArgs as = true) :
    ∀ c ∈ Tree.printArgs as, c.toNat < 0x80 := by
  match as with
  | [] => simp [Tree.printArgs]
  | [a] =>
    simp only [Tree.plainArgs, Bool.and_eq_true] at hp
    exact Tree.print_ascii a hp.1
  | a :: b :: bs =>
    simp only [Tree.plainArgs, Bool.and_eq_true] at hp
    have ha := Tree.print_ascii a hp.1
    have hbs := Tree.printArgs_ascii (b :: bs) (by simpa [Tree.plainArgs] using hp.2)
    intro c hc
    simp only [Tree.printArgs, List.mem_append, List.mem_cons] at hc
    rcases hc with hc | rfl | hc
    exacts [ha c hc, by decide, hbs c hc]

end

/-- **A printed tree parses back** when its names are plain and it nests less deep than the
    recursion limit. -/
theorem Tree.fromStr_print {t : Tree} (hp : t.plain = true) (hd : t.height < MAX_RECURSION_DEPTH) :
    Tree.fromStr ⟨t.print⟩ = .ok t := by
  have h := Tree.fromSlice_print t (2 * t.print.length + 2) 0 [] hp (by omega) (by omega)
    (by simp)
  rw [List.append_nil] at h
  have hascii : (t.print.all fun c => decide (c.toNat < 0x80)) = true :=
    List.all_eq_true.mpr fun c hc => decide_eq_true (Tree.print_ascii t hp c hc)
  simp only [Tree.fromStr, String.length, hascii, if_true, h]
  rfl

end ElementsMiniscript
