/-
  File:      ElementsMiniscript/Translate.lean
  Subject:   The keys of a Miniscript: the keys and key hashes a tree holds, the traversal
             `for_each_key` over them, and what `real_translate_pk` does with them -- the tree
             kept, every key replaced, a failure exactly where a closure refuses a key.

  The library's traversal and the defaults of its `ForEachKey` trait are absent from `src/`;
  they are modelled from the spec (`Miniscript.forEachKey`, `Miniscript.forAnyKey`).

  * `Terminal.keys`, `Terminal.mapKeys`, `Terminal.shape` -- the keys left to right, the tree
    with its keys mapped, and the tree with its keys forgotten;
  * `Terminal.translatePk_mapKeys`, `Terminal.translatePk_ok` -- translating a mapped tree is
    translating through the composite, and translating by `Except.ok` gives the tree back;
  * `Terminal.isOk_translatePk` -- a translation succeeds exactly when the closures accept each
    key and key hash of the tree, and `Terminal.shape_of_translatePk` -- then keeps its shape;
  * `toNoChecksMs_tags` -- `to_no_checks_ms` never reaches its `expect`: it tags each key and
    key hash with its kind, keeps the tree, and translating the tags back recovers it.
-/
import ElementsMiniscript.Library

namespace ElementsMiniscript

/-! ## 1. Keys of a tree -/

/-- `ForEach`: what a `for_each_key` predicate is handed, a key or a key hash. -/
inductive ForEach (Pk Pkh : Type) where
  | key (pk : Pk)
  | hash (h : Pkh)
  deriving DecidableEq

section Keys

variable {Pk Pkh Q Qh : Type}

mutual
/-- The keys and key hashes of a tree, left to right. -/
def Terminal.keys : Terminal Pk Pkh → List (ForEach Pk Pkh)
  | .pkK pk => [.key pk]
  | .pkH h => [.hash h]
  | .alt s | .swap s | .check s | .dupIf s | .verify s | .nonZero s | .zeroNotEqual s => s.keys
  | .andV l r | .andB l r | .orB l r | .orD l r | .orC l r | .orI l r => l.keys ++ r.keys
  | .andOr a b c => a.keys ++ b.keys ++ c.keys
  | .thresh _ subs => Terminals.keys subs
  | .multi _ pks | .multiA _ pks => pks.map .key
  | .true | .false | .after _ | .older _ | .sha256 _ | .hash256 _ | .ripemd160 _ | .hash160 _ => []

/-- The keys of the sub-fragments of a `thresh`, in order. -/
def Terminals.keys : Terminals Pk Pkh → List (ForEach Pk Pkh)
  | .nil => []
  | .cons t ts => t.keys ++ Terminals.keys ts
end

mutual
/-- The tree with each key mapped by `f` and each key hash by `g`. -/
def Terminal.mapKeys (f : Pk → Q) (g : Pkh → Qh) : Terminal Pk Pkh → Terminal Q Qh
  | .true => .true
  | .false => .false
  | .pkK pk => .pkK (f pk)
  | .pkH h => .pkH (g h)
  | .after n => .after n
  | .older n => .older n
  | .sha256 h => .sha256 h
  | .hash256 h => .hash256 h
  | .ripemd160 h => .ripemd160 h
  | .hash160 h => .hash160 h
  | .alt s => .alt (s.mapKeys f g)
  | .swap s => .swap (s.mapKeys f g)
  | .check s => .check (s.mapKeys f g)
  | .dupIf s => .dupIf (s.mapKeys f g)
  | .verify s => .verify (s.mapKeys f g)
  | .nonZero s => .nonZero (s.mapKeys f g)
  | .zeroNotEqual s => .zeroNotEqual (s.mapKeys f g)
  | .andV l r => .andV (l.mapKeys f g) (r.mapKeys f g)
  | .andB l r => .andB (l.mapKeys f g) (r.mapKeys f g)
  | .andOr a b c => .andOr (a.mapKeys f g) (b.mapKeys f g) (c.mapKeys f g)
  | .orB l r => .orB (l.mapKeys f g) (r.mapKeys f g)
  | .orD l r => .orD (l.mapKeys f g) (r.mapKeys f g)
  | .orC l r => .orC (l.mapKeys f g) (r.mapKeys f g)
  | .orI l r => .orI (l.mapKeys f g) (r.mapKeys f g)
  | .thresh k subs => .thresh k (Terminals.mapKeys f g subs)
  | .multi k pks => .multi k (pks.map f)
  | .multiA k pks => .multiA k (pks.map f)

/-- The sub-fragments of a `thresh`, each mapped. -/
def Terminals.mapKeys (f : Pk → Q) (g : Pkh → Qh) : Terminals Pk Pkh → Terminals Q Qh
  | .nil => .nil
  | .cons t ts => .cons (t.mapKeys f g) (Terminals.mapKeys f g ts)
end

/-- The tree with its keys and key hashes forgotten. -/
def Terminal.shape (t : Terminal Pk Pkh) : Terminal Unit Unit :=
  t.mapKeys (fun _ => ()) (fun _ => ())

end Keys

/-! ## 2. Translation through a map, and by `Except.ok` -/

section Translate

variable {Pk Pkh Q Qh R Rh E : Type}

theorem mapM_map {α β γ : Type} (f : α → β) (g : β → Except E γ) (l : List α) :
    (l.map f).mapM g = l.mapM (g ∘ f) := by
  induction l with
  | nil => rfl
  | cons a l ih => simp only [List.map_cons, List.mapM_cons, ih, Function.comp]

theorem mapM_ok {α : Type} (l : List α) : l.mapM (Except.ok : α → Except E α) = .ok l := by
  induction l with
  | nil => rfl
  | cons a l ih => simp only [List.mapM_cons, ih]; rfl

variable (f : Pk → Q) (g : Pkh → Qh) (f' : Q → Except E R) (g' : Qh → Except E Rh)

mutual
/-- **Translating a mapped tree is translating through the composites.** -/
theorem Terminal.translatePk_mapKeys : ∀ t : Terminal Pk Pkh,
    (t.mapKeys f g).translatePk f' g' = t.translatePk (f' ∘ f) (g' ∘ g)
  | .true | .false | .pkK _ | .pkH _ | .after _ | .older _ | .sha256 _ | .hash256 _
  | .ripemd160 _ | .hash160 _ => rfl
  | .alt s | .swap s | .check s | .dupIf s | .verify s | .nonZero s | .zeroNotEqual s => by
      simp only [Terminal.mapKeys, Terminal.translatePk, Terminal.translatePk_mapKeys s]
  | .andV l r | .andB l r | .orB l r | .orD l r | .orC l r | .orI l r => by
      simp only [Terminal.mapKeys, Terminal.translatePk, Terminal.translatePk_mapKeys l,
        Terminal.translatePk_mapKeys r]
  | .andOr a b c => by
      simp only [Terminal.mapKeys, Terminal.translatePk, Terminal.translatePk_mapKeys a,
        Terminal.translatePk_mapKeys b, Terminal.translatePk_mapKeys c]
  | .thresh _ subs => by
      simp only [Terminal.mapKeys, Terminal.translatePk, Terminals.translatePk_mapKeys subs]
  | .multi _ pks | .multiA _ pks => by
      simp only [Terminal.mapKeys, Terminal.translatePk, mapM_map]

theorem Terminals.translatePk_mapKeys : ∀ ts : Terminals Pk Pkh,
    (Terminals.mapKeys f g ts).translatePk f' g' = Terminals.translatePk (f' ∘ f) (g' ∘ g) ts
  | .nil => rfl
  | .cons t ts => by
      simp only [Terminals.mapKeys, Terminals.translatePk, Terminal.translatePk_mapKeys t,
        Terminals.translatePk_mapKeys ts]
end

mutual
/-- Translating by `Except.ok` gives the tree back. -/
theorem Terminal.translatePk_ok : ∀ t : Terminal Pk Pkh,
    t.translatePk (Except.ok : Pk → Except E Pk) Except.ok = .ok t
  | .true | .false | .pkK _ | .pkH _ | .after _ | .older _ | .sha256 _ | .hash256 _
  | .ripemd160 _ | .hash160 _ => rfl
  | .alt s | .swap s | .check s | .dupIf s | .verify s | .nonZero s | .zeroNotEqual s => by
      simp only [Terminal.translatePk, Terminal.translatePk_ok s]; rfl
  | .andV l r | .andB l r | .orB l r | .orD l r | .orC l r | .orI l r => by
      simp only [Terminal.translatePk, Terminal.translatePk_ok l, Terminal.translatePk_ok r]; rfl
  | .andOr a b c => by
      simp only [Terminal.translatePk, Terminal.translatePk_ok a, Terminal.translatePk_ok b,
        Terminal.translatePk_ok c]; rfl
  | .thresh _ subs => by simp only [Terminal.translatePk, Terminals.translatePk_ok subs]; rfl
  | .multi _ pks | .multiA _ pks => by simp only [Terminal.translatePk, mapM_ok]; rfl

theorem Terminals.translatePk_ok : ∀ ts : Terminals Pk Pkh,
    Terminals.translatePk (Except.ok : Pk → Except E Pk) Except.ok ts = .ok ts
  | .nil => rfl
  | .cons t ts => by
      simp only [Terminals.translatePk, Terminal.translatePk_ok t, Terminals.translatePk_ok ts]; rfl
end

/-- **Translation by closures that cannot fail maps the keys.** -/
theorem Terminal.translatePk_pure (t : Terminal Pk Pkh) :
    t.translatePk (fun pk => (.ok (f pk) : Except E Q)) (fun h => .ok (g h)) = .ok (t.mapKeys f g) := by
  rw [← Terminal.translatePk_ok (t.mapKeys f g), Terminal.translatePk_mapKeys]
  rfl

end Translate

/-! ## 3. When a translation succeeds, and what it keeps -/

section Accept

variable {Pk Pkh Q Qh E : Type} (f : Pk → Except E Q) (g : Pkh → Except E Qh)

/-- Whether the closures accept a key or a key hash. -/
def ForEach.accepted : ForEach Pk Pkh → Bool
  | .key pk => (f pk).isOk
  | .hash h => (g h).isOk

section ExceptIsOk

variable {α β γ δ : Type}

@[simp] theorem isOk_map (c : α → β) (x : Except E α) : (c <$> x).isOk = x.isOk := by
  cases x <;> rfl

@[simp] theorem isOk_bind₂ (x : Except E α) (y : Except E β) (c : α → β → γ) :
    (do let a ← x; let b ← y; return c a b).isOk = (x.isOk && y.isOk) := by
  cases x <;> cases y <;> rfl

@[simp] theorem isOk_bind₃ (x : Except E α) (y : Except E β) (z : Except E γ) (c : α → β → γ → δ) :
    (do let a ← x; let b ← y; let d ← z; return c a b d).isOk = (x.isOk && y.isOk && z.isOk) := by
  cases x <;> cases y <;> cases z <;> rfl

theorem isOk_mapM (h : α → Except E β) (l : List α) :
    (l.mapM h).isOk = l.all fun a => (h a).isOk := by
  induction l with
  | nil => rfl
  | cons a l ih =>
    rw [List.mapM_cons, List.all_cons, ← ih]
    cases h a <;> cases l.mapM h <;> rfl

/-- A list translated in full has as many elements as before. -/
theorem map_unit_of_mapM {h : α → Except E β} {l : List α} {l' : List β}
    (hl : l.mapM h = .ok l') : l'.map (fun _ => ()) = l.map (fun _ => ()) := by
  induction l generalizing l' with
  | nil => cases hl; rfl
  | cons a l ih =>
    rw [List.mapM_cons] at hl
    obtain ⟨b, -, hl⟩ := bind_eq_ok.mp hl
    obtain ⟨bs, hbs, hl⟩ := bind_eq_ok.mp hl
    cases hl
    simp only [List.map_cons, ih hbs]

end ExceptIsOk

mutual
/-- **A translation succeeds exactly when the closures accept each key and key hash.** -/
theorem Terminal.isOk_translatePk : ∀ t : Terminal Pk Pkh,
    (t.translatePk f g).isOk = t.keys.all (ForEach.accepted f g)
  | .true | .false | .after _ | .older _ | .sha256 _ | .hash256 _ | .ripemd160 _ | .hash160 _ => rfl
  | .pkK _ | .pkH _ => by simp [Terminal.translatePk, Terminal.keys, ForEach.accepted]
  | .alt s | .swap s | .check s | .dupIf s | .verify s | .nonZero s | .zeroNotEqual s => by
      simp only [Terminal.translatePk, Terminal.keys, isOk_map, Terminal.isOk_translatePk s]
  | .andV l r | .andB l r | .orB l r | .orD l r | .orC l r | .orI l r => by
      simp only [Terminal.translatePk, Terminal.keys, isOk_bind₂, List.all_append,
        Terminal.isOk_translatePk l, Terminal.isOk_translatePk r]
  | .andOr a b c => by
      simp only [Terminal.translatePk, Terminal.keys, isOk_bind₃, List.all_append,
        Terminal.isOk_translatePk a, Terminal.isOk_translatePk b, Terminal.isOk_translatePk c]
  | .thresh _ subs => by
      simp only [Terminal.translatePk, Terminal.keys, isOk_map, Terminals.isOk_translatePk subs]
  | .multi _ pks | .multiA _ pks => by
      simp only [Terminal.translatePk, Terminal.keys, isOk_map, isOk_mapM]
      induction pks with
      | nil => rfl
      | cons _ _ ih => simp only [List.all_cons, List.map_cons, ih]; rfl

theorem Terminals.isOk_translatePk : ∀ ts : Terminals Pk Pkh,
    (Terminals.translatePk f g ts).isOk = (Terminals.keys ts).all (ForEach.accepted f g)
  | .nil => rfl
  | .cons t ts => by
      simp only [Terminals.translatePk, Terminals.keys, isOk_bind₂, List.all_append,
        Terminal.isOk_translatePk t, Terminals.isOk_translatePk ts]
end

mutual
/-- **A successful translation keeps the tree's shape.** -/
theorem Terminal.shape_of_translatePk : ∀ {t : Terminal Pk Pkh} {t' : Terminal Q Qh},
    t.translatePk f g = .ok t' → t'.shape = t.shape
  | .true, _, h | .false, _, h | .after _, _, h | .older _, _, h | .sha256 _, _, h
  | .hash256 _, _, h | .ripemd160 _, _, h | .hash160 _, _, h => by cases h; rfl
  | .pkK _, _, h | .pkH _, _, h => by
      obtain ⟨_, -, rfl⟩ := map_eq_ok.mp h
      rfl
  | .alt _, _, h | .swap _, _, h | .check _, _, h | .dupIf _, _, h | .verify _, _, h
  | .nonZero _, _, h | .zeroNotEqual _, _, h => by
      obtain ⟨_, hs, rfl⟩ := map_eq_ok.mp h
      have := Terminal.shape_of_translatePk hs
      simp only [Terminal.shape, Terminal.mapKeys] at this ⊢
      rw [this]
  | .andV _ _, _, h | .andB _ _, _, h | .orB _ _, _, h | .orD _ _, _, h | .orC _ _, _, h
  | .orI _ _, _, h => by
      obtain ⟨_, hl, h⟩ := bind_eq_ok.mp h
      obtain ⟨_, hr, h⟩ := bind_eq_ok.mp h
      cases h
      have hl := Terminal.shape_of_translatePk hl
      have hr := Terminal.shape_of_translatePk hr
      simp only [Terminal.shape, Terminal.mapKeys] at hl hr ⊢
      rw [hl, hr]
  | .andOr _ _ _, _, h => by
      obtain ⟨_, ha, h⟩ := bind_eq_ok.mp h
      obtain ⟨_, hb, h⟩ := bind_eq_ok.mp h
      obtain ⟨_, hc, h⟩ := bind_eq_ok.mp h
      cases h
      have ha := Terminal.shape_of_translatePk ha
      have hb := Terminal.shape_of_translatePk hb
      have hc := Terminal.shape_of_translatePk hc
      simp only [Terminal.shape, Terminal.mapKeys] at ha hb hc ⊢
      rw [ha, hb, hc]
  | .thresh _ _, _, h => by
      obtain ⟨_, hs, rfl⟩ := map_eq_ok.mp h
      simp only [Terminal.shape, Terminal.mapKeys, Terminals.shape_of_translatePk hs]
  | .multi _ _, _, h | .multiA _ _, _, h => by
      obtain ⟨_, hm, rfl⟩ := map_eq_ok.mp h
      simp only [Terminal.shape, Terminal.mapKeys, map_unit_of_mapM hm]

theorem Terminals.shape_of_translatePk : ∀ {ts : Terminals Pk Pkh} {ts' : Terminals Q Qh},
    Terminals.translatePk f g ts = .ok ts' →
      Terminals.mapKeys (fun _ => ()) (fun _ => ()) ts' = Terminals.mapKeys (fun _ => ()) (fun _ => ()) ts
  | .nil, _, h => by cases h; rfl
  | .cons _ _, _, h => by
      obtain ⟨_, ht, h⟩ := bind_eq_ok.mp h
      obtain ⟨_, hts, h⟩ := bind_eq_ok.mp h
      cases h
      have ht := Terminal.shape_of_translatePk ht
      simp only [Terminal.shape] at ht
      simp only [Terminals.mapKeys, ht, Terminals.shape_of_translatePk hts]
end

/-- `Miniscript::translate_pk` fails exactly on a refused key or key hash. -/
theorem Miniscript.isOk_translatePk (ms : Miniscript Pk Pkh) :
    (ms.translatePk f g).isOk = ms.node.keys.all (ForEach.accepted f g) := by
  simp only [Miniscript.translatePk, isOk_map, Terminal.isOk_translatePk]

/-- `Miniscript::translate_pk` keeps the shape of the tree and the type data. -/
theorem Miniscript.translatePk_eq_ok {ms : Miniscript Pk Pkh} {m : Miniscript Q Qh}
    (h : ms.translatePk f g = .ok m) :
    m.node.shape = ms.node.shape ∧ m.ty = ms.ty ∧ m.ext = ms.ext := by
  obtain ⟨node, hn, rfl⟩ := map_eq_ok.mp h
  exact ⟨Terminal.shape_of_translatePk f g hn, rfl, rfl⟩

end Accept

/-! ## 4. `for_each_key` and `for_any_key` -/

section ForEachKey

variable {Pk Pkh : Type} (pred : ForEach Pk Pkh → Bool)

/-- Modelled from the spec: `Miniscript::for_each_key` (absent from `src/`): a traversal of the
    keys and key hashes of the tree that stops at the first one the predicate rejects. -/
def Miniscript.forEachKey (ms : Miniscript Pk Pkh) : Bool := ms.node.keys.all pred

/-- Modelled from the spec: `ForEachKey::for_any_key`, the trait's default (absent from
    `src/`): `for_each_key` of the negated predicate, negated. -/
def Miniscript.forAnyKey (ms : Miniscript Pk Pkh) : Bool := !ms.forEachKey (fun k => !pred k)

theorem Miniscript.forEachKey_eq_true (ms : Miniscript Pk Pkh) :
    ms.forEachKey pred = true ↔ ∀ k ∈ ms.node.keys, pred k = true := by
  simp [Miniscript.forEachKey]

theorem Miniscript.forAnyKey_eq_true (ms : Miniscript Pk Pkh) :
    ms.forAnyKey pred = true ↔ ∃ k ∈ ms.node.keys, pred k = true := by
  simp [Miniscript.forAnyKey, Miniscript.forEachKey]

end ForEachKey

/-! ## 5. `to_no_checks_ms` -/

section NoChecks

variable {Pk Pkh Q Qh E : Type}

/-- `Miniscript::translate_pk` of closures that cannot fail. -/
theorem Miniscript.translatePk_pure (f : Pk → Q) (g : Pkh → Qh) (ms : Miniscript Pk Pkh) :
    ms.translatePk (fun pk => (.ok (f pk) : Except E Q)) (fun h => .ok (g h)) =
      .ok ⟨ms.node.mapKeys f g, ms.ty, ms.ext⟩ := by
  simp only [Miniscript.translatePk, Terminal.translatePk_pure]; rfl

/-- Translating back through left inverses of the maps recovers the Miniscript. -/
theorem Miniscript.translatePk_mapKeys_inv {f : Pk → Q} {g : Pkh → Qh} {f' : Q → Except E Pk}
    {g' : Qh → Except E Pkh} (hf : ∀ k, f' (f k) = .ok k) (hg : ∀ h, g' (g h) = .ok h)
    (ms : Miniscript Pk Pkh) :
    (⟨ms.node.mapKeys f g, ms.ty, ms.ext⟩ : Miniscript Q Qh).translatePk f' g' = .ok ms := by
  have e₁ : f' ∘ f = Except.ok := funext hf
  have e₂ : g' ∘ g = Except.ok := funext hg
  simp only [Miniscript.translatePk, Terminal.translatePk_mapKeys, e₁, e₂,
    Terminal.translatePk_ok]
  rfl

/-- The full key a tag names; an x-only tag is refused. -/
def BitcoinKey.toFullkey : BitcoinKey → Except Unit PublicKey
  | .fullkey pk => .ok pk
  | .xOnlyPublicKey _ => .error ()

/-- The x-only key a tag names; a full-key tag is refused. -/
def BitcoinKey.toXOnly : BitcoinKey → Except Unit XOnlyPublicKey
  | .xOnlyPublicKey pk => .ok pk
  | .fullkey _ => .error ()

/-- The hash a full-key hash tag names. -/
def TypedHash160.toFullKey : TypedHash160 → Except Unit Bytes
  | .fullKey h => .ok h
  | .xonlyKey _ => .error ()

/-- The hash an x-only hash tag names. -/
def TypedHash160.toXonlyKey : TypedHash160 → Except Unit Bytes
  | .xonlyKey h => .ok h
  | .fullKey _ => .error ()

/-- **`to_no_checks_ms` never reaches its `expect`**, for full and for x-only keys: the
    translation succeeds, keeps the tree, `ty` and `ext`, tags each key and key hash with the
    encoding it has, and translating the tags back recovers the Miniscript, so that the
    conversion is injective. -/
theorem toNoChecksMs_tags :
    (∀ ms : Miniscript PublicKey Bytes,
      (ms.translatePk (fun pk => .ok (.fullkey pk)) (fun h => .ok (.fullKey h)) : Except Unit _) =
        .ok ms.toNoChecksMs ∧
      ms.toNoChecksMs = ⟨ms.node.mapKeys .fullkey .fullKey, ms.ty, ms.ext⟩ ∧
      ms.toNoChecksMs.translatePk BitcoinKey.toFullkey TypedHash160.toFullKey = .ok ms) ∧
    (∀ ms : Miniscript XOnlyPublicKey Bytes,
      (ms.translatePk (fun pk => .ok (.xOnlyPublicKey pk)) (fun h => .ok (.xonlyKey h)) :
        Except Unit _) = .ok ms.toNoChecksMsTap ∧
      ms.toNoChecksMsTap = ⟨ms.node.mapKeys .xOnlyPublicKey .xonlyKey, ms.ty, ms.ext⟩ ∧
      ms.toNoChecksMsTap.translatePk BitcoinKey.toXOnly TypedHash160.toXonlyKey = .ok ms) ∧
    Function.Injective Miniscript.toNoChecksMs ∧ Function.Injective Miniscript.toNoChecksMsTap := by
  have full (ms : Miniscript PublicKey Bytes) :
      ms.toNoChecksMs = ⟨ms.node.mapKeys .fullkey .fullKey, ms.ty, ms.ext⟩ := by
    simp only [Miniscript.toNoChecksMs, Miniscript.translatePk_pure]
  have tap (ms : Miniscript XOnlyPublicKey Bytes) :
      ms.toNoChecksMsTap = ⟨ms.node.mapKeys .xOnlyPublicKey .xonlyKey, ms.ty, ms.ext⟩ := by
    simp only [Miniscript.toNoChecksMsTap, Miniscript.translatePk_pure]
  have back (ms : Miniscript PublicKey Bytes) :
      ms.toNoChecksMs.translatePk BitcoinKey.toFullkey TypedHash160.toFullKey = .ok ms := by
    rw [full]
    exact Miniscript.translatePk_mapKeys_inv (f := BitcoinKey.fullkey) (g := TypedHash160.fullKey)
      (fun _ => rfl) (fun _ => rfl) ms
  have backTap (ms : Miniscript XOnlyPublicKey Bytes) :
      ms.toNoChecksMsTap.translatePk BitcoinKey.toXOnly TypedHash160.toXonlyKey = .ok ms := by
    rw [tap]
    exact Miniscript.translatePk_mapKeys_inv (f := BitcoinKey.xOnlyPublicKey)
      (g := TypedHash160.xonlyKey) (fun _ => rfl) (fun _ => rfl) ms
  exact ⟨fun ms => ⟨by rw [full, Miniscript.translatePk_pure], full ms, back ms⟩,
    fun ms => ⟨by rw [tap, Miniscript.translatePk_pure], tap ms, backTap ms⟩,
    fun a b h => Except.ok.inj ((back a).symm.trans (h ▸ back b)),
    fun a b h => Except.ok.inj ((backTap a).symm.trans (h ▸ backTap b))⟩

end NoChecks

end ElementsMiniscript
