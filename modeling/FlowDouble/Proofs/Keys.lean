import FlowDouble.Entries
/-! Equality of keys is an equivalence: across the kinds of numbers, through tuples, files and
principals, and for values that equal only themselves. -/
namespace FlowDouble

namespace Number

def numerator (base m q : Int) : Int := m * twoTo (q - base).toNat

theorem numeratorLower {low base m q : Int} (h : low ≤ base) (k : base ≤ q) :
    numerator low m q = numerator base m q * twoTo (base - low).toNat := by
  have split : (q - low).toNat = (q - base).toNat + (base - low).toNat := by omega
  simp only [numerator, twoTo, split, Nat.pow_eq, Nat.pow_add, Int.natCast_mul, Int.mul_assoc]

theorem numeratorInjective {low base m q n r : Int} (h : low ≤ base) (kq : base ≤ q)
    (kr : base ≤ r) :
    numerator low m q = numerator low n r ↔ numerator base m q = numerator base n r := by
  rw [numeratorLower h kq, numeratorLower h kr]
  have positive : (twoTo (base - low).toNat : Int) ≠ 0 := by
    have := Nat.two_pow_pos (base - low).toNat
    simp only [twoTo, Nat.pow_eq]
    omega
  exact ⟨fun e => Int.eq_of_mul_eq_mul_right positive e, fun e => by rw [e]⟩

theorem equalNumerators {low m q n r : Int} (hq : low ≤ q) (hr : low ≤ r) :
    (finite m q).equal (finite n r) = true ↔ numerator low m q = numerator low n r := by
  have base : low ≤ min q r := by omega
  rw [numeratorInjective base (Int.min_le_left q r) (Int.min_le_right q r)]
  simp [equal, aligned, numerator]

theorem equalSymm {a b : Number} (h : a.equal b = true) : b.equal a = true := by
  cases a <;> cases b <;> try contradiction
  case finite.finite m q n r =>
    have low := equalNumerators (m := m) (n := n) (Int.min_le_left q r) (Int.min_le_right q r)
    exact (equalNumerators (Int.min_le_right q r) (Int.min_le_left q r)).mpr (low.mp h).symm
  case infinite.infinite => simp_all [equal]

theorem equalTrans {a b c : Number} (h : a.equal b = true) (k : b.equal c = true) :
    a.equal c = true := by
  cases a <;> cases b <;> try contradiction
  all_goals cases c <;> try contradiction
  case finite.finite.finite m q n r l s =>
    have lq : min q (min r s) ≤ q := by omega
    have lr : min q (min r s) ≤ r := by omega
    have ls : min q (min r s) ≤ s := by omega
    have first := (equalNumerators lq lr).mp h
    have second := (equalNumerators lr ls).mp k
    exact (equalNumerators lq ls).mpr (first.trans second)
  case infinite.infinite.infinite => simp_all [equal]

end Number

namespace Value

theorem sameSymm {x y : Value} (h : x.same y = true) : y.same x = true := by
  cases x <;> cases y <;> try contradiction
  all_goals simp only [same] at *
  all_goals grind

theorem sameTrans {x y z : Value} (h : x.same y = true) (k : y.same z = true) :
    x.same z = true := by
  cases x <;> cases y <;> try contradiction
  all_goals cases z <;> try contradiction
  all_goals simp only [same] at *
  all_goals grind

theorem sameNumber {x y : Value} (h : x.same y = true) : x.number? = y.number? := by
  cases x <;> cases y <;> try contradiction
  all_goals try rfl
  all_goals simp_all [same, number?]

def equalNumbers (x y : Value) : Prop :=
  ∃ a b, x.number? = some a ∧ y.number? = some b ∧ a.equal b = true

def isAtom : Value → Bool
  | tuple .. | upload .. | principal .. | operation .. => false
  | _ => true

theorem sameKeyAtom {x y : Value} (atom : x.isAtom = true) :
    x.sameKey y = true ↔ x.same y = true ∨ equalNumbers x y := by
  cases x <;> try contradiction
  all_goals simp only [sameKey, Bool.or_eq_true, equalNumbers, number?]
  all_goals grind

theorem equalAtom {x y : Value} (atom : x.isAtom = true)
    (h : x.same y = true ∨ equalNumbers x y) : y.isAtom = true := by
  rcases h with h | ⟨a, b, ha, hb, _⟩
  · cases x <;> cases y <;> first | rfl | contradiction
  · cases y <;> first | rfl | contradiction

theorem equalAtomSymm {x y : Value} (h : x.same y = true ∨ equalNumbers x y) :
    y.same x = true ∨ equalNumbers y x := by
  rcases h with h | ⟨a, b, ha, hb, same⟩
  · exact .inl (sameSymm h)
  · exact .inr ⟨b, a, hb, ha, Number.equalSymm same⟩

theorem equalAtomTrans {x y z : Value} (h : x.same y = true ∨ equalNumbers x y)
    (k : y.same z = true ∨ equalNumbers y z) : x.same z = true ∨ equalNumbers x z := by
  rcases h with h | ⟨a, b, ha, hb, ab⟩
  · rcases k with k | ⟨b, c, hb, hc, bc⟩
    · exact .inl (sameTrans h k)
    · exact .inr ⟨b, c, (sameNumber h).trans hb, hc, bc⟩
  · rcases k with k | ⟨b', c, hb', hc, bc⟩
    · exact .inr ⟨a, b, ha, (sameNumber k).symm.trans hb, ab⟩
    · cases Option.some.inj (hb.symm.trans hb')
      exact .inr ⟨a, c, ha, hc, Number.equalTrans ab bc⟩

theorem sameKeyTuple {t xs y} (h : (tuple t xs).sameKey y = true) :
    ∃ u ys, y = tuple u ys ∧ sameKeys xs ys = true := by
  cases y with
  | tuple u ys => exact ⟨u, ys, rfl, by simpa only [sameKey] using h⟩
  | _ => simp [sameKey, same, number?] at h

theorem sameKeyUpload {t n c o k y} (h : (upload t n c o k).sameKey y = true) :
    ∃ t' n' c' o' k', y = upload t' n' c' o' k' ∧ n.sameKey n' = true ∧ c.sameKey c' = true ∧
      o.sameKey o' = true ∧ k.sameKey k' = true := by
  cases y with
  | upload t' n' c' o' k' =>
    simp only [sameKey, Bool.and_eq_true] at h
    obtain ⟨⟨⟨hn, hc⟩, ho⟩, hk⟩ := h
    exact ⟨t', n', c', o', k', rfl, hn, hc, ho, hk⟩
  | _ => simp [sameKey, same, number?] at h

theorem sameKeyPrincipal {t n y} (h : (principal t n).sameKey y = true) :
    ∃ t' n', y = principal t' n' ∧ n.sameKey n' = true := by
  cases y with
  | principal t' n' => exact ⟨t', n', rfl, by simpa only [sameKey] using h⟩
  | _ => simp [sameKey, same, number?] at h

theorem sameKeyOperation {t owner name y} (h : (operation t owner name).sameKey y = true) :
    ∃ t' owner', y = operation t' owner' name ∧ owner.same owner' = true := by
  cases y with
  | operation t' owner' name' =>
    simp only [sameKey, Bool.and_eq_true, beq_iff_eq] at h
    obtain ⟨ho, rfl⟩ := h
    exact ⟨t', owner', rfl, ho⟩
  | _ => simp [sameKey, same, number?] at h

theorem sameKeysCons {x xs ys} (h : sameKeys (x :: xs) ys = true) :
    ∃ y rest, ys = y :: rest ∧ x.sameKey y = true ∧ sameKeys xs rest = true := by
  cases ys with
  | nil => simp [sameKeys] at h
  | cons y rest => exact ⟨y, rest, rfl, by simpa only [sameKeys, Bool.and_eq_true] using h⟩

theorem sameKeysNil {ys} (h : sameKeys [] ys = true) : ys = [] := by
  cases ys with
  | nil => rfl
  | cons y rest => simp [sameKeys] at h

mutual

theorem sameKeySymm : ∀ {x y : Value}, x.sameKey y = true → y.sameKey x = true
  | tuple _ xs, _, h => by
    obtain ⟨u, ys, rfl, hs⟩ := sameKeyTuple h
    simpa only [sameKey] using sameKeysSymm hs
  | upload .., _, h => by
    obtain ⟨t, n, c, o, k, rfl, hn, hc, ho, hk⟩ := sameKeyUpload h
    simp only [sameKey, sameKeySymm hn, sameKeySymm hc, sameKeySymm ho, sameKeySymm hk,
      Bool.and_self]
  | principal .., _, h => by
    obtain ⟨t, n, rfl, hn⟩ := sameKeyPrincipal h
    simpa only [sameKey] using sameKeySymm hn
  | operation .., _, h => by
    obtain ⟨t, owner, rfl, ho⟩ := sameKeyOperation h
    simp [sameKey, sameSymm ho]
  | null, _, h | bool _, _, h | int _, _, h | float .., _, h | text _, _, h | bytes _, _, h
  | attributes .., _, h | parameters _, _, h | list _, _, h | dictionary _, _, h
  | context _, _, h | writer _, _, h | stream _, _, h | error .., _, h | token _, _, h
  | lock _, _, h | kind _, _, h | converter _, _, h | function _, _, h | facet .., _, h
  | pending _, _, h => by
    have equal := (sameKeyAtom rfl).mp h
    exact (sameKeyAtom (equalAtom rfl equal)).mpr (equalAtomSymm equal)

theorem sameKeysSymm : ∀ {xs ys : List Value}, sameKeys xs ys = true → sameKeys ys xs = true
  | [], _, h => by
    obtain rfl := sameKeysNil h
    rfl
  | x :: xs, _, h => by
    obtain ⟨y, ys, rfl, hy, hs⟩ := sameKeysCons h
    simp only [sameKeys, sameKeySymm hy, sameKeysSymm hs, Bool.and_self]

end

mutual

theorem sameKeyTrans : ∀ {x y z : Value}, x.sameKey y = true → y.sameKey z = true →
    x.sameKey z = true
  | tuple _ xs, _, _, h, k => by
    obtain ⟨u, ys, rfl, hs⟩ := sameKeyTuple h
    obtain ⟨v, zs, rfl, ks⟩ := sameKeyTuple k
    simpa only [sameKey] using sameKeysTrans hs ks
  | upload .., _, _, h, k => by
    obtain ⟨t, n, c, o, l, rfl, hn, hc, ho, hl⟩ := sameKeyUpload h
    obtain ⟨t', n', c', o', l', rfl, kn, kc, ko, kl⟩ := sameKeyUpload k
    simp only [sameKey, sameKeyTrans hn kn, sameKeyTrans hc kc, sameKeyTrans ho ko,
      sameKeyTrans hl kl, Bool.and_self]
  | principal .., _, _, h, k => by
    obtain ⟨t, n, rfl, hn⟩ := sameKeyPrincipal h
    obtain ⟨t', n', rfl, kn⟩ := sameKeyPrincipal k
    simpa only [sameKey] using sameKeyTrans hn kn
  | operation .., _, _, h, k => by
    obtain ⟨t, owner, rfl, ho⟩ := sameKeyOperation h
    obtain ⟨t', owner', rfl, ko⟩ := sameKeyOperation k
    simp [sameKey, sameTrans ho ko]
  | null, _, _, h, k | bool _, _, _, h, k | int _, _, _, h, k | float .., _, _, h, k
  | text _, _, _, h, k | bytes _, _, _, h, k | attributes .., _, _, h, k
  | parameters _, _, _, h, k | list _, _, _, h, k | dictionary _, _, _, h, k
  | context _, _, _, h, k | writer _, _, _, h, k | stream _, _, _, h, k
  | error .., _, _, h, k | token _, _, _, h, k | lock _, _, _, h, k | kind _, _, _, h, k
  | converter _, _, _, h, k | function _, _, _, h, k | facet .., _, _, h, k
  | pending _, _, _, h, k => by
    have equal := (sameKeyAtom rfl).mp h
    have further := (sameKeyAtom (equalAtom rfl equal)).mp k
    exact (sameKeyAtom rfl).mpr (equalAtomTrans equal further)

theorem sameKeysTrans : ∀ {xs ys zs : List Value}, sameKeys xs ys = true →
    sameKeys ys zs = true → sameKeys xs zs = true
  | [], _, _, h, k => by
    obtain rfl := sameKeysNil h
    exact k
  | x :: xs, _, _, h, k => by
    obtain ⟨y, ys, rfl, hy, hs⟩ := sameKeysCons h
    obtain ⟨z, zs, rfl, kz, ks⟩ := sameKeysCons k
    simp only [sameKeys, sameKeyTrans hy kz, sameKeysTrans hs ks, Bool.and_self]

end

end Value

end FlowDouble
