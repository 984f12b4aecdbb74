import FlowDouble.Proofs.Renaming.Worlds
/-! What happens to the rest of a world while twins go on. Whatever a pairing left out stays out of it and
stays as it was; only what is made new is paired besides. -/
namespace FlowDouble

structure Untouched (u : World) (D E : Store → Nat → Prop) (w : World) : Prop where
  grown : ∀ s, u.count s ≤ w.count s
  kept : ∀ s r, r < u.count s → ¬D s r → ¬E s r ∧ (w.cells s)[r]? = (u.cells s)[r]?
  reach : w.reach = u.reach

def Pairing.image (P : Pairing) (s : Store) (r' : Nat) : Prop := ∃ r, P.Pairs s r r'

section
variable {u w : World} {D E F : Store → Nat → Prop} {s t : Store} {r : Nat}

theorem World.countPut (w : World) (s t : Store) (r : Nat) (c : Cell s) :
    (w.put s r c).count t = w.count t := by
  unfold World.count
  by_cases store : t = s
  · subst store
    rw [w.cellsPut, List.length_set]
  · rw [w.cellsPutOther r c store]

theorem World.countPush (w : World) (s t : Store) (c : Cell s) :
    w.count t ≤ (w.push s c).count t := by
  unfold World.count
  by_cases store : t = s
  · subst store
    rw [w.cellsPush, List.length_append]
    exact Nat.le_add_right _ _
  · rw [w.cellsPushOther c store]

theorem untouchedSelf (u : World) (D : Store → Nat → Prop) : Untouched u D D u :=
  ⟨fun _ => le_rfl, fun _ _ _ out => ⟨out, rfl⟩, rfl⟩

theorem Untouched.put (untouched : Untouched u D E w) (inside : E s r) (c : Cell s) :
    Untouched u D E (w.put s r c) := by
  refine ⟨fun t => ?_, fun t q known out => ?_, (w.reachPut r c).trans untouched.reach⟩
  · rw [w.countPut]
    exact untouched.grown t
  · obtain ⟨still, same⟩ := untouched.kept t q known out
    refine ⟨still, ?_⟩
    by_cases store : t = s
    · subst store
      have apart : r ≠ q := fun e => still (e ▸ inside)
      rw [w.cellsPut, List.getElem?_set_ne apart, same]
    · rw [w.cellsPutOther r c store, same]

theorem Untouched.push (untouched : Untouched u D E w) (c : Cell s)
    (only : ∀ t q, F t q → E t q ∨ t = s ∧ q = w.count s) : Untouched u D F (w.push s c) := by
  refine ⟨fun t => (untouched.grown t).trans (w.countPush s t c), fun t q known out => ?_,
    (w.reachPush c).trans untouched.reach⟩
  obtain ⟨still, same⟩ := untouched.kept t q known out
  have low := untouched.grown t
  constructor
  · intro inside
    rcases only t q inside with before | ⟨rfl, rfl⟩
    · exact still before
    · omega
  · by_cases store : t = s
    · subst store
      have there : q < (w.cells t).length := Nat.lt_of_lt_of_le known low
      rw [w.cellsPush, List.getElem?_append_left there, same]
    · rw [w.cellsPushOther c store, same]

theorem Untouched.trailed (untouched : Untouched u D E w) (trail : List Record) :
    Untouched u D E { w with trail } := by
  have same (s : Store) : World.cells { w with trail } s = w.cells s := by cases s <;> rfl
  refine ⟨fun s => ?_, fun s r known out => ?_, untouched.reach⟩
  · unfold World.count
    rw [same]
    exact untouched.grown s
  · rw [same]
    exact untouched.kept s r known out

end

structure Onward (P : Pairing) (u u' : World) (Q : Pairing) (w w' : World) : Prop where
  le : P ≤ Q
  left : Untouched u P.domain Q.domain w
  right : Untouched u' P.image Q.image w'

theorem onwardSelf (P : Pairing) (u u' : World) : Onward P u u' P u u' :=
  ⟨le_rfl, untouchedSelf u _, untouchedSelf u' _⟩

instance {P : Pairing} {u u' : World} : Grows (Onward P u u') where
  put bond _ pairs _ := ⟨bond.le, bond.left.put pairs.1 _, bond.right.put ⟨_, pairs⟩ _⟩
  trailed t t' bond := ⟨bond.le, bond.left.trailed t, bond.right.trailed t'⟩
  push {Q w w' s c c'} bond twin alike := by
    have more : Q ≤ Q.pair s (w.count s) (w'.count s) := twin.grown
    refine ⟨bond.le.trans more, bond.left.push c fun t q inside => inside,
      bond.right.push c' ?_⟩
    rintro t q' ⟨q, inside, rfl⟩
    rcases inside with inside | ⟨rfl, rfl⟩
    · exact .inl ⟨q, inside, (more t q inside).2.symm⟩
    · exact .inr ⟨rfl, (Q.pairsLast t _ _).2⟩

theorem Twin.elsewhere {P : Pairing} {w w' v v' : World} {D E D' E' : Store → Nat → Prop}
    (twin : Twin P w w') (left : Untouched w D E v) (right : Untouched w' D' E' v')
    (apart : ∀ t r, t ≠ .tag → P.domain t r → ¬D t r)
    (apart' : ∀ t r, t ≠ .tag → P.image t r → ¬D' t r) (bare : v.attachments = [])
    (bare' : v'.attachments = []) : Twin P v v' := by
  refine ⟨fun t r there => ?_, bare, bare', by rw [left.reach, right.reach, twin.reach]⟩
  obtain ⟨c, c', found, found', alike⟩ := twin.kept t r there
  have known := twin.known there
  have known' := twin.known' there
  by_cases store : t = .tag
  · subst store
    have low := Nat.lt_of_lt_of_le known (left.grown .tag)
    have low' := Nat.lt_of_lt_of_le known' (right.grown .tag)
    exact ⟨c, c', List.getElem?_eq_getElem low, List.getElem?_eq_getElem low', alike⟩
  · rw [(left.kept t r known (apart t r store there)).2,
      (right.kept t _ known' (apart' t _ store ⟨r, there, rfl⟩)).2]
    exact ⟨c, c', found, found', alike⟩

end FlowDouble
