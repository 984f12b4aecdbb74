import FlowDouble.Report
import FlowDouble.Proofs.Renaming.Entries
/-! Worlds side by side. Two worlds are twins under a pairing when what it pairs is kept alike in
both. One action mirrors another when from twins they lead to twins with alike outcomes, the pairing
grown by what both made on the way. -/
namespace FlowDouble

def Cell : Store → Type
  | .list => List Value
  | .dictionary | .parameters => Entries
  | .context => Context
  | .writer => List String
  | .stream => Stream
  | .error => Raised
  | .function => Decorated
  | .tag => Unit

instance : (s : Store) → Renames (Cell s)
  | .list => inferInstanceAs (Renames (List Value))
  | .dictionary | .parameters => inferInstanceAs (Renames Entries)
  | .context => inferInstanceAs (Renames Context)
  | .writer => inferInstanceAs (Renames (List String))
  | .stream => inferInstanceAs (Renames Stream)
  | .error => inferInstanceAs (Renames Raised)
  | .function => inferInstanceAs (Renames Decorated)
  | .tag => inferInstanceAs (Renames Unit)

namespace World

def cells (w : World) : (s : Store) → List (Cell s)
  | .list => w.lists
  | .dictionary => w.dictionaries
  | .parameters => w.parameterMaps
  | .context => w.contexts
  | .writer => w.writers
  | .stream => w.streams
  | .error => w.errors
  | .function => w.functions
  | .tag => List.replicate w.tags ()

def count (w : World) (s : Store) : Nat := (w.cells s).length

def put (w : World) : (s : Store) → Nat → Cell s → World
  | .list, r, c => { w with lists := w.lists.write r c }
  | .dictionary, r, c => { w with dictionaries := w.dictionaries.write r c }
  | .parameters, r, c => { w with parameterMaps := w.parameterMaps.write r c }
  | .context, r, c => { w with contexts := w.contexts.write r c }
  | .writer, r, c => { w with writers := w.writers.write r c }
  | .stream, r, c => { w with streams := w.streams.write r c }
  | .error, r, c => { w with errors := w.errors.write r c }
  | .function, r, c => { w with functions := w.functions.write r c }
  | .tag, _, _ => w

def push (w : World) : (s : Store) → Cell s → World
  | .list, c => { w with lists := w.lists.push c }
  | .dictionary, c => { w with dictionaries := w.dictionaries.push c }
  | .parameters, c => { w with parameterMaps := w.parameterMaps.push c }
  | .context, c => { w with contexts := w.contexts.push c }
  | .writer, c => { w with writers := w.writers.push c }
  | .stream, c => { w with streams := w.streams.push c }
  | .error, c => { w with errors := w.errors.push c }
  | .function, c => { w with functions := w.functions.push c }
  | .tag, _ => { w with tags := w.tags + 1 }

variable (w : World) {s t : Store}

theorem cellsPut (r : Nat) (c : Cell s) : (w.put s r c).cells s = (w.cells s).set r c := by
  cases s with
  | tag => exact (List.set_replicate_self ..).symm
  | _ => rfl

theorem cellsPutOther (r : Nat) (c : Cell s) (other : t ≠ s) :
    (w.put s r c).cells t = w.cells t := by
  cases s <;> cases t <;> first | rfl | contradiction

theorem cellsPush (c : Cell s) : (w.push s c).cells s = w.cells s ++ [c] := by
  cases s with
  | tag => exact List.replicate_succ'
  | _ => rfl

theorem cellsPushOther (c : Cell s) (other : t ≠ s) : (w.push s c).cells t = w.cells t := by
  cases s <;> cases t <;> first | rfl | contradiction

theorem attachmentsPut (r : Nat) (c : Cell s) : (w.put s r c).attachments = w.attachments := by
  cases s <;> rfl

theorem attachmentsPush (c : Cell s) : (w.push s c).attachments = w.attachments := by
  cases s <;> rfl

theorem reachPut (r : Nat) (c : Cell s) : (w.put s r c).reach = w.reach := by cases s <;> rfl

theorem reachPush (c : Cell s) : (w.push s c).reach = w.reach := by cases s <;> rfl

end World

namespace Pairing

variable {P : Pairing} {s : Store} {n n' : Nat}

def pair (P : Pairing) (s : Store) (n n' : Nat) : Pairing where
  partner := Function.update P.partner s (Equiv.swap (P.partner s n) n' * P.partner s)
  domain t r := P.domain t r ∨ t = s ∧ r = n
  bound t := P.bound t + n + 1
  below t r there := by
    rcases there with there | ⟨rfl, rfl⟩
    · have := P.below t r there
      omega
    · omega

theorem pairsLast (P : Pairing) (s : Store) (n n' : Nat) : (P.pair s n n').Pairs s n n' :=
  ⟨.inr ⟨rfl, rfl⟩, by simp [pair]⟩

theorem pairMore (fresh : ¬P.domain s n) (fresh' : ∀ r, P.domain s r → P.partner s r ≠ n') :
    P ≤ P.pair s n n' := by
  intro t r there
  refine ⟨.inl there, ?_⟩
  by_cases same : t = s
  · subst same
    have other : r ≠ n := fun e => fresh (e ▸ there)
    simp [pair, Equiv.swap_apply_of_ne_of_ne ((P.partner t).injective.ne other) (fresh' r there)]
  · simp [pair, same]

end Pairing

/-- Everything paired is kept, and kept alike, in both worlds. Nothing is put on any value. -/
structure Twin (P : Pairing) (w w' : World) : Prop where
  kept : ∀ s r, P.domain s r → ∃ c c', (w.cells s)[r]? = some c ∧
    (w'.cells s)[P.partner s r]? = some c' ∧ Alike P c c'
  bare : w.attachments = []
  bare' : w'.attachments = []
  reach : w'.reach = w.reach

abbrev Bond := Pairing → World → World → Prop

section
variable {P Q : Pairing} {w w' : World} {s : Store} {r r' : Nat} {c c' : Cell s}

theorem Twin.cell (twin : Twin P w w') (pairs : P.Pairs s r r') :
    ∃ c c', (w.cells s)[r]? = some c ∧ (w'.cells s)[r']? = some c' ∧ Alike P c c' := by
  obtain ⟨there, rfl⟩ := pairs
  exact twin.kept s r there

theorem Twin.known (twin : Twin P w w') (there : P.domain s r) : r < w.count s := by
  obtain ⟨c, c', found, _⟩ := twin.kept s r there
  exact (List.getElem?_eq_some_iff.mp found).1

theorem Twin.known' (twin : Twin P w w') (there : P.domain s r) : P.partner s r < w'.count s := by
  obtain ⟨c, c', _, found, _⟩ := twin.kept s r there
  exact (List.getElem?_eq_some_iff.mp found).1

theorem Twin.grown (twin : Twin P w w') : P ≤ P.pair s (w.count s) (w'.count s) :=
  Pairing.pairMore (fun there => Nat.lt_irrefl _ (twin.known there))
    fun _ there same => Nat.lt_irrefl _ (same ▸ twin.known' there)

theorem Twin.put (twin : Twin P w w') (pairs : P.Pairs s r r') (alike : Alike P c c') :
    Twin P (w.put s r c) (w'.put s r' c') := by
  obtain ⟨there, rfl⟩ := pairs
  refine ⟨fun t q inside => ?_, by rw [w.attachmentsPut, twin.bare],
    by rw [w'.attachmentsPut, twin.bare'], by rw [w.reachPut, w'.reachPut, twin.reach]⟩
  obtain ⟨d, d', found, found', same⟩ := twin.kept t q inside
  by_cases store : t = s
  · subst store
    rw [w.cellsPut, w'.cellsPut]
    by_cases here : q = r
    · subst here
      exact ⟨c, c', List.getElem?_set_self (twin.known there),
        List.getElem?_set_self (twin.known' there), alike⟩
    · have apart : P.partner t q ≠ P.partner t r := (P.partner t).injective.ne here
      rw [List.getElem?_set_ne (Ne.symm here), List.getElem?_set_ne (Ne.symm apart)]
      exact ⟨d, d', found, found', same⟩
  · rw [w.cellsPutOther r c store, w'.cellsPutOther _ c' store]
    exact ⟨d, d', found, found', same⟩

theorem Twin.push (twin : Twin P w w') (alike : Alike P c c') :
    Twin (P.pair s (w.count s) (w'.count s)) (w.push s c) (w'.push s c') := by
  have le : P ≤ P.pair s (w.count s) (w'.count s) := twin.grown
  refine ⟨fun t q inside => ?_, by rw [w.attachmentsPush, twin.bare],
    by rw [w'.attachmentsPush, twin.bare'], by rw [w.reachPush, w'.reachPush, twin.reach]⟩
  rcases inside with inside | ⟨rfl, rfl⟩
  · obtain ⟨d, d', found, found', same⟩ := twin.kept t q inside
    rw [(le t q inside).2]
    by_cases store : t = s
    · subst store
      rw [w.cellsPush, w'.cellsPush, List.getElem?_append_left (twin.known inside),
        List.getElem?_append_left (twin.known' inside)]
      exact ⟨d, d', found, found', same.mono le⟩
    · rw [w.cellsPushOther c store, w'.cellsPushOther c' store]
      exact ⟨d, d', found, found', same.mono le⟩
  · rw [(P.pairsLast t (w.count t) (w'.count t)).2, w.cellsPush, w'.cellsPush]
    exact ⟨c, c', List.getElem?_concat_length, List.getElem?_concat_length, alike.mono le⟩

theorem Twin.trailed (twin : Twin P w w') (t t' : List Record) :
    Twin P { w with trail := t } { w' with trail := t' } := by
  refine ⟨fun s r there => ?_, twin.bare, twin.bare', twin.reach⟩
  have same : World.cells { w with trail := t } s = w.cells s := by cases s <;> rfl
  have same' : World.cells { w' with trail := t' } s = w'.cells s := by cases s <;> rfl
  rw [same, same']
  exact twin.kept s r there

end

class Lasts (R : Bond) : Prop where
  put : ∀ {P w w' s r r'} {c c' : Cell s}, R P w w' → Twin P w w' → P.Pairs s r r' →
    Alike P c c' → R P (w.put s r c) (w'.put s r' c')
  trailed : ∀ {P w w'} (t t' : List Record), R P w w' →
    R P { w with trail := t } { w' with trail := t' }

class Grows (R : Bond) : Prop extends Lasts R where
  push : ∀ {P w w' s} {c c' : Cell s}, R P w w' → Twin P w w' → Alike P c c' →
    R (P.pair s (w.count s) (w'.count s)) (w.push s c) (w'.push s c')

def Bond.both (R S : Bond) : Bond := fun P w w' => R P w w' ∧ S P w w'

instance {R S : Bond} [Lasts R] [Lasts S] : Lasts (R.both S) where
  put bond twin pairs alike :=
    ⟨Lasts.put bond.1 twin pairs alike, Lasts.put bond.2 twin pairs alike⟩
  trailed t t' bond := ⟨Lasts.trailed t t' bond.1, Lasts.trailed t t' bond.2⟩

section
variable {α β : Type} [Renames α] [Renames β]

inductive Agrees (R : Bond) (P : Pairing) :
    EStateM.Result Fault World α → EStateM.Result Fault World α → Prop where
  | ok {Q w w' a a'} (le : P ≤ Q) (twin : Twin Q w w') (bond : R Q w w') (alike : Alike Q a a') :
      Agrees R P (.ok a w) (.ok a' w')
  | error {Q w w' f f'} (le : P ≤ Q) (twin : Twin Q w w') (bond : R Q w w')
      (alike : Alike Q f f') : Agrees R P (.error f w) (.error f' w')

def Mirrors (R : Bond) (P : Pairing) (a a' : Action α) : Prop :=
  ∀ w w', Twin P w w' → R P w w' → Agrees R P (a w) (a' w')

variable {R : Bond} {P Q : Pairing}

theorem Agrees.later {x x' : EStateM.Result Fault World α} (agrees : Agrees R Q x x') (le : P ≤ Q) :
    Agrees R P x x' := by
  cases agrees with
  | ok more twin bond alike => exact .ok (le.trans more) twin bond alike
  | error more twin bond alike => exact .error (le.trans more) twin bond alike

namespace Mirrors

variable {a a' : Action α} {x x' : α} {f f' : α → Action β}

theorem pure (alike : Alike P x x') : Mirrors R P (pure x : Action α) (Pure.pure x') :=
  fun _ _ twin bond => .ok le_rfl twin bond alike

theorem throw {e e' : Fault} (alike : Alike P e e') :
    Mirrors R P (throw e : Action α) (MonadExcept.throw e') :=
  fun _ _ twin bond => .error le_rfl twin bond alike

theorem except {x x' : Except Fault α} (alike : Alike P x x') :
    Mirrors R P (ofExcept x : Action α) (ofExcept x') := by
  obtain ⟨b, b', rfl, rfl, same⟩ | ⟨f, f', rfl, rfl, same⟩ := alike.except
  · exact .pure same
  · exact .throw same

theorem bind (first : Mirrors R P a a')
    (next : ∀ Q, P ≤ Q → ∀ x x', Alike Q x x' → Mirrors R Q (f x) (f' x')) :
    Mirrors R P (a >>= f) (a' >>= f') := by
  intro w w' twin bond
  have agrees := first w w' twin bond
  show Agrees R P (EStateM.bind a f w) (EStateM.bind a' f' w')
  unfold EStateM.bind
  generalize a w = x, a' w' = x' at agrees ⊢
  cases agrees with
  | ok le twin bond alike => exact (next _ le _ _ alike _ _ twin bond).later le
  | error le twin bond alike => exact .error le twin bond alike

theorem ite {b b' : Action α} {c c' : Prop} [Decidable c] [Decidable c'] (same : c' ↔ c)
    (yes : c → Mirrors R P a a') (no : ¬c → Mirrors R P b b') :
    Mirrors R P (if c then a else b) (if c' then a' else b') := by
  by_cases h : c
  · rw [if_pos h, if_pos (same.mpr h)]
    exact yes h
  · rw [if_neg h, if_neg (mt same.mp h)]
    exact no h

theorem world {g g' : World → Action β}
    (next : ∀ w w', Twin P w w' → R P w w' → Agrees R P (g w w) (g' w' w')) :
    Mirrors R P (Action.world >>= g) (Action.world >>= g') := next

theorem asked {g g' : World → Except Fault β}
    (same : ∀ w w', Twin P w w' → Alike P (g w) (g' w')) :
    Mirrors R P (Action.world >>= fun w => ofExcept (g w))
      (Action.world >>= fun w => ofExcept (g' w)) :=
  world fun w w' twin bond => except (same w w' twin) w w' twin bond

theorem asking {g g' : World → Except Fault α} (same : ∀ w w', Twin P w w' → Alike P (g w) (g' w'))
    (next : ∀ Q, P ≤ Q → ∀ x x', Alike Q x x' → Mirrors R Q (f x) (f' x')) :
    Mirrors R P (Action.world >>= fun w => ofExcept (g w) >>= f)
      (Action.world >>= fun w => ofExcept (g' w) >>= f') :=
  world fun w w' twin bond => bind (except (same w w' twin)) next w w' twin bond

theorem found {g g' : World → Option α} {b b' : Action β}
    (same : ∀ w w', Twin P w w' → Alike P (g w) (g' w')) (without : Mirrors R P b b')
    (next : ∀ x x', Alike P x x' → Mirrors R P (f x) (f' x')) :
    Mirrors R P (Action.world >>= fun w => (g w).elim b f)
      (Action.world >>= fun w => (g' w).elim b' f') := by
  refine world fun w w' twin bond => ?_
  obtain ⟨e, e'⟩ | ⟨x, x', e, e', there⟩ := (same w w' twin).option
  · rw [e, e']
    exact without w w' twin bond
  · rw [e, e']
    exact next x x' there w w' twin bond

theorem seen {g g' : World → β} (same : ∀ w w', Twin P w w' → Alike P (g w) (g' w')) :
    Mirrors R P (Action.world >>= fun w => Pure.pure (g w))
      (Action.world >>= fun w => Pure.pure (g' w)) :=
  world fun w w' twin bond => pure (same w w' twin) w w' twin bond

theorem tryCatch {g g' : Fault → Action α} (first : Mirrors R P a a')
    (next : ∀ Q, P ≤ Q → ∀ e e', Alike Q e e' → Mirrors R Q (g e) (g' e')) :
    Mirrors R P (MonadExcept.tryCatch a g) (MonadExcept.tryCatch a' g') := by
  intro w w' twin bond
  have agrees := first w w' twin bond
  show Agrees R P (EStateM.tryCatch a g w) (EStateM.tryCatch a' g' w')
  unfold EStateM.tryCatch
  generalize a w = x, a' w' = x' at agrees ⊢
  cases agrees with
  | ok le twin bond alike => exact .ok le twin bond alike
  | error le twin bond alike => exact (next _ le _ _ alike _ _ twin bond).later le

theorem put [Lasts R] {s : Store} {r r' : Nat} {g g' : World → Cell s} (pairs : P.Pairs s r r')
    (same : ∀ w w', Twin P w w' → Alike P (g w) (g' w')) :
    Mirrors R P (modify fun w => w.put s r (g w)) (modify fun w => w.put s r' (g' w)) := by
  intro w w' twin bond
  have alike := same w w' twin
  exact .ok le_rfl (twin.put pairs alike) (Lasts.put bond twin pairs alike) (alikeStill _)

theorem record [Lasts R] (t : Record) : Mirrors R P (Action.record t) (Action.record t) :=
  fun _ _ twin bond => .ok le_rfl (twin.trailed _ _) (Lasts.trailed _ _ bond) (alikeStill _)

theorem push [Grows R] {s : Store} {c c' : Cell s} {name : Nat → α} (alike : Alike P c c')
    (named : ∀ Q, P ≤ Q → ∀ r r', Q.Pairs s r r' → Alike Q (name r) (name r')) :
    Mirrors R P (modifyGet fun w => (name (w.count s), w.push s c))
      (modifyGet fun w => (name (w.count s), w.push s c')) := by
  intro w w' twin bond
  have more : P ≤ P.pair s (w.count s) (w'.count s) := twin.grown
  exact .ok more (twin.push alike) (Grows.push bond twin alike)
    (named _ more _ _ (P.pairsLast s _ _))

theorem yieldNothing {b b' : Action Unit} (mirrors : Mirrors R P b b') :
    Mirrors R P (Action.yieldNothing b) (Action.yieldNothing b') :=
  .bind mirrors fun _ _ _ _ _ => .pure ⟨rfl, fun _ _ => rfl⟩

end Mirrors

end

end FlowDouble
