import Mathlib.Algebra.Group.End
import Mathlib.Algebra.Group.Pi.Basic
import Mathlib.Order.Basic
import FlowDouble.Value
/-! Renaming references and tags. Two things are alike under a pairing when one is the other renamed
and neither is made of anything that the pairing leaves out. What is computed from alike things by a
function that renaming commutes with is alike. -/
namespace FlowDouble

inductive Store where
  | list | dictionary | parameters | context | writer | stream | error | function | tag
  deriving DecidableEq, Repr

abbrev Renaming := Store → Equiv.Perm Nat

class Renames (α : Type) where
  rename : Renaming → α → α
  one : ∀ a, rename 1 a = a
  mul : ∀ ρ σ a, rename (ρ * σ) a = rename ρ (rename σ a)

export Renames (rename)

class Still (α : Type) [Renames α] : Prop where
  stays : ∀ (ρ : Renaming) (a : α), rename ρ a = a

section
variable {α β γ : Type} [Renames α] [Renames β] [Renames γ] {ρ : Renaming}

@[reducible]
def Renames.still (α : Type) : Renames α := ⟨fun _ a => a, fun _ => rfl, fun _ _ _ => rfl⟩

@[simp] theorem renameStill [Still α] (a : α) : rename ρ a = a := Still.stays ρ a

instance : Renames Unit := .still Unit
instance : Renames Bool := .still Bool
instance : Renames Nat := .still Nat
instance : Renames Int := .still Int
instance : Renames String := .still String
instance : Renames UInt8 := .still UInt8
instance : Renames UInt64 := .still UInt64
instance : Renames Kind := .still Kind
instance : Still Unit := ⟨fun _ _ => rfl⟩
instance : Still Bool := ⟨fun _ _ => rfl⟩
instance : Still Nat := ⟨fun _ _ => rfl⟩
instance : Still Int := ⟨fun _ _ => rfl⟩
instance : Still String := ⟨fun _ _ => rfl⟩
instance : Still UInt8 := ⟨fun _ _ => rfl⟩
instance : Still UInt64 := ⟨fun _ _ => rfl⟩
instance : Still Kind := ⟨fun _ _ => rfl⟩

instance : Renames (List α) where
  rename ρ as := as.map (rename ρ)
  one as := (List.map_congr_left fun a _ => Renames.one a).trans (List.map_id' as)
  mul ρ σ as := by simp [Renames.mul]

instance : Renames (Option α) where
  rename ρ a := a.map (rename ρ)
  one a := by cases a <;> simp [Renames.one]
  mul ρ σ a := by cases a <;> simp [Renames.mul]

instance : Renames (α × β) where
  rename ρ p := (rename ρ p.1, rename ρ p.2)
  one p := by simp [Renames.one]
  mul ρ σ p := by simp [Renames.mul]

instance : Renames (Except α β) where
  rename ρ
    | .ok b => .ok (rename ρ b)
    | .error a => .error (rename ρ a)
  one x := by cases x <;> simp [Renames.one]
  mul ρ σ x := by cases x <;> simp [Renames.mul]

theorem renameList (as : List α) : rename ρ as = as.map (rename ρ) := rfl

@[simp] theorem renameNil : rename ρ ([] : List α) = [] := rfl

@[simp] theorem renameCons (a : α) (as : List α) :
    rename ρ (a :: as) = rename ρ a :: rename ρ as := rfl

@[simp] theorem renameAppend (as bs : List α) :
    rename ρ (as ++ bs) = rename ρ as ++ rename ρ bs := List.map_append

@[simp] theorem renameLength (as : List α) : (rename ρ as).length = as.length := List.length_map _

@[simp] theorem renameNone : rename ρ (none : Option α) = none := rfl

@[simp] theorem renameSome (a : α) : rename ρ (some a) = some (rename ρ a) := rfl

@[simp] theorem renamePair (a : α) (b : β) : rename ρ (a, b) = (rename ρ a, rename ρ b) := rfl

@[simp] theorem renameOk (b : β) :
    rename ρ (.ok b : Except α β) = .ok (rename ρ b) := rfl

@[simp] theorem renameError (a : α) :
    rename ρ (.error a : Except α β) = .error (rename ρ a) := rfl

instance [Still α] : Still (List α) :=
  ⟨fun _ as => (List.map_congr_left fun a _ => renameStill a).trans (List.map_id' as)⟩

instance [Still α] : Still (Option α) := ⟨fun ρ a => by cases a <;> simp⟩

instance [Still α] [Still β] : Still (α × β) := ⟨fun ρ p => by simp [rename]⟩

def Fixes (D : Store → Nat → Prop) (ρ : Renaming) : Prop := ∀ s r, D s r → ρ s r = r

def Confined (D : Store → Nat → Prop) (a : α) : Prop := ∀ ρ, Fixes D ρ → rename ρ a = a

end

structure Pairing where
  partner : Renaming
  domain : Store → Nat → Prop
  bound : Store → Nat
  below : ∀ s r, domain s r → r < bound s

namespace Pairing

instance : Preorder Pairing where
  le P Q := ∀ s r, P.domain s r → Q.domain s r ∧ Q.partner s r = P.partner s r
  le_refl _ _ _ there := ⟨there, rfl⟩
  le_trans P Q R pq qr s r there := by
    obtain ⟨inQ, same⟩ := pq s r there
    obtain ⟨inR, same'⟩ := qr s r inQ
    exact ⟨inR, same'.trans same⟩

def Pairs (P : Pairing) (s : Store) (r r' : Nat) : Prop := P.domain s r ∧ P.partner s r = r'

variable {P Q : Pairing} {s : Store} {r r' : Nat}

theorem Pairs.mono (pairs : P.Pairs s r r') (le : P ≤ Q) : Q.Pairs s r r' := by
  obtain ⟨there, same⟩ := le s r pairs.1
  exact ⟨there, same.trans pairs.2⟩

theorem domainOf (fixed : ∀ ρ, Fixes P.domain ρ → ρ s r = r) : P.domain s r := by
  by_contra out
  let far := P.bound s + r + 1
  let moving : Renaming := Function.update 1 s (Equiv.swap r far)
  have fixes : Fixes P.domain moving := by
    intro t q there
    by_cases same : t = s
    · subst same
      have low := P.below t q there
      have here : q ≠ r := fun e => out (e ▸ there)
      have beyond : q ≠ far := by omega
      simp [moving, Equiv.swap_apply_of_ne_of_ne here beyond]
    · simp [moving, same]
  have moved := fixed moving fixes
  simp [moving] at moved
  omega

end Pairing

structure Alike {α : Type} [Renames α] (P : Pairing) (a a' : α) : Prop where
  renamed : a' = rename P.partner a
  within : Confined P.domain a

section
variable {α β γ δ : Type} [Renames α] [Renames β] [Renames γ] [Renames δ] {P Q : Pairing}
  {a a' : α} {b b' : β} {c c' : γ}

theorem confinedMono {D E : Store → Nat → Prop} (sub : ∀ s r, D s r → E s r) (within : Confined D a) :
    Confined E a := fun ρ fixes => within ρ fun s r there => fixes s r (sub s r there)

theorem Alike.mono (alike : Alike P a a') (le : P ≤ Q) : Alike Q a a' := by
  obtain ⟨rfl, within⟩ := alike
  refine ⟨?_, confinedMono (fun s r there => (le s r there).1) within⟩
  have fixes : Fixes P.domain (P.partner⁻¹ * Q.partner) := by
    intro s r there
    show (P.partner s)⁻¹ (Q.partner s r) = r
    rw [(le s r there).2]
    exact (P.partner s).symm_apply_apply r
  have same := congrArg (rename P.partner) (within _ fixes)
  rw [← Renames.mul, mul_inv_cancel_left] at same
  exact same.symm

theorem alikeStill [Still α] (a : α) : Alike P a a := ⟨by simp, fun ρ _ => by simp⟩

theorem Alike.still [Still α] (alike : Alike P a a') : a' = a := by
  rw [alike.renamed, renameStill]

theorem Alike.map {f : α → β} (commutes : ∀ ρ a, f (rename ρ a) = rename ρ (f a))
    (alike : Alike P a a') : Alike P (f a) (f a') := by
  obtain ⟨rfl, within⟩ := alike
  exact ⟨commutes _ a, fun ρ fixes => by rw [← commutes, within ρ fixes]⟩

theorem Alike.map₂ {f : α → β → γ}
    (commutes : ∀ ρ a b, f (rename ρ a) (rename ρ b) = rename ρ (f a b))
    (left : Alike P a a') (right : Alike P b b') : Alike P (f a b) (f a' b') := by
  obtain ⟨rfl, within⟩ := left
  obtain ⟨rfl, within'⟩ := right
  exact ⟨commutes _ a b, fun ρ fixes => by rw [← commutes, within ρ fixes, within' ρ fixes]⟩

theorem Alike.map₃ {f : α → β → γ → δ}
    (commutes : ∀ ρ a b c, f (rename ρ a) (rename ρ b) (rename ρ c) = rename ρ (f a b c))
    (first : Alike P a a') (second : Alike P b b') (third : Alike P c c') :
    Alike P (f a b c) (f a' b' c') := by
  obtain ⟨rfl, within⟩ := first
  obtain ⟨rfl, within'⟩ := second
  obtain ⟨rfl, within''⟩ := third
  refine ⟨commutes _ a b c, fun ρ fixes => ?_⟩
  rw [← commutes, within ρ fixes, within' ρ fixes, within'' ρ fixes]

theorem alikePair (left : Alike P a a') (right : Alike P b b') : Alike P (a, b) (a', b') :=
  left.map₂ (fun _ _ _ => rfl) right

theorem Alike.fst {p p' : α × β} (alike : Alike P p p') : Alike P p.1 p'.1 :=
  alike.map fun _ _ => rfl

theorem Alike.snd {p p' : α × β} (alike : Alike P p p') : Alike P p.2 p'.2 :=
  alike.map fun _ _ => rfl

theorem alikeNil : Alike P ([] : List α) [] := ⟨rfl, fun _ _ => rfl⟩

theorem alikeCons {as as' : List α} (first : Alike P a a') (rest : Alike P as as') :
    Alike P (a :: as) (a' :: as') := first.map₂ (fun _ _ _ => rfl) rest

theorem alikeNone : Alike P (none : Option α) none := ⟨rfl, fun _ _ => rfl⟩

theorem alikeSome (alike : Alike P a a') : Alike P (some a) (some a') :=
  alike.map fun _ _ => rfl

theorem Alike.list {as as' : List α} (alike : Alike P as as') :
    as = [] ∧ as' = [] ∨ ∃ a rest a' rest', as = a :: rest ∧ as' = a' :: rest' ∧
      Alike P a a' ∧ Alike P rest rest' := by
  obtain ⟨rfl, within⟩ := alike
  cases as with
  | nil => exact .inl ⟨rfl, rfl⟩
  | cons a rest =>
    refine .inr ⟨a, rest, _, _, rfl, rfl, ⟨rfl, fun ρ fixes => ?_⟩, rfl, fun ρ fixes => ?_⟩
    · exact (List.cons.inj (within ρ fixes)).1
    · exact (List.cons.inj (within ρ fixes)).2

theorem Alike.option {o o' : Option α} (alike : Alike P o o') :
    o = none ∧ o' = none ∨ ∃ a a', o = some a ∧ o' = some a' ∧ Alike P a a' := by
  obtain ⟨rfl, within⟩ := alike
  cases o with
  | none => exact .inl ⟨rfl, rfl⟩
  | some a => exact .inr ⟨a, _, rfl, rfl, rfl, fun ρ fixes => Option.some.inj (within ρ fixes)⟩

theorem Alike.elim {o o' : Option α} (alike : Alike P o o') {f f' : α → β} (without : Alike P b b')
    (next : ∀ a a', Alike P a a' → Alike P (f a) (f' a')) :
    Alike P (o.elim b f) (o'.elim b' f') := by
  obtain ⟨rfl, rfl⟩ | ⟨a, a', rfl, rfl, same⟩ := alike.option
  · exact without
  · exact next a a' same

theorem Alike.except {x x' : Except α β} (alike : Alike P x x') :
    (∃ b b', x = .ok b ∧ x' = .ok b' ∧ Alike P b b') ∨
      ∃ a a', x = .error a ∧ x' = .error a' ∧ Alike P a a' := by
  obtain ⟨rfl, within⟩ := alike
  cases x with
  | ok b => exact .inl ⟨b, _, rfl, rfl, rfl, fun ρ fixes => Except.ok.inj (within ρ fixes)⟩
  | error a => exact .inr ⟨a, _, rfl, rfl, rfl, fun ρ fixes => Except.error.inj (within ρ fixes)⟩

theorem Alike.lengths {as as' : List α} (alike : Alike P as as') : as'.length = as.length := by
  rw [alike.renamed, renameLength]

theorem Alike.get {as as' : List α} (alike : Alike P as as') (i : Nat) :
    Alike P as[i]? as'[i]? :=
  alike.map (f := fun as : List α => as[i]?) fun _ _ => List.getElem?_map

theorem Alike.getD {o o' : Option α} (alike : Alike P o o') (other : Alike P a a') :
    Alike P (o.getD a) (o'.getD a') := by
  obtain ⟨rfl, rfl⟩ | ⟨b, b', rfl, rfl, same⟩ := alike.option
  · exact other
  · exact same

theorem Alike.isSome {o o' : Option α} (alike : Alike P o o') : o'.isSome = o.isSome := by
  obtain ⟨rfl, rfl⟩ | ⟨b, b', rfl, rfl, _⟩ := alike.option
  · rfl
  · rfl

theorem Alike.isEmpty {as as' : List α} (alike : Alike P as as') : as'.isEmpty = as.isEmpty := by
  obtain ⟨rfl, rfl⟩ | ⟨a, rest, a', rest', rfl, rfl, _⟩ := alike.list
  · rfl
  · rfl

theorem Alike.append {as as' bs bs' : List α} (left : Alike P as as') (right : Alike P bs bs') :
    Alike P (as ++ bs) (as' ++ bs') :=
  left.map₂ (fun _ _ _ => (renameAppend _ _).symm) right

theorem Alike.each {f : α → β} {f' : α → β} {as as' : List α} (alike : Alike P as as')
    (same : ∀ a a', Alike P a a' → Alike P (f a) (f' a')) :
    Alike P (as.map f) (as'.map f') := by
  induction as generalizing as' with
  | nil =>
    obtain ⟨_, rfl⟩ | ⟨a, rest, _, _, wrong, _⟩ := alike.list
    · exact alikeNil
    · contradiction
  | cons a rest ih =>
    obtain ⟨wrong, _⟩ | ⟨_, _, a', rest', here, rfl, first, others⟩ := alike.list
    · contradiction
    · cases here
      exact alikeCons (same a a' first) (ih others)

theorem Alike.take {as as' : List α} (alike : Alike P as as') (n : Nat) :
    Alike P (as.take n) (as'.take n) :=
  alike.map (f := List.take n) fun _ _ => (List.map_take ..).symm

theorem Alike.set {as as' : List α} (alike : Alike P as as') (i : Nat) (same : Alike P a a') :
    Alike P (as.set i a) (as'.set i a') :=
  alike.map₂ (f := fun as a => as.set i a) (fun _ _ _ => (List.map_set ..).symm) same

theorem Alike.eraseIdx {as as' : List α} (alike : Alike P as as') (i : Nat) :
    Alike P (as.eraseIdx i) (as'.eraseIdx i) :=
  alike.map (f := fun as : List α => as.eraseIdx i) fun _ _ => by
    simp [renameList, List.eraseIdx_eq_take_drop_succ]

theorem Alike.andThen {x x' : Except α β} {f f' : β → Except α γ} (first : Alike P x x')
    (next : ∀ b b', Alike P b b' → Alike P (f b) (f' b')) : Alike P (x >>= f) (x' >>= f') := by
  obtain ⟨b, b', rfl, rfl, same⟩ | ⟨e, e', rfl, rfl, same⟩ := first.except
  · exact next b b' same
  · exact same.map (f := fun e => (.error e : Except α γ)) fun _ _ => rfl

theorem alikeOk (alike : Alike P b b') : Alike P (.ok b : Except α β) (.ok b') :=
  alike.map fun _ _ => rfl

theorem alikeError (alike : Alike P a a') : Alike P (.error a : Except α β) (.error a') :=
  alike.map fun _ _ => rfl

theorem alikeIf {d d' : α} {q : Prop} [Decidable q] (yes : Alike P a a') (no : Alike P d d') :
    Alike P (if q then a else d) (if q then a' else d') := by
  split
  · exact yes
  · exact no

theorem alikeFixed (fixed : ∀ ρ, rename ρ a = a) : Alike P a a :=
  ⟨(fixed _).symm, fun ρ _ => fixed ρ⟩

end

end FlowDouble
