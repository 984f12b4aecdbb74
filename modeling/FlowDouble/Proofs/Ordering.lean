import FlowDouble.Proofs.Equality.Told
import FlowDouble.Proofs.Sorting
import FlowDouble.Snapshot.Equal
/-! Whatever can be a key can be compared with any other key, and either comes before it or not, or
has no order with it. So to sort keys fails for want of an order, if at all. -/
namespace FlowDouble

def Concludes {α : Type} (P : Fault → Prop) (Q : α → Prop) : Except Fault α → Prop
  | .ok a => Q a
  | .error f => P f

variable {α β : Type} {P : Fault → Prop}

theorem concludesBind {Q : α → Prop} {R : β → Prop} {x : Except Fault α} {next : α → Except Fault β}
    (first : Concludes P Q x) (rest : ∀ a, Q a → Concludes P R (next a)) :
    Concludes P R (x >>= next) := by
  cases x with
  | error f => exact first
  | ok a => exact rest a first

namespace Sorting

variable {less : α → α → Except Fault Bool} {all : List α}
variable (only : ∀ a ∈ all, ∀ b ∈ all, Concludes P (fun _ => True) (less a b))
include only

theorem runConcludes (falling : Bool) {last : α} {ks : List α} (inside : last ∈ all)
    (among : ks ⊆ all) :
    Concludes P (fun parts => parts.1 ⊆ all ∧ parts.2 ⊆ all) (run less falling last ks) := by
  induction ks generalizing last with
  | nil => exact ⟨among, among⟩
  | cons k ks ih =>
    obtain ⟨there, later⟩ := List.cons_subset.mp among
    refine concludesBind (only k there last inside) fun below _ => ?_
    by_cases follows : below = falling
    · rw [if_pos follows]
      exact concludesBind (ih there later) fun parts within =>
        ⟨List.cons_subset.mpr ⟨there, within.1⟩, within.2⟩
    · rw [if_neg follows]
      exact ⟨List.nil_subset _, among⟩

theorem placeConcludes {k : α} {ks : List α} (inside : k ∈ all) (among : ks ⊆ all) (n lo hi : Nat) :
    Concludes P (fun _ => True) (place less k ks n lo hi) := by
  induction n generalizing lo hi with
  | zero => trivial
  | succ n ih =>
    have halves (below : Bool) (m : Nat) : Concludes P (fun _ => True)
        (if below then place less k ks n lo m else place less k ks n (m + 1) hi) := by
      cases below
      · exact ih _ _
      · exact ih _ _
    unfold place
    by_cases more : lo < hi
    · rw [if_pos more]
      dsimp only
      cases found : ks[lo + (hi - lo) / 2]? with
      | none => exact halves true _
      | some l =>
        exact concludesBind (only k inside l (among (List.mem_of_getElem? found))) fun below _ =>
          halves below _
    · rw [if_neg more]
      trivial

theorem insertConcludes {k : α} {ks : List α} (inside : k ∈ all) (among : ks ⊆ all) :
    Concludes P (· ⊆ all) (insert less ks k) := by
  refine concludesBind (placeConcludes only inside among _ _ _) fun i _ => ?_
  intro l mem
  rcases List.eq_or_mem_of_mem_insertIdx mem with rfl | there
  · exact inside
  · exact among there

theorem insertAllConcludes {sorted ks : List α} (before : sorted ⊆ all) (among : ks ⊆ all) :
    Concludes P (· ⊆ all) (ks.foldlM (insert less) sorted) := by
  induction ks generalizing sorted with
  | nil => exact before
  | cons k ks ih =>
    obtain ⟨there, later⟩ := List.cons_subset.mp among
    rw [List.foldlM_cons]
    exact concludesBind (insertConcludes only there before) fun sorted within => ih within later

theorem sortConcludes : Concludes P (· ⊆ all) (sort less all) := by
  match all, only with
  | [], _ => exact List.nil_subset _
  | [k], _ => exact List.Subset.refl _
  | k :: l :: ks, only =>
    have first : k ∈ k :: l :: ks := List.mem_cons_self
    have second : l ∈ k :: l :: ks := List.mem_cons_of_mem _ List.mem_cons_self
    have rest : ks ⊆ k :: l :: ks := fun x mem => by simp [mem]
    refine concludesBind (only l second k first) fun falling _ => ?_
    refine concludesBind (runConcludes only falling second rest) fun parts within => ?_
    have start : k :: l :: parts.1 ⊆ k :: l :: ks :=
      List.cons_subset.mpr ⟨first, List.cons_subset.mpr ⟨second, within.1⟩⟩
    refine insertAllConcludes only ?_ within.2
    cases falling
    · exact start
    · exact fun x mem => start (List.mem_reverse.mp mem)

end Sorting

namespace Snapshot

inductive Keyed : Snapshot → Prop where
  | atom {x} (atom : x.isAtom = true) : Keyed x
  | values {tag map parts} : Keyed (facet tag .values map parts)
  | tuple {xs} (parts : ∀ x ∈ xs, Keyed x) : Keyed (tuple xs)
  | upload {n c o t} (name : Keyed n) (content : Keyed c) (originalName : Keyed o)
      (contentType : Keyed t) : Keyed (upload n c o t)
  | principal {n} (name : Keyed n) : Keyed (principal n)

def Never (_ : Fault) : Prop := False

def Unordered (f : Fault) : Prop := ∃ a b, f = .misuse (.unordered a b)

variable {x y : Snapshot}

theorem alikeConcludes (compared : Concludes P (fun _ => True) (x.equal y)) :
    Concludes P (fun _ => True) (x.alike y) := by
  unfold alike
  split
  · trivial
  · exact compared

theorem concludesBoth {a b : Except Fault Bool} (first : Concludes P (fun _ => True) a)
    (last : Concludes P (fun _ => True) b) :
    Concludes P (fun _ => True) (do
      if !(← a) then return false
      b) := by
  refine concludesBind first fun same _ => ?_
  cases same
  · trivial
  · exact last

theorem allAlikeConcludes {xs ys : List Snapshot}
    (compared : ∀ x ∈ xs, ∀ y ∈ ys, Concludes P (fun _ => True) (x.equal y)) :
    Concludes P (fun _ => True) (allAlike xs ys) := by
  induction xs generalizing ys with
  | nil => cases ys <;> simp [allAlike, Concludes]
  | cons x xs ih =>
    cases ys with
    | nil => simp [allAlike, Concludes]
    | cons y ys =>
      rw [allAlikeCons]
      have first := alikeConcludes (compared x List.mem_cons_self y List.mem_cons_self)
      refine concludesBind first fun b _ => ?_
      cases b
      · trivial
      · exact ih fun x mem y there =>
          compared x (List.mem_cons_of_mem _ mem) y (List.mem_cons_of_mem _ there)

theorem equalToAtom (keyed : Keyed x) (atom : y.isAtom = true) :
    Concludes Never (fun _ => True) (x.equal y) := by
  cases keyed with
  | atom own =>
    rw [equalOfAtom own]
    cases y <;> first | contradiction | trivial
  | _ => cases y <;> first | contradiction | simp [equal, Concludes]

theorem equalConcludes (keyed : Keyed x) (other : Keyed y) :
    Concludes Never (fun _ => True) (x.equal y) := by
  induction keyed generalizing y with
  | atom atom =>
    cases other with
    | atom atom' => exact equalToAtom (.atom atom) atom'
    | _ =>
      rw [equalOfAtom atom]
      trivial
  | values =>
    cases other with
    | atom atom' => exact equalToAtom .values atom'
    | _ => simp [equal, Concludes]
  | tuple parts ih =>
    cases other with
    | tuple parts' =>
      rw [equal]
      exact allAlikeConcludes fun x mem y there => ih x mem (parts' y there)
    | atom atom' => exact equalToAtom (.tuple parts) atom'
    | _ => simp [equal, Concludes]
  | upload n c o t hn hc ho ht =>
    cases other with
    | upload n' c' o' t' =>
      rw [equalOfUploads]
      refine concludesBoth (alikeConcludes (hn n')) ?_
      refine concludesBoth (alikeConcludes (hc c')) ?_
      exact concludesBoth (alikeConcludes (ho o')) (alikeConcludes (ht t'))
    | atom atom' => exact equalToAtom (.upload n c o t) atom'
    | _ => simp [equal, Concludes]
  | principal n hn =>
    cases other with
    | principal n' =>
      rw [equal]
      exact alikeConcludes (hn n')
    | atom atom' => exact equalToAtom (.principal n) atom'
    | _ => simp [equal, Concludes]

theorem concludesNever {Q : α → Prop} {x : Except Fault α} (never : Concludes Never Q x) :
    Concludes P Q x := by
  cases x with
  | error f => exact never.elim
  | ok a => exact never

theorem rowLessConcludes {xs ys : List Snapshot} (keyed : ∀ x ∈ xs, Keyed x)
    (others : ∀ y ∈ ys, Keyed y)
    (compared : ∀ x ∈ xs, ∀ y ∈ ys, Concludes Unordered (fun _ => True) (x.less y)) :
    Concludes Unordered (fun _ => True) (rowLess xs ys) := by
  induction xs generalizing ys with
  | nil => cases ys <;> simp [rowLess, Concludes]
  | cons x xs ih =>
    cases ys with
    | nil => simp [rowLess, Concludes]
    | cons y ys =>
      have equal := equalConcludes (keyed x List.mem_cons_self) (others y List.mem_cons_self)
      rw [rowLess]
      refine concludesBind (concludesNever (alikeConcludes equal)) fun b _ => ?_
      cases b
      · exact compared x List.mem_cons_self y List.mem_cons_self
      · exact ih (fun x mem => keyed x (List.mem_cons_of_mem _ mem))
          (fun y mem => others y (List.mem_cons_of_mem _ mem))
          fun x mem y there => compared x (List.mem_cons_of_mem _ mem) y
            (List.mem_cons_of_mem _ there)

theorem lessAlone (alone : ∀ xs ys, (x = list xs → y ≠ list ys) ∧ (x = tuple xs → y ≠ tuple ys)) :
    Concludes Unordered (fun _ => True) (x.less y) := by
  unfold less
  split
  · trivial
  · trivial
  · exact absurd rfl ((alone _ _).1 rfl)
  · exact absurd rfl ((alone _ _).2 rfl)
  · split
    · trivial
    · exact ⟨_, _, rfl⟩

theorem lessConcludes (keyed : Keyed x) (other : Keyed y) :
    Concludes Unordered (fun _ => True) (x.less y) := by
  induction keyed generalizing y with
  | @tuple xs parts ih =>
    cases other with
    | @tuple ys parts' =>
      rw [less]
      exact rowLessConcludes parts parts' fun x mem y there => ih x mem (parts' y there)
    | atom atom' =>
      refine lessAlone fun _ _ => ⟨by simp, fun _ same => ?_⟩
      rw [same] at atom'
      contradiction
    | _ => exact lessAlone fun _ _ => by simp
  | atom atom =>
    refine lessAlone fun _ _ => ⟨fun same => ?_, fun same => ?_⟩
    · rw [same] at atom
      contradiction
    · rw [same] at atom
      contradiction
  | _ => exact lessAlone fun _ _ => by simp

end Snapshot

open Snapshot (Keyed Unordered)

structure Resolver.TellsKeys (o : Resolver) : Prop where
  context : ∀ r, (o.context r).isAtom = true
  error : ∀ r, (o.error r).isAtom = true

theorem World.resolverTellsKeys [Calls] (w : World) (n : Nat) : (World.resolver n w).TellsKeys := by
  cases n with
  | zero => exact ⟨fun _ => rfl, fun _ => rfl⟩
  | succ n =>
    refine ⟨fun _ => rfl, fun r => ?_⟩
    show (w.snapshotRaised r _).isAtom = true
    unfold World.snapshotRaised
    split <;> rfl

namespace Value

variable {o : Resolver}

mutual

theorem keyKeyed (tells : o.TellsKeys) : ∀ v : Value, v.changeable? = none → Keyed (v.snapshot o)
  | .tuple _ vs, fixed => .tuple (keysKeyed tells vs fixed)
  | .upload _ n c r t, fixed => by
    simp only [changeable?, Option.or_eq_none_iff] at fixed
    exact .upload (keyKeyed tells n fixed.1) (keyKeyed tells c fixed.2.1) (keyKeyed tells r fixed.2.2.1)
      (keyKeyed tells t fixed.2.2.2)
  | .principal _ n, fixed => .principal (keyKeyed tells n fixed)
  | .facet _ .values _, _ => .values
  | .context r, _ => .atom (tells.context r)
  | .error _ r, _ => .atom (tells.error r)
  | .null, _ | .bool _, _ | .int _, _ | .float .., _ | .text _, _ | .bytes _, _ | .writer _, _
  | .stream _, _ | .token _, _ | .lock _, _ | .kind _, _ | .converter _, _ | .function _, _
  | .operation .., _ | .pending _, _ => .atom rfl

theorem keysKeyed (tells : o.TellsKeys) : ∀ vs : List Value, anyChangeable? vs = none →
    ∀ x ∈ Value.snapshots o vs, Keyed x
  | [], _ => nofun
  | v :: vs, fixed => by
    simp only [anyChangeable?, Option.or_eq_none_iff] at fixed
    exact List.forall_mem_cons.mpr ⟨keyKeyed tells v fixed.1, keysKeyed tells vs fixed.2⟩

end

end Value

theorem World.keysOrdered [Calls] (w : World) {keys : List Value}
    (hashable : ∀ key ∈ keys, key.hashable = true) :
    Concludes Unordered (fun _ => True)
      (Sorting.sort (fun a b => (w.snapshot a).less (w.snapshot b)) keys) := by
  have keyed (key : Value) (mem : key ∈ keys) : Keyed (w.snapshot key) :=
    Value.keyKeyed (w.resolverTellsKeys _) key (Option.isNone_iff_eq_none.mp (hashable key mem))
  have compared : ∀ a ∈ keys, ∀ b ∈ keys,
      Concludes Unordered (fun _ => True) ((w.snapshot a).less (w.snapshot b)) :=
    fun a ha b hb => Snapshot.lessConcludes (keyed a ha) (keyed b hb)
  have sorted := Sorting.sortConcludes compared
  cases h : Sorting.sort (fun a b => (w.snapshot a).less (w.snapshot b)) keys with
  | ok ks => trivial
  | error f =>
    rw [h] at sorted
    exact sorted

end FlowDouble
