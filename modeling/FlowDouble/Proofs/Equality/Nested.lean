import FlowDouble.Proofs.Attributes.Operations
import FlowDouble.Proofs.Context.Formed
import FlowDouble.Proofs.Equality.Agreement
/-! Values that are nested finitely and free of numbers that equal nothing: followed deep enough, they
are written out in full. -/
namespace FlowDouble

def Value.standsAlone : Value → Bool
  | .float _ word => Binary64.number word ≠ .undefined
  | .facet _ f _ => f = .values
  | .tuple .. | .upload .. | .principal .. | .attributes .. | .parameters _ | .list _
  | .dictionary _ => false
  | _ => true

/-- Lists and maps lie in each other at most so deep. A map is one of any class: a dictionary, a
parameter map, or a chain of attribute maps that ends in one of these. -/
inductive World.Nested (w : World) : Nat → Value → Prop where
  | alone {n v} (alone : v.standsAlone = true) : w.Nested n v
  | tuple {n tag vs} (parts : ∀ v ∈ vs, w.Nested n v) : w.Nested n (.tuple tag vs)
  | upload {n tag a b c d} (name : w.Nested n a) (content : w.Nested n b)
      (originalName : w.Nested n c) (contentType : w.Nested n d) :
      w.Nested n (.upload tag a b c d)
  | principal {n tag a} (name : w.Nested n a) : w.Nested n (.principal tag a)
  | list {n r} (parts : ∀ v ∈ w.list r, w.Nested n v) : w.Nested (n + 1) (.list r)
  | map {n v} (map : v.root.isMapping = true) (keys : ∀ e ∈ (w.items v).items, w.Nested n e.1)
      (values : ∀ e ∈ (w.items v).items, w.Nested n e.2) : w.Nested (n + 1) v

inductive Shape where
  | alone
  | list
  | tuple
  | upload
  | principal
  | map
  deriving DecidableEq

def Value.shape : Value → Shape
  | .list _ => .list
  | .tuple .. => .tuple
  | .upload .. => .upload
  | .principal .. => .principal
  | .attributes .. | .parameters _ | .dictionary _ => .map
  | _ => .alone

namespace Snapshot

def shape : Snapshot → Shape
  | list _ => .list
  | tuple _ => .tuple
  | upload .. => .upload
  | principal _ => .principal
  | mapping .. | view .. => .map
  | _ => .alone

theorem atomShape {x : Snapshot} (atom : x.isAtom = true) : x.shape = .alone := by
  cases x <;> first | rfl | contradiction

theorem agreesShape {x y : Snapshot} (h : x.agrees y = true) : x.shape = y.shape := by
  by_cases atom : x.isAtom = true
  · rw [agreesAtom atom] at h
    rw [atomShape atom, atomShape (equalAtomsIsAtom atom h)]
  cases x with
  | list xs => obtain ⟨ys, rfl, _⟩ := agreesList h; rfl
  | tuple xs => obtain ⟨ys, rfl, _⟩ := agreesTuple h; rfl
  | mapping form es => obtain ⟨_, _, rfl, _⟩ := agreesMapping h; rfl
  | upload => obtain ⟨_, _, _, _, rfl, _⟩ := agreesUpload h; rfl
  | principal => obtain ⟨_, rfl, _⟩ := agreesPrincipal h; rfl
  | facet => obtain ⟨_, _, _, rfl⟩ := agreesFacet h; rfl
  | view => simp [agrees, equalAtoms, number?] at h
  | untold => simp [agrees, equalAtoms, number?] at h
  | _ => exact absurd rfl atom

def isRaised : Snapshot → Bool
  | report .. | fault .. => true
  | _ => false

theorem raisedApart {x y : Snapshot} (raised : x.isRaised = true) (other : y.isRaised = false) :
    x.agrees y = false ∧ y.agrees x = false := by
  cases x <;> try contradiction
  all_goals cases y <;> first | contradiction | simp [agrees, equalAtoms, number?]

end Snapshot

structure Resolver.Tells (o o' : Resolver) : Prop where
  context : ∀ r, ∃ complete members, o.context r = .context r complete members
  context' : ∀ r, ∃ complete members, o'.context r = .context r complete members
  raised : ∀ r, (o.error r).isRaised = true
  raised' : ∀ r, (o'.error r).isRaised = true
  errors : ∀ r s, (o.error r).agrees (o'.error s) = (r == s)

theorem Value.snapshotsEach (o : Resolver) (vs : List Value) :
    snapshots o vs = vs.map (snapshot o) := by
  induction vs with
  | nil => rfl
  | cons v vs ih => simp only [snapshots, ih, List.map_cons]

section
variable {o o' : Resolver}

open Snapshot

theorem aloneTold (tells : o.Tells o') {k k' : Value} (alone : k.standsAlone = true)
    (hashable : k'.hashable = true) : (k.snapshot o).agrees (k'.snapshot o') = k.sameKey k' := by
  obtain ⟨context, context', raised, raised', errors⟩ := tells
  choose complete members context using context
  choose complete' members' context' using context'
  have unraised {v : Value} (hashable : v.hashable = true) (other : ∀ kind r, v ≠ .error kind r) :
      (v.snapshot o').isRaised = false := by
    cases v <;> first
      | rfl | (simp [Value.snapshot, context', isRaised]; done) | contradiction
      | exact absurd rfl (other _ _)
  by_cases failure : ∃ kind r, k = .error kind r
  · obtain ⟨kind, r, rfl⟩ := failure
    by_cases failure' : ∃ kind s, k' = .error kind s
    · obtain ⟨kind', s, rfl⟩ := failure'
      exact (errors r s).trans (by simp [Value.sameKey, Value.same, Value.number?])
    · have other := unraised hashable fun kind s same => failure' ⟨kind, s, same⟩
      refine (raisedApart (raised r) other).1.trans ?_
      cases k' <;> first | rfl | exact absurd ⟨_, _, rfl⟩ failure'
  have own : (k.snapshot o).isRaised = false := by
    cases k <;> first
      | rfl | (simp [Value.snapshot, context, isRaised]; done) | contradiction
      | exact absurd ⟨_, _, rfl⟩ failure
  by_cases failure' : ∃ kind s, k' = .error kind s
  · obtain ⟨kind, s, rfl⟩ := failure'
    refine (raisedApart (raised' s) own).2.trans ?_
    cases k <;> first | rfl | contradiction | exact absurd ⟨_, _, rfl⟩ failure
  cases k <;> first | contradiction | exact absurd ⟨_, _, rfl⟩ failure | skip
  all_goals cases k' <;> first
    | contradiction | exact absurd ⟨_, _, rfl⟩ failure' | rfl
    | simp [Value.snapshot, context, context', agrees, equalAtoms, Value.sameKey, Value.same,
        number?, Value.number?]
  case bool.bool | int.int =>
    rintro rfl
    exact Number.equalRefl Number.noConfusion
  case float.float =>
    rintro - rfl
    exact Number.equalRefl (of_decide_eq_true alone)

theorem keysTold {vs us : List Value}
    (each : ∀ v ∈ vs, ∀ u ∈ us, (v.snapshot o).agrees (u.snapshot o') = v.sameKey u) :
    allAgree (Value.snapshots o vs) (Value.snapshots o' us) = Value.sameKeys vs us := by
  induction vs generalizing us with
  | nil => cases us <;> simp [Value.snapshots, allAgree, Value.sameKeys]
  | cons v vs ih =>
    cases us with
    | nil => simp [Value.snapshots, allAgree, Value.sameKeys]
    | cons u us =>
      have first := each v List.mem_cons_self u List.mem_cons_self
      have rest := ih fun v mem u there =>
        each v (List.mem_cons_of_mem _ mem) u (List.mem_cons_of_mem _ there)
      simp only [Value.snapshots, allAgree, Value.sameKeys, first, rest]

theorem hashableTuple {tag : Nat} {vs : List Value} :
    (Value.tuple tag vs).hashable = true ↔ ∀ v ∈ vs, v.hashable = true := by
  have all : (Value.anyChangeable? vs).isNone = true ↔ ∀ v ∈ vs, v.hashable = true := by
    induction vs with
    | nil => simp [Value.anyChangeable?]
    | cons v vs ih =>
      simp only [Value.anyChangeable?, Option.isNone_or, Bool.and_eq_true, ih, List.forall_mem_cons]
      rfl
  exact all

theorem hashableUpload {tag : Nat} {n c q t : Value} :
    (Value.upload tag n c q t).hashable = true ↔
      n.hashable = true ∧ c.hashable = true ∧ q.hashable = true ∧ t.hashable = true := by
  simp [Value.hashable, Value.changeable?]

theorem toldShape (tells : o.Tells o') {k : Value} (hashable : k.hashable = true) :
    (k.snapshot o').shape = k.shape := by
  cases k with
  | context r =>
    obtain ⟨_, _, told⟩ := tells.context' r
    exact congrArg Snapshot.shape told
  | error kind r =>
    have raised := tells.raised' r
    simp only [Value.snapshot]
    cases h : o'.error r <;> first | rfl | (rw [h] at raised; contradiction)
  | _ => first | rfl | contradiction

theorem sameKeyShape {k k' : Value} (h : k.sameKey k' = true) : k.shape = k'.shape := by
  cases k <;> cases k' <;> first | rfl | simp [Value.sameKey, Value.same, Value.number?] at h

theorem shapesDiffer (tells : o.Tells o') {k k' : Value} (differ : k.shape ≠ k'.shape)
    (told : (k.snapshot o).shape = k.shape) (hashable' : k'.hashable = true) :
    (k.snapshot o).agrees (k'.snapshot o') = k.sameKey k' := by
  have apart : (k.snapshot o).agrees (k'.snapshot o') = false :=
    Bool.eq_false_iff.mpr fun h =>
      differ ((told.symm.trans (agreesShape h)).trans (toldShape tells hashable'))
  have keys : k.sameKey k' = false := Bool.eq_false_iff.mpr fun h => differ (sameKeyShape h)
  rw [apart, keys]

theorem keyTold (tells : o.Tells o') {w : World} {n : Nat} {k k' : Value} (nested : w.Nested n k)
    (hashable : k.hashable = true) (hashable' : k'.hashable = true) :
    (k.snapshot o).agrees (k'.snapshot o') = k.sameKey k' := by
  induction nested generalizing k' with
  | alone alone => exact aloneTold tells alone hashable'
  | @tuple _ tag vs parts ih =>
    cases k' with
    | tuple tag' us =>
      have own := hashableTuple.mp hashable
      have others := hashableTuple.mp hashable'
      simp only [Value.snapshot, agrees, Value.sameKey]
      exact keysTold fun v mem u there => ih v mem (own v mem) (others u there)
    | _ => exact shapesDiffer tells (by simp [Value.shape]) rfl hashable'
  | upload _ _ _ _ hn hc hq ht =>
    cases k' with
    | upload tag n c q t =>
      obtain ⟨on, oc, oq, ot⟩ := hashableUpload.mp hashable
      obtain ⟨sn, sc, sq, st⟩ := hashableUpload.mp hashable'
      simp only [Value.snapshot, agrees, Value.sameKey, hn on sn, hc oc sc, hq oq sq, ht ot st]
    | _ => exact shapesDiffer tells (by simp [Value.shape]) rfl hashable'
  | principal _ hn =>
    cases k' with
    | principal tag n =>
      simp only [Value.snapshot, agrees, Value.sameKey]
      exact hn hashable hashable'
    | _ => exact shapesDiffer tells (by simp [Value.shape]) rfl hashable'
  | list => contradiction
  | @map n v map => cases v <;> contradiction

end

end FlowDouble
