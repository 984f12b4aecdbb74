import FlowDouble.Proofs.Equality.Nested
import FlowDouble.Proofs.Uses.Through
/-! What is nested less deep than references are followed is written out in full: nothing is cut off,
untold or shown as a view, and keys differ as snapshots where they differ as keys. -/
namespace FlowDouble

open Snapshot

theorem Value.aloneHashable {v : Value} (alone : v.standsAlone = true) : v.hashable = true := by
  cases v with
  | facet tag f map => cases f <;> first | rfl | contradiction
  | _ => first | rfl | contradiction

theorem Value.aloneShape {v : Value} (alone : v.standsAlone = true) : v.shape = .alone := by
  cases v <;> first | rfl | contradiction

theorem Value.mapShape {v : Value} (map : v.root.isMapping = true) : v.shape = .map := by
  cases v <;> first | rfl | contradiction

namespace World.Nested

variable {w : World} {n : Nat} {v : Value} (nested : w.Nested n v)
include nested

theorem ofAlone (shape : v.shape = .alone) : v.standsAlone = true := by
  cases nested with
  | alone alone => exact alone
  | map map => rw [Value.mapShape map] at shape; contradiction
  | _ => contradiction

theorem ofTuple (shape : v.shape = .tuple) :
    ∃ tag vs, v = .tuple tag vs ∧ ∀ u ∈ vs, w.Nested n u := by
  cases nested with
  | tuple parts => exact ⟨_, _, rfl, parts⟩
  | alone alone => rw [Value.aloneShape alone] at shape; contradiction
  | map map => rw [Value.mapShape map] at shape; contradiction
  | _ => contradiction

theorem ofUpload (shape : v.shape = .upload) : ∃ tag a b c d, v = .upload tag a b c d ∧
    w.Nested n a ∧ w.Nested n b ∧ w.Nested n c ∧ w.Nested n d := by
  cases nested with
  | upload name content originalName contentType =>
    exact ⟨_, _, _, _, _, rfl, name, content, originalName, contentType⟩
  | alone alone => rw [Value.aloneShape alone] at shape; contradiction
  | map map => rw [Value.mapShape map] at shape; contradiction
  | _ => contradiction

theorem ofPrincipal (shape : v.shape = .principal) :
    ∃ tag a, v = .principal tag a ∧ w.Nested n a := by
  cases nested with
  | principal name => exact ⟨_, _, rfl, name⟩
  | alone alone => rw [Value.aloneShape alone] at shape; contradiction
  | map map => rw [Value.mapShape map] at shape; contradiction
  | _ => contradiction

theorem ofList (shape : v.shape = .list) :
    ∃ r k, v = .list r ∧ n = k + 1 ∧ ∀ u ∈ w.list r, w.Nested k u := by
  cases nested with
  | list parts => exact ⟨_, _, rfl, rfl, parts⟩
  | alone alone => rw [Value.aloneShape alone] at shape; contradiction
  | map map => rw [Value.mapShape map] at shape; contradiction
  | _ => contradiction

theorem ofMap (shape : v.shape = .map) : ∃ k, n = k + 1 ∧ v.root.isMapping = true ∧
    (∀ e ∈ (w.items v).items, w.Nested k e.1) ∧ ∀ e ∈ (w.items v).items, w.Nested k e.2 := by
  cases nested with
  | map map keys values => exact ⟨_, rfl, map, keys, values⟩
  | alone alone => rw [Value.aloneShape alone] at shape; contradiction
  | _ => contradiction

end World.Nested

theorem World.tellsMap {w : World} (plain : w.Plain) :
    ∀ v : Value, v.root.isMapping = true → w.tellsEntries v = true
  | .dictionary _, _ => rfl
  | .parameters m, _ => by simp only [tellsEntries, hidesNothing plain]; rfl
  | .attributes tag shared backing, map => by
    have inner := tellsMap plain backing map
    simp only [tellsEntries, hidesNothing plain, inner]
    rfl

theorem aloneRegular {o : Resolver} (tells : o.Tells o) {v : Value}
    (alone : v.standsAlone = true) : Regular (v.snapshot o) := by
  cases v with
  | float tag word => exact .atom rfl fun same => of_decide_eq_true alone (Option.some.inj same)
  | facet tag f map => cases f <;> first | exact .values | contradiction
  | context r =>
    obtain ⟨_, _, told⟩ := tells.context r
    simp only [Value.snapshot, told]
    exact .atom rfl (by simp [number?])
  | error kind r =>
    have raised := tells.raised r
    simp only [Value.snapshot]
    cases h : o.error r <;> rw [h] at raised <;>
      first | contradiction | exact .atom rfl (by simp [number?])
  | _ => first | contradiction | exact .atom rfl (by simp [Value.snapshot, number?, Number.ofInt])

section
variable [Calls] {w w' : World} {n m m' : Nat} {v : Value}

theorem tellsWorlds (errors : w'.errors = w.errors) (deep : 0 < m) (deep' : 0 < m') :
    (World.resolver m w).Tells (World.resolver m' w') := by
  obtain ⟨k, rfl⟩ := Nat.exists_eq_succ_of_ne_zero (Nat.ne_of_gt deep)
  obtain ⟨k', rfl⟩ := Nat.exists_eq_succ_of_ne_zero (Nat.ne_of_gt deep')
  have raised (w : World) (r : Nat) (o : Resolver) : (w.snapshotRaised r o).isRaised = true := by
    unfold World.snapshotRaised
    split <;> rfl
  refine ⟨fun r => ⟨_, _, rfl⟩, fun r => ⟨_, _, rfl⟩, fun r => raised w r _, fun r => raised w' r _,
    fun r s => ?_⟩
  have told : (w.snapshotRaised r (World.resolver k w)).agrees
      (w'.snapshotRaised s (World.resolver k' w')) = (r == s) := by
    unfold World.snapshotRaised World.error
    rw [errors]
    by_cases same : r = s
    · subst same
      cases w.errors.read r <;> simp [World.snapshotReport, agrees, equalAtoms]
    · cases w.errors.read r <;> cases w.errors.read s <;>
        simp [World.snapshotReport, agrees, equalAtoms, number?, same]
  exact told

theorem listTold (r : Nat) : (Value.list r).snapshot (World.resolver (m + 1) w) =
    .list (Value.snapshots (World.resolver m w) (w.list r)) := rfl

theorem mapTold (plain : w.Plain) (map : v.root.isMapping = true) :
    v.snapshot (World.resolver (m + 1) w) =
      .mapping v.form (Entries.snapshot (World.resolver m w) (w.items v).items) := by
  have tells := World.tellsMap plain v map
  have shown : v.snapshot (World.resolver (m + 1) w) = w.snapshotMap v (World.resolver m) := by
    cases v <;> first | rfl | contradiction
  rw [shown]
  unfold World.snapshotMap
  rw [if_pos tells]

theorem toldRegular (formed : w.Formed) (nested : w.Nested n v) (deep : n < m) :
    Regular (v.snapshot (World.resolver m w)) := by
  have each {o : Resolver} {vs : List Value} (ih : ∀ v ∈ vs, Regular (v.snapshot o)) :
      ∀ x ∈ Value.snapshots o vs, Regular x := by
    rw [Value.snapshotsEach]
    intro x mem
    obtain ⟨v, there, rfl⟩ := List.mem_map.mp mem
    exact ih v there
  induction nested generalizing m with
  | alone alone =>
    have above := Nat.zero_lt_of_lt deep
    exact aloneRegular (tellsWorlds (w := w) rfl above above) alone
  | tuple _ ih => exact .tuple (each fun v mem => ih v mem deep)
  | upload _ _ _ _ hn hc ho ht => exact .upload (hn deep) (hc deep) (ho deep) (ht deep)
  | principal _ hn => exact .principal (hn deep)
  | list _ ih =>
    obtain ⟨k, rfl⟩ := Nat.exists_eq_succ_of_ne_zero (Nat.ne_zero_of_lt deep)
    exact .list (each fun v mem => ih v mem (Nat.lt_of_succ_lt_succ deep))
  | @map n v map nested _ keys values =>
    obtain ⟨k, rfl⟩ := Nat.exists_eq_succ_of_ne_zero (Nat.ne_zero_of_lt deep)
    have less := Nat.lt_of_succ_lt_succ deep
    have tells := tellsWorlds (w := w) rfl (Nat.zero_lt_of_lt less) (Nat.zero_lt_of_lt less)
    have sound := formed.itemsSound map
    rw [mapTold formed.plain map]
    refine .mapping (fun e mem => ?_) (fun e mem => ?_) (List.pairwise_map.mpr ?_)
    · obtain ⟨d, there, rfl⟩ := List.mem_map.mp mem
      exact keys d there less
    · obtain ⟨d, there, rfl⟩ := List.mem_map.mp mem
      exact values d there less
    · refine sound.distinct.imp_of_mem fun {d e} hd he apart => ?_
      exact (keyTold tells (nested d hd) (sound.hashable d hd) (sound.hashable e he)).trans apart

theorem nestedShape (plain : w.Plain) (nested : w.Nested n v) (deep : n < m) :
    (v.snapshot (World.resolver m w)).shape = v.shape := by
  cases nested with
  | alone alone =>
    have tells := tellsWorlds (w := w) rfl (Nat.zero_lt_of_lt deep) (Nat.zero_lt_of_lt deep)
    exact toldShape tells (Value.aloneHashable alone)
  | map map =>
    obtain ⟨k, rfl⟩ := Nat.exists_eq_succ_of_ne_zero (Nat.ne_zero_of_lt deep)
    rw [mapTold plain map, Value.mapShape map]
    rfl
  | _ => rfl

theorem alikeShape (formed : w.Formed) {v' : Value} {n' : Nat} (nested : w.Nested n v)
    (nested' : w.Nested n' v') (deep : n < m) (deep' : n' < m)
    (h : (v.snapshot (World.resolver m w)).agrees (v'.snapshot (World.resolver m w)) = true) :
    v.shape = v'.shape := by
  rw [← nestedShape formed.plain nested deep, ← nestedShape formed.plain nested' deep']
  exact agreesShape h

end

end FlowDouble
