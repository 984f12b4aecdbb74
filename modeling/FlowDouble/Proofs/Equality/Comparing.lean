import FlowDouble.Proofs.Equality.Exchange
/-! Comparing values that are written out in full tells whether they agree. Maps are equal when they have
the same keys with equal values. -/
namespace FlowDouble

open Snapshot

def World.Comparable (w : World) (v : Value) : Prop := ∃ n ≤ w.reach, w.Nested n v

theorem Entries.fewerKeys {es fs : Entries} (sound : es.Sound)
    (there : ∀ k, es.has k = true → fs.has k = true) : es.length ≤ fs.length := by
  have found : ∀ e ∈ es, ∃ f ∈ fs, e.1.sameKey f.1 = true := by
    intro e mem
    have has : es.has e.1 = true := by
      rw [Entries.has, findMember sound mem]
      rfl
    obtain ⟨x, other⟩ := Option.isSome_iff_exists.mp (there e.1 has)
    obtain ⟨f, inside, same, _⟩ := findSome other
    exact ⟨f, inside, Value.sameKeySymm same⟩
  have apart : es.Pairwise fun e d => ∀ f : Value × Value,
      e.1.sameKey f.1 = true → ¬ d.1.sameKey f.1 = true :=
    sound.distinct.imp fun {e d} differ f first second => by
      rw [Value.sameKeyTrans first (Value.sameKeySymm second)] at differ
      contradiction
  exact (matchedBack found apart).1

section
variable [Calls] {w : World} {n n' m : Nat} {a b c u v : Value}

theorem comparesAgree (formed : w.Formed) (ha : w.Comparable a) (hb : w.Comparable b) :
    a.isEqual b w = .ok ((w.snapshot a).agrees (w.snapshot b)) w := by
  obtain ⟨n, le, nested⟩ := ha
  obtain ⟨n', le', nested'⟩ := hb
  have same : (w.snapshot a).equal (w.snapshot b) = .ok ((w.snapshot a).agrees (w.snapshot b)) :=
    equalAgrees (toldRegular formed nested (Nat.lt_succ_of_le le))
      (toldRegular formed nested' (Nat.lt_succ_of_le le'))
  unfold Value.isEqual
  rw [Action.worldBind, same]
  rfl

theorem comparesAt (formed : w.Formed) (nested : w.Nested n a) (nested' : w.Nested n' b)
    (le : n ≤ w.reach) (le' : n' ≤ w.reach) (deep : n < m) (deep' : n' < m) :
    a.isEqual b w = .ok ((a.snapshot (World.resolver m w)).agrees
      (b.snapshot (World.resolver m w))) w := by
  rw [comparesAgree formed ⟨n, le, nested⟩ ⟨n', le', nested'⟩]
  have above := Nat.lt_succ_of_le le
  have above' := Nat.lt_succ_of_le le'
  have same : (w.snapshot a).agrees (w.snapshot b) =
      (a.snapshot (World.resolver m w)).agrees (b.snapshot (World.resolver m w)) :=
    Bool.eq_iff_iff.mpr
      ⟨agreesDeeper formed nested nested' ⟨above, above'⟩ ⟨deep, deep'⟩,
        agreesDeeper formed nested nested' ⟨deep, deep'⟩ ⟨above, above'⟩⟩
  rw [same]

theorem comparableRegular (formed : w.Formed) (ha : w.Comparable a) : Regular (w.snapshot a) := by
  obtain ⟨n, le, nested⟩ := ha
  exact toldRegular formed nested (Nat.lt_succ_of_le le)

theorem isEqualRefl (formed : w.Formed) (ha : w.Comparable a) : a.isEqual a w = .ok true w := by
  rw [comparesAgree formed ha ha, agreesRefl (comparableRegular formed ha)]

theorem isEqualSymm (formed : w.Formed) (ha : w.Comparable a) (hb : w.Comparable b) :
    b.isEqual a w = a.isEqual b w := by
  have same : (w.snapshot b).agrees (w.snapshot a) = (w.snapshot a).agrees (w.snapshot b) :=
    Bool.eq_iff_iff.mpr ⟨agreesSymm (comparableRegular formed hb),
      agreesSymm (comparableRegular formed ha)⟩
  rw [comparesAgree formed ha hb, comparesAgree formed hb ha, same]

theorem equalIff (formed : w.Formed) (ha : w.Comparable a) (hb : w.Comparable b) :
    a.isEqual b w = .ok true w ↔ (w.snapshot a).agrees (w.snapshot b) = true := by
  rw [comparesAgree formed ha hb]
  exact ⟨fun same => by cases h : (w.snapshot a).agrees (w.snapshot b) <;> simp_all,
    fun same => by rw [same]⟩

theorem isEqualTrans (formed : w.Formed) (ha : w.Comparable a) (hb : w.Comparable b)
    (hc : w.Comparable c) (ab : a.isEqual b w = .ok true w) (bc : b.isEqual c w = .ok true w) :
    a.isEqual c w = .ok true w := by
  rw [equalIff formed ha hb] at ab
  rw [equalIff formed hb hc] at bc
  exact (equalIff formed ha hc).mpr (agreesTrans (comparableRegular formed ha) ab bc)

structure World.SameEntries (w : World) (a b : Value) : Prop where
  keys : ∀ k, Entries.has (w.items a).items k = Entries.has (w.items b).items k
  values : ∀ k u v, Entries.find? k (w.items a).items = some u →
    Entries.find? k (w.items b).items = some v → u.isEqual v w = .ok true w

theorem keyFound (formed : w.Formed) (ha : a.root.isMapping = true) (hb : b.root.isMapping = true)
    (na : w.Nested (n + 1) a) (deep : n < m) (h : (a.snapshot (World.resolver (m + 1) w)).agrees
      (b.snapshot (World.resolver (m + 1) w)) = true) {e : Value × Value}
    (mem : e ∈ (w.items a).items) : ∃ f ∈ (w.items b).items, e.1.sameKey f.1 = true ∧
      (e.2.snapshot (World.resolver m w)).agrees (f.2.snapshot (World.resolver m w)) = true := by
  rw [mapTold formed.plain ha, mapTold formed.plain hb] at h
  obtain ⟨_, _, same, _, found⟩ := agreesMapping h
  cases same
  obtain ⟨_, there, key, value⟩ := found _ (List.mem_map_of_mem mem)
  obtain ⟨f, inside, rfl⟩ := List.mem_map.mp there
  obtain ⟨_, at', _, keys, _⟩ := na.ofMap (Value.mapShape ha)
  cases at'
  have tells := tellsWorlds (w := w) rfl (Nat.zero_lt_of_lt deep) (Nat.zero_lt_of_lt deep)
  have soundA := formed.itemsSound ha
  have soundB := formed.itemsSound hb
  rw [keyTold tells (keys e mem) (soundA.hashable e mem) (soundB.hashable f inside)] at key
  exact ⟨f, inside, key, value⟩

theorem keysKept (formed : w.Formed) (ha : a.root.isMapping = true) (hb : b.root.isMapping = true)
    (na : w.Nested (n + 1) a) (deep : n < m) (h : (a.snapshot (World.resolver (m + 1) w)).agrees
      (b.snapshot (World.resolver (m + 1) w)) = true) {k : Value}
    (has : Entries.has (w.items a).items k = true) : Entries.has (w.items b).items k = true := by
  obtain ⟨x, found⟩ := Option.isSome_iff_exists.mp has
  obtain ⟨e, mem, key, _⟩ := Entries.findSome found
  obtain ⟨f, there, same, _⟩ := keyFound formed ha hb na deep h mem
  cases found : Entries.find? k (w.items b).items with
  | some y => simp [Entries.has, found]
  | none =>
    have absent := Entries.findNone.mp found f there
    rw [Value.sameKeyTrans (Value.sameKeySymm same) key] at absent
    contradiction

theorem equalTellsEntries (formed : w.Formed) (ma : a.root.isMapping = true)
    (mb : b.root.isMapping = true) (ha : w.Comparable a) (hb : w.Comparable b)
    (same : a.isEqual b w = .ok true w) : w.SameEntries a b := by
  have agrees := (equalIff formed ha hb).mp same
  have back := agreesSymm (comparableRegular formed ha) agrees
  obtain ⟨_, le, na⟩ := ha
  obtain ⟨_, le', nb⟩ := hb
  obtain ⟨n, rfl, _, _, values⟩ := na.ofMap (Value.mapShape ma)
  obtain ⟨n', rfl, _, _, values'⟩ := nb.ofMap (Value.mapShape mb)
  refine ⟨fun k => Bool.eq_iff_iff.mpr ⟨keysKept formed ma mb na le agrees,
    keysKept formed mb ma nb le' back⟩, fun k u v hu hv => ?_⟩
  obtain ⟨e, mem, key, rfl⟩ := Entries.findSome hu
  obtain ⟨d, inside, key', rfl⟩ := Entries.findSome hv
  obtain ⟨f, there, keys, value⟩ := keyFound formed ma mb na le agrees mem
  have sound := formed.itemsSound mb
  have found := Entries.findMember sound there
  rw [Entries.findSame (Value.sameKeyTrans (Value.sameKeySymm keys) key), hv] at found
  rw [comparesAt formed (values e mem) (values' d inside) (Nat.le_of_succ_le le)
    (Nat.le_of_succ_le le') le le', Option.some.inj found, value]

theorem entriesTellEqual (formed : w.Formed) (ma : a.root.isMapping = true)
    (mb : b.root.isMapping = true) (ha : w.Comparable a) (hb : w.Comparable b)
    (same : w.SameEntries a b) : a.isEqual b w = .ok true w := by
  refine (equalIff formed ha hb).mpr ?_
  obtain ⟨_, le, na⟩ := ha
  obtain ⟨_, le', nb⟩ := hb
  obtain ⟨n, rfl, _, keys, values⟩ := na.ofMap (Value.mapShape ma)
  obtain ⟨n', rfl, _, _, values'⟩ := nb.ofMap (Value.mapShape mb)
  have soundA := formed.itemsSound ma
  have soundB := formed.itemsSound mb
  have tells := tellsWorlds (w := w) rfl (Nat.zero_lt_of_lt le) (Nat.zero_lt_of_lt le)
  unfold World.snapshot
  rw [mapTold formed.plain ma, mapTold formed.plain mb]
  simp only [agrees, Bool.and_eq_true, beq_iff_eq, Entries.snapshot, List.length_map]
  refine ⟨Nat.le_antisymm (Entries.fewerKeys soundA fun k has => same.keys k ▸ has)
    (Entries.fewerKeys soundB fun k has => same.keys k ▸ has), allFoundIff.mpr fun x mem => ?_⟩
  obtain ⟨e, there, rfl⟩ := List.mem_map.mp mem
  have found := Entries.findMember soundA there
  have has : Entries.has (w.items b).items e.1 = true := by
    rw [← same.keys e.1, Entries.has, found]
    rfl
  obtain ⟨v, other⟩ := Option.isSome_iff_exists.mp has
  obtain ⟨f, inside, key, rfl⟩ := Entries.findSome other
  have value := same.values e.1 e.2 f.2 found other
  rw [comparesAt formed (values e there) (values' f inside) (Nat.le_of_succ_le le)
    (Nat.le_of_succ_le le') le le'] at value
  refine ⟨_, List.mem_map_of_mem inside, ?_, ?_⟩
  · rw [keyTold tells (keys e there) (soundA.hashable e there) (soundB.hashable f inside)]
    exact Value.sameKeySymm key
  · cases h : (e.2.snapshot (World.resolver w.reach w)).agrees
      (f.2.snapshot (World.resolver w.reach w)) <;> simp_all

end

end FlowDouble
