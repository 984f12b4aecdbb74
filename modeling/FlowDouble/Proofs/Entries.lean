import FlowDouble.Proofs.Keys
/-! Laws of entries. A write of a new key goes to the end, a write of a key that is there keeps its
place, an erased key leaves the others in order, and no other key is touched. Of many writes the last
one under a key counts. -/
namespace FlowDouble.Entries

structure Sound (es : Entries) : Prop where
  hashable : ∀ e ∈ es, e.1.hashable = true
  distinct : es.Pairwise fun a b => a.1.sameKey b.1 = false

theorem soundNil : Sound [] := ⟨by simp, .nil⟩

theorem soundTail {e : Value × Value} {es : Entries} (sound : Sound (e :: es)) : Sound es := by
  obtain ⟨_, distinct⟩ := List.pairwise_cons.mp sound.distinct
  exact ⟨fun d mem => sound.hashable d (List.mem_cons_of_mem _ mem), distinct⟩

theorem soundKeys {es es' : Entries} (sound : Sound es) (keys : es'.keys = es.keys) :
    Sound es' := by
  constructor
  · intro e mem
    have there : e.1 ∈ es.keys := keys ▸ List.mem_map_of_mem mem
    obtain ⟨d, inside, same⟩ := List.mem_map.mp there
    exact same ▸ sound.hashable d inside
  · have distinct : es.keys.Pairwise fun a b => a.sameKey b = false :=
      List.pairwise_map.mpr sound.distinct
    rw [← keys] at distinct
    exact List.pairwise_map.mp distinct

theorem notSame {x y z : Value} (h : x.sameKey y = true) (k : y.sameKey z = false) :
    x.sameKey z = false := by
  cases e : x.sameKey z with
  | false => rfl
  | true => rw [Value.sameKeyTrans (Value.sameKeySymm h) e] at k; contradiction

theorem notSameSymm {x y : Value} (h : x.sameKey y = false) : y.sameKey x = false := by
  cases e : y.sameKey x with
  | false => rfl
  | true => rw [Value.sameKeySymm e] at h; contradiction

theorem othersDiffer {e : Value × Value} {es : Entries} {k : Value}
    (apart : ∀ d ∈ es, e.1.sameKey d.1 = false) (same : e.1.sameKey k = true) :
    ∀ d ∈ es, d.1.sameKey k = false := by
  intro d mem
  exact notSameSymm (notSame (Value.sameKeySymm same) (apart d mem))

theorem findNone {es : Entries} {k : Value} :
    es.find? k = none ↔ ∀ e ∈ es, e.1.sameKey k = false := by
  induction es with
  | nil => simp [find?]
  | cons e es ih => by_cases h : e.1.sameKey k = true <;> simp [find?, h, ih]

theorem findSame {es : Entries} {k x : Value} (h : k.sameKey x = true) :
    es.find? k = es.find? x := by
  induction es with
  | nil => rfl
  | cons e es ih =>
    have keys : e.1.sameKey k = e.1.sameKey x := by
      rw [Bool.eq_iff_iff]
      exact ⟨fun s => Value.sameKeyTrans s h,
        fun s => Value.sameKeyTrans s (Value.sameKeySymm h)⟩
    simp only [find?, keys, ih]

theorem findMember {es : Entries} (sound : es.Sound) {e : Value × Value} (mem : e ∈ es) :
    es.find? e.1 = some e.2 := by
  induction es with
  | nil => contradiction
  | cons d es ih =>
    obtain ⟨apart, _⟩ := List.pairwise_cons.mp sound.distinct
    rcases List.mem_cons.mp mem with rfl | inside
    · simp [find?, Value.sameKeyRefl]
    · simp [find?, apart e inside, ih (soundTail sound) inside]

theorem findInsertedOther {k x : Value} (other : k.sameKey x = false) (v : Value) (es : Entries) :
    (es.insert k v).find? x = es.find? x := by
  induction es with
  | nil => simp [insert, find?, other]
  | cons e es ih =>
    cases h : e.1.sameKey k with
    | true => simp [insert, find?, h, notSame h other]
    | false => simp [insert, find?, h, ih]

theorem findErasedOther {k x : Value} (other : k.sameKey x = false) (es : Entries) :
    (es.erase k).find? x = es.find? x := by
  induction es with
  | nil => rfl
  | cons e es ih =>
    cases h : e.1.sameKey k with
    | true => simp [erase, find?, h, notSame h other]
    | false => simp [erase, find?, h, ih]

theorem memInserted {es : Entries} {k v : Value} {e : Value × Value} (mem : e ∈ es.insert k v) :
    e ∈ es ∨ e.2 = v ∧ (e.1 = k ∨ ∃ d ∈ es, d.1 = e.1) := by
  induction es with
  | nil =>
    have same : e = (k, v) := by simpa [insert] using mem
    exact .inr ⟨by rw [same], .inl (by rw [same])⟩
  | cons d es ih =>
    simp only [insert] at mem
    split at mem
    · rcases List.mem_cons.mp mem with rfl | inside
      · exact .inr ⟨rfl, .inr ⟨d, List.mem_cons_self, rfl⟩⟩
      · exact .inl (List.mem_cons_of_mem _ inside)
    · rcases List.mem_cons.mp mem with rfl | inside
      · exact .inl List.mem_cons_self
      · rcases ih inside with old | ⟨value, key | ⟨c, mc, hc⟩⟩
        · exact .inl (List.mem_cons_of_mem _ old)
        · exact .inr ⟨value, .inl key⟩
        · exact .inr ⟨value, .inr ⟨c, List.mem_cons_of_mem _ mc, hc⟩⟩

theorem memErased {es : Entries} {k : Value} {e : Value × Value} (mem : e ∈ es.erase k) :
    e ∈ es := by
  induction es with
  | nil => contradiction
  | cons d es ih =>
    simp only [erase] at mem
    split at mem
    · exact List.mem_cons_of_mem _ mem
    · rcases List.mem_cons.mp mem with rfl | inside
      · exact List.mem_cons_self
      · exact List.mem_cons_of_mem _ (ih inside)

theorem insertReplaces {es : Entries} (distinct : es.Pairwise fun a b => a.1.sameKey b.1 = false)
    {k : Value} (v : Value) (there : es.has k = true) :
    es.insert k v = es.map fun e => if e.1.sameKey k then (e.1, v) else e := by
  induction es with
  | nil => simp [has, find?] at there
  | cons e es ih =>
    obtain ⟨apart, rest⟩ := List.pairwise_cons.mp distinct
    cases h : e.1.sameKey k with
    | true =>
      have others := othersDiffer apart h
      have kept : es.map (fun e => if e.1.sameKey k then (e.1, v) else e) = es := by
        refine (List.map_congr_left fun d mem => ?_).trans (List.map_id' es)
        simp [others d mem]
      simp only [insert, h, if_true, List.map_cons, kept]
    | false =>
      have inside : has es k = true := by simpa [has, find?, h] using there
      simp only [insert, h, List.map_cons, ih rest inside]
      rfl

theorem insertAppends {es : Entries} {k : Value} (v : Value) (absent : es.has k = false) :
    es.insert k v = es ++ [(k, v)] := by
  induction es with
  | nil => rfl
  | cons e es ih =>
    have apart := findNone.mp (by simpa [has] using absent)
    have inside : has es k = false := by
      simpa [has, findNone] using fun e mem => apart e (List.mem_cons_of_mem _ mem)
    simp only [insert, apart e List.mem_cons_self, ih inside]
    rfl

theorem eraseFilters {es : Entries} (distinct : es.Pairwise fun a b => a.1.sameKey b.1 = false)
    (k : Value) : es.erase k = es.filter fun e => !e.1.sameKey k := by
  induction es with
  | nil => rfl
  | cons e es ih =>
    obtain ⟨apart, rest⟩ := List.pairwise_cons.mp distinct
    cases h : e.1.sameKey k with
    | true =>
      have others := othersDiffer apart h
      have kept : es.filter (fun e => !e.1.sameKey k) = es :=
        List.filter_eq_self.mpr fun d mem => by simp [others d mem]
      simp only [erase, h, if_true, List.filter_cons, kept]
      rfl
    | false => simp [erase, h, ih rest]

theorem soundInserted {es : Entries} (sound : es.Sound) {k : Value} (hashable : k.hashable = true)
    (v : Value) : (es.insert k v).Sound := by
  cases there : es.has k with
  | true =>
    rw [insertReplaces sound.distinct v there]
    have first (e : Value × Value) : (if e.1.sameKey k then (e.1, v) else e).1 = e.1 := by
      split <;> rfl
    constructor
    · intro e mem
      obtain ⟨d, hd, rfl⟩ := List.mem_map.mp mem
      rw [first]
      exact sound.hashable d hd
    · rw [List.pairwise_map]
      simpa only [first] using sound.distinct
  | false =>
    rw [insertAppends v there]
    have absent := findNone.mp (by simpa [has] using there)
    constructor
    · intro e mem
      rcases List.mem_append.mp mem with old | new
      · exact sound.hashable e old
      · rw [List.mem_singleton.mp new]; exact hashable
    · rw [List.pairwise_append]
      refine ⟨sound.distinct, List.pairwise_singleton _ _, fun a ha b hb => ?_⟩
      rw [List.mem_singleton.mp hb]
      exact absent a ha

theorem soundErased {es : Entries} (sound : es.Sound) (k : Value) : (es.erase k).Sound := by
  rw [eraseFilters sound.distinct]
  exact ⟨fun e mem => sound.hashable e (List.mem_filter.mp mem).1, sound.distinct.filter _⟩

theorem keysErased {es : Entries} (sound : es.Sound) (k : Value) :
    (es.erase k).keys = es.keys.filter fun x => !x.sameKey k := by
  rw [eraseFilters sound.distinct, keys, keys, List.filter_map]
  rfl

theorem findInsert (es : Entries) (k v x : Value) :
    (es.insert k v).find? x = if k.sameKey x then some v else es.find? x := by
  cases same : k.sameKey x with
  | true => rw [← findSame same, findInserted]; rfl
  | false => rw [findInsertedOther same]; rfl

theorem findSome {es : Entries} {x v : Value} (found : es.find? x = some v) :
    ∃ e ∈ es, e.1.sameKey x = true ∧ e.2 = v := by
  induction es with
  | nil => contradiction
  | cons e es ih =>
    cases same : e.1.sameKey x with
    | true => exact ⟨e, List.mem_cons_self, same, by simpa [find?, same] using found⟩
    | false =>
      obtain ⟨d, mem, rest⟩ := ih (by simpa [find?, same] using found)
      exact ⟨d, List.mem_cons_of_mem _ mem, rest⟩

theorem findInsertedAll (es : Entries) (pairs : List (Value × Value)) (x : Value) :
    (insertAll es pairs).find? x = ((ofPairs pairs).find? x).or (es.find? x) := by
  induction pairs generalizing es with
  | nil => rfl
  | cons p rest ih =>
    have step (es : Entries) : insertAll es (p :: rest) = insertAll (es.insert p.1 p.2) rest := rfl
    have single : (ofPairs (p :: rest)).find? x =
        ((ofPairs rest).find? x).or (find? x [(p.1, p.2)]) := ih [(p.1, p.2)]
    rw [step, ih, single, findInsert]
    cases (ofPairs rest).find? x with
    | some v => rfl
    | none => cases same : p.1.sameKey x <;> simp [find?, same]

theorem findPairsCons (p : Value × Value) (rest : List (Value × Value)) (x : Value) :
    (ofPairs (p :: rest)).find? x =
      ((ofPairs rest).find? x).or (if p.1.sameKey x then some p.2 else none) := by
  have step : ofPairs (p :: rest) = insertAll [(p.1, p.2)] rest := rfl
  rw [step, findInsertedAll]
  rfl

theorem findPairsNone {pairs : List (Value × Value)} {x : Value} :
    (ofPairs pairs).find? x = none ↔ ∀ p ∈ pairs, p.1.sameKey x = false := by
  induction pairs with
  | nil => simp [ofPairs, insertAll, find?]
  | cons p rest ih => cases same : p.1.sameKey x <;> simp [findPairsCons, same, ih]

theorem findPairsSome {pairs : List (Value × Value)} {x v : Value}
    (found : (ofPairs pairs).find? x = some v) : ∃ p ∈ pairs, p.1.sameKey x = true ∧ p.2 = v := by
  induction pairs with
  | nil => contradiction
  | cons p rest ih =>
    rw [findPairsCons] at found
    cases later : (ofPairs rest).find? x with
    | some u =>
      rw [later] at found
      obtain ⟨q, mem, same, value⟩ := ih (later.trans found)
      exact ⟨q, List.mem_cons_of_mem _ mem, same, value⟩
    | none =>
      rw [later] at found
      cases same : p.1.sameKey x with
      | true => exact ⟨p, List.mem_cons_self, same, by simpa [same] using found⟩
      | false => simp [same] at found

def Agree (pairs : List (Value × Value)) : Prop :=
  ∀ p ∈ pairs, ∀ q ∈ pairs, p.1.sameKey q.1 = true → p.2 = q.2

theorem findAgreeing {pairs : List (Value × Value)} (agree : Agree pairs) {e : Value × Value}
    (mem : e ∈ pairs) : (ofPairs pairs).find? e.1 = some e.2 := by
  cases found : (ofPairs pairs).find? e.1 with
  | none =>
    have absent := findPairsNone.mp found e mem
    rw [Value.sameKeyRefl] at absent
    contradiction
  | some v =>
    obtain ⟨p, there, same, rfl⟩ := findPairsSome found
    rw [agree p there e mem same]

theorem soundAgree {es : Entries} (sound : es.Sound) : Agree es := by
  intro p hp q hq same
  have left := findMember sound hp
  rw [findSame same, findMember sound hq] at left
  exact (Option.some.inj left).symm

theorem findSoundPairs {es : Entries} (sound : es.Sound) (x : Value) :
    (ofPairs es).find? x = es.find? x := by
  cases found : es.find? x with
  | none => exact findPairsNone.mpr (findNone.mp found)
  | some v =>
    obtain ⟨e, mem, same, rfl⟩ := findSome found
    rw [← findSame same]
    exact findAgreeing (soundAgree sound) mem

end FlowDouble.Entries
