import FlowDouble.Proofs.Equality.Told
/-! Exchanging values for others that are written out alike changes nothing that is told. -/
namespace FlowDouble

open Snapshot

theorem forallLeft {α β : Type} {R : α → β → Prop} {xs : List α} {ys : List β}
    (h : List.Forall₂ R xs ys) : ∀ x ∈ xs, ∃ y ∈ ys, R x y := by
  induction h with
  | nil => simp
  | cons first _ ih =>
    intro x mem
    rcases List.mem_cons.mp mem with rfl | inside
    · exact ⟨_, List.mem_cons_self, first⟩
    · obtain ⟨y, there, each⟩ := ih x inside
      exact ⟨y, List.mem_cons_of_mem _ there, each⟩

theorem forallRight {α β : Type} {R : α → β → Prop} {xs : List α} {ys : List β}
    (h : List.Forall₂ R xs ys) : ∀ y ∈ ys, ∃ x ∈ xs, R x y := forallLeft h.flip

structure World.Exchanged (E : Value → Value → Prop) (w w' : World) : Prop where
  errors : w'.errors = w.errors
  reach : w'.reach = w.reach
  lists : ∀ r, List.Forall₂ E (w.list r) (w'.list r)
  maps : ∀ v : Value, v.root.isMapping = true → List.Forall₂ (fun e f => f.1 = e.1 ∧ E e.2 f.2)
    (w.items v).items (w'.items v).items

section
variable [Calls] {w w' : World} {E : Value → Value → Prop} {n : Nat}

def World.Same (w w' : World) (n : Nat) (v v' : Value) : Prop :=
  w'.Nested n v' ∧ ∀ m m', n < m → n < m' →
    (v.snapshot (World.resolver m w)).agrees (v'.snapshot (World.resolver m' w')) = true

def World.Alike (w : World) (n : Nat) (v v' : Value) : Prop :=
  w.Nested n v' ∧ ∀ m, n < m →
    (v.snapshot (World.resolver m w)).agrees (v'.snapshot (World.resolver m w)) = true

omit [Calls] in
theorem snapshotsAgree {o o' : Resolver} {vs vs' : List Value}
    (h : List.Forall₂ (fun v v' => (v.snapshot o).agrees (v'.snapshot o') = true) vs vs') :
    allAgree (Value.snapshots o vs) (Value.snapshots o' vs') = true := by
  rw [Value.snapshotsEach, Value.snapshotsEach, allAgreeIff, List.forall₂_map_left_iff,
    List.forall₂_map_right_iff]
  exact h

theorem exchangedSame (formed : w.Formed) (plain : w'.Plain) (exchanged : w.Exchanged E w')
    (alike : ∀ {u u' n}, E u u' → w.Nested n u → w.Alike n u u') {v : Value}
    (nested : w.Nested n v) : w.Same w' n v v := by
  induction n using Nat.strongRecOn generalizing v with
  | ind n below =>
  -- what is nested one less deep may have been exchanged, so it is not a part of the value
  have each {k : Nat} (less : k < n) {u u' : Value} (there : w.Nested k u) (other : E u u') :
      w.Same w' k u u' := by
    obtain ⟨nested, first⟩ := alike other there
    obtain ⟨nested', next⟩ := below k less nested
    exact ⟨nested', fun m m' deep deep' =>
      agreesTrans (toldRegular formed there deep) (first m deep) (next m m' deep deep')⟩
  induction nested with
  | alone alone =>
    refine ⟨.alone alone, fun m m' deep deep' => ?_⟩
    have tells := tellsWorlds exchanged.errors (Nat.zero_lt_of_lt deep) (Nat.zero_lt_of_lt deep')
    exact (aloneTold tells alone (Value.aloneHashable alone)).trans (Value.sameKeyRefl _)
  | tuple _ ih =>
    refine ⟨.tuple fun v mem => (ih v mem below each).1, fun m m' deep deep' => ?_⟩
    simp only [Value.snapshot, agrees]
    exact snapshotsAgree (List.forall₂_same.mpr fun v mem => (ih v mem below each).2 m m' deep deep')
  | upload _ _ _ _ hn hc ho ht =>
    have name := hn below each
    have content := hc below each
    have originalName := ho below each
    have contentType := ht below each
    refine ⟨.upload name.1 content.1 originalName.1 contentType.1, fun m m' deep deep' => ?_⟩
    simp only [Value.snapshot, agrees, name.2 m m' deep deep', content.2 m m' deep deep',
      originalName.2 m m' deep deep', contentType.2 m m' deep deep', Bool.and_self]
  | principal _ hn =>
    have name := hn below each
    refine ⟨.principal name.1, fun m m' deep deep' => ?_⟩
    simpa only [Value.snapshot, agrees] using name.2 m m' deep deep'
  | @list n r parts =>
    have parted := (List.forall₂_and_left _ _).mpr ⟨parts, exchanged.lists r⟩
    have all := parted.imp fun u u' h => each (Nat.lt_succ_self n) h.1 h.2
    refine ⟨.list fun u' mem => ?_, fun m m' deep deep' => ?_⟩
    · obtain ⟨u, _, same⟩ := forallRight all u' mem
      exact same.1
    · obtain ⟨k, rfl⟩ := Nat.exists_eq_succ_of_ne_zero (Nat.ne_zero_of_lt deep)
      obtain ⟨k', rfl⟩ := Nat.exists_eq_succ_of_ne_zero (Nat.ne_zero_of_lt deep')
      refine (agrees.eq_1 _ _).trans (snapshotsAgree (all.imp fun u u' same => ?_))
      exact same.2 k k' (Nat.lt_of_succ_lt_succ deep) (Nat.lt_of_succ_lt_succ deep')
  | @map n v map keys values =>
    have kept (d : Value × Value) (mem : d ∈ (w.items v).items) : w.Same w' n d.1 d.1 :=
      below n (Nat.lt_succ_self n) (keys d mem)
    have entries := (List.forall₂_and_left _ _).mpr
      ⟨fun e mem => And.intro (kept e mem) (values e mem), exchanged.maps v map⟩
    have all := entries.imp fun e f h =>
      And.intro (h.2.1 ▸ h.1.1 : w.Same w' n e.1 f.1) (each (Nat.lt_succ_self n) h.1.2 h.2.2)
    refine ⟨.map map (fun f mem => ?_) (fun f mem => ?_), fun m m' deep deep' => ?_⟩
    · obtain ⟨e, _, same⟩ := forallRight all f mem
      exact same.1.1
    · obtain ⟨e, _, same⟩ := forallRight all f mem
      exact same.2.1
    · obtain ⟨k, rfl⟩ := Nat.exists_eq_succ_of_ne_zero (Nat.ne_zero_of_lt deep)
      obtain ⟨k', rfl⟩ := Nat.exists_eq_succ_of_ne_zero (Nat.ne_zero_of_lt deep')
      have less := Nat.lt_of_succ_lt_succ deep
      have less' := Nat.lt_of_succ_lt_succ deep'
      rw [mapTold formed.plain map, mapTold plain map]
      simp only [agrees, Bool.and_eq_true, beq_iff_eq, Entries.snapshot, List.length_map]
      refine ⟨all.length_eq, allFoundIff.mpr fun x mem => ?_⟩
      obtain ⟨e, there, rfl⟩ := List.mem_map.mp mem
      obtain ⟨f, there', same⟩ := forallLeft all e there
      exact ⟨_, List.mem_map_of_mem there', same.1.2 k k' less less', same.2.2 k k' less less'⟩

omit [Calls] in
theorem exchangedNothing (w : World) : w.Exchanged Eq w where
  errors := rfl
  reach := rfl
  lists _ := List.forall₂_same.mpr fun _ _ => rfl
  maps _ _ := List.forall₂_same.mpr fun _ _ => ⟨rfl, rfl⟩

theorem deeperSame (formed : w.Formed) {v : Value} (nested : w.Nested n v) {m m' : Nat}
    (deep : n < m) (deep' : n < m') :
    (v.snapshot (World.resolver m w)).agrees (v.snapshot (World.resolver m' w)) = true := by
  have alike {u u' : Value} {k : Nat} (same : u = u') (there : w.Nested k u) : w.Alike k u u' := by
    subst same
    exact ⟨there, fun m deep => agreesRefl (toldRegular formed there deep)⟩
  exact (exchangedSame formed formed.plain (exchangedNothing w) alike nested).2 m m' deep deep'

theorem agreesDeeper (formed : w.Formed) {v v' : Value} {n' m m' : Nat} (nested : w.Nested n v)
    (nested' : w.Nested n' v') (deep : n < m ∧ n' < m) (deep' : n < m' ∧ n' < m')
    (h : (v.snapshot (World.resolver m w)).agrees (v'.snapshot (World.resolver m w)) = true) :
    (v.snapshot (World.resolver m' w)).agrees (v'.snapshot (World.resolver m' w)) = true := by
  have first := deeperSame formed nested deep'.1 deep.1
  have last := deeperSame formed nested' deep.2 deep'.2
  have middle := agreesTrans (toldRegular formed nested deep.1) h last
  exact agreesTrans (toldRegular formed nested deep'.1) first middle

theorem nestedAlike (formed : w.Formed) {v v' : Value} {n' m : Nat} (nested : w.Nested n v)
    (nested' : w.Nested n' v') (deep : n < m) (deep' : n' < m)
    (h : (v.snapshot (World.resolver m w)).agrees (v'.snapshot (World.resolver m w)) = true) :
    w.Nested n v' := by
  have each {n n' m : Nat} {vs vs' : List Value} (ih : ∀ v ∈ vs, ∀ {v' : Value} {n' m : Nat},
      w.Nested n' v' → n < m → n' < m →
        (v.snapshot (World.resolver m w)).agrees (v'.snapshot (World.resolver m w)) = true →
          w.Nested n v')
      (parts : ∀ v' ∈ vs', w.Nested n' v') (deep : n < m) (deep' : n' < m)
      (h : allAgree (Value.snapshots (World.resolver m w) vs)
        (Value.snapshots (World.resolver m w) vs') = true) : ∀ v' ∈ vs', w.Nested n v' := by
    rw [Value.snapshotsEach, Value.snapshotsEach, allAgreeIff, List.forall₂_map_left_iff,
      List.forall₂_map_right_iff] at h
    intro v' mem
    obtain ⟨v, there, agree⟩ := forallRight h v' mem
    exact ih v there (parts v' mem) deep deep' agree
  induction nested generalizing v' n' m with
  | alone alone =>
    have shape := alikeShape formed (.alone alone) nested' deep deep' h
    rw [Value.aloneShape alone] at shape
    exact .alone (nested'.ofAlone shape.symm)
  | tuple parts ih =>
    have shape := alikeShape formed (.tuple parts) nested' deep deep' h
    obtain ⟨tag, vs', rfl, parts'⟩ := nested'.ofTuple shape.symm
    simp only [Value.snapshot, agrees] at h
    exact .tuple (each ih parts' deep deep' h)
  | upload name content originalName contentType hn hc ho ht =>
    have shape := alikeShape formed (.upload name content originalName contentType) nested'
      deep deep' h
    obtain ⟨tag, a, b, c, d, rfl, na, nb, nc, nd⟩ := nested'.ofUpload shape.symm
    simp only [Value.snapshot, agrees, Bool.and_eq_true] at h
    obtain ⟨⟨⟨ha, hb⟩, hc'⟩, hd⟩ := h
    exact .upload (hn na deep deep' ha) (hc nb deep deep' hb) (ho nc deep deep' hc')
      (ht nd deep deep' hd)
  | principal name hn =>
    have shape := alikeShape formed (.principal name) nested' deep deep' h
    obtain ⟨tag, a, rfl, na⟩ := nested'.ofPrincipal shape.symm
    simp only [Value.snapshot, agrees] at h
    exact .principal (hn na deep deep' h)
  | list parts ih =>
    have shape := alikeShape formed (.list parts) nested' deep deep' h
    obtain ⟨r, k', rfl, rfl, parts'⟩ := nested'.ofList shape.symm
    obtain ⟨m, rfl⟩ := Nat.exists_eq_succ_of_ne_zero (Nat.ne_zero_of_lt deep)
    rw [listTold, listTold, agrees] at h
    exact .list (each ih parts' (Nat.lt_of_succ_lt_succ deep) (Nat.lt_of_succ_lt_succ deep') h)
  | @map n v map keys values keysAlike valuesAlike =>
    have shape := alikeShape formed (.map map keys values) nested' deep deep' h
    rw [Value.mapShape map] at shape
    obtain ⟨k', rfl, map', keys', values'⟩ := nested'.ofMap shape.symm
    have back := agreesSymm (toldRegular formed (.map map keys values) deep) h
    obtain ⟨m, rfl⟩ := Nat.exists_eq_succ_of_ne_zero (Nat.ne_zero_of_lt deep)
    have less := Nat.lt_of_succ_lt_succ deep
    have less' := Nat.lt_of_succ_lt_succ deep'
    rw [mapTold formed.plain map, mapTold formed.plain map'] at back
    obtain ⟨_, es, same, _, found⟩ := agreesMapping back
    cases same
    have found (f : Value × Value) (mem : f ∈ (w.items v').items) : ∃ e ∈ (w.items v).items,
        (e.1.snapshot (World.resolver m w)).agrees (f.1.snapshot (World.resolver m w)) = true ∧
        (e.2.snapshot (World.resolver m w)).agrees (f.2.snapshot (World.resolver m w)) = true := by
      obtain ⟨_, there, key, value⟩ := found _ (List.mem_map_of_mem mem)
      obtain ⟨e, inside, rfl⟩ := List.mem_map.mp there
      exact ⟨e, inside, agreesSymm (toldRegular formed (keys' f mem) less') key,
        agreesSymm (toldRegular formed (values' f mem) less') value⟩
    refine .map map' (fun f mem => ?_) (fun f mem => ?_)
    · obtain ⟨e, there, key, _⟩ := found f mem
      exact keysAlike e there (keys' f mem) less less' key
    · obtain ⟨e, there, _, value⟩ := found f mem
      exact valuesAlike e there (values' f mem) less less' value

end

end FlowDouble
