import FlowDouble.Invocation
import FlowDouble.Proofs.Content
import FlowDouble.Proofs.Context.Reachable
import FlowDouble.Proofs.Equality.Comparing
/-! Equality of maps of all classes is an equivalence that tells their entries and nothing else. A part
replaced by an equal one changes no answer, wherever in the maps it lies. -/
namespace FlowDouble

open FlowDouble.Action Snapshot

theorem forallSetLeft {α : Type} {R : α → α → Prop} {xs ys : List α} {x y : α} {i : Nat}
    (h : List.Forall₂ R xs ys) (at' : xs[i]? = some x) (new : R x y) :
    List.Forall₂ R xs (ys.set i y) := by
  induction h generalizing i with
  | nil => contradiction
  | cons first rest ih =>
    cases i with
    | zero =>
      cases at'
      exact .cons new rest
    | succ i => exact .cons first (ih at')

theorem Entries.insertExchanges {E : Value → Value → Prop} {es fs : Entries} {k u v : Value}
    (h : List.Forall₂ (fun e f => f.1 = e.1 ∧ E e.2 f.2) es fs) (found : es.find? k = some u)
    (new : E u v) : List.Forall₂ (fun e f => f.1 = e.1 ∧ E e.2 f.2) es (fs.insert k v) := by
  induction h with
  | nil => contradiction
  | @cons e f es fs first rest ih =>
    obtain ⟨key, value⟩ := first
    simp only [find?] at found
    simp only [insert, key]
    split at found
    · rename_i same
      rw [if_pos same]
      cases found
      exact .cons ⟨rfl, new⟩ rest
    · rename_i other
      rw [if_neg other]
      exact .cons ⟨rfl, value⟩ (ih found)

def Replaced (u v x y : Value) : Prop := x = y ∨ x = u ∧ y = v

section
variable {w w' : World} {target key u v : Value}

theorem replacedNothing (es : Entries) :
    List.Forall₂ (fun e f => f.1 = e.1 ∧ Replaced u v e.2 f.2) es es :=
  List.forall₂_same.mpr fun _ _ => ⟨rfl, .inl rfl⟩

theorem replacedNoPart (vs : List Value) : List.Forall₂ (Replaced u v) vs vs :=
  List.forall₂_same.mpr fun _ _ => .inl rfl

theorem replacedInDictionary {d : Nat} (found : (w.dictionary d).find? key = some u) :
    w.Exchanged (Replaced u v) (w.setDictionary d ((w.dictionary d).insert key v)) where
  errors := rfl
  reach := rfl
  lists r := replacedNoPart (w.list r)
  maps x map := by
    have known : d < w.dictionaries.length := by
      by_contra beyond
      have none : w.dictionary d = [] := Heap.readBeyond (Nat.le_of_not_lt beyond)
      rw [none] at found
      contradiction
    rcases x.rootCases map with ⟨s, ends⟩ | ⟨m, ends⟩
    · rw [World.itemsOver ends, World.itemsOver ends]
      by_cases same : d = s
      · subst same
        have written : (w.setDictionary d ((w.dictionary d).insert key v)).dictionary d =
            (w.dictionary d).insert key v := Heap.readWritten _ known
        rw [written]
        exact Entries.insertExchanges (replacedNothing _) found (.inr ⟨rfl, rfl⟩)
      · have kept : (w.setDictionary d ((w.dictionary d).insert key v)).dictionary s =
            w.dictionary s := Heap.readOther _ _ same
        rw [kept]
        exact replacedNothing _
    · simp only [World.items, ends]
      exact replacedNothing _

theorem replacedInList {r i : Nat} (part : (w.list r)[i]? = some u) :
    w.Exchanged (Replaced u v) (w.setList r ((w.list r).set i v)) where
  errors := rfl
  reach := rfl
  lists s := by
    by_cases same : r = s
    · subst same
      have known : r < w.lists.length := by
        by_contra beyond
        have none : w.list r = [] := Heap.readBeyond (Nat.le_of_not_lt beyond)
        rw [none] at part
        contradiction
      have written : (w.setList r ((w.list r).set i v)).list r = (w.list r).set i v :=
        Heap.readWritten _ known
      rw [written]
      exact forallSetLeft (replacedNoPart _) part (.inr ⟨rfl, rfl⟩)
    · have kept : (w.setList r ((w.list r).set i v)).list s = w.list s := Heap.readOther _ _ same
      rw [kept]
      exact replacedNoPart _
  maps x map := by
    rcases x.rootCases map with ⟨s, ends⟩ | ⟨m, ends⟩
    all_goals
      simp only [World.items, ends]
      exact replacedNothing _

open ParameterMap in
theorem replacedInParameters {m : ParameterMap} (found : (w.parameters m).find? key = some u)
    (row : ∀ s, v ≠ .list s) (writes : Writes m.ref (Puts [(key, v)]) w w') :
    w.Exchanged (Replaced u v) w' where
  errors := by rw [writes.only]
  reach := by rw [writes.only]
  lists r := by
    have kept : w'.list r = w.list r := by rw [writes.only]; rfl
    rw [kept]
    exact replacedNoPart _
  maps x map := by
    rcases x.rootCases map with ⟨s, ends⟩ | ⟨t, ends⟩
    · have kept : w'.dictionary s = w.dictionary s := by rw [writes.only]; rfl
      rw [World.itemsOver ends, World.itemsOver ends, kept]
      exact replacedNothing _
    · simp only [World.items, ends, World.parameters]
      by_cases same : t.ref = m.ref
      · obtain ⟨changes, puts, written⟩ := writes.changes
        rw [same, written]
        have each (fs : Entries) (h : List.Forall₂ (fun e f => f.1 = e.1 ∧ Replaced u v e.2 f.2)
            (w.parameters m) fs) : List.Forall₂ (fun e f => f.1 = e.1 ∧ Replaced u v e.2 f.2)
              (w.parameters m) (Change.applyAll changes fs) := by
          clear written
          induction changes generalizing fs with
          | nil => exact h
          | cons c rest ih =>
            refine ih (fun c mem => puts c (List.mem_cons_of_mem _ mem)) _ ?_
            obtain ⟨q, mem, kept, rfl, _, keeps⟩ := puts c List.mem_cons_self
            obtain rfl := List.mem_singleton.mp mem
            cases keeps with
            | itself => exact Entries.insertExchanges h found (.inr ⟨rfl, rfl⟩)
            | row r => exact absurd rfl (row r)
        exact each _ (replacedNothing _)
      · rw [writes.others t.ref same]
        exact replacedNothing _

theorem positionInside {holder : Kind} {beyond : Misuse} {n i : Nat}
    (counted : position holder beyond n key = .ok i) :
    i < n ∧ ∀ beyond', position holder beyond' n key = .ok i := by
  unfold position at *
  cases number : positionOf holder key with
  | error f => rw [number] at counted; contradiction
  | ok j =>
    rw [number] at counted
    simp only [bind, Except.bind] at counted ⊢
    generalize (if j < 0 then j + (n : Int) else j) = p at counted ⊢
    split at counted
    · rename_i inside
      cases counted
      exact ⟨by omega, fun _ => if_pos inside⟩
    · contradiction

theorem partTold {holder : Kind} {vs : List Value} (told : partAt holder vs key = .ok u) :
    ∃ i, vs[i]? = some u ∧ ∀ beyond, position holder beyond vs.length key = .ok i := by
  unfold partAt at told
  cases counted : position holder (.outside holder) vs.length key with
  | error f => rw [counted] at told; contradiction
  | ok i =>
    obtain ⟨inside, same⟩ := positionInside counted
    rw [counted] at told
    cases told
    exact ⟨i, by simp [List.getElem?_eq_getElem inside], same⟩

theorem replacedExchanged [Calls] (formed : w.Formed) (told : w.item target key = .ok u)
    (shape : v.shape = u.shape) (done : target.setItem key v w = .ok () w') :
    w.Exchanged (Replaced u v) w' := by
  unfold Value.setItem at done
  unfold World.item at told
  cases ends : target.root <;> simp only [ends] at told done <;> try contradiction
  case dictionary d =>
    obtain ⟨hashable, found⟩ := World.requireTells told
    have set := Context.insertsEntry (d := d) hashable v w
    rw [set] at done
    cases done
    exact replacedInDictionary found
  case parameters m =>
    obtain ⟨_, found⟩ := World.requireTells told
    obtain ⟨e, mem, _, rfl⟩ := Entries.findSome found
    have row (s : Nat) : v ≠ .list s := by
      rintro rfl
      have held := (formed.held m).values e mem
      cases h : e.2 <;> rw [h] at held shape <;> contradiction
    unfold ParameterMap.assign at done
    split at done
    · have writes : ParameterMap.Writes m.ref (ParameterMap.Puts [(key, v)]) w _ :=
        ParameterMap.askToPutWrites formed.plain
      rw [leavesOk done] at writes
      exact replacedInParameters found row writes
    · contradiction
  case list r =>
    obtain ⟨i, part, counted⟩ := partTold told
    rw [worldBind, counted] at done
    cases done
    exact replacedInList part

end

section
variable [Calls] {w w' : World} {target key u v a b c : Value}

theorem replacedAlike (formed : w.Formed) (hu : w.Comparable u) (hv : w.Comparable v)
    (same : u.isEqual v w = .ok true w) {x y : Value} {n : Nat} (replaced : Replaced u v x y)
    (nested : w.Nested n x) : w.Alike n x y := by
  rcases replaced with rfl | ⟨rfl, rfl⟩
  · exact ⟨nested, fun m deep => agreesRefl (toldRegular formed nested deep)⟩
  have agrees := (equalIff formed hu hv).mp same
  obtain ⟨k, le, nested₁⟩ := hu
  obtain ⟨k', le', nested₂⟩ := hv
  -- both depths of the one and the depth of the other lie below this
  have beyond : k < n + k + k' + 1 ∧ k' < n + k + k' + 1 := ⟨by omega, by omega⟩
  have deep := agreesDeeper formed nested₁ nested₂ ⟨Nat.lt_succ_of_le le, Nat.lt_succ_of_le le'⟩
    beyond agrees
  have nested' := nestedAlike formed nested nested₂ (by omega) beyond.2 deep
  exact ⟨nested', fun m above =>
    agreesDeeper formed nested nested' ⟨by omega, by omega⟩ ⟨above, above⟩ deep⟩

theorem replacedAnswers (formed : w.Formed) (told : w.item target key = .ok u)
    (hu : w.Comparable u) (hv : w.Comparable v) (same : u.isEqual v w = .ok true w)
    (done : target.setItem key v w = .ok () w') (ha : w.Comparable a) (hb : w.Comparable b)
    {t : Bool} (answer : a.isEqual b w = .ok t w) : a.isEqual b w' = .ok t w' := by
  have formed' : w'.Formed := by
    have reached := setItemThrough target key v w formed.plain
    rw [leavesOk done] at reached
    exact reached.formed formed
  have shape : v.shape = u.shape := by
    obtain ⟨_, le, nested⟩ := hu
    obtain ⟨_, le', nested'⟩ := hv
    exact (alikeShape formed nested nested' (Nat.lt_succ_of_le le) (Nat.lt_succ_of_le le')
      ((equalIff formed ⟨_, le, nested⟩ ⟨_, le', nested'⟩).mp same)).symm
  have exchanged := replacedExchanged formed told shape done
  have kept {x : Value} (hx : w.Comparable x) :
      w'.Comparable x ∧ (w.snapshot x).agrees (w'.snapshot x) = true := by
    obtain ⟨n, le, nested⟩ := hx
    obtain ⟨nested', agrees⟩ := exchangedSame formed formed'.plain exchanged
      (replacedAlike formed hu hv same) nested
    have le' : n ≤ w'.reach := exchanged.reach.symm ▸ le
    exact ⟨⟨n, le', nested'⟩, agrees _ _ (Nat.lt_succ_of_le le) (Nat.lt_succ_of_le le')⟩
  obtain ⟨ha', keptA⟩ := kept ha
  obtain ⟨hb', keptB⟩ := kept hb
  have ra := comparableRegular formed ha
  have rb := comparableRegular formed hb
  have ra' := comparableRegular formed' ha'
  have answers : (w'.snapshot a).agrees (w'.snapshot b) =
      (w.snapshot a).agrees (w.snapshot b) := by
    refine Bool.eq_iff_iff.mpr ⟨fun after => ?_, fun before => ?_⟩
    · have middle := agreesTrans ra keptA after
      exact agreesTrans ra middle (agreesSymm rb keptB)
    · have middle := agreesTrans ra before keptB
      exact agreesTrans ra' (agreesSymm ra keptA) middle
  rw [comparesAgree formed ha hb] at answer
  rw [comparesAgree formed' ha' hb', answers]
  cases answer
  rfl

structure World.FiniteMap (w : World) (v : Value) : Prop where
  map : v.root.isMapping = true
  comparable : w.Comparable v

/-- Comparing maps never fails and changes nothing. Whatever their classes, chains and order of entries,
it is an equivalence, and maps are equal just if they have the same keys with equal values. A part of any
map or list that is replaced by an equal one, as a map by a dictionary, changes no answer. -/
theorem mapEqualityIsExtensional (formed : w.Formed) (ha : w.FiniteMap a) (hb : w.FiniteMap b)
    (hc : w.FiniteMap c) :
    (∃ t, a.isEqual b w = .ok t w) ∧
    a.isEqual a w = .ok true w ∧
    b.isEqual a w = a.isEqual b w ∧
    (a.isEqual b w = .ok true w → b.isEqual c w = .ok true w → a.isEqual c w = .ok true w) ∧
    (a.isEqual b w = .ok true w ↔ w.SameEntries a b) ∧
    ∀ target key u v w', w.item target key = .ok u → w.Comparable u → w.Comparable v →
      u.isEqual v w = .ok true w → target.setItem key v w = .ok () w' →
        ∀ t, a.isEqual b w = .ok t w → a.isEqual b w' = .ok t w' := by
  refine ⟨⟨_, comparesAgree formed ha.comparable hb.comparable⟩,
    isEqualRefl formed ha.comparable, isEqualSymm formed ha.comparable hb.comparable,
    isEqualTrans formed ha.comparable hb.comparable hc.comparable,
    ⟨equalTellsEntries formed ha.map hb.map ha.comparable hb.comparable,
      entriesTellEqual formed ha.map hb.map ha.comparable hb.comparable⟩, ?_⟩
  intro target key u v w' told hu hv same done t answer
  exact replacedAnswers formed told hu hv same done ha.comparable hb.comparable answer

end

theorem chainEqualsDictionary :
    ∃ w a b, a = .attributes 5 true (.attributes 4 false (.dictionary 0)) ∧ b = .dictionary 2 ∧
      Value.isEqual a b w = .ok true w ∧ b.isEqual a w = .ok true w ∧ w.SameEntries a b ∧
      w.items a = ⟨[(.int 1, .text "x"), (.text "k", .attributes 3 false (.dictionary 1))], none⟩ ∧
      w.items b = ⟨[(.text "k", .dictionary 3), (.bool true, .text "x")], none⟩ ∧
      ∃ w', a.setItem (.text "k") (.dictionary 3) w = .ok () w' ∧ a.isEqual b w' = .ok true w' := by
  let w : World := { dictionaries :=
    [[(.int 1, .text "x"), (.text "k", .attributes 3 false (.dictionary 1))], [(.text "n", .int 2)],
      [(.text "k", .dictionary 3), (.bool true, .text "x")],
      [(.text "n", .float 9 0x4000000000000000)]] }
  let a : Value := .attributes 5 true (.attributes 4 false (.dictionary 0))
  have formed : w.Formed := by
    refine Context.formedStart fun es mem => ?_
    simp only [List.mem_cons, List.not_mem_nil, or_false] at mem
    rcases mem with rfl | rfl | rfl | rfl <;> exact ⟨by decide, by decide⟩
  have single {v k x : Value} (map : v.root.isMapping = true) (items : (w.items v).items = [(k, x)])
      (key : k.standsAlone = true) (value : x.standsAlone = true) : w.Nested 1 v := by
    refine .map map (fun e mem => ?_) (fun e mem => ?_) <;>
      rw [items, List.mem_singleton] at mem <;> subst mem
    · exact .alone key
    · exact .alone value
  have pair {v k x l y : Value} (map : v.root.isMapping = true)
      (items : (w.items v).items = [(k, x), (l, y)]) (keys : w.Nested 1 k ∧ w.Nested 1 l)
      (values : w.Nested 1 x ∧ w.Nested 1 y) : w.FiniteMap v := by
    refine ⟨map, 2, by decide, .map map (fun e mem => ?_) (fun e mem => ?_)⟩ <;>
      rw [items, List.mem_pair] at mem <;> rcases mem with rfl | rfl
    · exact keys.1
    · exact keys.2
    · exact values.1
    · exact values.2
  have layer : w.Nested 1 (.attributes 3 false (.dictionary 1)) := single rfl rfl rfl rfl
  have copy : w.Nested 1 (.dictionary 3) := single rfl rfl rfl rfl
  have chain : w.FiniteMap a := pair rfl rfl ⟨.alone rfl, .alone rfl⟩ ⟨.alone rfl, layer⟩
  have dictionary : w.FiniteMap (.dictionary 2) :=
    pair rfl rfl ⟨.alone rfl, .alone rfl⟩ ⟨copy, .alone rfl⟩
  obtain ⟨_, _, symm, _, entries, replaced⟩ :=
    mapEqualityIsExtensional formed chain dictionary dictionary
  have equal : a.isEqual (.dictionary 2) w = .ok true w :=
    (equalIff formed chain.comparable dictionary.comparable).mpr rfl
  have inner : (Value.attributes 3 false (.dictionary 1)).isEqual (.dictionary 3) w = .ok true w :=
    (equalIff formed ⟨1, by decide, layer⟩ ⟨1, by decide, copy⟩).mpr rfl
  exact ⟨w, a, _, rfl, rfl, equal, symm.trans equal, entries.mp equal, rfl, rfl, _, rfl,
    replaced a (.text "k") _ _ _ rfl ⟨1, by decide, layer⟩ ⟨1, by decide, copy⟩ inner rfl _ equal⟩

end FlowDouble
