import FlowDouble.Proofs.Context.Formed
/-! What is read of a value: no two of its items have one key and different values, and all of it
stays the same while nothing but contexts and other parameter maps change. -/
namespace FlowDouble

open FlowDouble.Action ParameterMap

theorem positionNumber {holder : Kind} {k : Value} {i : Int}
    (tells : positionOf holder k = .ok i) : k.number? = some (.ofInt i) := by
  cases k with
  | int n =>
    by_cases small : countable n = true
    · simp only [positionOf, small, if_true] at tells
      cases tells
      rfl
    · simp [positionOf, small] at tells
  | bool b =>
    cases tells
    rfl
  | _ => contradiction

theorem samePosition {holder : Kind} {k l : Value} {i j : Int} (left : positionOf holder k = .ok i)
    (right : positionOf holder l = .ok j) (same : k.sameKey l = true) : i = j := by
  have first := positionNumber left
  have second := positionNumber right
  have atom : k.isAtom = true := by cases k <;> first | rfl | contradiction
  rcases (Value.sameKeyAtom atom).mp same with same | ⟨a, b, ha, hb, equal⟩
  · have numbers := Value.sameNumber same
    rw [first, second] at numbers
    cases numbers
    rfl
  · cases first.symm.trans ha
    cases second.symm.trans hb
    have aligned := (Number.equalNumerators (Int.le_refl 0) (Int.le_refl 0)).mp equal
    simpa [Number.numerator, twoTo] using aligned

theorem partKeyHashable {holder : Kind} {vs : List Value} {k x : Value}
    (told : partAt holder vs k = .ok x) : k.hashable = true := by
  cases k <;> first | rfl | simp [partAt, position, positionOf, bind, Except.bind] at told

theorem samePart {holder : Kind} {vs : List Value} {k l x y : Value}
    (left : partAt holder vs k = .ok x) (right : partAt holder vs l = .ok y)
    (same : k.sameKey l = true) : x = y := by
  cases hk : positionOf holder k with
  | error f => simp [partAt, position, hk, bind, Except.bind] at left
  | ok i =>
    cases hl : positionOf holder l with
    | error f => simp [partAt, position, hl, bind, Except.bind] at right
    | ok j =>
      have positions : partAt holder vs k = partAt holder vs l := by
        rw [partAt, partAt, position, position, hk, hl, samePosition hk hl same]
      rw [positions, right] at left
      cases left
      rfl

namespace World

theorem itemsUnderTell {w : World} {v : Value} {ks : List Value} {e : Value × Value}
    (mem : e ∈ (w.itemsUnder v ks).items) : w.item v e.1 = .ok e.2 := by
  induction ks with
  | nil => contradiction
  | cons k ks ih =>
    unfold itemsUnder at mem
    split at mem
    next x told =>
      rcases List.mem_cons.mp mem with rfl | later
      · exact told
      · exact ih later
    next => contradiction

theorem requireTells {es : Entries} {k x : Value} (tells : es.require k = .ok x) :
    k.hashable = true ∧ es.find? k = some x := by
  unfold Entries.require Value.checkKey at tells
  cases changeable : k.changeable? with
  | some c => simp [changeable, bind, Except.bind] at tells
  | none =>
    cases found : es.find? k with
    | none => simp [changeable, found, bind, Except.bind] at tells
    | some v =>
      simp only [changeable, found, bind, Except.bind] at tells
      cases tells
      exact ⟨by simp [Value.hashable, changeable], rfl⟩

theorem itemHashable {w : World} {v k x : Value} (told : w.item v k = .ok x) :
    k.hashable = true := by
  unfold item at told
  cases root : v.root <;> simp only [root] at told <;>
    first | exact (requireTells told).1 | exact partKeyHashable told | contradiction

theorem sameItem {w : World} {v k l x y : Value} (left : w.item v k = .ok x)
    (right : w.item v l = .ok y) (same : k.sameKey l = true) : x = y := by
  have entries {es : Entries} (left : es.require k = .ok x) (right : es.require l = .ok y) :
      x = y := by
    have found := (requireTells left).2
    rw [Entries.findSame same, (requireTells right).2] at found
    exact (Option.some.inj found).symm
  unfold item at left right
  cases root : v.root <;> simp only [root] at left right <;>
    first | exact entries left right | exact samePart left right same | contradiction

theorem itemsAgree {w : World} (formed : w.Formed) (v : Value) :
    Entries.Agree (w.items v).items := by
  unfold items
  split
  next r _ => exact Entries.soundAgree (w.soundDictionary formed.sound r)
  next m _ => exact Entries.soundAgree (formed.held m).sound
  next =>
    split
    next ks _ =>
      intro p hp q hq same
      exact sameItem (itemsUnderTell hp) (itemsUnderTell hq) same
    next => simp [Entries.Agree]

theorem itemsHashable {w : World} (formed : w.Formed) {v : Value} {e : Value × Value}
    (mem : e ∈ (w.items v).items) : e.1.hashable = true := by
  unfold items at mem
  split at mem
  next r _ => exact (w.soundDictionary formed.sound r).hashable e mem
  next m _ => exact (formed.held m).sound.hashable e mem
  next =>
    split at mem
    next => exact itemHashable (itemsUnderTell mem)
    next => contradiction

end World

def OnlyContexts (w w' : World) : Prop :=
  w' = { w with contexts := w'.contexts, parameterMaps := w'.parameterMaps, tags := w'.tags }

theorem onlyContexts : Effect OnlyContexts where
  refl _ := rfl
  trans {a b c} ab bc := by
    unfold OnlyContexts at *
    rw [ab] at bc
    exact bc
  attachments {a b} ab := by rw [ab]

theorem OnlyContexts.ofParameters {w w' : World} (only : OnlyParameters w w') :
    OnlyContexts w w' := by
  unfold OnlyContexts
  rw [only]

namespace OnlyContexts

variable {w w' : World} (only : OnlyContexts w w')
include only

theorem lists : w'.lists = w.lists := by rw [only]

theorem list (r : Nat) : w'.list r = w.list r := congrArg (Heap.read · r) only.lists

theorem dictionary (r : Nat) : w'.dictionary r = w.dictionary r := by
  rw [only]
  rfl

theorem stream (r : Nat) : w'.stream r = w.stream r := by
  rw [only]
  rfl

end OnlyContexts

namespace World

variable {w w' : World} {v : Value}

theorem rootAgain (v : Value) : v.root.root = v.root := by
  fun_induction Value.root v with
  | case1 tag shared backing ih => exact ih
  | case2 v other => cases v <;> first | rfl | exact absurd rfl (other _ _ _)

theorem itemSame (only : OnlyContexts w w')
    (same : ∀ m, v.root = .parameters m → w'.parameters m = w.parameters m) (k : Value) :
    w'.item v k = w.item v k := by
  unfold item
  cases root : v.root with
  | parameters m => simp only [same m root]
  | _ => simp only [only.list, only.dictionary]

theorem elementsSame (only : OnlyContexts w w')
    (same : ∀ m, v.root = .parameters m → w'.parameters m = w.parameters m) :
    w'.rootElements? v.root = w.rootElements? v.root := by
  cases root : v.root with
  | parameters m => simp only [rootElements?, same m root]
  | _ => simp only [rootElements?, only.list, only.dictionary, only.stream]

theorem itemsSame (only : OnlyContexts w w')
    (same : ∀ m, v.root = .parameters m → w'.parameters m = w.parameters m) :
    w'.items v = w.items v := by
  have under (ks : List Value) : w'.itemsUnder v.root ks = w.itemsUnder v.root ks := by
    induction ks with
    | nil => rfl
    | cons k ks ih =>
      have first := itemSame (v := v.root) only (by rwa [rootAgain]) k
      simp only [itemsUnder, first, ih]
  have elements := elementsSame only same
  unfold items
  cases root : v.root with
  | dictionary d => simp only [only.dictionary]
  | parameters m => simp only [same m root]
  | _ =>
    rw [root] at under elements
    simp only [under, elements]

theorem knownRoot (known : w.Knows v) {m : ParameterMap} (root : v.root = .parameters m) :
    m.ref < w.parameterMaps.length := by
  fun_induction Value.root v with
  | case1 tag shared backing ih => exact ih known root
  | case2 v other =>
    subst root
    exact known

theorem knownFacet (known : w.Knows v) {tag : Nat} {f : Facet} {map : Value}
    (root : v.root = .facet tag f map) : w.Knows map := by
  fun_induction Value.root v with
  | case1 tag shared backing ih => exact ih known root
  | case2 v other =>
    subst root
    exact known

theorem facetCount (only : OnlyContexts w w')
    (same : ∀ m, v.root = .parameters m → w'.parameters m = w.parameters m) (tag : Nat)
    (f : Facet) :
    (w'.facetElements? tag v f).map List.length =
      (w.facetElements? tag v f).map List.length := by
  cases f with
  | keys => simp only [facetElements?, elementsSame only same]
  | values => simp only [facetElements?, itemsSame only same]
  | items => simp only [facetElements?, itemsSame only same, Option.map_some, List.length_map]

theorem lengthSame (only : OnlyContexts w w')
    (same : ∀ m, m.ref < w.parameterMaps.length → w'.parameters m = w.parameters m)
    (known : w.Knows v) : w'.length v = w.length v := by
  have count : (w'.elements? v.root).map List.length = (w.elements? v.root).map List.length := by
    unfold elements?
    rw [rootAgain]
    cases root : v.root with
    | facet tag f map =>
      exact facetCount only (fun m ends => same m (knownRoot (knownFacet known root) ends)) tag f
    | _ =>
      have elements := elementsSame (v := v) only fun m ends => same m (knownRoot known ends)
      rw [root] at elements
      simp only [elements]
  unfold length
  split
  next => rfl
  next => rfl
  next =>
    cases there : w.elements? v.root with
    | none =>
      rw [there, Option.map_none, Option.map_eq_none_iff] at count
      rw [count]
    | some vs =>
      rw [there, Option.map_some, Option.map_eq_some_iff] at count
      obtain ⟨us, found, size⟩ := count
      simp only [found, size]

theorem truthySame (only : OnlyContexts w w')
    (same : ∀ m, m.ref < w.parameterMaps.length → w'.parameters m = w.parameters m)
    (known : w.Knows v) : w'.truthy v = w.truthy v := by
  unfold truthy
  split <;> simp only [lengthSame only same known, only.list]

theorem emptyItems (empty : w.truthy v = .ok false) (mapping : v.isMapping = true) :
    (w.items v).items = [] := by
  have size : w.length v = .ok 0 := by
    have own : w.truthy v = (do return (← w.length v) != 0) := by
      cases v <;> first | rfl | contradiction
    rw [own] at empty
    cases told : w.length v with
    | error f => simp [told, bind, Except.bind] at empty
    | ok n =>
      have zero : n = 0 := by simpa [told, bind, Except.bind, pure, Except.pure] using empty
      rw [zero]
  unfold length at size
  unfold items
  cases root : v.root with
  | dictionary d =>
    simpa [root, elements?, rootElements?, Value.root, Entries.keys] using size
  | parameters m =>
    simpa [root, elements?, rootElements?, Value.root, Entries.keys] using size
  | list _ | tuple _ _ | text _ | bytes _ =>
    simp only [root, elements?, Value.root, rootElements?, Except.ok.injEq] at size
    simp only [rootElements?, List.length_eq_zero_iff.mp size, itemsUnder]
  | writer r => simp [root] at size
  | stream r => simp [root] at size
  | _ => rfl

end World

end FlowDouble
