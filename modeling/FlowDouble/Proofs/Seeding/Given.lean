import FlowDouble.Proofs.Content
import FlowDouble.Proofs.Seeding.Puts
/-! What is taken from a value where a mapping is wanted, and what a parameter map that was made from
the value holds of it. -/
namespace FlowDouble

open FlowDouble.Action ParameterMap

namespace Action

variable {w w' : World}

theorem forYieldOk {f : Value → Value → Action Unit} {y : Yield (Value × Value)} :
    Value.forYield f y w = .ok () w' ↔
      y.fault = none ∧ Value.forPairs f y.items w = .ok () w' := by
  unfold Value.forYield finish
  cases h : Value.forPairs f y.items w with
  | error e w₁ =>
    rw [bindError h]
    simp
  | ok u w₁ =>
    rw [bindOk h]
    cases y.fault with
    | none => simp [pure, EStateM.pure]
    | some e =>
      constructor
      · intro done
        contradiction
      · rintro ⟨told, _⟩
        contradiction

theorem truthyOk {v : Value} {b : Bool} :
    truthy v w = .ok b w' ↔ w.truthy v = .ok b ∧ w' = w := by
  unfold truthy
  rw [worldBind]
  cases told : w.truthy v with
  | error f =>
    constructor
    · intro done
      contradiction
    · rintro ⟨told, _⟩
      contradiction
  | ok c =>
    constructor
    · intro done
      cases done
      exact ⟨rfl, rfl⟩
    · rintro ⟨same, rfl⟩
      cases same
      rfl

end Action

namespace World

def given (w : World) (v : Value) : List (Value × Value) :=
  if v.isMapping then (w.items v).items else []

theorem givenMapping {w : World} {v : Value} (mapping : v.isMapping = true) :
    w.given v = (w.items v).items := if_pos mapping

theorem givenItem {w : World} {v : Value} {p : Value × Value} (mem : p ∈ w.given v) :
    p ∈ (w.items v).items := by
  unfold given at mem
  split at mem
  next => exact mem
  next => contradiction

def Pours (w : World) (v : Value) : Prop :=
  v.isMapping = true ∧ (w.items v).fault = none ∧
    ∀ p ∈ (w.items v).items, Puttable w.lists p

def Copies (w : World) (v : Value) : Prop :=
  ∃ full, w.truthy v = .ok full ∧ (full = true → w.Pours v)

end World

namespace ParameterMap

variable {m : ParameterMap} {w w' : World} {v : Value}

def begun (w : World) : World := { w with parameterMaps := w.parameterMaps.push [] }

theorem begunItems (known : w.Knows v) : (begun w).items v = w.items v :=
  World.itemsSame rfl fun _ root => Heap.readKept [] (World.knownRoot known root)

theorem begunPlain (plain : w.Plain) : (begun w).Plain := plain

theorem begunTruthy (known : w.Knows v) : (begun w).truthy v = w.truthy v :=
  World.truthySame rfl (fun _ there => Heap.readKept [] there) known

theorem begunRoom (w : World) : w.parameterMaps.length < (begun w).parameterMaps.length := by
  simp [begun, Heap.push]

structure Created (v : Value) (m : ParameterMap) (w w' : World) : Prop where
  map : m = ⟨true, w.parameterMaps.length⟩
  only : OnlyParameters w w'
  length : w'.parameterMaps.length = w.parameterMaps.length + 1
  others : ∀ s < w.parameterMaps.length, w'.parameterMaps.read s = w.parameterMaps.read s
  entries : ∃ kept, KeptAs w.lists (w.given v) kept ∧ w'.parameters m = Entries.ofPairs kept

theorem createdOf {pairs : List (Value × Value)} (gives : w.given v = pairs)
    (fills : Fills ⟨true, w.parameterMaps.length⟩ pairs (begun w) w') :
    Created v ⟨true, w.parameterMaps.length⟩ w w' := by
  have first : OnlyParameters w (begun w) := rfl
  obtain ⟨kept, keeps, done⟩ := fills.entries
  refine ⟨rfl, onlyParameters.trans first fills.only, ?_, fun s there => ?_, kept, gives ▸ keeps, ?_⟩
  · rw [fills.length]
    simp [begun, Heap.push]
  · exact (fills.others s (Nat.ne_of_lt there)).trans (Heap.readKept [] there)
  · have empty : (begun w).parameters ⟨true, w.parameterMaps.length⟩ = [] :=
      Heap.readPushed w.parameterMaps []
    rw [done, empty]
    rfl

variable [Calls]

theorem createRuns (w : World) (v : Value) :
    create true v w = (do
      if ← truthy v then v.forItems (put ⟨true, w.parameterMaps.length⟩)
      return ⟨true, w.parameterMaps.length⟩ : Action ParameterMap) (begun w) := rfl

theorem createGoes (plain : w.Plain) (known : w.Knows v) (copies : w.Copies v) :
    ∃ w', create true v w = .ok ⟨true, w.parameterMaps.length⟩ w' := by
  obtain ⟨full, told, pours⟩ := copies
  rw [← begunTruthy known] at told
  rw [createRuns, bindOk (truthyOk.mpr ⟨told, rfl⟩)]
  cases full with
  | false => exact ⟨begun w, rfl⟩
  | true =>
    obtain ⟨mapping, listed, puttable⟩ := pours rfl
    let m : ParameterMap := ⟨true, w.parameterMaps.length⟩
    obtain ⟨w', done⟩ := putsAll (m := m) (w := begun w) (begunRoom w) puttable
    have poured : v.forItems m.put (begun w) = .ok () w' := by
      rw [forItemsPlain (begunPlain plain), if_pos mapping, begunItems known]
      exact forYieldOk.mpr ⟨listed, done⟩
    exact ⟨w', bindOk poured⟩

theorem createDone (plain : w.Plain) (known : w.Knows v) (done : create true v w = .ok m w') :
    w.Copies v ∧ Created v m w w' := by
  have map := createdRef done
  subst map
  rw [createRuns] at done
  obtain ⟨full, w₁, truth, rest⟩ := bindInv done
  obtain ⟨told, rfl⟩ := truthyOk.mp truth
  rw [begunTruthy known] at told
  cases full with
  | false =>
    cases rest
    refine ⟨⟨false, told, by simp⟩, createdOf ?_ (.none _ _)⟩
    unfold World.given
    split
    next mapping => exact World.emptyItems told mapping
    next => rfl
  | true =>
    obtain ⟨_, w₂, filled, last⟩ := bindInv (a := v.forItems _) rest
    cases last
    rw [forItemsPlain (begunPlain plain)] at filled
    by_cases mapping : v.isMapping = true
    · rw [if_pos mapping, begunItems known] at filled
      obtain ⟨listed, puts⟩ := forYieldOk.mp filled
      obtain ⟨puttable, fills⟩ := putsFill (begunRoom w) puts
      refine ⟨⟨true, told, fun _ => ⟨mapping, listed, puttable⟩⟩, createdOf ?_ fills⟩
      exact World.givenMapping mapping
    · rw [if_neg mapping] at filled
      cases v <;> contradiction

end ParameterMap

namespace World

variable {w w' : World} {m x : Value}

theorem ownItems {t : ParameterMap} (root : m.root = .parameters t) :
    m.isMapping = true ∧ w.items m = ⟨w.parameters t, none⟩ := by
  constructor
  · cases m <;> first | rfl | simp [Value.root] at root
  · simp [World.items, root]

theorem poursOwn (formed : w.Formed) {t : ParameterMap} (root : m.root = .parameters t) :
    w.Pours m := by
  obtain ⟨mapping, items⟩ := ownItems (w := w) root
  have held := formed.held t
  rw [Pours, items]
  exact ⟨mapping, rfl, fun p mem => ⟨held.sound.hashable p mem, p.2,
    .itself (holdableAccepted (held.values p mem))⟩⟩

theorem givenOwn (formed : w.Formed) {t : ParameterMap} (root : m.root = .parameters t) :
    (Entries.ofPairs (w.given m)).find? x = (w.parameters t).find? x := by
  obtain ⟨mapping, items⟩ := ownItems (w := w) root
  rw [givenMapping mapping, items]
  exact Entries.findSoundPairs (formed.held t).sound x

theorem givenFind (formed : w.Formed) (formed' : w'.Formed) (only : OnlyContexts w w') {m : Value}
    (same : ∀ t, m.root = .parameters t →
      (w'.parameters t).find? x = (w.parameters t).find? x) :
    (Entries.ofPairs (w'.given m)).find? x = (Entries.ofPairs (w.given m)).find? x := by
  by_cases map : ∃ t, m.root = .parameters t
  · obtain ⟨t, root⟩ := map
    rw [givenOwn formed root, givenOwn formed' root, same t root]
  · have items : w'.items m = w.items m :=
      World.itemsSame only fun t root => absurd ⟨t, root⟩ map
    simp only [World.given, items]

theorem givenEntry (formed : w.Formed) {e : Value × Value}
    (mem : e ∈ (w.items m).items) (mapping : m.isMapping = true) :
    (Entries.ofPairs (w.given m)).find? e.1 = some e.2 := by
  rw [givenMapping mapping]
  exact Entries.findAgreeing (World.itemsAgree formed m) mem

end World

end FlowDouble
