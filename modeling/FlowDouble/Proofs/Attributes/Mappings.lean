import FlowDouble.Proofs.Attributes.Operations
import FlowDouble.Proofs.Context.Input
/-! What is read of a mapping, be it a dictionary, a parameter map or a chain of maps over one of the
two, is read of the entries at its end. -/
namespace FlowDouble

open FlowDouble.Action

theorem Value.tellsWhole {w : World} (plain : w.Plain) :
    ∀ v : Value, v.root.isMapping = true → w.tellsEntries v = true
  | .dictionary _, _ => rfl
  | .parameters _, _ => by simp [World.tellsEntries, World.hidesNothing plain]
  | .attributes _ _ backing, map => by
    simp [World.tellsEntries, World.hidesNothing plain, tellsWhole plain backing map]

namespace World.HasMap

variable {w w' : World} {map key : Value}

theorem mapping (there : w.HasMap map) : map.isMapping = true := by
  have ends := there.root
  cases map <;> first | rfl | contradiction

theorem tells (there : w.HasMap map) : w.items map = ⟨(w.items map).items, none⟩ := by
  rw [← itemsWhole there.root]

theorem requires (there : w.HasMap map) (key : Value) :
    w.item map key = Entries.require (w.items map).items key := by
  rcases there with ⟨d, _, ends⟩ | ⟨m, ends⟩ <;> simp only [item, items, ends]

theorem later (there : w.HasMap map) (grows : w.dictionaries.length ≤ w'.dictionaries.length) :
    w'.HasMap map := by
  rcases there with ⟨d, known, ends⟩ | parameters
  · exact .inl ⟨d, Nat.lt_of_lt_of_le known grows, ends⟩
  · exact .inr parameters

theorem itemsStay (there : w.HasMap map)
    (dictionaries : ∀ d < w.dictionaries.length, w'.dictionary d = w.dictionary d)
    (parameters : w'.parameterMaps = w.parameterMaps) : w'.items map = w.items map := by
  rcases there with ⟨d, known, ends⟩ | ⟨m, ends⟩
  · rw [itemsOver ends, itemsOver ends, dictionaries d known]
  · simp only [items, ends, World.parameters, parameters]

theorem itemFound (there : w.HasMap map) (hashable : key.hashable = true) :
    w.item map key = match Entries.find? key (w.items map).items with
      | some x => .ok x
      | none => .error (.missingKey (some key)) := by
  rw [there.requires]
  unfold Entries.require
  rw [Value.keyChecked hashable]
  rfl

theorem contains [Calls] (there : w.HasMap map) (hashable : key.hashable = true) :
    map.contains key w = .ok (Entries.has (w.items map).items key) w := by
  have found : map.find key w = .ok (Entries.find? key (w.items map).items) w := by
    unfold Value.find
    rw [worldBind, there.itemFound hashable]
    cases Entries.find? key (w.items map).items <;> rfl
  have mapping := there.mapping
  cases map with
  | dictionary d => exact bindOk (keyAccepted hashable w)
  | parameters m => exact bindOk found
  | attributes tag shared backing => exact bindOk found
  | _ => contradiction

theorem elements (there : w.HasMap map) :
    Action.elements map w = .ok (Entries.keys (w.items map).items) w := by
  have takes (part : Value) : take map part w = .ok () w := by
    unfold take
    rcases there with ⟨d, _, ends⟩ | ⟨m, ends⟩ <;> rw [ends] <;> rfl
  have takesAll (parts : List Value) : takeAll map parts w = .ok () w := by
    induction parts with
    | nil => rfl
    | cons part rest ih => exact (bindOk (takes part)).trans ih
  have keys : w.elements? map = some (Entries.keys (w.items map).items) := by
    rcases there with ⟨d, _, ends⟩ | ⟨m, ends⟩ <;> simp only [elements?, items, ends] <;> rfl
  have ahead : ahead map w = .ok (Entries.keys (w.items map).items) w := by
    unfold Action.ahead
    rw [worldBind, keys]
    rfl
  unfold Action.elements
  rw [bindOk ahead, bindOk (takesAll _)]
  rfl

end World.HasMap

end FlowDouble
