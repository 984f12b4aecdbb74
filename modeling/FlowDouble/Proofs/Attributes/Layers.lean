import FlowDouble.Attributes
import FlowDouble.Proofs.Attributes.Table
import FlowDouble.Proofs.Effects
/-! What a value at the end of whose chain there is a dictionary does with the dictionary, however
long the chain: one lemma for each way to read and to write it. -/
namespace FlowDouble

open FlowDouble.Action

structure After (d : Nat) (w w' : World) (es : Entries) : Prop where
  dictionary : w'.dictionary d = es
  grows : w.dictionaries.length ≤ w'.dictionaries.length
  others : ∀ s, s ≠ d → s < w.dictionaries.length → w'.dictionary s = w.dictionary s
  attachments : w'.attachments = w.attachments

namespace After

variable {d : Nat} {w w' w'' : World} {es es' : Entries}

theorem same (d : Nat) (w : World) : After d w w (w.dictionary d) :=
  ⟨rfl, Nat.le_refl _, fun _ _ _ => rfl, rfl⟩

theorem ofSame (dictionaries : w'.dictionaries = w.dictionaries)
    (attachments : w'.attachments = w.attachments) : After d w w' (w.dictionary d) := by
  refine ⟨?_, Nat.le_of_eq (congrArg List.length dictionaries.symm), fun s _ _ => ?_, attachments⟩
  · simp only [World.dictionary, dictionaries]
  · simp only [World.dictionary, dictionaries]

theorem set (known : d < w.dictionaries.length) (es : Entries) :
    After d w (w.setDictionary d es) es := by
  refine ⟨Heap.readWritten es known, Nat.le_of_eq (Heap.writeKeepsLength _ _ _).symm, ?_, rfl⟩
  exact fun s other _ => Heap.readOther _ _ other.symm

theorem trans (first : After d w w' es) (second : After d w' w'' es') : After d w w'' es' := by
  refine ⟨second.dictionary, Nat.le_trans first.grows second.grows, fun s other known => ?_,
    second.attachments.trans first.attachments⟩
  have later := second.others s other (Nat.lt_of_lt_of_le known first.grows)
  exact later.trans (first.others s other known)

theorem tagged (after : After d w w' es) (tags : Nat) : After d w { w' with tags } es :=
  ⟨after.dictionary, after.grows, after.others, after.attachments⟩

theorem known (after : After d w w' es) (known : d < w.dictionaries.length) :
    d < w'.dictionaries.length := Nat.lt_of_lt_of_le known after.grows

theorem plain (after : After d w w' es) (plain : w.Plain) : w'.Plain :=
  World.plainKept after.attachments plain

end After

namespace Value

variable {v key : Value} {d : Nat} {w : World} (ends : v.root = .dictionary d)
include ends

theorem elementsOver : w.elements? v = some ((w.dictionary d).map (·.1)) := by
  simp only [World.elements?, ends]
  rfl

theorem itemOver (hashable : key.hashable = true) : w.item v key =
    match Table.lookup key (w.dictionary d) with
    | some x => .ok x
    | none => .error (.missingKey (some key)) := by
  simp only [World.item, ends]
  unfold Entries.require
  rw [keyChecked hashable, Table.lookupFind]
  rfl

theorem findOver (hashable : key.hashable = true) :
    v.find key w = .ok (Table.lookup key (w.dictionary d)) w := by
  unfold find
  rw [worldBind, itemOver ends hashable]
  cases Table.lookup key (w.dictionary d) <;> rfl

theorem setItemOver [Calls] (sound : (w.dictionary d).Sound) (hashable : key.hashable = true)
    (value : Value) :
    v.setItem key value w =
      .ok () (w.setDictionary d (Table.write key value (w.dictionary d))) := by
  unfold setItem
  simp only [ends]
  unfold insertEntry
  rw [bindOk (keyAccepted hashable w), ← Table.writeInserts sound]
  rfl

theorem setItemRefused [Calls] (unhashable : ¬ key.hashable = true) (value : Value) :
    ∃ f, v.setItem key value w = .error f w ∧ f.kind = .wrongType := by
  obtain ⟨f, refused, kind⟩ := keyRefused unhashable w
  refine ⟨f, ?_, kind⟩
  unfold setItem
  simp only [ends]
  exact bindError refused

theorem deleteItemOver (sound : (w.dictionary d).Sound) (hashable : key.hashable = true) :
    v.deleteItem key w = match Table.lookup key (w.dictionary d) with
      | some _ => .ok () (w.setDictionary d (Table.drop key (w.dictionary d)))
      | none => .error (.missingKey (some key)) w := by
  unfold deleteItem
  simp only [ends]
  rw [worldBind]
  unfold Entries.require
  rw [keyChecked hashable, ← Table.dropErases sound, ← Table.lookupFind]
  cases (w.dictionary d).find? key <;> rfl

theorem lengthOver : Action.length v w = .ok (w.dictionary d).length w := by
  unfold Action.length
  rw [worldBind]
  simp only [World.length, ends, World.elements?, root, World.rootElements?, Entries.keys,
    List.length_map]
  rfl

theorem takeOver (part : Value) : take v part w = .ok () w := by
  unfold take
  rw [ends]
  rfl

theorem takeAllOver (parts : List Value) : takeAll v parts w = .ok () w := by
  induction parts with
  | nil => rfl
  | cons part rest ih => exact (bindOk (takeOver ends part)).trans ih

theorem aheadOver : ahead v w = .ok ((w.dictionary d).map (·.1)) w := by
  unfold ahead
  rw [worldBind, elementsOver ends]
  rfl

theorem allElementsOver : elements v w = .ok ((w.dictionary d).map (·.1)) w := by
  unfold elements
  rw [bindOk (aheadOver ends), bindOk (takeAllOver ends _)]
  rfl

theorem containsOver [Calls] (map : v.isMapping = true) (hashable : key.hashable = true) :
    v.contains key w = .ok (Table.lookup key (w.dictionary d)).isSome w := by
  have asked : v.contains key w = v.hasKey key w := by
    cases v <;> first | rfl | contradiction
  rw [asked]
  unfold hasKey
  split
  · have same : Value.dictionary _ = .dictionary d := ends
    cases same
    rw [bindOk (keyAccepted hashable w), worldBind, Entries.has, Table.lookupFind]
    rfl
  · rw [bindOk (findOver ends hashable)]
    rfl

end Value

end FlowDouble
