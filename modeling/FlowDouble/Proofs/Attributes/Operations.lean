import FlowDouble.Attributes
import FlowDouble.Proofs.Attributes.Offers
/-! What the operations of attribute maps do to the dictionary at the end of a chain, the same at any
depth, although maps over maps and maps over dictionaries go through different code. -/
namespace FlowDouble

open FlowDouble.Action

theorem Value.overCases {v : Value} {d : Nat} (ends : v.root = .dictionary d) :
    v = .dictionary d ∨ ∃ tag shared backing, v = .attributes tag shared backing ∧
      backing.root = .dictionary d := by
  cases v with
  | dictionary r => exact .inl ends
  | attributes tag shared backing => exact .inr ⟨tag, shared, backing, rfl, ends⟩
  | _ => contradiction

theorem World.hidesNothing {w : World} (plain : w.Plain) (v : Value) :
    w.hidesEntries v = false := by
  simp [hidesEntries, entryNames, plain v "keys" (by decide), plain v "items" (by decide),
    plain v "as_dict" (by decide)]

theorem Value.tellsOver {d : Nat} {w : World} :
    ∀ v : Value, v.root = .dictionary d → w.Plain → w.tellsEntries v = true
  | .dictionary _, _, _ => rfl
  | .attributes tag shared backing, ends, plain => by
    have inner := tellsOver backing ends plain
    simp only [World.tellsEntries, World.hidesNothing plain, inner]
    rfl

namespace Attributes

variable [Calls] {d : Nat} {w : World} {v key : Value} (ends : v.root = .dictionary d)
include ends

theorem previousOver (plain : w.Plain) (hashable : key.hashable = true) :
    previous v key w = .ok ((Table.lookup key (w.dictionary d)).getD .null) w := by
  have found : (do return (← v.find key).getD .null : Action Value) w =
      .ok ((Table.lookup key (w.dictionary d)).getD .null) w := by
    rw [bindOk (v.findOver ends hashable)]
    rfl
  rcases v.overCases ends with rfl | ⟨tag, shared, backing, rfl, _⟩
  · exact found
  · exact (Value.answerUnhidden (plain _ "get" (by decide)) _ _).trans found

theorem putOver (plain : w.Plain) (sound : (w.dictionary d).Sound)
    (hashable : key.hashable = true) (value : Value) :
    put v key value w = .ok ((Table.lookup key (w.dictionary d)).getD .null)
      (w.setDictionary d (Table.write key value (w.dictionary d))) := by
  unfold put
  rw [bindOk (previousOver ends plain hashable),
    bindOk (v.setItemOver ends sound hashable value)]
  rfl

theorem putAllPours (plain : w.Plain) (known : d < w.dictionaries.length)
    (sound : (w.dictionary d).Sound) (source : Value) :
    Pours d w (w.offered d source) (putAll v source w) := by
  rcases v.overCases ends with rfl | ⟨tag, shared, backing, rfl, _⟩
  · exact updatePours ends .dictionary source plain known sound
  · have pours := updatePours ends .map source plain known sound
    have asked := Value.answerUnhidden (plain (.attributes tag shared backing) "update" (by decide))
      ⟨[source], []⟩ (yieldNothing (Value.update .map (.attributes tag shared backing) source))
    have run : putAll (.attributes tag shared backing) source = (do
        let _ ← (Value.attributes tag shared backing).answer "update" ⟨[source], []⟩
          (yieldNothing (Value.update .map (.attributes tag shared backing) source))) := rfl
    rw [run]
    cases h : Value.update .map (.attributes tag shared backing) source w with
    | ok u w' =>
      rw [h] at pours
      rw [bindOk (asked.trans (bindOk h))]
      exact pours
    | error f w' =>
      rw [h] at pours
      rw [bindError (asked.trans (bindError h))]
      exact pours

omit [Calls] in
theorem popOver (sound : (w.dictionary d).Sound) (hashable : key.hashable = true)
    (default : Option Value) :
    pop v key default w = match Table.lookup key (w.dictionary d), default with
      | some x, _ => .ok x (w.setDictionary d (Table.drop key (w.dictionary d)))
      | none, some x => .ok x w
      | none, none => .error (.missingKey (some key)) w := by
  have deleted := v.deleteItemOver ends sound hashable
  unfold pop
  rw [worldBind, v.itemOver ends hashable]
  cases found : Table.lookup key (w.dictionary d) with
  | none => cases default <;> rfl
  | some x =>
    rw [found] at deleted
    simp only
    rw [bindOk deleted]
    rfl

theorem removeOver (plain : w.Plain) (sound : (w.dictionary d).Sound)
    (hashable : key.hashable = true) : remove v key w = pop v key (some .null) w := by
  rcases v.overCases ends with rfl | ⟨tag, shared, backing, rfl, _⟩
  -- An empty dictionary is not even searched, which makes no difference for a key that can be one.
  · show (if (w.dictionary d).isEmpty then pure .null
      else pop (.dictionary d) key (some .null) : Action Value) w = _
    split
    · rename_i empty
      rw [popOver ends sound hashable, List.isEmpty_iff.mp empty]
      rfl
    · rfl
  · exact Value.answerUnhidden (plain _ "pop" (by decide)) _ _

theorem getOrPutOver (sound : (w.dictionary d).Sound) (hashable : key.hashable = true)
    (default : Value) :
    getOrPut v key default w = match Table.lookup key (w.dictionary d) with
      | some x => .ok x w
      | none => .ok default (w.setDictionary d (Table.write key default (w.dictionary d))) := by
  unfold getOrPut
  rw [bindOk (v.findOver ends hashable)]
  cases Table.lookup key (w.dictionary d) with
  | some x => rfl
  | none =>
    simp only
    rw [bindOk (v.setItemOver ends sound hashable default)]
    rfl

omit [Calls] in
theorem popFirstEmpty (empty : w.dictionary d = []) :
    popFirst v w = .error (.missingKey none) w := by
  unfold popFirst
  rw [bindOk (v.aheadOver ends), empty]
  rfl

omit [Calls] in
theorem popFirstOver (sound : (w.dictionary d).Sound) {first value : Value} {rest : Entries}
    (full : w.dictionary d = (first, value) :: rest) :
    ∃ tag, popFirst v w =
      .ok (.tuple tag [first, value]) { w.setDictionary d rest with tags := w.tags + 1 } := by
  have hashable : first.hashable = true :=
    sound.hashable (first, value) (full ▸ List.mem_cons_self)
  have found : Table.lookup first (w.dictionary d) = some value := by
    rw [← Table.lookupFind, full]
    simp only [Entries.find?, first.sameKeyRefl, if_true]
  have dropped : Table.drop first (w.dictionary d) = rest := by
    rw [← Table.dropErases sound, full]
    simp only [Entries.erase, first.sameKeyRefl, if_true]
  have item := v.itemOver ends (w := w) hashable
  have deleted := v.deleteItemOver ends sound hashable
  rw [found] at item deleted
  rw [dropped] at deleted
  refine ⟨w.tags, ?_⟩
  unfold popFirst
  rw [bindOk (v.aheadOver ends), full]
  simp only [List.map_cons]
  rw [bindOk (v.takeOver ends first)]
  unfold Value.getItem
  simp only [bind_assoc]
  rw [worldBind, item]
  exact bindOk deleted

omit ends in
theorem popsFirstAsks (plain : w.Plain) : popsFirst v w =
    match popFirst v w with
    | .ok _ w' => .ok true w'
    | .error f w' =>
      (if f.kind.under .missingKey then return false else throw f : Action Bool) w' := by
  have asked := Value.answerUnhidden (plain v "popitem" (by decide)) ⟨[], []⟩ (popFirst v)
  unfold popsFirst
  show EStateM.tryCatch _ _ w = _
  unfold EStateM.tryCatch
  cases h : popFirst v w with
  | ok x w' =>
    rw [h] at asked
    rw [bindOk asked]
    rfl
  | error f w' =>
    rw [h] at asked
    rw [bindError asked]
    rfl

theorem clearSomeOver {n : Nat} (plain : w.Plain) (known : d < w.dictionaries.length)
    (sound : (w.dictionary d).Sound) (enough : (w.dictionary d).length < n) :
    ∃ w', clearSome v n w = .ok () w' ∧ After d w w' [] := by
  -- There is one step more than there are entries: the last one finds the map empty.
  induction n generalizing w with
  | zero => omega
  | succ n ih =>
    unfold clearSome
    cases full : w.dictionary d with
    | nil =>
      have pops : popsFirst v w = .ok false w := by
        rw [popsFirstAsks plain, popFirstEmpty ends full]
        rfl
      rw [bindOk pops]
      exact ⟨w, rfl, full ▸ .same d w⟩
    | cons e rest =>
      obtain ⟨tag, popped⟩ := popFirstOver ends sound full
      have pops : popsFirst v w = .ok true { w.setDictionary d rest with tags := w.tags + 1 } := by
        rw [popsFirstAsks plain, popped]
      have after : After d w { w.setDictionary d rest with tags := w.tags + 1 } rest :=
        (After.set known rest).tagged _
      have left : (World.dictionary { w.setDictionary d rest with tags := w.tags + 1 } d) = rest :=
        after.dictionary
      rw [full] at sound enough
      have sound' := Entries.soundTail sound
      have fewer : rest.length < n := by
        simp only [List.length_cons] at enough
        omega
      rw [bindOk pops]
      obtain ⟨w', cleared, done⟩ := ih (after.plain plain) (after.known known)
        (left.symm ▸ sound') (left.symm ▸ fewer)
      exact ⟨w', cleared, after.trans done⟩

theorem clearOver (plain : w.Plain) (known : d < w.dictionaries.length)
    (sound : (w.dictionary d).Sound) : ∃ w', clear v w = .ok () w' ∧ After d w w' [] := by
  unfold clear
  rw [worldBind, v.elementsOver ends]
  refine clearSomeOver ends plain known sound ?_
  simp

theorem setItemsPours {pairs : Entries} (hashable : ∀ p ∈ pairs, p.1.hashable = true)
    (known : d < w.dictionaries.length) (sound : (w.dictionary d).Sound) :
    Pours d w (pairs, none) (v.setItems pairs w) := by
  have pours := pairsPour ends known sound none pairs
  have all : hashableOnly (Option.map Fault.kind none) pairs = (pairs, none) :=
    hashableOnlyAll hashable
  have run : Value.forYield v.setItem ⟨pairs, none⟩ = v.setItems pairs := by
    unfold Value.forYield Value.setItems finish
    exact bind_pure_unit
  rw [all, run] at pours
  exact pours

theorem updateOver {source : Option Value} {named : Entries}
    (hashable : ∀ p ∈ named, p.1.hashable = true) (plain : w.Plain)
    (known : d < w.dictionaries.length) (sound : (w.dictionary d).Sound) :
    Pours d w (Offer.followed (source.elim ([], none) (w.offered d)) named)
      (update v source named w) := by
  cases source with
  | none => exact setItemsPours ends hashable known sound
  | some x =>
    have pours := updatePours ends .map x plain known sound
    show Pours d w (Offer.followed (w.offered d x) named)
      ((do Value.update .map v x; v.setItems named : Action Unit) w)
    unfold Offer.followed
    cases h : Value.update .map v x w with
    | error f w' =>
      rw [h] at pours
      obtain ⟨fault, after⟩ := pours
      rw [bindError h, fault]
      exact ⟨rfl, after⟩
    | ok u w' =>
      rw [h] at pours
      obtain ⟨fault, after⟩ := pours
      rw [bindOk h, fault]
      have sound' : (w'.dictionary d).Sound :=
        after.dictionary ▸ Table.soundWrittenAll sound World.offeredHashable
      exact .following _ after (setItemsPours ends hashable (after.known known) sound')

theorem copiedOver (plain : w.Plain) (known : d < w.dictionaries.length) :
    ∃ w', v.copied w = .ok (.dictionary w.dictionaries.length) w' ∧
      w'.dictionary w.dictionaries.length = w.dictionary d ∧
      After d w w' (w.dictionary d) := by
  refine ⟨{ w with dictionaries := w.dictionaries.push (w.dictionary d) }, ?_, ?_, ?_⟩
  · unfold Value.copied
    rw [worldBind, if_pos (v.tellsOver ends plain), World.itemsOver ends]
    rfl
  · exact Heap.readPushed _ _
  · refine ⟨Heap.readKept _ known, ?_, fun s _ there => Heap.readKept _ there, rfl⟩
    simp [Heap.push]

end Attributes

end FlowDouble
