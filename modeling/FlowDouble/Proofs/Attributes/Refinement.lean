import FlowDouble.Proofs.Attributes.Requests
/-! Any number of attribute maps over one dictionary, layered to any depth, are one table: whatever
is asked of any of them is answered as the table answers, and they all show its entries. -/
namespace FlowDouble

open FlowDouble.Action

namespace Meets

variable {d : Nat} {map : Value} {w w' : World} {order : Table.Order} {v : Value} {f : Fault}
variable {es : Entries}

theorem replies (reply : Table.Reply)
    (step : Table.step (w.dictionary d) order = (.ok reply, es)) (shown : reply.Shown map w w' v)
    (after : After d w w' es) : Meets d map w order (.ok v w') :=
  ⟨reply, by rw [step], shown, by rw [step]; exact after⟩

theorem fails (step : Table.step (w.dictionary d) order = (.error f.kind, es))
    (after : After d w w' es) : Meets d map w order (.error f w') :=
  ⟨by rw [step], by rw [step]; exact after⟩

end Meets

theorem Snapshot.equalForm (a b : Bool) (xs : List (Snapshot × Snapshot)) (y : Snapshot) :
    (Snapshot.mapping (.attributes a) xs).equal y =
      (Snapshot.mapping (.attributes b) xs).equal y := by
  have same : entriesFor (.attributes a) y = entriesFor (.attributes b) y := by
    cases y with
    | view self form items told listed => cases form <;> rfl
    | _ => rfl
  simp only [Snapshot.equal, same]

section
variable [Calls] {l : Layer} {d : Nat} {w : World}

theorem snapshotOver (ends : l.Over d) (plain : w.Plain) : w.snapshot l.map =
    .mapping (.attributes l.shared)
      (Entries.snapshot (World.resolver w.reach w) (w.dictionary d)) := by
  have told : w.tellsEntries l.map = true := l.map.tellsOver ends plain
  have items : w.items l.map = ⟨w.dictionary d, none⟩ := World.itemsOver ends
  have shown : w.snapshot l.map = w.snapshotMap l.map (World.resolver w.reach) := rfl
  rw [shown]
  unfold World.snapshotMap
  rw [items, if_pos told]
  rfl

theorem comparesOver (ends : l.Over d) (plain : w.Plain) (other : Value) :
    ((w.snapshot l.map).equal (w.snapshot other)).mapError Fault.kind =
      w.compared other (w.dictionary d) := by
  rw [snapshotOver ends plain, Snapshot.equalForm l.shared false]
  rfl

omit [Calls] in
theorem itemMeets (ends : l.Over d) {key : Value} (hashable : key.hashable = true) :
    Meets d l.map w (.item key) (l.map.getItem key w) := by
  unfold Value.getItem
  rw [worldBind, l.map.itemOver ends hashable]
  cases found : Table.lookup key (w.dictionary d) with
  | some x => exact .replies (.value x) (by simp only [Table.step, found]) rfl (.same d w)
  | none => exact .fails (by simp only [Table.step, found]; rfl) (.same d w)

omit [Calls] in
theorem deleteMeets (ends : l.Over d) (known : d < w.dictionaries.length)
    (sound : (w.dictionary d).Sound) {key : Value} (hashable : key.hashable = true) :
    Meets d l.map w (.delete key) (yieldNothing (l.map.deleteItem key) w) := by
  have deleted := l.map.deleteItemOver ends sound hashable
  unfold yieldNothing
  cases found : Table.lookup key (w.dictionary d) with
  | some x =>
    rw [found] at deleted
    rw [bindOk deleted]
    exact .replies Table.nothing (by simp only [Table.step, found]) rfl (.set known _)
  | none =>
    rw [found] at deleted
    rw [bindError deleted]
    exact .fails (by simp only [Table.step, found]; rfl) (.same d w)

omit [Calls] in
theorem popMeets {v map key : Value} (ends : v.root = .dictionary d)
    (known : d < w.dictionaries.length) (sound : (w.dictionary d).Sound)
    (hashable : key.hashable = true) (default : Option Value) :
    Meets d map w (.pop key default) (Attributes.pop v key default w) := by
  rw [Attributes.popOver ends sound hashable]
  cases found : Table.lookup key (w.dictionary d) with
  | some x => exact .replies (.value x) (by simp only [Table.step, found]) rfl (.set known _)
  | none =>
    cases default with
    | some x => exact .replies (.value x) (by simp only [Table.step, found]) rfl (.same d w)
    | none => exact .fails (by simp only [Table.step, found]; rfl) (.same d w)

theorem getOrPutMeets (ends : l.Over d) (known : d < w.dictionaries.length)
    (sound : (w.dictionary d).Sound) {key : Value} (hashable : key.hashable = true)
    (default : Value) :
    Meets d l.map w (.getOrPut key default) (Attributes.getOrPut l.map key default w) := by
  have mapOver : l.map.root = .dictionary d := ends
  rw [Attributes.getOrPutOver mapOver sound hashable]
  cases found : Table.lookup key (w.dictionary d) with
  | some x => exact .replies (.value x) (by simp only [Table.step, found]) rfl (.same d w)
  | none => exact .replies (.value default) (by simp only [Table.step, found]) rfl (.set known _)

omit [Calls] in
theorem popFirstMeets (ends : l.Over d) (known : d < w.dictionaries.length)
    (sound : (w.dictionary d).Sound) :
    Meets d l.map w .popFirst (Attributes.popFirst l.map w) := by
  have mapOver : l.map.root = .dictionary d := ends
  cases full : w.dictionary d with
  | nil =>
    have after : After d w w [] := full ▸ .same d w
    rw [Attributes.popFirstEmpty mapOver full]
    exact .fails (by simp only [Table.step, full]; rfl) after
  | cons e rest =>
    obtain ⟨tag, popped⟩ := Attributes.popFirstOver mapOver sound full
    rw [popped]
    exact .replies (.row [e.1, e.2]) (by simp only [Table.step, full]) ⟨tag, rfl⟩
      ((After.set known rest).tagged _)

omit [Calls] in
theorem pourMeets {map : Value} {a : Action Unit} {offer : Offer} (pours : Pours d w offer (a w))
    (chained : Bool) : Meets d map w (.pour offer.1 offer.2 chained)
      ((do a; return if chained then map else .null : Action Value) w) := by
  cases h : a w with
  | ok u w' =>
    rw [h] at pours
    obtain ⟨fault, after⟩ := pours
    rw [bindOk h]
    cases chained with
    | true => exact .replies .itself (by simp only [Table.step, fault]; rfl) rfl after
    | false => exact .replies Table.nothing (by simp only [Table.step, fault]; rfl) rfl after
  | error f w' =>
    rw [h] at pours
    obtain ⟨fault, after⟩ := pours
    rw [bindError h]
    exact .fails (by simp only [Table.step, fault]) after

theorem equalsMeets (ends : l.Over d) (plain : w.Plain) (other : Value) :
    Meets d l.map w (.compare (w.compared other))
      ((do return .bool (← l.map.isEqual other) : Action Value) w) := by
  have compares := comparesOver ends plain other
  have run : l.map.isEqual other w =
      (ofExcept ((w.snapshot l.map).equal (w.snapshot other)) : Action Bool) w := rfl
  cases h : (w.snapshot l.map).equal (w.snapshot other) with
  | ok b =>
    rw [h] at run compares
    rw [bindOk run]
    exact .replies (.value (.bool b)) (by simp only [Table.step, ← compares]; rfl) rfl (.same d w)
  | error f =>
    rw [h] at run compares
    rw [bindError run]
    exact .fails (by simp only [Table.step, ← compares]; rfl) (.same d w)

theorem requestMeets (ends : l.Over d) (plain : w.Plain) (known : d < w.dictionaries.length)
    (sound : (w.dictionary d).Sound) {request : Request} (proper : request.Proper) :
    Meets d l.map w (request.order d w) (request.act l w) := by
  have same := After.same d w
  have mapOver : l.map.root = .dictionary d := ends
  cases request with
  | get key default =>
    have done : (Request.get key default).act l w =
        .ok ((Table.lookup key (w.dictionary d)).getD default) w :=
      bindOk (l.map.findOver ends proper)
    rw [done]
    exact .replies _ rfl rfl same
  | item key => exact itemMeets ends proper
  | assign key value =>
    have done : (Request.assign key value).act l w = .ok .null _ :=
      bindOk (l.map.setItemOver ends sound proper value)
    rw [done]
    exact .replies _ rfl rfl (.set known _)
  | delete key => exact deleteMeets ends known sound proper
  | has key =>
    have done : (Request.has key).act l w = .ok (.bool _) w :=
      bindOk (l.map.containsOver ends rfl proper)
    rw [done]
    exact .replies _ rfl rfl same
  | count =>
    have done : Request.count.act l w = .ok (.int _) w := bindOk (l.map.lengthOver ends)
    rw [done]
    exact .replies _ rfl rfl same
  | iterate =>
    have done : Request.iterate.act l w =
        .ok (.tuple w.tags _) { w with tags := w.tags + 1 } := bindOk (l.map.allElementsOver ends)
    rw [done]
    exact .replies _ rfl ⟨_, rfl⟩ (same.tagged _)
  | put key value =>
    have done : (Request.put key value).act l w = .ok _ _ :=
      Attributes.putOver ends plain sound proper value
    rw [done]
    exact .replies _ rfl rfl (.set known _)
  | putAll source => exact pourMeets (Attributes.putAllPours ends plain known sound source) true
  | remove key =>
    have done : (Request.remove key).act l w = Attributes.pop l.backing key (some .null) w :=
      Attributes.removeOver ends plain sound proper
    rw [done]
    exact popMeets ends known sound proper _
  | toDictionary =>
    obtain ⟨w', done, copied, after⟩ := Attributes.copiedOver ends plain known
    have run : Request.toDictionary.act l w = .ok _ w' := done
    rw [run]
    exact .replies _ rfl ⟨_, rfl, Nat.le_refl _, copied⟩ after
  | pop key default => exact popMeets mapOver known sound proper default
  | popFirst => exact popFirstMeets ends known sound
  | clear =>
    obtain ⟨w', done, after⟩ := Attributes.clearOver mapOver plain known sound
    have run : Request.clear.act l w = .ok .null w' := bindOk done
    rw [run]
    exact .replies _ rfl rfl after
  | update source named =>
    have texts := namedHashable named
    exact pourMeets (Attributes.updateOver mapOver texts plain known sound) false
  | getOrPut key default => exact getOrPutMeets ends known sound proper default
  | equals other => exact equalsMeets ends plain other

end

end FlowDouble
