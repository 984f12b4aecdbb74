import FlowDouble.Iteration
import FlowDouble.Proofs.Renaming.Steps
/-! What values contain and yield in twin worlds is alike. -/
namespace FlowDouble

instance {α : Type} [Renames α] : Renames (Yield α) where
  rename ρ y := ⟨rename ρ y.items, rename ρ y.fault⟩
  one y := by simp only [Renames.one]
  mul ρ σ y := by simp only [Renames.mul]

section
variable {P : Pairing} {k k' v v' u u' : Value} {es es' : Entries}

theorem alikeYield {α : Type} [Renames α] {as as' : List α} {f f' : Option Fault}
    (items : Alike P as as') (fault : Alike P f f') :
    Alike P (Yield.mk as f) (Yield.mk as' f') := items.map₂ (fun _ _ _ => rfl) fault

namespace Alike

theorem find (entries : Alike P es es') (key : Alike P k k') :
    Alike P (es.find? k) (es'.find? k') :=
  entries.map₂ (f := fun es k => Entries.find? k es) (fun ρ es k => es.findRenamed ρ k) key

theorem has (entries : Alike P es es') (key : Alike P k k') : es'.has k' = es.has k :=
  (entries.find key).isSome

theorem insert (entries : Alike P es es') (key : Alike P k k') (value : Alike P v v') :
    Alike P (es.insert k v) (es'.insert k' v') :=
  entries.map₃ (f := fun es k v => Entries.insert k v es)
    (fun ρ es k v => es.insertRenamed ρ k v) key value

theorem erase (entries : Alike P es es') (key : Alike P k k') :
    Alike P (es.erase k) (es'.erase k') :=
  entries.map₂ (f := fun es k => Entries.erase k es) (fun ρ es k => es.eraseRenamed ρ k) key

theorem keys (entries : Alike P es es') : Alike P es.keys es'.keys :=
  entries.map fun ρ es => es.keysRenamed ρ

theorem checkKey (key : Alike P k k') : Alike P k.checkKey k'.checkKey := by
  refine key.map (f := Value.checkKey) fun ρ k => ?_
  unfold Value.checkKey
  rw [renameValue, k.changeableRenamed]
  cases k.changeable? with
  | none => rfl
  | some kind => rfl

theorem require (entries : Alike P es es') (key : Alike P k k') :
    Alike P (es.require k) (es'.require k') := by
  refine key.checkKey.andThen fun _ _ _ => ?_
  obtain ⟨e, e'⟩ | ⟨x, x', e, e', same⟩ := (entries.find key).option
  · rw [e, e']
    exact key.map (f := fun k => (.error (.missingKey (some k)) : Except Fault Value)) fun _ _ => rfl
  · rw [e, e']
    exact alikeOk same

theorem countIn (holder : Kind) (key : Alike P k k') :
    Alike P (positionOf holder k) (positionOf holder k') := by
  refine key.map (f := positionOf holder) fun ρ k => ?_
  have kind := k.kindOfRenamed ρ
  cases k with
  | int n =>
    show (if countable n then _ else _) = rename ρ (if countable n then _ else _)
    split <;> rfl
  | bool b => rfl
  | _ =>
    exact congrArg (fun k => (.error (.misuse (.notPosition holder k)) : Except Fault Int)) kind

theorem positionIn {beyond beyond' : Misuse} (holder : Kind) (out : Alike P beyond beyond') (n : Nat)
    (key : Alike P k k') : Alike P (position holder beyond n k) (position holder beyond' n k') := by
  refine (key.countIn holder).andThen fun i i' same => ?_
  rw [same.still]
  exact alikeIf (alikeOk (alikeStill _)) (alikeError (out.map (f := Fault.misuse) fun _ _ => rfl))

theorem partAt {vs vs' : List Value} (holder : Kind) (parts : Alike P vs vs')
    (key : Alike P k k') : Alike P (partAt holder vs k) (FlowDouble.partAt holder vs' k') := by
  unfold FlowDouble.partAt
  rw [parts.lengths]
  have out : Alike P (Misuse.outside holder) (.outside holder) := alikeFixed fun _ => rfl
  refine (out.positionIn holder vs.length key).andThen fun i i' same => ?_
  rw [same.still]
  exact alikeOk ((parts.get _).getD Like.null.alike)

end Alike

theorem charactersFixed (s : String) (ρ : Renaming) :
    rename ρ (Value.characters s) = Value.characters s := by
  simp [Value.characters, renameList, Value.rename]

theorem numbersFixed (bs : List UInt8) (ρ : Renaming) :
    rename ρ (Value.numbers bs) = Value.numbers bs := by
  simp [Value.numbers, renameList, Value.rename]

namespace Twin

variable {w w' : World}

theorem rootElements (twin : Twin P w w') (alike : Alike P v v') :
    Alike P (w.rootElements? v) (w'.rootElements? v') := by
  cases alike.like with
  | dictionary pairs => exact alikeSome (twin.dictionary pairs).keys
  | parameters writable pairs => exact alikeSome (twin.parameters pairs).keys
  | list pairs => exact alikeSome (twin.list pairs)
  | tuple pairs items => exact alikeSome items
  | text s => exact alikeSome (alikeFixed (charactersFixed s))
  | bytes bs => exact alikeSome (alikeFixed (numbersFixed bs))
  | writer pairs => exact alikeSome alikeNil
  | stream pairs =>
    simp only [World.rootElements?, twin.stream pairs]
    refine alikeSome (alikeFixed fun ρ => ?_)
    simp [renameList, Value.rename]
  | _ => exact alikeNone

theorem item (twin : Twin P w w') (alike : Alike P v v') (key : Alike P k k') :
    Alike P (w.item v k) (w'.item v' k') := by
  have root := alike.root
  unfold World.item
  generalize v.root = v, v'.root = v' at root
  cases root.like with
  | dictionary pairs => exact (twin.dictionary pairs).require key
  | parameters writable pairs => exact (twin.parameters pairs).require key
  | list pairs => exact (twin.list pairs).partAt .list key
  | tuple pairs items => exact items.partAt .tuple key
  | text s => exact (alikeFixed (charactersFixed s)).partAt .text key
  | bytes bs => exact (alikeFixed (numbersFixed bs)).partAt .bytes key
  | _ => exact root.map (f := fun v => (Except.error (.misuse (.notSubscriptable v)) :
      Except Fault Value)) fun _ _ => rfl

theorem itemsUnder (twin : Twin P w w') (alike : Alike P v v') {ks ks' : List Value}
    (keys : Alike P ks ks') : Alike P (w.itemsUnder v ks) (w'.itemsUnder v' ks') := by
  induction ks generalizing ks' with
  | nil =>
    obtain ⟨_, rfl⟩ | ⟨_, _, _, _, wrong, _⟩ := keys.list
    · exact alikeYield alikeNil alikeNone
    · contradiction
  | cons k ks ih =>
    obtain ⟨wrong, _⟩ | ⟨_, _, k', ks', here, rfl, key, others⟩ := keys.list
    · contradiction
    cases here
    unfold World.itemsUnder
    obtain ⟨x, x', e, e', same⟩ | ⟨f, f', e, e', same⟩ := (twin.item alike key).except
    · rw [e, e']
      have rest := ih others
      exact alikeYield (alikeCons (alikePair key same) (rest.map fun _ _ => rfl))
        (rest.map fun _ _ => rfl)
    · rw [e, e']
      exact alikeYield alikeNil (alikeSome same)

theorem items (twin : Twin P w w') (alike : Alike P v v') : Alike P (w.items v) (w'.items v') := by
  have root := alike.root
  have kind := root.kindOf
  unfold World.items
  generalize v.root = v, v'.root = v' at root kind
  have refused : Alike P (Yield.mk [] (some (.misuse (.notIterable v.kindOf))) : Yield (Value × Value))
      ⟨[], some (.misuse (.notIterable v'.kindOf))⟩ := by
    rw [kind]
    exact alikeFixed fun _ => rfl
  have other := (twin.rootElements root).elim refused fun _ _ keys => twin.itemsUnder root keys
  cases root.like with
  | dictionary pairs => exact alikeYield (twin.dictionary pairs) alikeNone
  | parameters writable pairs => exact alikeYield (twin.parameters pairs) alikeNone
  | _ => exact other

theorem facetElements (twin : Twin P w w') {tag tag' : Nat} (pairs : P.Pairs .tag tag tag')
    (map : Alike P v v') (f : Facet) :
    Alike P (w.facetElements? tag v f) (w'.facetElements? tag' v' f) := by
  have items : Alike P (w.items v).items (w'.items v').items :=
    (twin.items map).map (f := Yield.items) fun _ _ => rfl
  cases f with
  | keys => exact twin.rootElements map.root
  | values => exact alikeSome (items.each fun _ _ same => same.snd)
  | items =>
    refine alikeSome (items.each fun _ _ same => ?_)
    exact (Like.tuple pairs (alikeCons same.fst (alikeCons same.snd alikeNil))).alike

theorem elements (twin : Twin P w w') (alike : Alike P v v') :
    Alike P (w.elements? v) (w'.elements? v') := by
  have root := alike.root
  unfold World.elements?
  generalize v.root = v, v'.root = v' at root
  cases root.like with
  | facet pairs f map => exact twin.facetElements pairs map f
  | _ => exact twin.rootElements root

theorem length (twin : Twin P w w') (alike : Alike P v v') :
    Alike P (w.length v) (w'.length v') := by
  have root := alike.root
  have kind := root.kindOf
  unfold World.length
  generalize v.root = v, v'.root = v' at root kind
  have refused : Alike P (Except.error (.misuse (.noLength v.kindOf)) : Except Fault Nat)
      (.error (.misuse (.noLength v'.kindOf))) := by
    rw [kind]
    exact alikeFixed fun _ => rfl
  have counted (vs vs' : List Value) (same : Alike P vs vs') :
      Alike P (Except.ok vs.length : Except Fault Nat) (.ok vs'.length) := by
    rw [same.lengths]
    exact alikeOk (alikeStill _)
  cases root.like with
  | writer pairs => exact alikeFixed fun _ => rfl
  | stream pairs => exact alikeFixed fun _ => rfl
  | _ =>
    dsimp only
    obtain ⟨e, e'⟩ | ⟨vs, vs', e, e', same⟩ := (twin.elements root).option
    · rw [e, e']
      exact refused
    · rw [e, e']
      exact counted vs vs' same

theorem truthy (twin : Twin P w w') (alike : Alike P v v') :
    Alike P (w.truthy v) (w'.truthy v') := by
  have length := twin.length alike
  cases alike.like with
  | tuple pairs items =>
    simp only [World.truthy, items.isEmpty]
    exact alikeFixed fun _ => rfl
  | list pairs =>
    simp only [World.truthy, (twin.list pairs).isEmpty]
    exact alikeFixed fun _ => rfl
  | dictionary _ | attributes _ _ _ | parameters _ _ | facet _ _ _ =>
    exact length.andThen fun n n' same => alikeOk (by rw [same.still]; exact alikeStill _)
  | _ => exact alikeFixed fun _ => rfl

theorem partNow (twin : Twin P w w') (alike : Alike P v v') (total index : Nat)
    (part : Alike P u u') : Alike P (w.partNow v total index u) (w'.partNow v' total index u') := by
  have parts := (twin.elements alike).getD alikeNil
  have root := alike.root
  unfold World.partNow
  generalize v.root = r, v'.root = r' at root
  have other : Alike P (.ok u : Except Fault Value) (.ok u') := alikeOk part
  cases root.like with
  | facet pairs f map =>
    show Alike P (if _ then _ else _) (if _ then _ else _)
    rw [parts.lengths]
    split
    · exact alikeOk ((parts.get index).getD part)
    · exact alikeFixed fun _ => rfl
  | _ => exact other

end Twin

end

end FlowDouble
