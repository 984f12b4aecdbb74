import FlowDouble.Copying
import FlowDouble.Proofs.Renaming.Content
/-! Going through values and copying entries in twin worlds, step by step alike. -/
namespace FlowDouble.Mirrors

variable {R : Bond} {P : Pairing} {v v' u u' k k' : Value}

theorem requireHashable (key : Alike P k k') :
    Mirrors R P (Action.requireHashable k) (Action.requireHashable k') := .except key.checkKey

theorem truthy (alike : Alike P v v') : Mirrors R P (Action.truthy v) (Action.truthy v') :=
  .asked fun _ _ twin => twin.truthy alike

theorem length (alike : Alike P v v') : Mirrors R P (Action.length v) (Action.length v') :=
  .asked fun _ _ twin => twin.length alike

theorem ahead (alike : Alike P v v') : Mirrors R P (Action.ahead v) (Action.ahead v') := by
  refine .world fun w w' twin bond => ?_
  obtain ⟨e, e'⟩ | ⟨vs, vs', e, e', parts⟩ := (twin.elements alike).option
  · rw [e, e', alike.root.kindOf]
    exact Mirrors.refused (fun _ => rfl) w w' twin bond
  · rw [e, e']
    exact Mirrors.pure parts w w' twin bond

theorem finish {α : Type} [Renames α] {y y' : Yield α} (alike : Alike P y y') :
    Mirrors R P (Action.finish y) (Action.finish y') := by
  have fault : Alike P y.fault y'.fault := alike.map (f := Yield.fault) fun _ _ => rfl
  unfold Action.finish
  obtain ⟨e, e'⟩ | ⟨f, f', e, e', same⟩ := fault.option
  · rw [e, e']
    exact .pure (alikeStill _)
  · rw [e, e']
    exact .throw same

theorem missing {α : Type} [Renames α] (alike : Alike P v v') (name : String) :
    Mirrors R P (Action.missing v name : Action α) (Action.missing v' name) := by
  have other : Mirrors R P (Action.misuse (.noMember v name) : Action α)
      (Action.misuse (.noMember v' name)) :=
    .misuse (alike.map (f := fun v => Misuse.noMember v name) fun _ _ => rfl)
  cases alike.like with
  | kind k => exact .refused fun ρ => Misuse.ofKindRenamed ρ k name
  | _ => exact other

theorem entriesAs (name : String) (alike : Alike P v v') :
    Mirrors R P (Action.entriesAs name v) (Action.entriesAs name v') :=
  .ite (by rw [alike.isMapping]) (fun _ => .seen fun _ _ twin => twin.items alike)
    fun _ => .missing alike name

theorem entries (name : String) (alike : Alike P v v') :
    Mirrors R P (Action.entries name v) (Action.entries name v') := by
  refine .bind (.entriesAs name alike) fun Q le y y' same => ?_
  refine .bind (.finish same) fun S more _ _ _ => .pure ?_
  exact (same.mono more).map (f := Yield.items) fun _ _ => rfl

theorem forPairs {f f' : Value → Value → Action Unit} {es es' : List (Value × Value)}
    (entries : Alike P es es')
    (same : ∀ Q, P ≤ Q → ∀ k k' x x', Alike Q k k' → Alike Q x x' → Mirrors R Q (f k x) (f' k' x')) :
    Mirrors R P (Value.forPairs f es) (Value.forPairs f' es') := by
  induction es generalizing es' P with
  | nil =>
    obtain ⟨_, rfl⟩ | ⟨_, _, _, _, wrong, _⟩ := entries.list
    · exact .pure (alikeStill _)
    · contradiction
  | cons e es ih =>
    obtain ⟨wrong, _⟩ | ⟨_, _, e', es', here, rfl, first, others⟩ := entries.list
    · contradiction
    cases here
    refine .bind (same P le_rfl _ _ _ _ first.fst first.snd) fun Q le _ _ _ => ?_
    exact ih (others.mono le) fun S more => same S (le.trans more)

theorem forYield {f f' : Value → Value → Action Unit} {y y' : Yield (Value × Value)}
    (alike : Alike P y y')
    (same : ∀ Q, P ≤ Q → ∀ k k' x x', Alike Q k k' → Alike Q x x' → Mirrors R Q (f k x) (f' k' x')) :
    Mirrors R P (Value.forYield f y) (Value.forYield f' y') := by
  have items : Alike P y.items y'.items := alike.map (f := Yield.items) fun _ _ => rfl
  exact .bind (.forPairs items same) fun Q le _ _ _ => .finish (alike.mono le)

theorem sized (t : Taker) (index : Nat) {vs vs' : List Value} : Alike P vs vs' →
    Mirrors R P (match vs with
      | [key, value] => Pure.pure (key, value)
      | vs => Action.misuse (t.badSize index vs.length))
      (match vs' with
      | [key, value] => Pure.pure (key, value)
      | vs => Action.misuse (t.badSize index vs.length)) := by
  have words (n : Nat) : ∀ ρ, rename ρ (t.badSize index n) = t.badSize index n := by
    intro ρ
    cases t with
    | dictionary => rfl
    | map =>
      unfold Taker.badSize
      dsimp only
      split <;> rfl
  intro parts
  have length := parts.lengths
  obtain ⟨rfl, within⟩ := parts
  match vs with
  | [] | [_] => exact .refused (words _)
  | [key, value] => exact .pure ⟨rfl, fun ρ fixes => by
      have both := List.cons.inj (within ρ fixes)
      rw [renamePair, both.1, (List.cons.inj both.2).1]⟩
  | a :: b :: c :: rest =>
    show Mirrors R P (Action.misuse (t.badSize index _)) (Action.misuse (t.badSize index _))
    exact length ▸ .refused (words _)

theorem forItems [Calls] {f f' : Value → Value → Action Unit} (source : Alike P v v')
    (same : ∀ Q, P ≤ Q → ∀ k k' x x', Alike Q k k' → Alike Q x x' → Mirrors R Q (f k x) (f' k' x')) :
    Mirrors R P (v.forItems f) (v'.forItems f') := by
  refine .world fun w w' twin bond => ?_
  rw [twin.unhidden, twin.unhidden']
  exact Mirrors.bind (.entriesAs "items" source) (fun Q le y y' alike =>
    .forYield alike fun S more => same S (le.trans more)) w w' twin bond

variable [Lasts R]

theorem take (source : Alike P v v') (part : Alike P u u') :
    Mirrors R P (Action.take v u) (Action.take v' u') := by
  have root := source.root
  unfold Action.take
  generalize v.root = v, v'.root = v' at root
  have nothing : Mirrors R P (Pure.pure () : Action Unit) (Pure.pure ()) := .pure (alikeStill _)
  cases root.like with
  | stream pairs =>
    cases part.like with
    | bytes line =>
      refine .put (s := .stream) pairs fun w w' twin => ?_
      rw [twin.stream pairs]
      exact alikeStill (α := Stream) _
    | _ => exact nothing
  | _ => exact nothing

theorem takeAll (source : Alike P v v') {us us' : List Value} (parts : Alike P us us') :
    Mirrors R P (Action.takeAll v us) (Action.takeAll v' us') := by
  induction us generalizing us' P with
  | nil =>
    obtain ⟨_, rfl⟩ | ⟨_, _, _, _, wrong, _⟩ := parts.list
    · exact .pure (alikeStill _)
    · contradiction
  | cons u us ih =>
    obtain ⟨wrong, _⟩ | ⟨_, _, u', us', here, rfl, first, others⟩ := parts.list
    · contradiction
    cases here
    exact .bind (.take source first) fun Q le _ _ _ => ih (source.mono le) (others.mono le)

theorem visit {f f' : Nat → Value → Action Unit} {us us' : List Value} (source : Alike P v v')
    (parts : Alike P us us') (total index : Nat)
    (same : ∀ Q, P ≤ Q → ∀ i x x', Alike Q x x' → Mirrors R Q (f i x) (f' i x')) :
    Mirrors R P (Action.visit v f total index us) (Action.visit v' f' total index us') := by
  induction us generalizing us' P index with
  | nil =>
    obtain ⟨_, rfl⟩ | ⟨_, _, _, _, wrong, _⟩ := parts.list
    · refine .world fun w w' twin bond => ?_
      have last := twin.partNow source total index Like.null.alike
      exact Mirrors.bind (.except last) (fun _ _ _ _ _ => .pure (alikeStill _)) w w' twin bond
    · contradiction
  | cons u us ih =>
    obtain ⟨wrong, _⟩ | ⟨_, _, u', us', here, rfl, first, others⟩ := parts.list
    · contradiction
    cases here
    refine .world fun w w' twin bond => ?_
    have now := twin.partNow source total index first
    refine Mirrors.bind (.except now) (fun Q le x x' part => ?_) w w' twin bond
    refine .bind (.take (source.mono le) part) fun S more _ _ _ => ?_
    refine .bind (same S (le.trans more) index x x' (part.mono more)) fun T last _ _ _ => ?_
    have all := (le.trans more).trans last
    exact ih (source.mono all) (others.mono all) (index + 1) fun U le' => same U (all.trans le')

theorem visitAll {f f' : Nat → Value → Action Unit} (source : Alike P v v')
    (same : ∀ Q, P ≤ Q → ∀ i x x', Alike Q x x' → Mirrors R Q (f i x) (f' i x')) :
    Mirrors R P (Action.visitAll v f) (Action.visitAll v' f') := by
  refine .bind (.ahead source) fun Q le parts parts' alike => ?_
  rw [alike.lengths]
  exact .visit (source.mono le) alike _ 0 fun S more => same S (le.trans more)

theorem elements (alike : Alike P v v') : Mirrors R P (Action.elements v) (Action.elements v') := by
  refine .bind (.ahead alike) fun Q le parts parts' same => ?_
  exact .bind (.takeAll (alike.mono le) same) fun S more _ _ _ => .pure (same.mono more)

theorem pair (t : Taker) (index : Nat) (alike : Alike P v v') :
    Mirrors R P (t.pair index v) (t.pair index v') := by
  refine .world fun w w' twin bond => ?_
  obtain ⟨e, e'⟩ | ⟨vs, vs', e, e', parts⟩ := (twin.elements alike).option
  · rw [e, e']
    have words : Alike P (t.notPair index v) (t.notPair index v') := by
      cases t with
      | dictionary => exact alikeFixed fun _ => rfl
      | map =>
        unfold Taker.notPair
        rw [alike.root.kindOf]
        exact alikeFixed fun _ => rfl
    exact Mirrors.misuse words w w' twin bond
  · rw [e, e']
    have reach : Alike P (t.reach vs) (t.reach vs') := by
      cases t with
      | dictionary => exact parts
      | map => exact parts.take 3
    exact Mirrors.bind (.takeAll alike reach) (fun Q le _ _ _ => .sized t index (parts.mono le))
      w w' twin bond

theorem forParts (t : Taker) {f f' : Value → Value → Action Unit} (source : Alike P v v')
    (same : ∀ Q, P ≤ Q → ∀ k k' x x', Alike Q k k' → Alike Q x x' → Mirrors R Q (f k x) (f' k' x')) :
    Mirrors R P (Value.forParts t f v) (Value.forParts t f' v') := by
  refine .visitAll source fun Q le i x x' part => ?_
  refine .bind (.pair t i part) fun S more e e' entry => ?_
  exact same S (le.trans more) _ _ _ _ entry.fst entry.snd

theorem forEntries [Calls] (t : Taker) {f f' : Value → Value → Action Unit} (source : Alike P v v')
    (same : ∀ Q, P ≤ Q → ∀ k k' x x', Alike Q k k' → Alike Q x x' → Mirrors R Q (f k x) (f' k' x')) :
    Mirrors R P (v.forEntries t f) (v'.forEntries t f') := by
  intro w w' twin bond
  have unhidden {u : World} {v : Value} (bare : u.attachment? v "keys" = none) :
      v.keysHidden? t u = .ok none u := by
    unfold Value.keysHidden?
    split
    · rfl
    · exact congrArg (EStateM.Result.ok · u) bare
  have rest : Mirrors R P
      (if v.isMapping then Action.world >>= fun w => Value.forYield f (w.items v)
        else Value.forParts t f v)
      (if v'.isMapping then Action.world >>= fun w => Value.forYield f' (w.items v')
        else Value.forParts t f' v') :=
    .ite (by rw [source.isMapping])
      (fun _ => .world fun w w' twin bond => Mirrors.forYield (twin.items source) same w w' twin bond)
      fun _ => .forParts t source same
  unfold Value.forEntries
  show Agrees R P (EStateM.bind (v.keysHidden? t) _ w) (EStateM.bind (v'.keysHidden? t) _ w')
  unfold EStateM.bind
  rw [unhidden (twin.unhidden v _), unhidden (twin.unhidden' v' _)]
  cases source.like with
  | kind k =>
    exact Mirrors.ite Iff.rfl (fun _ => .refused fun ρ => Misuse.ofKindRenamed ρ k "keys")
      (fun _ => .refused fun _ => rfl) w w' twin bond
  | _ => exact rest w w' twin bond

theorem insertEntry {d d' : Value} (dictionary : Alike P d d') (key : Alike P k k')
    (value : Alike P v v') : Mirrors R P (d.insertEntry k v) (d'.insertEntry k' v') := by
  refine .bind (.requireHashable key) fun Q le _ _ _ => ?_
  cases (dictionary.mono le).like with
  | dictionary pairs =>
    exact .put (s := .dictionary) pairs fun w w' twin =>
      (twin.dictionary pairs).insert (key.mono le) (value.mono le)
  | _ => exact .pure (alikeStill _)

end FlowDouble.Mirrors

namespace FlowDouble

variable {P : Pairing} {w w' : World} {v v' : Value}

theorem Alike.gathered {es es' : Entries} (entries : Alike P es es') :
    Alike P (Entries.ofPairs es) (Entries.ofPairs es') :=
  entries.map fun ρ es => Entries.insertAllRenamed ρ [] es

theorem hidesNothing {u : World} (bare : u.attachments = []) (v : Value) :
    u.hidesEntries v = false := by
  simp [World.hidesEntries, entryNames, World.attachment?, bare]

theorem tellsAtRoot {u : World} (bare : u.attachments = []) :
    ∀ v : Value, u.tellsEntries v = v.root.isMapping
  | .attributes tag shared backing => by
    have rest := tellsAtRoot bare backing
    simp [World.tellsEntries, Value.root, hidesNothing bare, rest]
  | .parameters m => by simp [World.tellsEntries, Value.root, Value.isMapping, hidesNothing bare]
  | .null | .bool _ | .int _ | .float .. | .text _ | .bytes _ | .tuple .. | .upload ..
  | .principal .. | .list _ | .dictionary _ | .context _ | .writer _ | .stream _ | .error ..
  | .token _ | .lock _ | .kind _ | .converter _ | .function _ | .operation .. | .facet ..
  | .pending _ => rfl

theorem Twin.tellsEntries (twin : Twin P w w') (alike : Alike P v v') :
    w'.tellsEntries v' = w.tellsEntries v := by
  rw [tellsAtRoot twin.bare, tellsAtRoot twin.bare', alike.root.isMapping]

namespace Mirrors

variable [Calls] {R : Bond} [Grows R]

theorem copied (alike : Alike P v v') : Mirrors R P v.copied v'.copied := by
  refine .world fun w w' twin bond => ?_
  have items : Alike P (w.items v).items (w'.items v').items :=
    (twin.items alike).map (f := Yield.items) fun _ _ => rfl
  have filled : Mirrors R P
      (Action.newDictionary [] >>= fun copy =>
        v.forEntries .dictionary copy.insertEntry >>= fun _ => Pure.pure copy)
      (Action.newDictionary [] >>= fun copy =>
        v'.forEntries .dictionary copy.insertEntry >>= fun _ => Pure.pure copy) := by
    refine .bind (.newDictionary alikeNil) fun Q le copy copy' same => ?_
    refine .bind (.forEntries .dictionary (alike.mono le) fun S more k k' x x' key value => ?_)
      fun S more _ _ _ => .pure (same.mono more)
    exact .insertEntry (same.mono more) key value
  exact Mirrors.ite (by rw [twin.tellsEntries alike]) (fun _ => .newDictionary items)
    (fun _ => filled) w w' twin bond

theorem told (alike : Alike P v v') : Mirrors R P v.told v'.told := by
  have plain : Mirrors R P v.copied v'.copied := .copied alike
  cases alike.like with
  | attributes pairs shared backing => exact .answer (.copied backing)
  | _ => exact plain

end Mirrors

end FlowDouble
