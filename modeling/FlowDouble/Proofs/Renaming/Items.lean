import FlowDouble.Item
import FlowDouble.Proofs.Renaming.Reports
/-! Entries of parameter maps and items of all values in twin worlds: what is written, deleted and
looked for. -/
namespace FlowDouble

section
variable {P : Pairing} {vs vs' : List Value} {v v' : Value} {m m' : ParameterMap}

theorem Alike.allOneKind (parts : Alike P vs vs') :
    FlowDouble.allOneKind vs' = FlowDouble.allOneKind vs := by
  rw [parts.renamed]
  simp only [FlowDouble.allOneKind, renameList, List.all_map, Function.comp_def, renameValue,
    Value.isTextRenamed, Value.isUploadRenamed]

theorem Alike.isParameter (alike : Alike P v v') : v'.isParameter = v.isParameter := by
  cases alike.like with
  | tuple pairs items => exact items.allOneKind
  | _ => rfl

theorem alikeMap (writable : Bool) {r r' : Nat} (pairs : P.Pairs .parameters r r') :
    Alike P (ParameterMap.mk writable r) ⟨writable, r'⟩ :=
  alikeRef (s := .parameters) (f := ParameterMap.mk writable) (fun _ _ => rfl) pairs

theorem Alike.parameters (alike : Alike P m m') :
    m'.writable = m.writable ∧ P.Pairs .parameters m.ref m'.ref := by
  have value : Alike P (Value.parameters m) (Value.parameters m') := alike.map fun _ _ => rfl
  cases value.like with
  | parameters writable pairs => exact ⟨rfl, pairs⟩

theorem Twin.held {w w' : World} (twin : Twin P w w') (alike : Alike P m m') :
    Alike P (w.parameters m) (w'.parameters m') := by
  obtain ⟨writable, r⟩ := m
  obtain ⟨writable', r'⟩ := m'
  obtain ⟨rfl, pairs⟩ := alike.parameters
  exact twin.parameters pairs

end

namespace Mirrors

variable {R : Bond} {P : Pairing} {v v' u u' k k' : Value} {m m' : ParameterMap}

theorem refuseDeletion (kind : Kind) (key : Alike P k k') :
    Mirrors R P (Action.refuseDeletion kind k) (Action.refuseDeletion kind k') := by
  have refused (b : Bool) : Mirrors R P (Action.misuse (.noItemDeletion kind b) : Action Unit)
      (Action.misuse (.noItemDeletion kind b)) := .refused fun _ => rfl
  cases key.like with
  | int n =>
    refine .ite Iff.rfl (fun _ => refused kind.rowLike) fun _ => ?_
    exact .refused fun _ => rfl
  | bool b => exact refused kind.rowLike
  | _ => exact refused false

theorem getItem (alike : Alike P v v') (key : Alike P k k') :
    Mirrors R P (v.getItem k) (v'.getItem k') :=
  .asked fun _ _ twin => twin.item alike key

theorem find (alike : Alike P v v') (key : Alike P k k') :
    Mirrors R P (v.find k) (v'.find k') := by
  refine .world fun w w' twin bond => ?_
  obtain ⟨x, x', e, e', same⟩ | ⟨f, f', e, e', same⟩ := (twin.item alike key).except
  · rw [e, e']
    exact Mirrors.pure (alikeSome same) w w' twin bond
  · rw [e, e']
    have passed := Mirrors.throw (R := R) (α := Option Value) same w w' twin bond
    cases same.likeFault with
    | missingKey => exact Mirrors.pure alikeNone w w' twin bond
    | report | misuse => exact passed

theorem bytesContain (bs : List UInt8) (key : Alike P k k') :
    Mirrors R P (Value.bytesContain bs k) (Value.bytesContain bs k') := by
  have kind := key.kindOf
  have byte (n : Int) : Mirrors R P
      (if 0 ≤ n ∧ n < 256 then Pure.pure (bs.contains (UInt8.ofNat n.toNat))
        else Action.misuse .notByte : Action Bool)
      (if 0 ≤ n ∧ n < 256 then Pure.pure (bs.contains (UInt8.ofNat n.toNat))
        else Action.misuse .notByte) :=
    .ite Iff.rfl (fun _ => .pure (alikeStill _)) fun _ => .refused fun _ => rfl
  have other : Mirrors R P (Action.misuse (.notBytes k.kindOf) : Action Bool)
      (Action.misuse (.notBytes k'.kindOf)) := by
    rw [kind]
    exact .refused fun _ => rfl
  cases key.like with
  | bytes part => exact .pure (alikeStill _)
  | int n => exact byte n
  | bool b => exact byte _
  | _ => exact other

theorem hasKey (alike : Alike P v v') (key : Alike P k k') :
    Mirrors R P (v.hasKey k) (v'.hasKey k') := by
  have found : Mirrors R P (v.find k >>= fun x => Pure.pure x.isSome)
      (v'.find k' >>= fun x => Pure.pure x.isSome) := by
    refine .bind (.find alike key) fun Q le x x' same => ?_
    rw [same.isSome]
    exact .pure (alikeStill _)
  cases alike.like with
  | dictionary pairs =>
    refine .bind (.requireHashable key) fun Q le _ _ _ => .seen fun w w' twin => ?_
    rw [(twin.dictionary (pairs.mono le)).has (key.mono le)]
    exact alikeStill _
  | _ => exact found

theorem keep [Lasts R] {g g' : Entries → Entries} (alike : Alike P m m')
    (same : ∀ es es', Alike P es es' → Alike P (g es) (g' es')) :
    Mirrors R P (modify fun w => w.setParameters m (g (w.parameters m)))
      (modify fun w => w.setParameters m' (g' (w.parameters m'))) := by
  obtain ⟨writable, r⟩ := m
  obtain ⟨writable', r'⟩ := m'
  obtain ⟨rfl, pairs⟩ := alike.parameters
  exact .put (s := .parameters) pairs fun _ _ twin => same _ _ (twin.parameters pairs)

theorem eraseEntry [Lasts R] (alike : Alike P m m') (key : Alike P k k') :
    Mirrors R P (m.erase k) (m'.erase k') := by
  refine .ite (by rw [alike.parameters.1]) (fun _ => ?_) fun _ => ?_
  · exact .asking (fun _ _ twin => (twin.held alike).require key) fun Q le _ _ _ =>
      .keep (alike.mono le) fun _ _ same => same.erase (key.mono le)
  · have kind : (Value.parameters m').kindOf = (Value.parameters m).kindOf :=
      (alike.map (f := Value.parameters) fun _ _ => rfl).kindOf
    rw [kind]
    exact .refuseDeletion _ key

theorem deleteItem [Lasts R] (alike : Alike P v v') (key : Alike P k k') :
    Mirrors R P (v.deleteItem k) (v'.deleteItem k') := by
  have root := alike.root
  have kind := root.kindOf
  unfold Value.deleteItem
  generalize v.root = v, v'.root = v' at root kind
  have other : Mirrors R P (Action.refuseDeletion v.kindOf k) (Action.refuseDeletion v'.kindOf k') := by
    rw [kind]
    exact .refuseDeletion _ key
  cases root.like with
  | dictionary pairs =>
    exact .asking (fun _ _ twin => (twin.dictionary pairs).require key) fun Q le _ _ _ =>
      .put (s := .dictionary) (pairs.mono le) fun _ _ twin =>
        (twin.dictionary (pairs.mono le)).erase (key.mono le)
  | parameters writable pairs => exact .eraseEntry (alikeMap writable pairs) key
  | @list r r' pairs =>
    have out : Alike P (Misuse.outsideAssigned .list) (.outsideAssigned .list) :=
      alikeFixed fun _ => rfl
    refine .world fun w w' twin bond => ?_
    have parts := twin.list pairs
    have place : Alike P (position .list (.outsideAssigned .list) (w.list r).length k)
        (position .list (.outsideAssigned .list) (w'.list r').length k') := by
      rw [parts.lengths]
      exact out.positionIn .list _ key
    refine Mirrors.bind (.except place) (fun Q le i i' same => ?_) w w' twin bond
    rw [same.still]
    exact .put (s := .list) (pairs.mono le) fun _ _ _ => (parts.mono le).eraseIdx i
  | _ => exact other

variable [Calls]

theorem reject {α : Type} [Renames α] (name : Alike P k k') (value : Alike P v v') :
    Mirrors R P (ParameterMap.reject k v : Action α) (ParameterMap.reject k' v') := by
  refine .bind (.shown name) fun Q le s s' same => ?_
  rw [same.still]
  exact .refuseType _ (name.mono le) Like.null.alike (value.mono le)

theorem isEqual (left : Alike P v v') (right : Alike P u u') :
    Mirrors R P (v.isEqual u) (v'.isEqual u') :=
  .asked fun _ _ twin => (twin.snapshot left).equal (twin.snapshot right)

theorem isAlike (left : Alike P v v') (right : Alike P u u') :
    Mirrors R P (v.isAlike u) (v'.isAlike u') :=
  .asked fun _ _ twin => (twin.snapshot left).matched (twin.snapshot right)

section
variable [Lasts R]

theorem isAmong (source : Alike P v v') (key : Alike P k k') {us us' : List Value}
    (parts : Alike P us us') : Mirrors R P (v.isAmong k us) (v'.isAmong k' us') := by
  induction us generalizing us' P with
  | nil =>
    obtain ⟨_, rfl⟩ | ⟨_, _, _, _, wrong, _⟩ := parts.list
    · exact .pure (alikeStill _)
    · contradiction
  | cons u us ih =>
    obtain ⟨wrong, _⟩ | ⟨_, _, u', us', here, rfl, first, others⟩ := parts.list
    · contradiction
    cases here
    refine .bind (.take source first) fun Q le _ _ _ => ?_
    refine .ite (by rw [first.same key]) (fun _ => .pure (alikeStill _)) fun _ => ?_
    refine .bind (.isAlike (first.mono le) (key.mono le)) fun S more b b' same => ?_
    have all := le.trans more
    exact .ite (by rw [same.still]) (fun _ => .pure (alikeStill _))
      fun _ => ih (source.mono all) (key.mono all) (others.mono all)

theorem contains (alike : Alike P v v') (key : Alike P k k') :
    Mirrors R P (v.contains k) (v'.contains k') := by
  have held : Mirrors R P (v.hasKey k) (v'.hasKey k') := .hasKey alike key
  have refused : Mirrors R P (Action.misuse (.notContainer v.kindOf) : Action Bool)
      (Action.misuse (.notContainer v'.kindOf)) := by
    rw [alike.kindOf]
    exact .refused fun _ => rfl
  have parts := Mirrors.found (fun _ _ twin => twin.elements alike) refused fun _ _ same =>
    .isAmong alike key same
  cases alike.like with
  | dictionary _ | attributes _ _ _ | parameters _ _ => exact held
  | facet pairs f map =>
    cases f with
    | keys => exact .hasKey map key
    | items =>
      refine .bind (.pair .map 0 key) fun Q le e e' entry => ?_
      refine .bind (.find (map.mono le) entry.fst) fun S more x x' found => ?_
      have value := (entry.mono more).snd
      obtain ⟨rfl, rfl⟩ | ⟨y, y', rfl, rfl, same⟩ := found.option
      · exact .pure (alikeStill _)
      · exact .ite (by rw [same.same value]) (fun _ => .pure (alikeStill _))
          fun _ => .isAlike same value
    | values => exact parts
  | text s =>
    have kind := key.kindOf
    have other : Mirrors R P (Action.misuse (.notTextPart k.kindOf) : Action Bool)
        (Action.misuse (.notTextPart k'.kindOf)) := by
      rw [kind]
      exact .refused fun _ => rfl
    cases key.like with
    | text part => exact .pure (alikeStill _)
    | _ => exact other
  | bytes bs => exact .bytesContain bs key
  | _ => exact parts

end

section
variable [Grows R]

theorem accept (name : Alike P k k') (value : Alike P v v') :
    Mirrors R P (ParameterMap.accept k v) (ParameterMap.accept k' v') := by
  have plain : Mirrors R P
      (if v.isParameter then Pure.pure v else ParameterMap.reject k v)
      (if v'.isParameter then Pure.pure v' else ParameterMap.reject k' v') :=
    .ite (by rw [value.isParameter]) (fun _ => .pure value) fun _ => .reject name value
  cases value.like with
  | list pairs =>
    refine .world fun w w' twin bond => ?_
    have parts := twin.list pairs
    exact Mirrors.ite (by rw [parts.allOneKind]) (fun _ => .newTuple parts)
      (fun _ => .reject name value) w w' twin bond
  | _ => exact plain

theorem putParameter (alike : Alike P m m') (name : Alike P k k') (value : Alike P v v') :
    Mirrors R P (m.put k v) (m'.put k' v') := by
  refine .bind (.accept name value) fun Q le x x' same => ?_
  refine .bind (.requireHashable (name.mono le)) fun S more _ _ _ => ?_
  have all := le.trans more
  exact .keep (alike.mono all) fun _ _ held => held.insert (name.mono all) (same.mono more)

theorem askToPut (alike : Alike P m m') (name : Alike P k k') (value : Alike P v v') :
    Mirrors R P (m.askToPut k v) (m'.askToPut k' v') :=
  .bind (.answer (.yieldNothing (.putParameter alike name value)))
    fun _ _ _ _ _ => .pure (alikeStill _)

theorem assignParameter (alike : Alike P m m') (name : Alike P k k') (value : Alike P v v') :
    Mirrors R P (m.assign k v) (m'.assign k' v') := by
  have kind : (Value.parameters m').kindOf = (Value.parameters m).kindOf :=
    (alike.map (f := Value.parameters) fun _ _ => rfl).kindOf
  refine .ite (by rw [alike.parameters.1]) (fun _ => .askToPut alike name value) fun _ => ?_
  rw [kind]
  exact .refused fun _ => rfl

theorem createParameters (writable : Bool) (source : Alike P v v') :
    Mirrors R P (ParameterMap.create writable v) (ParameterMap.create writable v') := by
  refine .bind (.newParameters writable alikeNil) fun Q le m m' same => ?_
  refine .bind (.truthy (source.mono le)) fun S more b b' given => ?_
  refine .ite (by rw [given.still]) (fun _ => ?_) fun _ => .pure (same.mono more)
  refine .bind (.forItems (source.mono (le.trans more)) fun T last k k' x x' key value => ?_)
    fun T last _ _ _ => .pure (same.mono (more.trans last))
  exact .putParameter (same.mono (more.trans last)) key value

theorem setItem (alike : Alike P v v') (key : Alike P k k') (value : Alike P u u') :
    Mirrors R P (v.setItem k u) (v'.setItem k' u') := by
  have root := alike.root
  have kind := root.kindOf
  unfold Value.setItem
  generalize v.root = v, v'.root = v' at root kind
  have other : Mirrors R P (Action.misuse (.noItemAssignment v.kindOf) : Action Unit)
      (Action.misuse (.noItemAssignment v'.kindOf)) := by
    rw [kind]
    exact .refused fun _ => rfl
  cases root.like with
  | dictionary pairs => exact .insertEntry root key value
  | parameters writable pairs =>
    exact .assignParameter (alikeMap writable pairs) key value
  | @list r r' pairs =>
    have out : Alike P (Misuse.outsideAssigned .list) (.outsideAssigned .list) :=
      alikeFixed fun _ => rfl
    refine .world fun w w' twin bond => ?_
    have parts := twin.list pairs
    have place : Alike P (position .list (.outsideAssigned .list) (w.list r).length k)
        (position .list (.outsideAssigned .list) (w'.list r').length k') := by
      rw [parts.lengths]
      exact out.positionIn .list _ key
    refine Mirrors.bind (.except place) (fun Q le i i' same => ?_) w w' twin bond
    rw [same.still]
    exact .put (s := .list) (pairs.mono le) fun _ _ _ => (parts.mono le).set i (value.mono le)
  | _ => exact other

end

end Mirrors

end FlowDouble
