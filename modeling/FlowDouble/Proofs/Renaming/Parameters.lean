import FlowDouble.Parameters.Reading
import FlowDouble.Proofs.Renaming.Items
/-! Reading parameters in twin worlds. -/
namespace FlowDouble

variable {P : Pairing} {v v' k k' d d' : Value} {m m' : ParameterMap}

theorem Alike.first {o o' : Option Value} (stored : Alike P o o') (default : Alike P d d') :
    Alike P (ParameterMap.first o d) (ParameterMap.first o' d') := by
  obtain ⟨rfl, rfl⟩ | ⟨v, v', rfl, rfl, same⟩ := stored.option
  · exact default
  cases same.like with
  | tuple pairs items =>
    obtain ⟨rfl, rfl⟩ | ⟨x, rest, x', rest', rfl, rfl, head, _⟩ := items.list
    · exact default
    · exact head
  | _ => exact same

theorem Alike.suggest {told told' : Report} (alike : Alike P told told') (hint : Alike P v v') :
    Alike P (told.suggest v) (told'.suggest v') :=
  alike.map₂ (f := Report.suggest) (fun ρ told hint =>
    congrArg (fun hints => { rename ρ told with suggestions := hints })
      (renameAppend told.suggestions [hint]).symm) hint

namespace Mirrors

variable {R : Bond}

theorem findParameter (alike : Alike P m m') (name : Alike P k k') :
    Mirrors R P (m.find k) (m'.find k') :=
  .bind (.requireHashable name) fun _ le _ _ _ =>
    .seen fun _ _ twin => (twin.held (alike.mono le)).find (name.mono le)

theorem getParameter (alike : Alike P m m') (name : Alike P k k') (default : Alike P d d') :
    Mirrors R P (m.get k d) (m'.get k' d') :=
  .bind (.findParameter alike name) fun _ le _ _ same => .pure (same.first (default.mono le))

theorem getArray [Grows R] (alike : Alike P m m') (name : Alike P k k') :
    Mirrors R P (m.getArray k) (m'.getArray k') := by
  refine .bind (.findParameter alike name) fun Q le o o' same => ?_
  obtain ⟨rfl, rfl⟩ | ⟨v, v', rfl, rfl, held⟩ := same.option
  · exact .newList alikeNil
  have alone : Mirrors R Q (Action.newList [v]) (Action.newList [v']) :=
    .newList (alikeCons held alikeNil)
  cases held.like with
  | tuple pairs items => exact .newList items
  | _ => exact alone

theorem listed [Grows R] {es es' : Entries} (entries : Alike P es es') :
    Mirrors R P (ParameterMap.listed es) (ParameterMap.listed es') := by
  induction es generalizing es' P with
  | nil =>
    obtain ⟨_, rfl⟩ | ⟨_, _, _, _, wrong, _⟩ := entries.list
    · exact .pure alikeNil
    · contradiction
  | cons e es ih =>
    obtain ⟨wrong, _⟩ | ⟨_, _, e', es', here, rfl, first, others⟩ := entries.list
    · contradiction
    cases here
    obtain ⟨k, v⟩ := e
    obtain ⟨k', v'⟩ := e'
    have kept : Mirrors R P (ParameterMap.listed es >>= fun rest => Pure.pure ((k, v) :: rest))
        (ParameterMap.listed es' >>= fun rest => Pure.pure ((k', v') :: rest)) :=
      .bind (ih others) fun Q le _ _ rest => .pure (alikeCons (first.mono le) rest)
    cases first.snd.like with
    | tuple pairs items =>
      refine .bind (.newList items) fun Q le vs vs' same => ?_
      refine .bind (ih (others.mono le)) fun S more _ _ rest => .pure ?_
      exact alikeCons (alikePair (first.fst.mono (le.trans more)) (same.mono more)) rest
    | _ => exact kept

theorem toDictionary [Grows R] (alike : Alike P m m') :
    Mirrors R P m.toDictionary m'.toDictionary :=
  .world fun _ _ twin bond => Mirrors.bind (.listed (twin.held alike))
    (fun _ _ _ _ same => .newDictionary same) _ _ twin bond

variable [Calls]

theorem askFor (alike : Alike P m m') (name : Alike P k k') :
    Mirrors R P (m.askFor k) (m'.askFor k') :=
  .answer (.getParameter alike name Like.null.alike)

theorem getRequiredParameter (alike : Alike P m m') (name : Alike P k k') :
    Mirrors R P (m.getRequired k) (m'.getRequired k') := by
  refine .bind (.askFor alike name) fun Q le v v' value => ?_
  refine .ite (by rw [value.isNull]) (fun _ => ?_) fun _ => .pure value
  refine .bind (.shown (name.mono le)) fun S more s s' same => ?_
  rw [same.still]
  have key := name.mono (le.trans more)
  refine .asking (fun _ _ twin => twin.attributeNotFound (alikeFixed fun _ => rfl) key alikeNil)
    fun T last told told' report => ?_
  refine .bind (.spelled (key.mono last)) fun U on s s' same => ?_
  rw [same.still]
  exact .refuse ((report.mono on).suggest (alikeFixed fun _ => rfl))

theorem getUpload (alike : Alike P m m') (name : Alike P k k') :
    Mirrors R P (m.getUpload k) (m'.getUpload k') := by
  refine .bind (.askFor alike name) fun Q le v v' value => ?_
  refine .ite (by rw [value.isNull, value.isUpload]) (fun _ => .pure value) fun _ => ?_
  refine .bind (.shown (name.mono le)) fun S more s s' same => ?_
  rw [same.still]
  exact .refuseType _ (name.mono (le.trans more)) (Like.kind _).alike (value.mono more)

theorem getRequiredUpload (alike : Alike P m m') (name : Alike P k k') :
    Mirrors R P (m.getRequiredUpload k) (m'.getRequiredUpload k') := by
  refine .bind (.answer (.getUpload alike name)) fun Q le v v' value => ?_
  refine .ite (by rw [value.isNull]) (fun _ => ?_) fun _ => .pure value
  refine .bind (.shown (name.mono le)) fun S more s s' same => ?_
  rw [same.still]
  exact .refuseMissing _ (name.mono (le.trans more)) alikeNil

theorem getBoolean (alike : Alike P m m') (name : Alike P k k') (default : Alike P d d') :
    Mirrors R P (m.getBoolean k d) (m'.getBoolean k' d') := by
  refine .bind (.askFor alike name) fun Q le v v' value => ?_
  refine .ite (by rw [value.isNull]) (fun _ => .pure (default.mono le)) fun _ => ?_
  have refused : Mirrors R Q
      (Action.shown k >>= fun s =>
        Action.refuseType ("Request parameter '" ++ s ++ "' is not a boolean value") k
          (.kind .bool) v : Action Value)
      (Action.shown k' >>= fun s =>
        Action.refuseType ("Request parameter '" ++ s ++ "' is not a boolean value") k'
          (.kind .bool) v') := by
    refine .bind (.shown (name.mono le)) fun S more s s' same => ?_
    rw [same.still]
    exact .refuseType _ (name.mono (le.trans more)) (Like.kind _).alike (value.mono more)
  cases value.like with
  | text s =>
    dsimp only
    split
    · exact .pure (Like.bool _).alike
    · exact refused
  | _ => exact refused

end Mirrors

end FlowDouble
