import FlowDouble.Attributes.Operation
import FlowDouble.Proofs.Renaming.Parameters
/-! What attribute maps are asked in twin worlds. -/
namespace FlowDouble

variable {P : Pairing} {b b' v v' u u' k k' d d' : Value} {es es' : Entries}

namespace Attributes

variable (ρ : Renaming)

mutual

theorem isInstanceRenamed (v : Value) : ∀ expected : Value,
    isInstance (v.rename ρ) (expected.rename ρ) = rename ρ (isInstance v expected)
  | .kind k => congrArg Except.ok (v.isARenamed ρ k)
  | .tuple _ ks => isInstanceOfAnyRenamed v ks
  | .null | .bool _ | .int _ | .float .. | .text _ | .bytes _ | .upload .. | .principal ..
  | .attributes .. | .parameters _ | .list _ | .dictionary _ | .context _ | .writer _ | .stream _
  | .error .. | .token _ | .lock _ | .converter _ | .function _ | .operation .. | .facet ..
  | .pending _ => rfl

theorem isInstanceOfAnyRenamed (v : Value) : ∀ ks : List Value,
    isInstanceOfAny (v.rename ρ) (Value.renameAll ρ ks) = rename ρ (isInstanceOfAny v ks)
  | [] => rfl
  | k :: ks => by
    simp only [Value.renameAll, isInstanceOfAny, isInstanceRenamed v k, isInstanceOfAnyRenamed v ks]
    exact Snapshot.bindRenamed ρ _ fun c => Snapshot.pickRenamed ρ c rfl rfl

end

end Attributes

namespace Mirrors

variable {R : Bond}

theorem popFrom [Lasts R] (alike : Alike P v v') (key : Alike P k k') {o o' : Option Value}
    (default : Alike P o o') : Mirrors R P (Attributes.pop v k o) (Attributes.pop v' k' o') := by
  refine .world fun w w' twin bond => ?_
  obtain ⟨x, x', e, e', same⟩ | ⟨f, f', e, e', same⟩ := (twin.item alike key).except
  · rw [e, e']
    exact Mirrors.bind (.deleteItem alike key) (fun Q le _ _ _ => .pure (same.mono le)) w w' twin bond
  · rw [e, e']
    have fails : Mirrors R P (MonadExcept.throw f : Action Value) (MonadExcept.throw f') :=
      .throw same
    have like := same.likeFault
    obtain ⟨rfl, rfl⟩ | ⟨d, d', rfl, rfl, given⟩ := default.option
    · cases like <;> exact fails w w' twin bond
    · cases like with
      | missingKey => exact Mirrors.pure given w w' twin bond
      | report | misuse => exact fails w w' twin bond

theorem popFirst [Grows R] (alike : Alike P v v') :
    Mirrors R P (Attributes.popFirst v) (Attributes.popFirst v') := by
  refine .bind (.ahead alike) fun Q le vs vs' parts => ?_
  obtain ⟨rfl, rfl⟩ | ⟨k, rest, k', rest', rfl, rfl, key, _⟩ := parts.list
  · exact .throw (alikeFixed fun _ => rfl)
  refine .bind (.take (alike.mono le) key) fun S more _ _ _ => ?_
  refine .bind (.getItem (alike.mono (le.trans more)) (key.mono more)) fun T on x x' same => ?_
  have all := (le.trans more).trans on
  have there := key.mono (more.trans on)
  refine .bind (.deleteItem (alike.mono all) there) fun U last _ _ _ => ?_
  exact .newTuple (alikeCons (there.mono last) (alikeCons (same.mono last) alikeNil))

theorem getOr (alike : Alike P v v') (key : Alike P k k') (default : Alike P d d') :
    Mirrors R P (Attributes.get v k d) (Attributes.get v' k' d') :=
  .bind (.find alike key) fun _ le _ _ same => .pure (same.getD (default.mono le))

variable [Calls]

theorem popsFirst [Grows R] (alike : Alike P v v') :
    Mirrors R P (Attributes.popsFirst v) (Attributes.popsFirst v') := by
  refine .tryCatch (.bind (.answer (.popFirst alike)) fun _ _ _ _ _ => .pure (alikeStill _))
    fun Q le f f' same => ?_
  have kind : f'.kind = f.kind := by
    rw [same.renamed]
    exact f.kindRenamed _
  exact .ite (by rw [kind]) (fun _ => .pure (alikeStill _)) fun _ => .throw same

theorem clearSome [Grows R] (alike : Alike P v v') (n : Nat) :
    Mirrors R P (Attributes.clearSome v n) (Attributes.clearSome v' n) := by
  induction n generalizing P with
  | zero => exact .pure (alikeStill _)
  | succ n ih =>
    refine .bind (.popsFirst alike) fun Q le more more' same => ?_
    exact .ite (by rw [same.still]) (fun _ => ih (alike.mono le)) fun _ => .pure (alikeStill _)

theorem clear [Grows R] (alike : Alike P v v') :
    Mirrors R P (Attributes.clear v) (Attributes.clear v') := by
  refine .world fun w w' twin bond => ?_
  have parts := (twin.elements alike).getD alikeNil
  rw [parts.lengths]
  exact Mirrors.clearSome alike _ w w' twin bond

theorem previous (backing : Alike P b b') (key : Alike P k k') :
    Mirrors R P (Attributes.previous b k) (Attributes.previous b' k') := by
  have found : Mirrors R P (b.find k >>= fun x => Pure.pure (x.getD .null))
      (b'.find k' >>= fun x => Pure.pure (x.getD .null)) :=
    .bind (.find backing key) fun _ _ _ _ same => .pure (same.getD Like.null.alike)
  have other : Mirrors R P (b.answer "get" ⟨[k], []⟩ (Action.missing b "get"))
      (b'.answer "get" ⟨[k'], []⟩ (Action.missing b' "get")) :=
    .answer (.missing backing "get")
  cases backing.like with
  | dictionary _ => exact found
  | attributes _ _ _ => exact .answer found
  | parameters writable pairs => exact .askFor (alikeMap writable pairs) key
  | _ => exact other

theorem available [Grows R] (backing : Alike P b b') :
    Mirrors R P (Attributes.available b) (Attributes.available b') := by
  refine .bind (.elements backing) fun Q le keys keys' same => ?_
  refine .asking (fun w w' twin => ?_) fun S more sorted sorted' alike => ?_
  · exact Sorting.sortAlike
      (fun left right => (twin.snapshot left).less (twin.snapshot right)) same
  · exact .ite (by rw [alike.isEmpty]) (fun _ => .pure Like.null.alike) fun _ => .newList alike

theorem getRequired [Grows R] (backing : Alike P b b') (key : Alike P k k')
    (expected : Alike P d d') :
    Mirrors R P (Attributes.getRequired b k d) (Attributes.getRequired b' k' d') := by
  refine .bind (.contains backing key) fun Q le there there' same => ?_
  refine .ite (by rw [same.still]) (fun _ => ?_) fun _ => ?_
  · refine .bind (.getItem (backing.mono le) (key.mono le)) fun S more v v' value => ?_
    refine .ite (by rw [expected.isNull]) (fun _ => .pure value) fun _ => ?_
    have all := le.trans more
    have fits : Alike S (Attributes.isInstance v d) (Attributes.isInstance v' d') :=
      value.map₂ (fun ρ v d => Attributes.isInstanceRenamed ρ v d) (expected.mono all)
    refine .bind (.except fits) fun T on c c' same => ?_
    refine .ite (by rw [same.still]) (fun _ => .pure (value.mono on)) fun _ => ?_
    have further := all.trans on
    refine .bind (.shown (key.mono further)) fun U last s s' same => ?_
    rw [same.still]
    refine .asking (fun _ _ twin => twin.kindName (expected.mono (further.trans last)))
      fun V next name name' named => ?_
    refine .bind (.shown named) fun W end_ s s' same => ?_
    rw [same.still]
    have whole := ((further.trans last).trans next).trans end_
    exact .refuseType _ (key.mono whole) (expected.mono whole)
      (value.mono (((on.trans last).trans next).trans end_))
  · refine .bind (.shown (key.mono le)) fun S more s s' same => ?_
    rw [same.still]
    refine .bind (.available (backing.mono (le.trans more))) fun T on keys keys' known => ?_
    exact .refuseMissing _ (key.mono ((le.trans more).trans on))
      (alikeCons (alikePair (alikeFixed fun _ => rfl) known) alikeNil)

section
variable [Grows R]

theorem setItems (target : Alike P v v') (pairs : Alike P es es') :
    Mirrors R P (v.setItems es) (v'.setItems es') :=
  .forPairs pairs fun _ le _ _ _ _ key value => .setItem (target.mono le) key value

theorem updateFrom (t : Taker) (target : Alike P v v') (source : Alike P u u') :
    Mirrors R P (v.update t u) (v'.update t u') :=
  .forEntries t source fun _ le _ _ _ _ key value => .setItem (target.mono le) key value

theorem put' (backing : Alike P b b') (key : Alike P k k') (value : Alike P v v') :
    Mirrors R P (Attributes.put b k v) (Attributes.put b' k' v') := by
  refine .bind (.previous backing key) fun Q le x x' same => ?_
  exact .bind (.setItem (backing.mono le) (key.mono le) (value.mono le)) fun S more _ _ _ =>
    .pure (same.mono more)

theorem putAll (backing : Alike P b b') (source : Alike P u u') :
    Mirrors R P (Attributes.putAll b u) (Attributes.putAll b' u') := by
  have asks {own own' : Action Unit} (same : Mirrors R P own own') :
      Mirrors R P (b.answer "update" ⟨[u], []⟩ (Action.yieldNothing own) >>= fun _ => Pure.pure ())
        (b'.answer "update" ⟨[u'], []⟩ (Action.yieldNothing own') >>= fun _ => Pure.pure ()) :=
    .bind (.answer (.yieldNothing same)) fun _ _ _ _ _ => .pure (alikeStill _)
  have other := asks (.missing backing "update")
  have chain := asks (.updateFrom .map backing source)
  cases backing.like with
  | dictionary _ => exact .updateFrom .dictionary backing source
  | attributes _ _ _ => exact chain
  | _ => exact other

theorem remove (backing : Alike P b b') (key : Alike P k k') :
    Mirrors R P (Attributes.remove b k) (Attributes.remove b' k') := by
  have gone : Alike P (some Value.null) (some Value.null) := alikeSome Like.null.alike
  have pops : Mirrors R P (Attributes.pop b k (some .null)) (Attributes.pop b' k' (some .null)) :=
    .popFrom backing key gone
  have other : Mirrors R P (b.answer "pop" ⟨[k, .null], []⟩ (Action.missing b "pop"))
      (b'.answer "pop" ⟨[k', .null], []⟩ (Action.missing b' "pop")) :=
    .answer (.missing backing "pop")
  cases backing.like with
  | dictionary pairs =>
    refine .world fun w w' twin bond => ?_
    exact Mirrors.ite (by rw [(twin.dictionary pairs).isEmpty])
      (fun _ => .pure Like.null.alike) (fun _ => pops) w w' twin bond
  | list _ => exact .refused fun _ => rfl
  | attributes _ _ _ => exact .answer pops
  | _ => exact other

theorem union (map : Alike P v v') (source : Alike P u u') :
    Mirrors R P (Attributes.union v u) (Attributes.union v' u') := by
  refine .bind (.told map) fun Q le merged merged' same => ?_
  exact .bind (.putAll same (source.mono le)) fun S more _ _ _ =>
    .newAttributes false (same.mono more)

theorem updateAll (map : Alike P v v') {o o' : Option Value} (source : Alike P o o')
    (named : Alike P es es') :
    Mirrors R P (Attributes.update v o es) (Attributes.update v' o' es') := by
  obtain ⟨rfl, rfl⟩ | ⟨u, u', rfl, rfl, same⟩ := source.option
  · exact .setItems map named
  · exact .bind (.updateFrom .map map same) fun Q le _ _ _ =>
      .setItems (map.mono le) (named.mono le)

theorem getOrPut (map : Alike P v v') (key : Alike P k k') (default : Alike P d d') :
    Mirrors R P (Attributes.getOrPut v k d) (Attributes.getOrPut v' k' d') := by
  refine .bind (.find map key) fun Q le o o' same => ?_
  obtain ⟨rfl, rfl⟩ | ⟨x, x', rfl, rfl, found⟩ := same.option
  · exact .bind (.setItem (map.mono le) (key.mono le) (default.mono le)) fun S more _ _ _ =>
      .pure (default.mono (le.trans more))
  · exact .pure found

end

end Mirrors

end FlowDouble
