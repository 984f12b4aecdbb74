import FlowDouble.Member
import FlowDouble.Proofs.Renaming.Binding
import FlowDouble.Proofs.Renaming.Contexts
import FlowDouble.Proofs.Renaming.Parameters
/-! Operations of values by name in twin worlds. -/
namespace FlowDouble

class Heeds (R : Bond) [Calls] : Prop where
  apply : ∀ {P : Pairing} {v v' : Value} {a a' : Arguments}, Alike P v v' → Alike P a a' →
    a.named = [] → Mirrors R P (Calls.apply v a) (Calls.apply v' a')

def Value.isConstant : Value → Bool
  | .null | .bool _ | .int _ | .text _ | .bytes _ | .kind _ | .converter _ => true
  | _ => false

def Parameter.isPlain : Parameter → Bool
  | .optional _ (some d) | .keyword _ (some d) => d.isConstant
  | _ => true

theorem Value.constantRenamed {v : Value} (constant : v.isConstant = true) (ρ : Renaming) :
    v.rename ρ = v := by
  cases v <;> first | rfl | contradiction

theorem plainParameters {ps : List Parameter} (plain : ps.all Parameter.isPlain = true) :
    ∀ p ∈ ps, p.Plain := by
  intro p there
  have here := List.all_eq_true.mp plain p there
  cases p with
  | optional name default | keyword name default =>
    cases default with
    | none => exact trivial
    | some d => exact fun ρ => Value.constantRenamed here ρ
  | _ => exact trivial

theorem Alike.noted {P : Pairing} {told told' : Report} {k k' v v' : Value}
    (alike : Alike P told told') (key : Alike P k k') (value : Alike P v v') :
    Alike P (told.note k v) (told'.note k' v') :=
  alike.map₃ (f := Report.note) (fun ρ told k v => congrArg (fun es => { rename ρ told with debug := es })
    (Entries.insertRenamed ρ told.debug k v)) key value

theorem Alike.count {P : Pairing} {v v' : Value} (alike : Alike P v v') :
    Alike P (Stream.count v) (Stream.count v') := by
  have kind := alike.kindOf
  have other : Alike P (Except.error (α := Option Nat) (Fault.misuse (.notCount v.kindOf)))
      (.error (.misuse (.notCount v'.kindOf))) := by
    rw [kind]
    exact alikeFixed fun _ => rfl
  cases alike.like with
  | null => exact alikeFixed fun _ => rfl
  | bool b => exact alikeFixed fun _ => by cases b <;> rfl
  | int n =>
    refine alikeIf ?_ (alikeFixed fun _ => rfl)
    exact alikeOk (alikeIf alikeNone (alikeStill _))
  | _ => exact other

theorem Alike.raised {P : Pairing} {e e' : Raised} (alike : Alike P e e') :
    (∃ told told' metadata metadata' arguments arguments', e = .report told metadata arguments ∧
      e' = .report told' metadata' arguments' ∧ Alike P told told' ∧ Alike P metadata metadata' ∧
      Alike P arguments arguments') ∨
    ∃ k arguments arguments', e = .plain k arguments ∧ e' = .plain k arguments' ∧
      Alike P arguments arguments' := by
  obtain ⟨rfl, within⟩ := alike
  cases e with
  | report told metadata arguments =>
    refine .inl ⟨told, _, metadata, _, arguments, _, rfl, rfl, ⟨rfl, fun ρ fixes => ?_⟩,
      ⟨rfl, fun ρ fixes => ?_⟩, rfl, fun ρ fixes => ?_⟩
    · exact (Raised.report.inj (within ρ fixes)).1
    · exact (Raised.report.inj (within ρ fixes)).2.1
    · exact (Raised.report.inj (within ρ fixes)).2.2
  | plain k arguments =>
    exact .inr ⟨k, arguments, _, rfl, rfl, rfl, fun ρ fixes =>
      (Raised.plain.inj (within ρ fixes)).2⟩

inductive Answers (R : Bond) (P : Pairing) :
    Option (Method (Action Value)) → Option (Method (Action Value)) → Prop where
  | none : Answers R P none none
  | some {s : Signature} {f f' : Frame → Action Value}
      (plain : s.parameters.all Parameter.isPlain = true)
      (mirrors : ∀ Q, P ≤ Q → ∀ x x', Alike Q x x' → Mirrors R Q (f x) (f' x')) :
      Answers R P (some ⟨s, f⟩) (some ⟨s, f'⟩)

theorem Answers.known {R : Bond} {P : Pairing} {m m' : Option (Method (Action Value))}
    (answers : Answers R P m m') : m'.isSome = m.isSome := by
  cases answers <;> rfl

namespace Mirrors

variable {R : Bond} {P : Pairing} {v v' u u' k k' b b' : Value} {m m' : ParameterMap} {r r' : Nat}

section
variable [Lasts R]

theorem reportChanged {f f' : Report → Report} (pairs : P.Pairs .error r r')
    (change : ∀ told told', Alike P told told' → Alike P (f told) (f' told')) :
    Mirrors R P (Raised.change r f) (Raised.change r' f') := by
  intro w w' twin bond
  show Agrees R P (.ok () _) (.ok () _)
  beta_reduce
  obtain ⟨told, told', metadata, metadata', arguments, arguments', held, held', report, rest⟩ |
    ⟨k, arguments, arguments', held, held', _⟩ := (twin.error pairs).raised
  · rw [held, held']
    have changed := (change _ _ report).map₃ (f := Raised.report) (fun _ _ _ _ => rfl) rest.1 rest.2
    exact .ok le_rfl (twin.put (s := .error) pairs changed)
      (Lasts.put (s := .error) bond twin pairs changed) (alikeStill _)
  · rw [held, held']
    exact .ok le_rfl twin bond (alikeStill _)

theorem suggest (pairs : P.Pairs .error r r') (hint : Alike P v v') :
    Mirrors R P (Raised.suggest r v) (Raised.suggest r' v') :=
  .reportChanged pairs fun _ _ told => told.suggest hint

theorem note (pairs : P.Pairs .error r r') (key : Alike P k k') (value : Alike P v v') :
    Mirrors R P (Raised.note r k v) (Raised.note r' k' v') :=
  .bind (.requireHashable key) fun _ le _ _ _ => .reportChanged (pairs.mono le) fun _ _ told =>
    told.noted (key.mono le) (value.mono le)

theorem readFrom (pairs : P.Pairs .stream r r') (asked : Alike P v v') :
    Mirrors R P (Stream.readFrom r v) (Stream.readFrom r' v') := by
  refine .bind (.except asked.count) fun Q le n n' same => ?_
  rw [same.still]
  refine .world fun w w' twin bond => ?_
  have held := twin.stream (pairs.mono le)
  rw [held]
  refine Mirrors.bind (.put (s := .stream) (pairs.mono le) fun _ _ _ => alikeStill (α := Stream) _)
    (fun _ _ _ _ _ => .pure (Like.bytes _).alike) w w' twin bond

theorem writeTo (pairs : P.Pairs .stream r r') (value : Alike P v v') :
    Mirrors R P (Stream.writeTo r v) (Stream.writeTo r' v') := by
  have kind := value.kindOf
  have other : Mirrors R P (Action.misuse (.notBytes v.kindOf) : Action Value)
      (Action.misuse (.notBytes v'.kindOf)) := by
    rw [kind]
    exact .refused fun _ => rfl
  cases value.like with
  | bytes bs =>
    refine .bind (.put (s := .stream) pairs fun w w' twin => ?_) fun _ _ _ _ _ =>
      .pure (Like.int _).alike
    rw [twin.stream pairs]
    exact alikeStill (α := Stream) _
  | _ => exact other

theorem writeText (pairs : P.Pairs .writer r r') (value : Alike P v v') :
    Mirrors R P (Writer.write r v) (Writer.write r' v') := by
  have kind := value.kindOf
  have other : Mirrors R P (Action.misuse (.notText v.kindOf) : Action Value)
      (Action.misuse (.notText v'.kindOf)) := by
    rw [kind]
    exact .refused fun _ => rfl
  cases value.like with
  | text s =>
    refine .bind (.put (s := .writer) pairs fun w w' twin => ?_) fun _ _ _ _ _ =>
      .pure (Like.int _).alike
    rw [twin.written pairs]
    exact alikeStill (α := List String) _
  | _ => exact other

theorem appendItem (pairs : P.Pairs .list r r') (value : Alike P v v') :
    Mirrors R P (Value.appendItem r v) (Value.appendItem r' v') :=
  .bind (.put (s := .list) pairs fun _ _ twin => (twin.list pairs).append (alikeCons value alikeNil))
    fun _ _ _ _ _ => .pure Like.null.alike

end

theorem writtenText (pairs : P.Pairs .writer r r') :
    Mirrors R P (Writer.text r) (Writer.text r') :=
  .seen fun _ _ twin => by
    rw [twin.written pairs]
    exact (Like.text _).alike

theorem openStream [Grows R] (content : Alike P v v') :
    Mirrors R P (Upload.openStream v) (Upload.openStream v') := by
  have kind := content.kindOf
  have other : Mirrors R P (Action.misuse (.notBytes v.kindOf) : Action Value)
      (Action.misuse (.notBytes v'.kindOf)) := by
    rw [kind]
    exact .refused fun _ => rfl
  cases content.like with
  | bytes bs => exact .newStream bs
  | null => exact .newStream []
  | _ => exact other

theorem isEmpty (content : Alike P v v') :
    Mirrors R P (Upload.isEmpty v) (Upload.isEmpty v') :=
  .bind (.truthy content) fun _ _ _ _ same => by
    rw [same.still]
    exact .pure (Like.bool _).alike

variable [Calls]

theorem declined (name : Alike P k k') (value : Alike P v v') {f f' : Fault} (fault : Alike P f f') :
    Mirrors R P (ParameterMap.declined k v f) (ParameterMap.declined k' v' f') := by
  refine .bind (.shown name) fun Q le s s' same => ?_
  rw [same.still]
  refine .asking (fun _ _ twin => twin.faultText (fault.mono le)) fun S more why why' same' => ?_
  rw [same'.still]
  have key := name.mono (le.trans more)
  refine .asking (fun _ _ twin => twin.attributeType (alikeFixed fun _ => rfl) key Like.null.alike
    (value.mono (le.trans more)) alikeNil) fun T last told told' report => ?_
  exact .refuse (report.map₂ (f := fun told f => { told with cause := some f })
    (fun _ _ _ => rfl) (fault.mono (le.trans (more.trans last))))

theorem getNumber [Heeds R] (alike : Alike P m m') (name : Alike P k k') (converter : Alike P v v')
    (default : Alike P u u') :
    Mirrors R P (m.getNumber k v u) (m'.getNumber k' v' u') := by
  refine .bind (.askFor alike name) fun Q le x x' value => ?_
  refine .ite (by rw [value.isNull]) (fun _ => .pure (default.mono le)) fun _ => ?_
  have given : Alike Q (Arguments.mk [x] []) ⟨[x'], []⟩ :=
    value.map (f := fun x => Arguments.mk [x] []) fun _ _ => rfl
  refine .tryCatch (Heeds.apply (converter.mono le) given rfl) fun S more e e' fault => ?_
  have kind : e'.kind = e.kind := by
    rw [fault.renamed]
    exact e.kindRenamed _
  refine .ite (by unfold Fault.declines; rw [kind]) (fun _ => ?_) fun _ => .throw fault
  exact .declined (name.mono (le.trans more)) (value.mono more) fault

end Mirrors

section
variable {R : Bond} {P : Pairing} {v v' b b' : Value} {m m' : ParameterMap} {r r' : Nat}

theorem facetMethods {α : Type} {ask : Facet → α} {f f' : α → Action Value} (name : String)
    (same : ∀ Q, P ≤ Q → ∀ g, Mirrors R Q (f (ask g)) (f' (ask g))) :
    Answers R P ((facetMethod? name ask).map (·.map f)) ((facetMethod? name ask).map (·.map f')) := by
  unfold facetMethod?
  split
  · exact .some rfl fun Q le _ _ _ => same Q le .keys
  · exact .some rfl fun Q le _ _ _ => same Q le .values
  · exact .some rfl fun Q le _ _ _ => same Q le .items
  · exact .none

variable [Grows R]

theorem Mirrors.facetOf (f : Facet) (map : Alike P v v') :
    Mirrors R P (do return Value.facet (← Action.newTag) f v)
      (do return Value.facet (← Action.newTag) f v') :=
  .newTag fun _ le _ _ pairs => .pure (Like.facet pairs f (map.mono le)).alike

variable [Calls]

theorem contextMethods (name : String) (pairs : P.Pairs .context r r') :
    Answers R P ((Context.method? name).map (·.map (Context.perform r)))
      ((Context.method? name).map (·.map (Context.perform r'))) := by
  unfold Context.method?
  split
  · refine .some rfl fun Q le x x' args => .seen fun w w' twin => ?_
    exact (twin.context (pairs.mono le)).map (f := Context.ajaxRequest) fun _ _ => rfl
  · exact .some rfl fun Q le x x' args =>
      .executionUrl (args.argument "flow_id") (args.argument "flow_execution_key")
  · exact .some rfl fun Q le x x' args => .responseWriter (pairs.mono le)
  · exact .some rfl fun Q le x x' args => .flag (pairs.mono le) fun _ _ c => c.responseAllowed
  · exact .some rfl fun Q le x x' args => .flag (pairs.mono le) fun _ _ c => c.complete
  · exact .some rfl fun Q le x x' args => .yieldNothing (.recordComplete (pairs.mono le))
  · exact .some rfl fun Q le x x' args => .flag (pairs.mono le) fun _ _ c => c.executionRedirect
  · exact .some rfl fun Q le x x' args => .yieldNothing (.redirectExecution (pairs.mono le))
  · exact .some rfl fun Q le x x' args => .yieldNothing
      (.redirectDefinition (pairs.mono le) (args.argument "flow_id") (args.argument "input"))
  · exact .some rfl fun Q le x x' args => .yieldNothing
      (.redirectExternal (pairs.mono le) (args.argument "location"))
  · exact .some rfl fun Q le x x' args => .yieldNothing (.popUp (pairs.mono le))
  · exact .some rfl fun Q le x x' args => .yieldNothing
      (.putRequestParameter (pairs.mono le) (args.argument "name") (args.argument "value"))
  · exact .some rfl fun Q le x x' args => .yieldNothing
      (.setEvent (pairs.mono le) (args.argument "event_id"))
  · exact .some rfl fun Q le x x' args => .flag (pairs.mono le) fun _ _ c => c.redirectRequested
  · exact .none

theorem Alike.attributeMethods (name : String) (map : Alike P v v') (backing : Alike P b b') :
    Answers R P ((Attributes.method? name).map (·.map (Attributes.perform v b)))
      ((Attributes.method? name).map (·.map (Attributes.perform v' b'))) := by
  unfold Attributes.method?
  split
  · exact .some rfl fun Q le x x' args =>
      .getOr (map.mono le) (args.argument "key") (args.argument "default")
  · exact .some rfl fun Q le x x' args =>
      .put' (backing.mono le) (args.argument "key") (args.argument "value")
  · refine .some rfl fun Q le x x' args => ?_
    exact .bind (.putAll (backing.mono le) (args.argument "attributes"))
      fun S more _ _ _ => .pure (map.mono (le.trans more))
  · exact .some rfl fun Q le x x' args => .remove (backing.mono le) (args.argument "key")
  · exact .some rfl fun Q le x x' args =>
      .getRequired (backing.mono le) (args.argument "key") (args.argument "expected_type")
  · exact .some rfl fun Q le x x' args => .copied (backing.mono le)
  · exact .some rfl fun Q le x x' args => .union (map.mono le) (args.argument "other")
  · exact .some rfl fun Q le x x' args =>
      .popFrom (map.mono le) (args.argument "key") (args.argument? "default")
  · exact .some rfl fun Q le x x' args => .popFirst (map.mono le)
  · refine .some rfl fun Q le x x' args => ?_
    exact .bind (.clear (map.mono le)) fun _ _ _ _ _ => .pure Like.null.alike
  · refine .some rfl fun Q le x x' args => ?_
    exact .bind (.updateAll (map.mono le) (args.argument? "") args.namedOf)
      fun _ _ _ _ _ => .pure Like.null.alike
  · exact .some rfl fun Q le x x' args =>
      .getOrPut (map.mono le) (args.argument "key") (args.argument "default")
  · exact facetMethods name fun Q le g => .facetOf g (map.mono le)

variable [Heeds R]

theorem Alike.parameterMethods (name : String) (map : Alike P m m') :
    Answers R P ((ParameterMap.method? m.writable name).map (·.map m.perform))
      ((ParameterMap.method? m'.writable name).map (·.map m'.perform)) := by
  have value : Alike P (Value.parameters m) (.parameters m') := map.map fun _ _ => rfl
  rw [map.parameters.1]
  unfold ParameterMap.method?
  split
  · exact .some rfl fun Q le x x' args =>
      .getParameter (map.mono le) (args.argument "name") (args.argument "default")
  · exact .some rfl fun Q le x x' args => .getRequiredParameter (map.mono le) (args.argument "name")
  · exact .some rfl fun Q le x x' args => .getArray (map.mono le) (args.argument "name")
  · exact .some rfl fun Q le x x' args => .getUpload (map.mono le) (args.argument "name")
  · exact .some rfl fun Q le x x' args => .getRequiredUpload (map.mono le) (args.argument "name")
  · exact .some rfl fun Q le x x' args => .getNumber (map.mono le) (args.argument "name")
      (args.argument "converter") (args.argument "default")
  · exact .some rfl fun Q le x x' args =>
      .getBoolean (map.mono le) (args.argument "name") (args.argument "default")
  · exact .some rfl fun Q le x x' args => .toDictionary (map.mono le)
  · split
    · refine .some rfl fun Q le x x' args => ?_
      refine .bind (.putParameter (map.mono le) (args.argument "name") (args.argument "value"))
        fun S more _ _ _ => .pure ?_
      exact value.mono (le.trans more)
    · exact .none
  · exact facetMethods name fun Q le g => .facetOf g (value.mono le)

theorem Alike.methods (alike : Alike P v v') (name : String) :
    Answers R P (v.method? name) (v'.method? name) := by
  cases alike.like with
  | attributes pairs shared backing => exact alike.attributeMethods name backing
  | parameters writable pairs => exact (alikeMap writable pairs).parameterMethods name
  | context pairs => exact contextMethods name pairs
  | upload pairs n content o t =>
    simp only [Value.method?, Upload.method?]
    split
    · exact .some rfl fun Q le _ _ _ => .isEmpty (content.mono le)
    · exact .some rfl fun Q le _ _ _ => .pure (content.mono le)
    · exact .some rfl fun Q le _ _ _ => .openStream (content.mono le)
    · exact .none
  | stream pairs =>
    simp only [Value.method?, Stream.method?]
    split
    · exact .some rfl fun Q le _ _ args => .readFrom (pairs.mono le) (args.argument "")
    · exact .some rfl fun Q le _ _ args => .writeTo (pairs.mono le) (args.argument "")
    · refine .some rfl fun Q le _ _ _ => .seen fun w w' twin => ?_
      rw [twin.stream (pairs.mono le)]
      exact (Like.bytes _).alike
    · exact .none
  | writer pairs =>
    simp only [Value.method?, Writer.method?]
    split
    · exact .some rfl fun Q le _ _ args => .writeText (pairs.mono le) (args.argument "")
    · exact .some rfl fun Q le _ _ _ => .writtenText (pairs.mono le)
    · exact .none
  | error k pairs =>
    simp only [Value.method?, Raised.method?]
    split
    · split
      · refine .some rfl fun Q le _ _ args => ?_
        exact .bind (.suggest (pairs.mono le) (args.argument "suggestion"))
          fun S more _ _ _ => .pure (alike.mono (le.trans more))
      · refine .some rfl fun Q le _ _ args => ?_
        exact .bind (.note (pairs.mono le) (args.argument "key") (args.argument "value"))
          fun S more _ _ _ => .pure (alike.mono (le.trans more))
      · exact .none
    · exact .none
  | list pairs =>
    simp only [Value.method?]
    split
    · exact .some rfl fun Q le _ _ args => .appendItem (pairs.mono le) (args.argument "")
    · exact .none
  | _ => exact .none

variable (R) in
include R in
theorem Alike.hasOperation (alike : Alike P v v') (name : String) :
    v'.hasOperation name = v.hasOperation name := by
  have known := (alike.methods (R := R) name).known
  cases alike.like with
  | kind k => rfl
  | _ => exact known

theorem Mirrors.perform (alike : Alike P v v') (name : String) {a a' : Arguments}
    (args : Alike P a a') : Mirrors R P (v.perform name a) (v'.perform name a') := by
  have methods := alike.methods (R := R) name
  unfold Value.perform
  generalize v.method? name = m, v'.method? name = m' at methods
  cases methods with
  | none =>
    exact .misuse (alike.map (f := fun v => Misuse.noMember v name) fun _ _ => rfl)
  | @some s f f' plain mirrors =>
    have bound := args.bound (plainParameters plain)
    simp only [Method.request]
    obtain ⟨x, x', found, found', same⟩ | ⟨e, e', found, found', same⟩ := bound.except
    · rw [found, found']
      exact mirrors P le_rfl x x' same
    · rw [found, found']
      exact .throw same

end

end FlowDouble
