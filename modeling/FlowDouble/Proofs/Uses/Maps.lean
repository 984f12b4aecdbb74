import FlowDouble.Parameters.Operation
import FlowDouble.Proofs.Parameters.History
import FlowDouble.Proofs.Uses.Through
/-! All that can be done with a map goes through it, and leaves every other map as it is. What a
reading of a number leaves is left by the converter it calls. -/
namespace FlowDouble

open FlowDouble.Action ParameterMap

namespace ParameterMap

variable {root : Value}

theorem readsGet (m : ParameterMap) (name default : Value) :
    Within Unchanged (m.get name default) := by
  refine withinBind unchanged ?_ fun _ => withinPure unchanged _
  refine withinBind unchanged (readsKey name) fun _ => ?_
  exact withinBind unchanged (withinWorld unchanged) fun _ => withinPure unchanged _

theorem readsRefuseMissing {α : Type} (message : String) (key : Value) (metadata : Entries) :
    Within Unchanged (refuseMissing message key metadata : Action α) :=
  withinBind unchanged (withinWorld unchanged) fun _ => readsRefusal _

theorem getArrayThrough (m : ParameterMap) (name : Value) :
    Within (Through root) (m.getArray name) := by
  have found : Within Unchanged (m.find name) :=
    withinBind unchanged (readsKey name) fun _ =>
      withinBind unchanged (withinWorld unchanged) fun _ => withinPure unchanged _
  refine withinBind (through _) (throughReading found) fun stored => ?_
  split
  · exact throughList _
  · exact throughList _
  · exact throughList _

theorem listedCons (name v : Value) (rest : Entries) :
    (∃ tag vs, v = .tuple tag vs ∧ listed ((name, v) :: rest) =
        (do let vs ← newList vs; return (name, vs) :: (← listed rest))) ∨
      listed ((name, v) :: rest) = (do return (name, v) :: (← listed rest)) := by
  cases v with
  | tuple tag vs => exact .inl ⟨tag, vs, rfl, rfl⟩
  | _ => exact .inr rfl

theorem listedThrough (es : Entries) : Within (Through root) (listed es) := by
  induction es with
  | nil => exact withinPure (through _) _
  | cons e rest ih =>
    have ending (e : Value × Value) :
        Within (Through root) (do return e :: (← listed rest) : Action Entries) :=
      withinBind (through _) ih fun _ => withinPure (through _) _
    rcases listedCons e.1 e.2 rest with ⟨tag, vs, _, row⟩ | other
    · rw [row]
      exact withinBind (through _) (throughList vs) fun vs => ending (e.1, vs)
    · rw [other]
      exact ending (e.1, e.2)

theorem listedKeys {es es' : Entries} {w w' : World} (done : listed es w = .ok es' w') :
    es'.keys = es.keys := by
  induction es generalizing w es' with
  | nil =>
    cases done
    rfl
  | cons e rest ih =>
    rcases listedCons e.1 e.2 rest with ⟨tag, vs, _, row⟩ | other
    · rw [row] at done
      obtain ⟨_, _, _, done⟩ := bindInv done
      obtain ⟨_, _, later, done⟩ := bindInv done
      cases done
      exact congrArg (List.cons _) (ih later)
    · rw [other] at done
      obtain ⟨_, _, later, done⟩ := bindInv done
      cases done
      exact congrArg (List.cons _) (ih later)

theorem toDictionaryThrough (m : ParameterMap) : Within (Through root) m.toDictionary := by
  intro w plain
  unfold toDictionary
  rw [leavesSame (worldBind w)]
  have first : Through root w ((listed (w.parameters m)).leaves w) :=
    listedThrough (w.parameters m) w plain
  cases done : listed (w.parameters m) w with
  | error f w₁ =>
    rw [leavesError done] at first
    rw [leavesError (bindError done)]
    exact first
  | ok es w₁ =>
    rw [leavesOk done] at first
    rw [leavesBind done]
    have aside := listedAside (w.parameters m) w plain
    rw [leavesOk done] at aside
    have same : w₁.parameters m = w.parameters m := by
      simp only [World.parameters, aside.2.2]
    refine (through _).trans first (.ofNewDictionary fun formed => ?_)
    exact Entries.soundKeys (same ▸ (formed.held m).sound) (listedKeys done)

variable [Calls]

theorem readsAskFor (m : ParameterMap) (name : Value) : Within Unchanged (m.askFor name) :=
  withinAnswer (by decide) (readsGet m name .null)

theorem readsRequired (m : ParameterMap) (name : Value) :
    Within Unchanged (m.getRequired name) := by
  refine withinBind unchanged (readsAskFor m name) fun value => ?_
  refine withinIte _ ?_ (withinPure unchanged _)
  refine withinBind unchanged (readsShown name) fun _ => ?_
  refine withinBind unchanged (withinWorld unchanged) fun _ => ?_
  refine withinBind unchanged (withinOfExcept unchanged _) fun _ => ?_
  exact withinBind unchanged (readsSpelled name) fun _ => withinThrow unchanged _

theorem readsUpload (m : ParameterMap) (name : Value) : Within Unchanged (m.getUpload name) := by
  refine withinBind unchanged (readsAskFor m name) fun value => ?_
  refine withinIte _ (withinPure unchanged _) ?_
  exact withinBind unchanged (readsShown name) fun _ => readsRefuseType _ _ _ _

theorem readsRequiredUpload (m : ParameterMap) (name : Value) :
    Within Unchanged (m.getRequiredUpload name) := by
  refine withinBind unchanged (withinAnswer (by decide) (readsUpload m name)) fun value => ?_
  refine withinIte _ ?_ (withinPure unchanged _)
  exact withinBind unchanged (readsShown name) fun _ => readsRefuseMissing _ _ _

theorem readsBoolean (m : ParameterMap) (name default : Value) :
    Within Unchanged (m.getBoolean name default) := by
  refine withinBind unchanged (readsAskFor m name) fun value => ?_
  refine withinIte _ (withinPure unchanged _) ?_
  have refused : Within Unchanged (do
      refuseType ("Request parameter '" ++ (← shown name) ++ "' is not a boolean value")
        name (.kind .bool) value : Action Value) :=
    withinBind unchanged (readsShown name) fun _ => readsRefuseType _ _ _ _
  dsimp only
  split
  · exact withinPure unchanged _
  · exact refused

def consult (m : ParameterMap) (name converter : Value) : Action Value := do
  let value ← m.askFor name
  if value.isNull then return .null else Calls.apply converter ⟨[value], []⟩

theorem refusesDeclined (name value : Value) (f : Fault) : Refuses (declined name value f) := by
  refine refusesBind (fun _ => ofExceptStays _ _) fun _ => ?_
  refine refusesBind (fun _ => rfl) fun _ => ?_
  refine refusesBind (fun _ => ofExceptStays _ _) fun _ => ?_
  refine refusesBind (fun _ => rfl) fun _ => ?_
  exact refusesBind (fun _ => ofExceptStays _ _) fun _ => refusesThrow _

theorem getNumberLeaves (m : ParameterMap) (name converter default : Value) (w : World) :
    (m.getNumber name converter default).leaves w = (m.consult name converter).leaves w := by
  unfold getNumber consult
  cases asked : m.askFor name w with
  | error f w₁ => rw [leavesError (bindError asked), leavesError (bindError asked)]
  | ok value w₁ =>
    rw [leavesBind asked, leavesBind asked]
    split
    · rfl
    have run := tryRuns (Calls.apply converter ⟨[value], []⟩)
      (fun f => if f.declines then declined name value f else throw f) w₁
    cases called : (Calls.apply converter ⟨[value], []⟩) w₁ with
    | ok v w₂ =>
      rw [called] at run
      rw [leavesOk run]
      exact (leavesOk called).symm
    | error f w₂ =>
      rw [called] at run
      obtain ⟨f', refused⟩ : ∃ f', (if f.declines then declined name value f else throw f :
          Action Value) w₂ = .error f' w₂ := by
        split
        · exact refusesDeclined name value f w₂
        · exact ⟨f, rfl⟩
      rw [leavesError (run.trans refused)]
      exact (leavesError called).symm

end ParameterMap

namespace Attributes

variable [Calls]

theorem readsPrevious (backing key : Value) : Within Unchanged (previous backing key) := by
  have found (v : Value) : Within Unchanged (do return (← v.find key).getD .null) :=
    withinBind unchanged (readsFound v key) fun _ => withinPure unchanged _
  unfold previous
  split
  · exact found _
  · exact withinAnswer (by decide) (found _)
  · exact ParameterMap.readsAskFor _ key
  · exact withinAnswer (by decide) (withinMissing unchanged _ _)

theorem putThrough (backing key value : Value) :
    Within (Through backing.root) (put backing key value) := by
  refine withinBind (through _) (throughReading (readsPrevious backing key)) fun _ => ?_
  exact withinBind (through _) (setItemThrough backing key value)
    fun _ => withinPure (through _) _

theorem updateThrough (t : Taker) (target source : Value) :
    Within (Through target.root) (Value.update t target source) :=
  withinForEntries (through _) throughStream t source (setItemThrough target)

theorem putAllThrough (backing source : Value) :
    Within (Through backing.root) (putAll backing source) := by
  unfold putAll
  split
  · exact updateThrough .dictionary _ source
  · refine withinBind (through _) (withinAnswer (by decide) ?_) fun _ => withinPure (through _) _
    refine withinBind (through _) ?_ fun _ => withinPure (through _) _
    split
    · exact updateThrough .map _ source
    · exact withinMissing (through _) _ _

omit [Calls] in
theorem popThrough (map key : Value) (default : Option Value) :
    Within (Through map.root) (pop map key default) := by
  refine withinBind (through _) (withinWorld (through _)) fun w => ?_
  split
  · exact withinBind (through _) (deleteItemThrough map key) fun _ => withinPure (through _) _
  · exact withinPure (through _) _
  · exact withinThrow (through _) _

theorem removeThrough (backing key : Value) :
    Within (Through backing.root) (remove backing key) := by
  unfold remove
  split
  · refine withinBind (through _) (withinWorld (through _)) fun w => ?_
    exact withinIte _ (withinPure (through _) _) (popThrough _ key _)
  · exact withinThrow (through _) _
  · refine withinAnswer (by decide) ?_
    split
    · exact popThrough _ key _
    · exact withinMissing (through _) _ _

theorem availableThrough {root : Value} (backing : Value) :
    Within (Through root) (available backing) := by
  refine withinBind (through _) (throughElements backing) fun keys => ?_
  refine withinBind (through _) (withinWorld (through _)) fun w => ?_
  refine withinBind (through _) (withinOfExcept (through _) _) fun keys => ?_
  exact withinIte _ (withinPure (through _) _) (throughList keys)

theorem getRequiredThrough {root : Value} (backing key expected : Value) :
    Within (Through root) (getRequired backing key expected) := by
  refine withinBind (through _) (containsThrough backing key) fun there => ?_
  split
  · refine withinBind (through _) (throughReading (readsItem backing key)) fun value => ?_
    refine withinIte _ (withinPure (through _) _) ?_
    refine withinBind (through _) (withinOfExcept (through _) _) fun fits => ?_
    refine withinIte _ (withinPure (through _) _) ?_
    refine withinBind (through _) (throughReading (readsShown key)) fun _ => ?_
    refine withinBind (through _) (withinWorld (through _)) fun _ => ?_
    refine withinBind (through _) (withinOfExcept (through _) _) fun _ => ?_
    refine withinBind (through _) (throughReading (readsShown _)) fun _ => ?_
    exact throughReading (readsRefuseType _ _ _ _)
  · refine withinBind (through _) (throughReading (readsShown key)) fun _ => ?_
    refine withinBind (through _) (availableThrough backing) fun _ => ?_
    exact throughReading (ParameterMap.readsRefuseMissing _ _ _)

theorem unionThrough {root : Value} (map other : Value) :
    Within (Through root) (union map other) := by
  intro w plain
  have first : Through root w (map.told.leaves w) := toldThrough map w plain
  -- a union is written into a copy, so neither of the two changes
  unfold union
  cases told : map.told w with
  | error f w₁ =>
    rw [leavesError told] at first
    rw [leavesError (bindError told)]
    exact first
  | ok merged w₁ =>
    rw [leavesOk told] at first
    rw [leavesBind told, toldNew plain told]
    refine first.thenNew ?_
    have rest : Within (Through (.dictionary w.dictionaries.length)) (do
        putAll (.dictionary w.dictionaries.length) other
        newAttributes false (.dictionary w.dictionaries.length) : Action Value) := by
      refine withinBind (through _) (putAllThrough (.dictionary _) other) fun _ => ?_
      refine withinBind (through _) (withinPure (through _) _) fun _ => ?_
      exact withinBind (through _) throughTag fun _ => withinPure (through _) _
    exact rest w₁ (World.plainKept first.attachments plain)

omit [Calls] in
theorem popFirstThrough (map : Value) : Within (Through map.root) (popFirst map) := by
  refine withinBind (through _) (throughReading (readsAhead map)) fun keys => ?_
  split
  · exact withinThrow (through _) _
  · refine withinBind (through _) (withinTake (through _) throughStream map _) fun _ => ?_
    refine withinBind (through _) (throughReading (readsItem map _)) fun _ => ?_
    refine withinBind (through _) (deleteItemThrough map _) fun _ => ?_
    exact withinBind (through _) throughTag fun _ => withinPure (through _) _

theorem popsFirstThrough (map : Value) : Within (Through map.root) (popsFirst map) := by
  refine withinTryCatch (through _) ?_ fun f => ?_
  · exact withinBind (through _) (withinAnswer (by decide) (popFirstThrough map))
      fun _ => withinPure (through _) _
  · exact withinIte _ (withinPure (through _) _) (withinThrow (through _) _)

theorem clearSomeThrough (map : Value) (n : Nat) :
    Within (Through map.root) (clearSome map n) := by
  induction n with
  | zero => exact withinPure (through _) _
  | succ n ih =>
    refine withinBind (through _) (popsFirstThrough map) fun more => ?_
    exact withinIte _ ih (withinPure (through _) _)

theorem performThrough (tag : Nat) (shared : Bool) (backing : Value) (op : Operation) :
    Within (Through backing.root) (perform (.attributes tag shared backing) backing op) := by
  let map : Value := .attributes tag shared backing
  cases op with
  | get key default =>
    exact throughReading
      (withinBind unchanged (readsFound map key) fun _ => withinPure unchanged _)
  | put key value => exact putThrough backing key value
  | putAll source =>
    exact withinBind (through _) (putAllThrough backing source) fun _ => withinPure (through _) _
  | remove key => exact removeThrough backing key
  | getRequired key expected => exact getRequiredThrough backing key expected
  | toDictionary => exact copiedThrough backing
  | union other => exact unionThrough map other
  | pop key default => exact popThrough map key default
  | popFirst => exact popFirstThrough map
  | clear =>
    refine withinBind (through _) ?_ fun _ => withinPure (through _) _
    exact withinBind (through _) (withinWorld (through _)) fun _ => clearSomeThrough map _
  | update source named =>
    refine withinBind (through _) ?_ fun _ => withinPure (through _) _
    have setsNamed : Within (Through map.root) (map.setItems named) :=
      withinForPairs (through _) fun p _ => setItemThrough map p.1 p.2
    cases source with
    | none => exact setsNamed
    | some source => exact withinBind (through _) (updateThrough .map map source) fun _ => setsNamed
  | getOrPut key default =>
    refine withinBind (through _) (throughReading (readsFound map key)) fun found => ?_
    split
    · exact withinPure (through _) _
    · exact withinBind (through _) (setItemThrough map key default) fun _ => withinPure (through _) _
  | facet f => exact withinBind (through _) throughTag fun _ => withinPure (through _) _

end Attributes

inductive Use where
  | attributes (tag : Nat) (shared : Bool) (backing : Value) (op : Attributes.Operation)
  | parameters (map : ParameterMap) (op : ParameterMap.Operation)
  | getItem (target key : Value)
  | setItem (target key value : Value)
  | deleteItem (target key : Value)
  | contains (target key : Value)
  | elements (target : Value)
  | length (target : Value)
  | equals (target other : Value)
  | spelled (target : Value)

namespace Use

def target : Use → Value
  | attributes tag shared backing _ => .attributes tag shared backing
  | parameters map _ => .parameters map
  | getItem target _ | setItem target .. | deleteItem target _ | contains target _
  | elements target | length target | equals target _ | spelled target => target

def converter? : Use → Option Value
  | parameters _ (.getNumber _ converter _) => some converter
  | _ => none

def act [Calls] : Use → Action Value
  | attributes tag shared backing op =>
    Attributes.perform (.attributes tag shared backing) backing op
  | parameters map op => map.perform op
  | getItem target key => target.getItem key
  | setItem target key value => yieldNothing (target.setItem key value)
  | deleteItem target key => yieldNothing (target.deleteItem key)
  | contains target key => do return .bool (← target.contains key)
  | elements target => do newList (← Action.elements target)
  | length target => do return .int (← Action.length target)
  | equals target other => do return .bool (← target.isEqual other)
  | spelled target => do return .text (← Action.spelled target)

variable [Calls] {R : World → World → Prop}

def Calm (R : World → World → Prop) (use : Use) : Prop :=
  ∀ converter ∈ use.converter?, ∀ v, Within R (Calls.apply converter ⟨[v], []⟩)

theorem within (effect : Effect R) {use : Use}
    (h : ∀ {w w'}, Through use.target.root w w' → R w w') (calm : use.Calm R) :
    Within R use.act := by
  have reading {α : Type} {a : Action α} (reads : Within Unchanged a) : Within R a :=
    withinUnchanged effect reads
  cases use with
  | attributes tag shared backing op =>
    exact withinMono h (Attributes.performThrough tag shared backing op)
  | parameters map op =>
    cases op with
    | get name default => exact reading (map.readsGet name default)
    | getRequired name => exact reading (map.readsRequired name)
    | getArray name => exact withinMono h (map.getArrayThrough name)
    | getUpload name => exact reading (map.readsUpload name)
    | getRequiredUpload name => exact reading (map.readsRequiredUpload name)
    | getNumber name converter default =>
      intro w plain
      have same : (parameters map (.getNumber name converter default)).act.leaves w = _ :=
        map.getNumberLeaves name converter default w
      rw [same]
      refine withinBind effect (reading (map.readsAskFor name)) (fun value => ?_) w plain
      exact withinIte _ (withinPure effect _) (calm converter rfl value)
    | getBoolean name default => exact reading (map.readsBoolean name default)
    | toDictionary => exact withinMono h map.toDictionaryThrough
    | put name value =>
      refine withinBind effect (fun w _ => ?_) fun _ => withinPure effect _
      exact h (.ofWrites ((putWrites map name value w).mono putsProper))
    | facet f => exact withinBind effect (withinMono h throughTag) fun _ => withinPure effect _
  | getItem target key => exact reading (readsItem target key)
  | setItem target key value =>
    exact withinBind effect (withinMono h (setItemThrough target key value))
      fun _ => withinPure effect _
  | deleteItem target key =>
    exact withinBind effect (withinMono h (deleteItemThrough target key))
      fun _ => withinPure effect _
  | contains target key =>
    exact withinBind effect (withinMono h (containsThrough target key)) fun _ => withinPure effect _
  | elements target =>
    exact withinBind effect (withinMono h (throughElements target))
      fun vs => withinMono h (throughList vs)
  | length target =>
    exact withinBind effect (reading (readsLength target)) fun _ => withinPure effect _
  | equals target other =>
    exact withinBind effect (reading (readsEqual target other)) fun _ => withinPure effect _
  | spelled target =>
    exact withinBind effect (reading (readsSpelled target)) fun _ => withinPure effect _

end Use

def Value.convertsAlone : Value → Bool
  | .converter _ | .kind .int | .kind .float | .kind .text | .kind .bool => true
  | _ => false

section
variable {R : World → World → Prop}

theorem Converter.reads [Calls] (c : Converter) (v : Value) : Within Unchanged (c.apply v) := by
  unfold Converter.apply
  cases c with
  | length => exact withinBind unchanged (readsLength v) fun _ => withinPure unchanged _
  | hexadecimal =>
    exact withinBind unchanged (withinOfExcept unchanged _) fun _ => withinPure unchanged _
  | discard => exact withinPure unchanged _
  | identity => exact withinPure unchanged _
  | refuseField => exact withinBind unchanged (withinWorld unchanged) fun _ => readsRefusal _
  | refuseAttribute => exact readsRefuseType _ _ _ _
  | missAttribute => exact ParameterMap.readsRefuseMissing _ _ _
  | _ => exact withinThrow unchanged _

theorem Value.convertsWithin [Calls] (effect : Effect R)
    (tagged : ∀ w, R w { w with tags := w.tags + 1 }) {converter : Value}
    (alone : converter.convertsAlone = true) (v : Value) :
    Within R (converter.applyPlain ⟨[v], []⟩) := by
  have tag : Within R newTag := withinModifyGet tagged
  cases converter with
  | converter c => exact withinUnchanged effect (c.reads v)
  | kind k =>
    cases k with
    | int => exact withinBind effect (withinOfExcept effect _) fun _ => withinPure effect _
    | float =>
      have real : Within R (Cast.real v) := by
        unfold Cast.real
        split
        · exact withinPure effect _
        · refine withinBind effect tag fun _ => ?_
          exact withinBind effect (withinOfExcept effect _) fun _ => withinPure effect _
      exact real
    | text =>
      exact withinBind effect (withinUnchanged effect (readsShown v)) fun _ => withinPure effect _
    | bool =>
      exact withinBind effect (withinUnchanged effect (readsTruthy v)) fun _ => withinPure effect _
    | _ => contradiction
  | _ => contradiction

theorem Value.appliesAlone {converter : Value} (alone : converter.convertsAlone = true) (n : Nat)
    (a : Arguments) : Value.applyWithin (n + 1) converter a =
      @Value.applyPlain ⟨Value.applyWithin n⟩ converter a := by
  cases converter <;> first | rfl | contradiction

theorem Use.alone (effect : Effect R) (tagged : ∀ w, R w { w with tags := w.tags + 1 })
    {use : Use} (alone : ∀ c ∈ use.converter?, c.convertsAlone = true) : use.Calm R := by
  intro converter called v
  have own := alone converter called
  obtain ⟨n, deep⟩ : ∃ n, callDepth = n + 1 := ⟨199, rfl⟩
  have run : Calls.apply converter = Value.applyWithin callDepth converter := rfl
  rw [run, deep, Value.appliesAlone own]
  let _ : Calls := ⟨Value.applyWithin n⟩
  exact Value.convertsWithin effect tagged own v

end

end FlowDouble
