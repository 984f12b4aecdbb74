import FlowDouble.Proofs.Parameters.Following
/-! What holds of every world a context can come to, whatever it was asked and with whatever values,
and whether that succeeded or failed. -/
namespace FlowDouble

open FlowDouble.Action ParameterMap

def World.Knows (w : World) : Value → Prop
  | .parameters m => m.ref < w.parameterMaps.length
  | .attributes _ _ backing => w.Knows backing
  | .facet _ _ map => w.Knows map
  | _ => True

structure World.Formed (w : World) : Prop where
  plain : w.Plain
  sound : w.Sound
  held : ∀ m, Held (w.parameters m)
  owned : ∀ r < w.contexts.length, (w.context r).parameters.ref < w.parameterMaps.length

theorem World.knowsLater {w w' : World} (grows : w.parameterMaps.length ≤ w'.parameterMaps.length)
    {v : Value} (known : w.Knows v) : w'.Knows v := by
  fun_induction w.Knows v with
  | case1 m => exact Nat.lt_of_lt_of_le known grows
  | case2 tag shared backing ih => exact ih known
  | case3 tag facet map ih => exact ih known
  | case4 v noMap noLayer noFacet =>
    cases v with
    | parameters m => exact absurd rfl (noMap m)
    | attributes tag shared backing => exact absurd rfl (noLayer tag shared backing)
    | facet tag facet map => exact absurd rfl (noFacet tag facet map)
    | _ => trivial

structure Upholds (w w' : World) : Prop where
  attachments : w'.attachments = w.attachments
  maps : w.parameterMaps.length ≤ w'.parameterMaps.length
  contexts : w.contexts.length ≤ w'.contexts.length
  formed : w.Formed → w'.Formed

theorem upholds : Effect Upholds where
  refl _ := ⟨rfl, Nat.le_refl _, Nat.le_refl _, id⟩
  trans ab bc :=
    ⟨bc.attachments.trans ab.attachments, Nat.le_trans ab.maps bc.maps,
      Nat.le_trans ab.contexts bc.contexts, fun formed => bc.formed (ab.formed formed)⟩
  attachments h := h.attachments

theorem heldEmpty : Held [] := ⟨Entries.soundNil, by simp⟩

theorem Heap.readPushedDefault {α : Type} [Inhabited α] (h : Heap α) (s : Nat) :
    (h.push default).read s = h.read s := by
  by_cases known : s < h.length
  · exact readKept default known
  · rw [readBeyond (Nat.le_of_not_lt known)]
    by_cases new : s = h.length
    · rw [new]
      exact readPushed h default
    · exact readBeyond (by simp only [push, List.length_append, List.length_singleton]; omega)

namespace Upholds

variable {r : Nat} {w w' : World}

theorem ofAside (plain : w'.attachments = w.attachments)
    (dictionaries : w'.dictionaries = w.dictionaries)
    (maps : w'.parameterMaps = w.parameterMaps) (contexts : w'.contexts = w.contexts) :
    Upholds w w' := by
  refine ⟨plain, Nat.le_of_eq (congrArg List.length maps.symm),
    Nat.le_of_eq (congrArg List.length contexts.symm), fun formed => ⟨?_, ?_, ?_, ?_⟩⟩
  · exact World.plainKept plain formed.plain
  · simpa only [World.Sound, dictionaries] using formed.sound
  · simpa only [World.parameters, maps] using formed.held
  · simpa only [World.context, maps, contexts] using formed.owned

theorem ofWrites (writes : Writes r (fun _ c => c.Proper) w w') : Upholds w w' := by
  have contexts : w'.contexts = w.contexts := by rw [writes.only]
  have dictionaries : w'.dictionaries = w.dictionaries := by rw [writes.only]
  have plain := onlyParameters.attachments writes.only
  refine ⟨plain, writes.grows, Nat.le_of_eq (congrArg List.length contexts.symm),
    fun formed => ⟨World.plainKept plain formed.plain, ?_, fun m => ?_, fun q known => ?_⟩⟩
  · simpa only [World.Sound, dictionaries] using formed.sound
  · by_cases same : m.ref = r
    · obtain ⟨changes, proper, done⟩ := writes.changes
      simp only [World.parameters, same, done]
      exact Change.heldAfter (same ▸ formed.held m) proper
    · simpa only [World.parameters, writes.others m.ref same] using formed.held m
  · rw [contexts] at known
    simpa only [World.context, contexts] using
      Nat.lt_of_lt_of_le (formed.owned q known) writes.grows

theorem ofDictionary {d : Nat} {es : Entries} (sound : w.Formed → es.Sound) :
    Upholds w (w.setDictionary d es) := by
  refine ⟨rfl, Nat.le_refl _, Nat.le_refl _,
    fun formed => ⟨formed.plain, fun ds mem => ?_, formed.held, formed.owned⟩⟩
  rcases List.mem_or_eq_of_mem_set mem with old | new
  · exact formed.sound ds old
  · exact new ▸ sound formed

theorem ofNewDictionary : Upholds w { w with dictionaries := w.dictionaries.push [] } := by
  refine ⟨rfl, Nat.le_refl _, Nat.le_refl _,
    fun formed => ⟨formed.plain, fun ds mem => ?_, formed.held, formed.owned⟩⟩
  rcases List.mem_append.mp mem with old | new
  · exact formed.sound ds old
  · exact List.mem_singleton.mp new ▸ Entries.soundNil

theorem ofNewParameters : Upholds w { w with parameterMaps := w.parameterMaps.push [] } := by
  have grows : w.parameterMaps.length ≤ (w.parameterMaps.push []).length := by simp [Heap.push]
  refine ⟨rfl, grows, Nat.le_refl _, fun formed => ⟨formed.plain, formed.sound, fun m => ?_,
    fun q known => Nat.lt_of_lt_of_le (formed.owned q known) grows⟩⟩
  have same : (w.parameterMaps.push []).read m.ref = w.parameterMaps.read m.ref :=
    Heap.readPushedDefault w.parameterMaps m.ref
  simpa only [World.parameters, same] using formed.held m

theorem ofContext {c : Context}
    (known : w.Formed → r < w.contexts.length → c.parameters.ref < w.parameterMaps.length) :
    Upholds w (w.setContext r c) := by
  have length : (w.contexts.write r c).length = _ := Heap.writeKeepsLength _ _ _
  refine ⟨rfl, Nat.le_refl _, Nat.le_of_eq length.symm,
    fun formed => ⟨formed.plain, formed.sound, formed.held, fun q there => ?_⟩⟩
  simp only [World.setContext, length] at there
  by_cases same : r = q
  · subst same
    simpa only [World.context, World.setContext, Heap.readWritten c there] using known formed there
  · simpa only [World.context, World.setContext, Heap.readOther _ c same] using
      formed.owned q there

theorem ofNewContext {c : Context} (known : c.parameters.ref < w.parameterMaps.length) :
    Upholds w { w with contexts := w.contexts.push c } := by
  refine ⟨rfl, Nat.le_refl _, by simp [Heap.push],
    fun formed => ⟨formed.plain, formed.sound, formed.held, fun q there => ?_⟩⟩
  by_cases old : q < w.contexts.length
  · simpa only [World.context, Heap.readKept c old] using formed.owned q old
  · have new : q = w.contexts.length := by simp [Heap.push] at there; omega
    simpa only [World.context, new, Heap.readPushed] using known

end Upholds

namespace ParameterMap

variable [Calls]

theorem askToPutUpholds (m : ParameterMap) (name value : Value) :
    Within Upholds (m.askToPut name value) :=
  fun _ plain => .ofWrites ((askToPutWrites plain).mono putsProper)

theorem createUpholds (writable : Bool) (source : Value) :
    Within Upholds (create writable source) :=
  fun _ plain => upholds.trans .ofNewParameters (.ofWrites (createWrites writable source plain))

end ParameterMap

namespace Context

variable {r : Nat} {w w' : World}

theorem upholdsChange {change : Context → Context}
    (kept : ∀ c, (change c).parameters = c.parameters) :
    Within Upholds (Context.change r change) :=
  withinModify fun w => .ofContext fun formed known =>
    (kept (w.context r)).symm ▸ formed.owned r known

theorem upholdsRecord (entry : Record) : Within Upholds (record entry) :=
  withinModify fun _ => .ofAside rfl rfl rfl rfl

theorem upholdsTag : Within Upholds newTag :=
  withinModifyGet fun _ => .ofAside rfl rfl rfl rfl

theorem upholdsStream (w : World) (s : Nat) (stream : Stream) : Upholds w (w.setStream s stream) :=
  .ofAside rfl rfl rfl rfl

theorem upholdsAttributes (shared : Bool) : Within Upholds (newAttributes shared .null) := by
  refine withinBind upholds (withinModifyGet fun _ => .ofNewDictionary) fun _ => ?_
  exact withinBind upholds upholdsTag fun _ => withinPure upholds _

variable [Calls]

theorem parametersOfUpholds (v : Value) : Within Upholds (parametersOf v) := by
  unfold parametersOf
  split
  · exact withinPure upholds _
  · exact createUpholds true _

theorem parametersOfKnown {v : Value} {m : ParameterMap} (plain : w.Plain) (known : w.Knows v)
    (done : parametersOf v w = .ok m w') : m.ref < w'.parameterMaps.length := by
  by_cases taken : ∃ t, v = .parameters t
  · obtain ⟨t, rfl⟩ := taken
    cases done
    exact known
  · have made : parametersOf v = ParameterMap.create true v := by
      unfold parametersOf
      split
      · exact absurd ⟨_, rfl⟩ taken
      · rfl
    rw [made] at done
    have writes := createWrites true v plain
    rw [leavesOk done] at writes
    rw [createdRef done]
    exact Nat.lt_of_lt_of_le (by simp [Heap.push]) writes.grows

theorem assignOtherUpholds {s : Setting} (other : s ≠ .requestParameters) (v : Value) :
    Within Upholds (assign r s v) := by
  unfold assign
  cases s with
  | requestParameters => contradiction
  | currentUser =>
    refine withinBind upholds ?_ fun _ => upholdsChange fun _ => rfl
    unfold principalOf
    split
    · exact withinBind upholds upholdsTag fun _ => withinPure upholds _
    · exact withinPure upholds _
  | responseAllowed =>
    exact withinBind upholds (withinUnchanged upholds (readsOverride v))
      fun _ => upholdsChange fun _ => rfl
  | _ => exact upholdsChange fun _ => rfl

theorem assignUpholds (s : Setting) {v : Value} (plain : w.Plain) (known : w.Knows v) :
    Upholds w ((assign r s v).leaves w) := by
  by_cases parameters : s = .requestParameters
  · subst parameters
    have first := parametersOfUpholds v w plain
    cases h : parametersOf v w with
    | error f w₁ =>
      have failed : assign r .requestParameters v w = .error f w₁ := bindError h
      rw [leavesError failed]
      exact leavesError h ▸ first
    | ok m w₁ =>
      have done : assign r .requestParameters v w =
          .ok () (w₁.setContext r { w₁.context r with parameters := m }) := bindOk h
      rw [leavesOk done]
      rw [leavesOk h] at first
      exact upholds.trans first (.ofContext fun _ _ => parametersOfKnown plain known h)
  · exact assignOtherUpholds parameters v w plain

theorem putParameterUpholds (r : Nat) (name value : Value) :
    Within Upholds (putParameter r name value) :=
  withinBind upholds (withinUnchanged upholds (readsWritable r))
    fun m => m.askToPutUpholds name value

theorem askToPutUpholds (r : Nat) (name value : Value) :
    Within Upholds (askToPut r name value) := by
  refine withinBind upholds ?_ fun _ => withinPure upholds _
  refine withinAnswer (by decide) ?_
  exact withinBind upholds (putParameterUpholds r name value) fun _ => withinPure upholds _

theorem askToSignalUpholds (r : Nat) (event : Value) :
    Within Upholds (askToSignal r event) := by
  refine withinBind upholds ?_ fun _ => withinPure upholds _
  refine withinAnswer (by decide) ?_
  exact withinBind upholds (askToPutUpholds r _ event) fun _ => withinPure upholds _

theorem askToCompleteUpholds (r : Nat) : Within Upholds (askToComplete r) := by
  refine withinBind upholds ?_ fun _ => withinPure upholds _
  refine withinAnswer (by decide) ?_
  refine withinBind upholds ?_ fun _ => withinPure upholds _
  exact withinBind upholds (upholdsChange fun _ => rfl) fun _ => upholdsRecord _

theorem fillUpholds (d : Nat) (source : Value) :
    Within Upholds (Attributes.putAll (.dictionary d) source) := by
  refine withinForEntries upholds upholdsStream .dictionary source fun key value => ?_
  intro w _
  have own : Value.setItem (.dictionary d) key value w =
      (Value.dictionary d).insertEntry key value w := rfl
  rw [leavesSame own]
  by_cases hashable : key.hashable = true
  · rw [leavesOk (insertsEntry hashable value w)]
    exact .ofDictionary fun formed =>
      Entries.soundInserted (w.soundDictionary formed.sound d) hashable value
  · obtain ⟨f, failed, _⟩ := keyRefused hashable w
    have refused : (Value.dictionary d).insertEntry key value w = .error f w := bindError failed
    rw [leavesError refused]
    exact upholds.refl w

theorem redirectDefinitionUpholds (r : Nat) (flow input : Value) :
    Within Upholds (redirectDefinition r flow input) := by
  refine withinBind upholds (upholdsChange fun _ => rfl) fun _ w plain => ?_
  -- the input goes into a dictionary of its own, so it matters not what it is taken from
  let own : Value := .attributes w.tags false (.dictionary w.dictionaries.length)
  let w₁ : World := { w with dictionaries := w.dictionaries.push [], tags := w.tags + 1 }
  have made : newAttributes false .null w = .ok own w₁ := rfl
  have first : Upholds w w₁ := leavesOk made ▸ upholdsAttributes false w plain
  rw [leavesBind made]
  refine upholds.trans first (?_ : Upholds w₁ _)
  have rest : Within Upholds (do
      change r fun c => { c with redirectInput := own }
      if !input.isNull then fillInput own input
      record (.definitionRedirect (← shown flow))
      askToComplete r : Action Unit) := by
    refine withinBind upholds (upholdsChange fun _ => rfl) fun _ => ?_
    have ending : Within Upholds (do
        record (.definitionRedirect (← shown flow))
        askToComplete r : Action Unit) := by
      refine withinBind upholds (withinUnchanged upholds (readsShown flow)) fun text => ?_
      exact withinBind upholds (upholdsRecord _) fun _ => askToCompleteUpholds r
    split
    · exact withinBind upholds (fillUpholds _ input) fun _ => ending
    · exact ending
  exact rest w₁ (World.plainKept first.attachments plain)

end Context

end FlowDouble
