import FlowDouble.Invocation
import FlowDouble.Proofs.Context.History
import FlowDouble.Proofs.Context.Reachable
/-! What a refused request leaves behind: nothing that anyone could see. At most a parameter map was
begun that nothing refers to. -/
namespace FlowDouble

open FlowDouble.Action ParameterMap

structure Spared (w w' : World) : Prop where
  only : OnlyParameters w w'
  grows : w.parameterMaps.length ≤ w'.parameterMaps.length
  kept : ∀ s < w.parameterMaps.length, w'.parameterMaps.read s = w.parameterMaps.read s

theorem spared : Effect Spared where
  refl w := ⟨onlyParameters.refl w, Nat.le_refl _, fun _ _ => rfl⟩
  trans ab bc :=
    ⟨onlyParameters.trans ab.only bc.only, Nat.le_trans ab.grows bc.grows, fun s known =>
      (bc.kept s (Nat.lt_of_lt_of_le known ab.grows)).trans (ab.kept s known)⟩
  attachments h := onlyParameters.attachments h.only

namespace Spared

variable {w w' : World}

theorem ofTags (tags : Nat) : Spared w { w with tags } := ⟨rfl, Nat.le_refl _, fun _ _ => rfl⟩

theorem context (spares : Spared w w') (r : Nat) : w'.context r = w.context r := by
  rw [spares.only]
  rfl

theorem parameters (spares : Spared w w') {m : ParameterMap}
    (known : m.ref < w.parameterMaps.length) : w'.parameters m = w.parameters m :=
  spares.kept m.ref known

end Spared

namespace Action

variable {α : Type}

def yields (a : Action α) (w : World) : Except Fault α :=
  match a w with
  | .ok v _ => .ok v
  | .error f _ => .error f

theorem yieldFails {a : Action Unit} {w w' f} :
    yieldNothing a w = .error f w' ↔ a w = .error f w' := by
  cases h : a w with
  | ok u w₁ =>
    have done : yieldNothing a w = .ok .null w₁ := bindOk h
    rw [done]
    simp
  | error e w₁ =>
    have failed : yieldNothing a w = .error e w₁ := bindError h
    rw [failed]
    simp

theorem asksOwn [Calls] {v : Value} {name a} {own : Action Unit} {w : World} (plain : w.Plain)
    (asked : name ∈ askedNames) :
    (do let _ ← v.answer name a (yieldNothing own) : Action Unit) w = own w := by
  have same := v.answerUnhidden (plain v name asked) a (yieldNothing own)
  cases h : own w with
  | ok u w' => exact bindOk (same.trans (bindOk h))
  | error f w' => exact bindError (same.trans (bindError h))

end Action

namespace ParameterMap

variable [Calls] {w w' : World} {f : Fault}

theorem putFailureSpares {m : ParameterMap} {name value : Value}
    (failed : m.put name value w = .error f w') : Spared w w' := by
  rcases putOutcome m name value w with ⟨f', tags, refused⟩ | ⟨kept, tags, done, _⟩
  · rw [refused] at failed
    cases failed
    exact .ofTags tags
  · rw [done] at failed
    contradiction

theorem createSpares (writable : Bool) (source : Value) :
    Within Spared (create writable source) := by
  intro w plain
  have writes := createWrites writable source plain
  have begun : w.parameterMaps.length ≤ (w.parameterMaps.push []).length := by simp [Heap.push]
  refine ⟨?_, Nat.le_trans begun writes.grows, fun s known => ?_⟩
  · have pushed : OnlyParameters w { w with parameterMaps := w.parameterMaps.push [] } := rfl
    exact onlyParameters.trans pushed writes.only
  · exact (writes.others s (Nat.ne_of_lt known)).trans (Heap.readKept [] known)

theorem askToPutPlain (plain : w.Plain) (m : ParameterMap) (name value : Value) :
    m.askToPut name value w = m.put name value w := asksOwn plain (by decide)

end ParameterMap

namespace Context

variable {r : Nat} {w w' : World} {f : Fault}

inductive Operation.Refusable : Operation → Prop where
  | override (v : Value) : Refusable (.assign .responseAllowed v)
  | parameters (v : Value) : Refusable (.assign .requestParameters v)
  | put (name value : Value) : Refusable (.putParameter name value)
  | event (v : Value) : Refusable (.setEvent v)
  | writable : Refusable (.reading .writableParameters)
  | writer : Refusable .responseWriter
  | popup : Refusable .popUp

inductive Operation.Looks : Operation → Prop where
  | setting (s : Setting) : Looks (.setting s)
  | reading (g : Reading) : Looks (.reading g)
  | ajax : Looks .isAjaxRequest
  | writer : Looks .responseWriter
  | allowed : Looks .isResponseAllowed
  | complete : Looks .isResponseComplete
  | byExecution : Looks .isCompleteByExecutionRedirect
  | redirect : Looks .isRedirectRequested

def Operation.about : Operation → List Setting
  | .setting s => [s]
  | .reading .writableParameters => [.requestParameters]
  | .isAjaxRequest => [.ajaxRequest]
  | .isResponseAllowed | .responseWriter => [.responseAllowed]
  | _ => []

def slot (c : Context) : Setting → Value
  | .responseAllowed => overrideValue c.allowed
  | s => c.setting s

def bare (c : Context) : Nat × Bool × Bool × Value × Value × Value × Bool :=
  (c.writer, c.complete, c.executionRedirect, c.redirectFlow, c.redirectInput, c.externalUrl,
    c.popup)

theorem overrideSame {a b : Option Bool} (same : overrideValue a = overrideValue b) : a = b := by
  cases a <;> cases b <;> first | rfl | contradiction | exact congrArg some (Value.bool.inj same)

theorem noOverride {v : Value} : isOverride v = false ↔ v ≠ .null ∧ ∀ b, v ≠ .bool b := by
  cases v <;> simp [isOverride]

theorem writableFound (writable : (w.context r).parameters.writable = true) :
    writableParameters r w = .ok (w.context r).parameters w := by
  unfold writableParameters
  rw [worldBind, if_pos writable]
  rfl

def readOnlyFault : Fault := .misuse (.told .wrongType
  ("Request parameter map is a " ++ Kind.parameters.name ++ ", not a " ++
    Kind.writableParameters.name))

theorem writableRefused (readOnly : ¬ (w.context r).parameters.writable = true) :
    writableParameters r w = .error readOnlyFault w := by
  unfold writableParameters
  rw [worldBind, if_neg readOnly]
  rfl

variable [Calls]

theorem putParameterPlain (plain : w.Plain) (name value : Value) :
    putParameter r name value w =
      if (w.context r).parameters.writable then (w.context r).parameters.put name value w
      else .error readOnlyFault w := by
  by_cases writable : (w.context r).parameters.writable = true
  · rw [if_pos writable]
    exact (bindOk (writableFound writable)).trans (askToPutPlain plain _ name value)
  · rw [if_neg writable]
    exact bindError (writableRefused writable)

theorem askToPutPlain (plain : w.Plain) (name value : Value) :
    askToPut r name value w = putParameter r name value w := asksOwn plain (by decide)

theorem askToSignalPlain (plain : w.Plain) (event : Value) :
    askToSignal r event w = putParameter r (.text eventParameter) event w :=
  (asksOwn plain (by decide)).trans (askToPutPlain plain _ event)

theorem putParameterSpares (plain : w.Plain) {name value : Value}
    (failed : putParameter r name value w = .error f w') : Spared w w' := by
  rw [putParameterPlain plain] at failed
  split at failed
  · exact putFailureSpares failed
  · cases failed
    exact spared.refl w

theorem parametersOfSpares (v : Value) : Within Spared (parametersOf v) := by
  unfold parametersOf
  split
  · exact withinPure spared _
  · exact createSpares true _

theorem assignFailure {s : Setting} {v : Value} (failed : assign r s v w = .error f w') :
    (s = .requestParameters ∧ parametersOf v w = .error f w') ∨
      s = .responseAllowed ∧ overrideOf v w = .error f w' := by
  cases s with
  | requestParameters =>
    cases h : parametersOf v w with
    | ok m w₁ =>
      rw [show assign r .requestParameters v w = .ok () _ from bindOk h] at failed
      contradiction
    | error f₁ w₁ =>
      rw [show assign r .requestParameters v w = .error f₁ w₁ from bindError h] at failed
      cases failed
      exact .inl ⟨rfl, rfl⟩
  | responseAllowed =>
    cases h : overrideOf v w with
    | ok m w₁ =>
      rw [show assign r .responseAllowed v w = .ok () _ from bindOk h] at failed
      contradiction
    | error f₁ w₁ =>
      rw [show assign r .responseAllowed v w = .error f₁ w₁ from bindError h] at failed
      cases failed
      exact .inr ⟨rfl, rfl⟩
  | currentUser => cases v <;> contradiction
  | _ => contradiction

theorem assignSpares {s : Setting} {v : Value} (plain : w.Plain)
    (failed : assign r s v w = .error f w') : Spared w w' := by
  rcases assignFailure failed with ⟨_, refused⟩ | ⟨_, refused⟩
  · exact leavesError refused ▸ parametersOfSpares v w plain
  · have same : w' = w := leavesError refused ▸ readsOverride v w plain
    rw [same]
    exact spared.refl w

theorem refusalSpares {op : Operation} (refusable : op.Refusable) (plain : w.Plain)
    (failed : perform r op w = .error f w') : Spared w w' := by
  have unchanged {a : Action Value} (reads : Within Unchanged a) (failed : a w = .error f w') :
      Spared w w' := by
    have same : w' = w := leavesError failed ▸ reads w plain
    rw [same]
    exact spared.refl w
  cases refusable with
  | override v => exact assignSpares plain (yieldFails.mp failed)
  | parameters v => exact assignSpares plain (yieldFails.mp failed)
  | put name value => exact putParameterSpares plain (yieldFails.mp failed)
  | event v =>
    have asked : askToPut r (.text eventParameter) v w = .error f w' := yieldFails.mp failed
    rw [askToPutPlain plain] at asked
    exact putParameterSpares plain asked
  | writable => exact unchanged (readsReading r .writableParameters) failed
  | writer => exact unchanged (readsWriter r) failed
  | popup =>
    have refused : popUp r w = .error f w' := yieldFails.mp failed
    rw [popsUp plain] at refused
    split at refused
    · contradiction
    · cases refused
      exact spared.refl w

theorem readsParameters (writable : (w.context r).parameters.writable = true) :
    perform r (.reading .writableParameters) w = .ok (.parameters (w.context r).parameters) w :=
  bindOk (writableFound writable)

theorem readsNoParameters (readOnly : ¬ (w.context r).parameters.writable = true) :
    perform r (.reading .writableParameters) w = .error readOnlyFault w := by
  have refused : (do return .parameters (← writableParameters r) : Action Value) w =
      .error readOnlyFault w := bindError (writableRefused readOnly)
  exact refused

theorem looksSame {op : Operation} (looks : op.Looks) (plain : w.Plain) (plain' : w'.Plain)
    (bare : (w'.context r).bare = (w.context r).bare)
    (slots : ∀ s ∈ op.about, (w'.context r).slot s = (w.context r).slot s) :
    (perform r op).yields w' = (perform r op).yields w := by
  simp only [Context.bare, Prod.mk.injEq] at bare
  obtain ⟨writer, complete, execution, flow, input, url, popup⟩ := bare
  have told (f : Context → Value) (same : f (w'.context r) = f (w.context r)) :
      yields (do return f ((← world).context r)) w' = yields (do return f ((← world).context r)) w :=
    congrArg Except.ok same
  have allowed (about : .responseAllowed ∈ op.about) :
      (w'.context r).responseAllowed = (w.context r).responseAllowed := by
    have same : (w'.context r).allowed = (w.context r).allowed := overrideSame (slots _ about)
    simp only [responseAllowed, same, complete]
  cases looks with
  | setting s =>
    have slot := slots s List.mem_cons_self
    cases s with
    | responseAllowed =>
      show (isResponseAllowed r).yields w' = (isResponseAllowed r).yields w
      unfold yields
      rw [asksAllowed plain', asksAllowed plain, allowed List.mem_cons_self]
    | _ => exact told (fun c => c.setting _) slot
  | reading g =>
    cases g with
    | writableParameters =>
      have same : (w'.context r).parameters = (w.context r).parameters :=
        Value.parameters.inj (slots .requestParameters List.mem_cons_self)
      unfold yields
      by_cases writable : (w.context r).parameters.writable = true
      · rw [readsParameters (same.symm ▸ writable), readsParameters writable, same]
      · rw [readsNoParameters (same.symm ▸ writable), readsNoParameters writable]
    | writer => exact told (fun c => .writer c.writer) (congrArg Value.writer writer)
    | executionRedirect =>
      exact told (fun c => .bool c.executionRedirect) (congrArg Value.bool execution)
    | definitionRedirect =>
      exact told (fun c => .bool c.definitionRedirect) (by simp [definitionRedirect, flow])
    | redirectFlow => exact told Context.redirectFlow flow
    | redirectInput => exact told Context.redirectInput input
    | externalRedirect =>
      exact told (fun c => .bool c.externalRedirect) (by simp [externalRedirect, url])
    | externalUrl => exact told Context.externalUrl url
    | popup => exact told (fun c => .bool c.popup) (congrArg Value.bool popup)
  | ajax => exact told Context.ajaxRequest (slots .ajaxRequest List.mem_cons_self)
  | writer =>
    have refused : (w'.context r).refusal = (w.context r).refusal := by
      simp only [refusal, definitionRedirect, externalRedirect, complete, execution, flow, url]
    show (responseWriter r).yields w' = (responseWriter r).yields w
    unfold yields
    rw [writesIfAllowed plain', writesIfAllowed plain, allowed List.mem_cons_self, refused, writer]
    cases (w.context r).responseAllowed <;> rfl
  | allowed =>
    exact told (fun c => .bool c.responseAllowed) (congrArg Value.bool (allowed List.mem_cons_self))
  | complete => exact told (fun c => .bool c.complete) (congrArg Value.bool complete)
  | byExecution =>
    exact told (fun c => .bool c.executionRedirect) (congrArg Value.bool execution)
  | redirect =>
    refine told (fun c => .bool c.redirectRequested) ?_
    simp only [redirectRequested, definitionRedirect, externalRedirect, execution, flow, url]

def overrideReport (spelling : String) : Report where
  diagnosis := .configuration
  message := .text ("response_allowed must be True, False or None, not " ++ spelling)
  metadata := [(.text "field", .text "response_allowed")]
  debug := [(.text "configuration_field", .text "response_allowed")]

def overrideFault (w : World) (v : Value) : Fault :=
  match (w.snapshot v).spell with
  | .ok spelling => .report (overrideReport spelling)
  | .error f => f

theorem overrideRefused {v : Value} (other : isOverride v = false) :
    overrideOf v w = .error (overrideFault w v) w := by
  have refusal : overrideOf v = (do
      let spelling ← spelled v
      refuseWith (Report.configuration (← world)
        (.text ("response_allowed must be True, False or None, not " ++ spelling))
        (.text "response_allowed") []) : Action (Option Bool)) := by
    cases v <;> first | rfl | contradiction
  rw [refusal]
  unfold overrideFault
  cases told : (w.snapshot v).spell with
  | ok spelling =>
    have spells : spelled v w = .ok spelling w := by
      unfold spelled
      rw [worldBind, told]
      rfl
    rw [bindOk spells]
    rfl
  | error f =>
    have fails : spelled v w = .error f w := by
      unfold spelled
      rw [worldBind, told]
      rfl
    exact bindError fails

theorem overrideFails {v : Value} :
    perform r (.assign .responseAllowed v) w = .error f w' ↔
      isOverride v = false ∧ f = overrideFault w v ∧ w' = w := by
  cases accepted : isOverride v with
  | true =>
    have done : ∃ w₁, perform r (.assign .responseAllowed v) w = .ok .null w₁ := by
      cases v <;> first | contradiction | exact ⟨_, rfl⟩
    obtain ⟨w₁, done⟩ := done
    simp [done]
  | false =>
    have failed : perform r (.assign .responseAllowed v) w = .error (overrideFault w v) w :=
      bindError (bindError (overrideRefused accepted))
    rw [failed]
    simp [eq_comm]

def popupReport : Report where
  diagnosis := .redirectNotRequested
  message := .text Report.popupMessage
  suggestions := [.text "Request a redirect first, then mark it as a popup redirect"]

theorem popUpFails (plain : w.Plain) :
    perform r .popUp w = .error f w' ↔
      (w.context r).redirectRequested = false ∧ f = .report popupReport ∧ w' = w := by
  have asked := popsUp (r := r) plain
  by_cases requested : (w.context r).redirectRequested = true
  · rw [if_pos requested] at asked
    have done : ∃ w₁, perform r .popUp w = .ok .null w₁ := ⟨_, bindOk asked⟩
    obtain ⟨w₁, done⟩ := done
    simp [done, requested]
  · rw [if_neg requested] at asked
    have failed : perform r .popUp w = .error (.report popupReport) w := bindError asked
    simp [failed, requested, eq_comm]

structure Unnoticed (r : Nat) (w w' : World) : Prop where
  context : w'.context r = w.context r
  entries : w'.parameters (w.context r).parameters = w.parameters (w.context r).parameters
  looks : ∀ op, Operation.Looks op → (perform r op).yields w' = (perform r op).yields w
  spared : Spared w w'

/-- What is refused goes unnoticed, whatever was given, and each refusal has its one reason. -/
theorem refusalsGoUnnoticed (reachable : Reachable r w) :
    (∀ op w' f, Operation.Refusable op → perform r op w = .error f w' → Unnoticed r w w') ∧
    ((∃ f w', perform r .popUp w = .error f w') ↔
      perform r .isRedirectRequested w = .ok (.bool false) w) ∧
    (∀ f w', perform r .popUp w = .error f w' → f.kind = .redirectNotRequested) ∧
    (∀ v, (∃ f w', perform r (.assign .responseAllowed v) w = .error f w') ↔
      v ≠ .null ∧ ∀ b, v ≠ .bool b) ∧
    (∀ v f w', perform r (.assign .responseAllowed v) w = .error f w' →
      match (w.snapshot v).spell with
      | .ok spelling => f = .report (overrideReport spelling)
      | .error e => f = e) ∧
    (∀ name value, (w.context r).parameters.writable = false →
      perform r (.putParameter name value) w = .error readOnlyFault w) := by
  obtain ⟨formed, known⟩ := reachableFormed reachable
  have plain := formed.plain
  refine ⟨fun op w' f refusable failed => ?_, ?_, fun f w' failed => ?_, fun v => ?_,
    fun v f w' failed => ?_, fun name value readOnly => ?_⟩
  · have spares := refusalSpares refusable plain failed
    have plain' := World.plainKept (spared.attachments spares) plain
    exact ⟨spares.context r, spares.parameters (formed.owned r known),
      fun _ looks => looksSame looks plain plain' (by rw [spares.context])
        fun _ _ => by rw [spares.context], spares⟩
  · have told : perform r .isRedirectRequested w = .ok (.bool (w.context r).redirectRequested) w :=
      rfl
    simp [popUpFails plain, told]
  · rw [((popUpFails plain).mp failed).2.1]
    rfl
  · rw [← noOverride]
    simp [overrideFails]
  · rw [(overrideFails.mp failed).2.1]
    unfold overrideFault
    cases (w.snapshot v).spell <;> rfl
  · have refused : putParameter r name value w = .error readOnlyFault w := by
      rw [putParameterPlain plain, readOnly]
      rfl
    exact bindError refused

end Context

namespace Context

theorem badParametersGoUnnoticed :
    ∃ w w' f, Reachable 0 w ∧
      perform 0 (.assign .requestParameters (.dictionary 0)) w = .error f w' ∧
      f.kind = .attributeType ∧ Unnoticed 0 w w' := by
  let before : World := { dictionaries := [[(.text "a", .text "1"), (.text "b", .int 5)]] }
  have formed : before.Formed := by
    refine formedStart fun es mem => ?_
    rw [List.mem_singleton.mp mem]
    exact ⟨by decide, by decide⟩
  have reachable : Reachable 0 (started before) := reachableStarted formed
  obtain ⟨w', f, failed, about⟩ : ∃ w' f,
      perform 0 (.assign .requestParameters (.dictionary 0)) (started before) = .error f w' ∧
        f.kind = .attributeType := ⟨_, _, rfl, rfl⟩
  exact ⟨_, w', f, reachable, failed, about,
    (refusalsGoUnnoticed reachable).1 _ _ _ (.parameters _) failed⟩

theorem overrideWithoutSpelling :
    ¬ ∀ r w, Reachable r w → ∀ v f w',
      perform r (.assign .responseAllowed v) w = .error f w' → f.kind = .configuration := by
  intro all
  let before : World := { lists := [[.int 0]] }
  have formed : before.Formed := formedStart fun es mem => by contradiction
  have reachable : Reachable 0 (started before) := reachableStarted formed
  obtain ⟨w', f, failed, about⟩ : ∃ w' f,
      perform 0 (.assign .responseAllowed (.attributes 6 false (.list 0))) (started before) =
          .error f w' ∧
        f.kind = .wrongType := ⟨_, _, rfl, rfl⟩
  have kind := all 0 _ reachable _ f w' failed
  rw [about] at kind
  contradiction

end Context

end FlowDouble
