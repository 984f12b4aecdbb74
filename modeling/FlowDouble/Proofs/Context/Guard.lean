import FlowDouble.Context.Operation
import FlowDouble.Proofs.Entries
import FlowDouble.Proofs.Parameters.Filling
/-! The part of a context that decides about its response, as a machine of its own, and the proof
that every operation of a context moves that part as the machine does. -/
namespace FlowDouble

open FlowDouble.Action

def World.Sound (w : World) : Prop := ∀ es ∈ w.dictionaries, Entries.Sound es

theorem World.soundDictionary {w : World} (sound : w.Sound) (r : Nat) :
    (w.dictionary r).Sound := by
  unfold dictionary Heap.read
  cases h : w.dictionaries[r]? with
  | none => exact Entries.soundNil
  | some es => exact sound es (List.mem_of_getElem? h)

theorem World.setUnknownContext {w : World} {r : Nat} (unknown : ¬ r < w.contexts.length)
    (c : Context) : w.setContext r c = w := by
  simp only [setContext, Heap.write, List.set_eq_of_length_le (Nat.le_of_not_lt unknown)]

structure Steady (w w' : World) : Prop where
  contexts : w.contexts.length ≤ w'.contexts.length
  attachments : w'.attachments = w.attachments
  sound : w.Sound → w'.Sound

theorem steady : Effect Steady where
  refl _ := ⟨Nat.le_refl _, rfl, id⟩
  trans ab bc :=
    ⟨Nat.le_trans ab.contexts bc.contexts, bc.attachments.trans ab.attachments,
      fun sound => bc.sound (ab.sound sound)⟩
  attachments h := h.attachments

structure Guard where
  writer : Nat
  allowed : Option Bool
  complete : Bool
  executionRedirect : Bool
  flow : Value
  hasInput : Bool
  location : Value
  popup : Bool

def Context.guard (c : Context) : Guard where
  writer := c.writer
  allowed := c.allowed
  complete := c.complete
  executionRedirect := c.executionRedirect
  flow := c.redirectFlow
  hasInput := !c.redirectInput.isNull
  location := c.externalUrl
  popup := c.popup

namespace Guard

def redirectRequested (g : Guard) : Bool :=
  g.executionRedirect || !g.flow.isNull || !g.location.isNull

def after (g : Guard) : Context.Operation → Guard
  | .assign .responseAllowed .null => { g with allowed := none }
  | .assign .responseAllowed (.bool b) => { g with allowed := some b }
  | .recordComplete => { g with complete := true }
  | .redirectExecution => { g with executionRedirect := true, complete := true }
  | .redirectDefinition flow _ => { g with flow, hasInput := true, complete := true }
  | .redirectExternal location => { g with location, complete := true }
  | .popUp => { g with popup := g.popup || g.redirectRequested }
  | _ => g

end Guard

structure Moves (r : Nat) (f : Guard → Guard) (w w' : World) : Prop where
  steady : Steady w w'
  guard : (w'.context r).guard = f (w.context r).guard

namespace Moves

variable {r : Nat} {f g : Guard → Guard} {w w' w'' : World}

theorem trans (first : Moves r f w w') (second : Moves r g w' w'') :
    Moves r (g ∘ f) w w'' :=
  ⟨FlowDouble.steady.trans first.steady second.steady,
    by rw [second.guard, first.guard]; rfl⟩

theorem stays (r : Nat) : Effect (Moves r id) where
  refl w := ⟨FlowDouble.steady.refl w, rfl⟩
  trans ab bc := ab.trans bc
  attachments h := h.steady.attachments

theorem ofOnlyParameters (only : OnlyParameters w w') : Moves r id w w' := by
  rw [only]
  exact ⟨⟨Nat.le_refl _, rfl, id⟩, rfl⟩

theorem ofRecord (record : Record) :
    Moves r id w { w with trail := w.trail ++ [record] } :=
  ⟨⟨Nat.le_refl _, rfl, id⟩, rfl⟩

theorem ofTag : Moves r id w { w with tags := w.tags + 1 } := ⟨⟨Nat.le_refl _, rfl, id⟩, rfl⟩

theorem ofDictionary {d : Nat} {es : Entries} (sound : es.Sound) :
    Moves r id w (w.setDictionary d es) where
  steady := ⟨Nat.le_refl _, rfl, fun all ds mem => by
    rcases List.mem_or_eq_of_mem_set mem with old | new
    · exact all ds old
    · exact new ▸ sound⟩
  guard := rfl

theorem ofNewDictionary : Moves r id w { w with dictionaries := w.dictionaries.push [] } where
  steady := ⟨Nat.le_refl _, rfl, fun all ds mem => by
    rcases List.mem_append.mp mem with old | new
    · exact all ds old
    · exact List.mem_singleton.mp new ▸ Entries.soundNil⟩
  guard := rfl

theorem ofContext (c : Context) (known : r < w.contexts.length)
    (moved : c.guard = f (w.context r).guard) : Moves r f w (w.setContext r c) where
  steady := ⟨by simp [World.setContext, Heap.writeKeepsLength], rfl, id⟩
  guard := by
    rw [← moved]
    simp only [World.context, World.setContext, Heap.readWritten c known]

theorem ofChange {change : Context → Context} (kept : ∀ c, (change c).guard = c.guard) :
    Moves r id w (w.setContext r (change (w.context r))) := by
  by_cases known : r < w.contexts.length
  · exact ofContext _ known (kept _)
  · rw [World.setUnknownContext known]
    exact (stays r).refl w

end Moves

namespace Action

variable {α : Type} {r : Nat}

theorem changes {w : World} (f : Guard → Guard) (change : Context → Context)
    (known : r < w.contexts.length) (moved : ∀ c, (change c).guard = f c.guard) :
    ∃ w', Context.change r change w = .ok () w' ∧ Moves r f w w' :=
  ⟨_, rfl, .ofContext _ known (moved _)⟩

theorem records (r : Nat) (w : World) (entry : Record) :
    ∃ w', record entry w = .ok () w' ∧ Moves r id w w' := ⟨_, rfl, .ofRecord entry⟩

theorem shownText [Calls] (s : String) (w : World) : shown (.text s) w = .ok s w := by
  unfold shown
  rw [worldBind]
  rfl

theorem staysUnchanged {a : Action α} (h : Within Unchanged a) : Within (Moves r id) a :=
  withinUnchanged (Moves.stays r) h

theorem staysFilling {a : Action α} (h : Within OnlyParameters a) : Within (Moves r id) a :=
  withinMono Moves.ofOnlyParameters h

theorem staysChange {change : Context → Context} (kept : ∀ c, (change c).guard = c.guard) :
    Within (Moves r id) (Context.change r change) := withinModify fun _ => .ofChange kept

end Action

namespace Context

variable [Calls] {r : Nat}

theorem completes {w : World} (plain : w.Plain) (known : r < w.contexts.length) :
    ∃ w', askToComplete r w = .ok () w' ∧ Moves r (fun g => { g with complete := true }) w w' := by
  obtain ⟨w₁, h₁, m₁⟩ := changes (fun g => { g with complete := true })
    (fun c => { c with complete := true }) known fun _ => rfl
  obtain ⟨w₂, h₂, m₂⟩ := records r w₁ .complete
  refine ⟨w₂, ?_, m₁.trans m₂⟩
  have own : yieldNothing (recordComplete r) w = .ok .null w₂ := by
    unfold yieldNothing recordComplete
    rw [bindOk ((bindOk h₁).trans h₂)]
    rfl
  unfold askToComplete
  rw [bindOk (((Value.context r).answerUnhidden (plain _ _ (by decide)) _ _).trans own)]
  rfl

omit [Calls] in
theorem insertsEntry {d : Nat} {key : Value} (hashable : key.hashable = true) (value : Value)
    (w : World) : (Value.dictionary d).insertEntry key value w =
      .ok () (w.setDictionary d ((w.dictionary d).insert key value)) := by
  unfold Value.insertEntry
  rw [bindOk (keyAccepted hashable w)]
  rfl

theorem fillsPairs {d : Nat} {w : World} (sound : w.Sound) {pairs : List (Value × Value)}
    (hashable : ∀ p ∈ pairs, p.1.hashable = true) :
    ∃ w', Value.forPairs (Value.setItem (.dictionary d)) pairs w = .ok () w' ∧
      Moves r id w w' := by
  induction pairs generalizing w with
  | nil => exact ⟨w, rfl, (Moves.stays r).refl w⟩
  | cons p rest ih =>
    have key := hashable p List.mem_cons_self
    have first : Value.setItem (.dictionary d) p.1 p.2 w = _ := insertsEntry key p.2 w
    have move : Moves r id w (w.setDictionary d ((w.dictionary d).insert p.1 p.2)) :=
      .ofDictionary (Entries.soundInserted (w.soundDictionary sound d) key p.2)
    obtain ⟨w', done, moves⟩ := ih (move.steady.sound sound)
      fun q mem => hashable q (List.mem_cons_of_mem _ mem)
    exact ⟨w', (bindOk first).trans done, move.trans moves⟩

theorem fillsInput {d s : Nat} {source : Value} {w : World} (plain : w.Plain) (sound : w.Sound)
    (ends : source.root = .dictionary s) :
    ∃ w', Attributes.putAll (.dictionary d) source w = .ok () w' ∧ Moves r id w w' := by
  obtain ⟨w', done, moves⟩ := fillsPairs (r := r) (d := d) sound
    (w.soundDictionary sound s).hashable
  refine ⟨w', ?_, moves⟩
  unfold Attributes.putAll Value.update
  simp only
  rw [forEntriesMapping plain (Value.rootMapping ends), World.itemsOver ends]
  unfold Value.forYield
  rw [bindOk done]
  rfl

theorem redirectsExecution {w : World} (plain : w.Plain) (known : r < w.contexts.length) :
    ∃ w', redirectExecution r w = .ok () w' ∧
      Moves r (fun g => { g with executionRedirect := true, complete := true }) w w' := by
  obtain ⟨w₁, h₁, m₁⟩ := changes (fun g => { g with executionRedirect := true })
    (fun c => { c with executionRedirect := true }) known fun _ => rfl
  obtain ⟨w₂, h₂, m₂⟩ := records r w₁ .executionRedirect
  have before := m₁.trans m₂
  obtain ⟨w₃, h₃, m₃⟩ := completes (r := r) (World.plainKept before.steady.attachments plain)
    (Nat.lt_of_lt_of_le known before.steady.contexts)
  refine ⟨w₃, ?_, before.trans m₃⟩
  unfold redirectExecution
  rw [bindOk h₁, bindOk h₂, h₃]

theorem redirectsExternal {w : World} (plain : w.Plain) (known : r < w.contexts.length)
    (location : String) :
    ∃ w', redirectExternal r (.text location) w = .ok () w' ∧
      Moves r (fun g => { g with location := .text location, complete := true }) w w' := by
  obtain ⟨w₁, h₁, m₁⟩ := changes (fun g => { g with location := .text location })
    (fun c => { c with externalUrl := .text location }) known fun _ => rfl
  obtain ⟨w₂, h₂, m₂⟩ := records r w₁ (.externalRedirect location)
  have before := m₁.trans m₂
  obtain ⟨w₃, h₃, m₃⟩ := completes (r := r) (World.plainKept before.steady.attachments plain)
    (Nat.lt_of_lt_of_le known before.steady.contexts)
  refine ⟨w₃, ?_, before.trans m₃⟩
  unfold redirectExternal
  rw [bindOk h₁, bindOk (shownText location w₁), bindOk h₂, h₃]

def IsInput (input : Value) : Prop := input = .null ∨ ∃ d, input.root = .dictionary d

theorem takesInput (d tag : Nat) {input : Value} (proper : IsInput input) {w : World}
    (plain : w.Plain) (sound : w.Sound) :
    ∃ w', (if !input.isNull then fillInput (.attributes tag false (.dictionary d)) input
        else pure () : Action Unit) w = .ok () w' ∧ Moves r id w w' := by
  rcases proper with rfl | ⟨s, ends⟩
  · exact ⟨w, rfl, (Moves.stays r).refl w⟩
  · have given : input.isNull = false := by
      cases input <;> first | rfl | simp [Value.root] at ends
    simp only [given, Bool.not_false, if_true]
    exact fillsInput plain sound ends

theorem redirectsDefinition {w : World} (plain : w.Plain) (sound : w.Sound)
    (known : r < w.contexts.length) (flow : String) {input : Value} (proper : IsInput input) :
    ∃ w', redirectDefinition r (.text flow) input w = .ok () w' ∧
      Moves r (fun g => { g with flow := .text flow, hasInput := true, complete := true })
        w w' := by
  obtain ⟨w₁, h₁, m₁⟩ := changes (fun g => { g with flow := .text flow })
    (fun c => { c with redirectFlow := .text flow }) known fun _ => rfl
  let own : Value := .attributes w₁.tags false (.dictionary w₁.dictionaries.length)
  let w₂ : World :=
    { w₁ with dictionaries := w₁.dictionaries.push [], tags := w₁.tags + 1 }
  have h₂ : newAttributes false .null w₁ = .ok own w₂ := rfl
  have m₂ := m₁.trans (Moves.ofNewDictionary.trans Moves.ofTag : Moves r id w₁ w₂)
  obtain ⟨w₃, h₃, m₃⟩ := changes (fun g => { g with hasInput := true })
    (fun c => { c with redirectInput := own })
    (Nat.lt_of_lt_of_le known m₂.steady.contexts) fun _ => rfl
  have m₃ := m₂.trans m₃
  obtain ⟨w₄, h₄, m₄⟩ := takesInput (r := r) w₁.dictionaries.length w₁.tags
    proper (World.plainKept m₃.steady.attachments plain) (m₃.steady.sound sound)
  obtain ⟨w₅, h₅, m₅⟩ := records r w₄ (.definitionRedirect flow)
  have before := (m₃.trans m₄).trans m₅
  obtain ⟨w₆, h₆, m₆⟩ := completes (r := r) (World.plainKept before.steady.attachments plain)
    (Nat.lt_of_lt_of_le known before.steady.contexts)
  refine ⟨w₆, ?_, before.trans m₆⟩
  unfold redirectDefinition
  rw [bindOk h₁, bindOk h₂, bindOk h₃]
  split at h₄
  · rename_i given
    simp only [given, if_true]
    rw [bindOk h₄, bindOk (shownText flow w₄), bindOk h₅, h₆]
  · rename_i absent
    simp only [absent, Bool.false_eq_true, if_false]
    cases h₄
    rw [bindOk (shownText flow w₃), bindOk h₅, h₆]

theorem asksRedirect {w : World} (plain : w.Plain) :
    isRedirectRequested r w = .ok (.bool (w.context r).redirectRequested) w :=
  (Value.context r).answerUnhidden (plain _ _ (by decide)) _ _

theorem asksAllowed {w : World} (plain : w.Plain) :
    isResponseAllowed r w = .ok (.bool (w.context r).responseAllowed) w :=
  (Value.context r).answerUnhidden (plain _ _ (by decide)) _ _

omit [Calls] in
theorem truthOfBool (b : Bool) (w : World) : truthy (.bool b) w = .ok b w := rfl

theorem popsUp {w : World} (plain : w.Plain) :
    popUp r w =
      if (w.context r).redirectRequested then
        (do change r fun c => { c with popup := true }; record .popup : Action Unit) w
      else .error (.report {
        diagnosis := .redirectNotRequested
        message := .text Report.popupMessage
        suggestions := [.text "Request a redirect first, then mark it as a popup redirect"] }) w := by
  unfold popUp
  rw [bindOk (asksRedirect plain), bindOk (truthOfBool _ w)]
  split <;> rfl

theorem movesPopUp {w : World} (plain : w.Plain) (known : r < w.contexts.length) :
    Moves r (fun g => { g with popup := g.popup || g.redirectRequested }) w
      ((popUp r).leaves w) := by
  have requested : (w.context r).redirectRequested = (w.context r).guard.redirectRequested := rfl
  cases h : (w.context r).guard.redirectRequested with
  | true =>
    obtain ⟨w₁, h₁, m₁⟩ := changes (fun g => { g with popup := true })
      (fun c => { c with popup := true }) known fun _ => rfl
    obtain ⟨w₂, h₂, m₂⟩ := records r w₁ .popup
    have done : popUp r w = .ok () w₂ := by
      rw [popsUp plain, requested, h, if_pos rfl, bindOk h₁, h₂]
    have moves := m₁.trans m₂
    rw [leavesOk done]
    exact ⟨moves.steady, by rw [moves.guard]; simp [h]⟩
  | false =>
    have refused := popsUp (r := r) plain
    rw [requested, h, if_neg Bool.false_ne_true] at refused
    rw [leavesError refused]
    exact ⟨steady.refl w, by simp [h]⟩

def isOverride : Value → Bool
  | .null | .bool _ => true
  | _ => false

theorem refusesOverride {v : Value} (other : isOverride v = false) : Refuses (overrideOf v) := by
  have message : overrideOf v = (do
      let s ← spelled v
      refuseWith (Report.configuration (← world)
        (.text ("response_allowed must be True, False or None, not " ++ s))
        (.text "response_allowed") []) : Action (Option Bool)) := by
    cases v <;> first | rfl | contradiction
  rw [message]
  refine refusesBind (fun _ => ofExceptStays _ _) fun _ w => ?_
  rw [worldBind]
  exact refusesWith _ w

theorem readsOverride (v : Value) : Within Unchanged (overrideOf v) := by
  unfold overrideOf
  split
  · exact withinPure unchanged _
  · exact withinPure unchanged _
  · refine withinBind unchanged (readsSpelled _) fun _ => ?_
    exact withinBind unchanged (withinWorld unchanged) fun _ => readsRefusal _

theorem movesOverride {w : World} (known : r < w.contexts.length) (v : Value) :
    Moves r (·.after (.assign .responseAllowed v)) w ((assign r .responseAllowed v).leaves w) := by
  cases accepted : isOverride v with
  | true => cases v <;> first | contradiction | exact .ofContext _ known rfl
  | false =>
    obtain ⟨f, refused⟩ := refusesOverride accepted w
    have failed : assign r .responseAllowed v w = .error f w := bindError refused
    rw [leavesError failed]
    refine ⟨steady.refl w, ?_⟩
    cases v <;> first | contradiction | rfl

omit [Calls] in
theorem principalStays (v : Value) : Within (Moves r id) (principalOf v) := by
  unfold principalOf
  split
  · exact withinBind (Moves.stays r) (withinModifyGet fun _ => .ofTag)
      fun _ => withinPure (Moves.stays r) _
  · exact withinPure (Moves.stays r) _

theorem assignStays {s : Setting} (other : s ≠ .responseAllowed) (v : Value) :
    Within (Moves r id) (assign r s v) := by
  unfold assign
  cases s with
  | responseAllowed => contradiction
  | requestParameters =>
    exact withinBind (Moves.stays r) (staysFilling (parametersOfFills v))
      fun _ => staysChange fun _ => rfl
  | currentUser =>
    exact withinBind (Moves.stays r) (principalStays v) fun _ => staysChange fun _ => rfl
  | _ => exact staysChange fun _ => rfl

omit [Calls] in
theorem readsReading (r : Nat) (g : Reading) : Within Unchanged (read r g) := by
  refine withinBind unchanged (withinWorld unchanged) fun w => ?_
  cases g with
  | writableParameters =>
    exact withinBind unchanged (readsWritable r) fun _ => withinPure unchanged _
  | _ => exact withinPure unchanged _

theorem readsAllowed (r : Nat) : Within Unchanged (isResponseAllowed r) :=
  withinAnswer (by decide) (withinBind unchanged (withinWorld unchanged)
    fun _ => withinPure unchanged _)

theorem readsSetting (r : Nat) (s : Setting) : Within Unchanged (readSetting r s) := by
  cases s with
  | responseAllowed => exact readsAllowed r
  | _ => exact withinBind unchanged (withinWorld unchanged) fun _ => withinPure unchanged _

theorem readsUrl (flow key : Value) : Within Unchanged (executionUrl flow key) :=
  withinBind unchanged (readsShown flow) fun _ =>
    withinBind unchanged (readsShown key) fun _ => withinPure unchanged _

theorem readsWriter (r : Nat) : Within Unchanged (responseWriter r) := by
  refine withinBind unchanged (readsAllowed r) fun v => ?_
  refine withinBind unchanged (readsTruthy v) fun allowed => ?_
  refine withinBind unchanged (withinWorld unchanged) fun w => ?_
  exact withinIte _ (withinPure unchanged _) (withinThrow unchanged _)

def Operation.reads : Operation → Bool
  | .setting _ | .reading _ | .isAjaxRequest | .executionUrl .. | .responseWriter
  | .isResponseAllowed | .isResponseComplete | .isCompleteByExecutionRedirect
  | .isRedirectRequested => true
  | _ => false

theorem performReads {op : Operation} (reads : op.reads = true) :
    Within Unchanged (perform r op) := by
  have answering (f : World → Value) :
      Within Unchanged (do return f (← world) : Action Value) :=
    withinBind unchanged (withinWorld unchanged) fun _ => withinPure unchanged _
  cases op with
  | setting s => exact readsSetting r s
  | reading g => exact readsReading r g
  | executionUrl flow key => exact readsUrl flow key
  | responseWriter => exact readsWriter r
  | isAjaxRequest | isResponseAllowed | isResponseComplete | isCompleteByExecutionRedirect
  | isRedirectRequested => exact answering _
  | _ => contradiction

def Operation.Proper : Operation → Prop
  | .redirectDefinition flow input => (∃ s, flow = .text s) ∧ IsInput input
  | .redirectExternal location => ∃ s, location = .text s
  | _ => True

omit [Calls] in
theorem movesYield {f : Guard → Guard} {a : Action Unit} {w : World}
    (h : Moves r f w (a.leaves w)) : Moves r f w ((yieldNothing a).leaves w) := by
  have same : (yieldNothing a).leaves w = a.leaves w := leavesThenPure a _ w
  rwa [same]

theorem performMoves {w : World} (plain : w.Plain) (sound : w.Sound)
    (known : r < w.contexts.length) {op : Operation} (proper : op.Proper) :
    Moves r (·.after op) w ((perform r op).leaves w) := by
  cases reads : op.reads with
  | true =>
    have same : (fun g : Guard => g.after op) = id := by
      funext g
      cases op <;> first | rfl | contradiction
    rw [same]
    exact staysUnchanged (performReads reads) w plain
  | false =>
    cases op with
    | assign s v =>
      by_cases override : s = .responseAllowed
      · subst override
        exact movesYield (movesOverride known v)
      · have same : ∀ g : Guard, g.after (.assign s v) = g := by
          intro g
          cases s <;> first | rfl | contradiction
        rw [funext same]
        exact movesYield (assignStays override v w plain)
    | recordComplete =>
      obtain ⟨w₁, h₁, m₁⟩ := changes (fun g => { g with complete := true })
        (fun c => { c with complete := true }) known fun _ => rfl
      obtain ⟨w₂, h₂, m₂⟩ := records r w₁ .complete
      have done : recordComplete r w = .ok () w₂ := (bindOk h₁).trans h₂
      exact movesYield (leavesOk done ▸ m₁.trans m₂)
    | redirectExecution =>
      obtain ⟨w', done, moves⟩ := redirectsExecution plain known
      exact movesYield (leavesOk done ▸ moves)
    | redirectDefinition flow input =>
      obtain ⟨⟨s, rfl⟩, input⟩ := proper
      obtain ⟨w', done, moves⟩ := redirectsDefinition plain sound known s input
      exact movesYield (leavesOk done ▸ moves)
    | redirectExternal location =>
      obtain ⟨s, rfl⟩ := proper
      obtain ⟨w', done, moves⟩ := redirectsExternal plain known s
      exact movesYield (leavesOk done ▸ moves)
    | popUp => exact movesYield (movesPopUp plain known)
    | putParameter name value =>
      exact movesYield (staysFilling (putParameterFills r name value) w plain)
    | setEvent event => exact movesYield (staysFilling (setEventFills r event) w plain)
    | _ => contradiction

end Context

end FlowDouble
