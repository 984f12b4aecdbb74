import FlowDouble.Proofs.Context.Fresh
import FlowDouble.Proofs.Context.Input
import FlowDouble.Proofs.Context.Settings
import FlowDouble.Proofs.Handlers.Layers
import FlowDouble.Proofs.Uses.Maps
/-! The two sessions of a context: its own and the one shared across applications. They start out as
one map. Each is replaced by what is assigned to it, and neither follows the other. -/
namespace FlowDouble.Context

open FlowDouble.Action

structure Sessions where
  own : Value
  shared : Value

def sessions (c : Context) : Sessions := ⟨c.sessionMap, c.globalSessionMap⟩

inductive SessionChange where
  | own (map : Value)
  | shared (map : Value)

namespace SessionChange

def own? : SessionChange → Option Value
  | own map => some map
  | shared _ => none

def shared? : SessionChange → Option Value
  | own _ => none
  | shared map => some map

end SessionChange

def lastMap (map : Value) (assigned : List Value) : Value := assigned.getLast?.getD map

theorem lastMapCons (map v : Value) (assigned : List Value) :
    lastMap map (v :: assigned) = lastMap v assigned := by
  simp only [lastMap, List.getLast?_cons, Option.getD_some]

theorem lastMapFirst {map : Value} {assigned : List Value} :
    lastMap map assigned = map ↔ assigned = [] ∨ assigned.getLast? = some map := by
  unfold lastMap
  cases last : assigned.getLast? with
  | none => simp [List.getLast?_eq_none_iff.mp last]
  | some v =>
    have given : assigned ≠ [] := by
      intro none
      rw [none] at last
      contradiction
    simp [given]

namespace Sessions

def replace (s : Sessions) : SessionChange → Sessions
  | .own map => { s with own := map }
  | .shared map => { s with shared := map }

def replaceAll (s : Sessions) (changes : List SessionChange) : Sessions := changes.foldl replace s

theorem replaceAllLast (s : Sessions) (changes : List SessionChange) :
    s.replaceAll changes = ⟨lastMap s.own (changes.filterMap SessionChange.own?),
      lastMap s.shared (changes.filterMap SessionChange.shared?)⟩ := by
  induction changes generalizing s with
  | nil => rfl
  | cons change rest ih =>
    have step : s.replaceAll (change :: rest) = (s.replace change).replaceAll rest := rfl
    rw [step, ih]
    cases change with
    | own map =>
      have owns : (SessionChange.own map :: rest).filterMap SessionChange.own? =
          map :: rest.filterMap SessionChange.own? := rfl
      rw [owns, lastMapCons]
      rfl
    | shared map =>
      have shareds : (SessionChange.shared map :: rest).filterMap SessionChange.shared? =
          map :: rest.filterMap SessionChange.shared? := rfl
      rw [shareds, lastMapCons]
      rfl

end Sessions

structure Replaces (r : Nat) (changes : List SessionChange) (w w' : World) : Prop where
  attachments : w'.attachments = w.attachments
  contexts : w.contexts.length ≤ w'.contexts.length
  sessions : (w'.context r).sessions = (w.context r).sessions.replaceAll changes

abbrev KeepsSessions (r : Nat) : World → World → Prop := Replaces r []

namespace Replaces

variable {r : Nat} {changes changes' : List SessionChange} {w w' w'' : World}

theorem trans (first : Replaces r changes w w') (second : Replaces r changes' w' w'') :
    Replaces r (changes ++ changes') w w'' where
  attachments := second.attachments.trans first.attachments
  contexts := Nat.le_trans first.contexts second.contexts
  sessions := by
    rw [second.sessions, first.sessions]
    exact List.foldl_append.symm

theorem ofSame (attachments : w'.attachments = w.attachments)
    (contexts : w'.contexts = w.contexts) : KeepsSessions r w w' where
  attachments := attachments
  contexts := Nat.le_of_eq (congrArg List.length contexts.symm)
  sessions := by
    simp only [World.context, contexts]
    rfl

theorem ofContext (known : r < w.contexts.length) {c : Context}
    (same : c.sessions = (w.context r).sessions.replaceAll changes) :
    Replaces r changes w (w.setContext r c) where
  attachments := rfl
  contexts := Nat.le_of_eq (Heap.writeKeepsLength _ _ _).symm
  sessions := by
    simpa only [World.context, World.setContext, Heap.readWritten c known] using same

theorem ofKept {c : Context} (same : c.sessions = (w.context r).sessions) :
    KeepsSessions r w (w.setContext r c) := by
  by_cases known : r < w.contexts.length
  · exact .ofContext known same
  · rw [World.setUnknownContext known]
    exact .ofSame rfl rfl

end Replaces

theorem keepsSessions (r : Nat) : Effect (KeepsSessions r) where
  refl _ := .ofSame rfl rfl
  trans ab bc := ab.trans bc
  attachments h := h.attachments

def assigned : Setting → Value → List SessionChange
  | .sessionMap, v => [.own v]
  | .globalSessionMap, v => [.shared v]
  | _, _ => []

def Operation.replaced : Operation → List SessionChange
  | .assign s v => assigned s v
  | _ => []

section
variable [Calls] {r : Nat} {w w' : World}

omit [Calls] in
theorem changeKeeps {change : Context → Context} (kept : ∀ c, (change c).sessions = c.sessions) :
    Within (KeepsSessions r) (Context.change r change) := withinModify fun _ => .ofKept (kept _)

omit [Calls] in
theorem recordKeeps (entry : Record) : Within (KeepsSessions r) (record entry) :=
  withinModify fun _ => .ofSame rfl rfl

omit [Calls] in
theorem fillingKeeps {α : Type} {a : Action α} (fills : Within OnlyParameters a) :
    Within (KeepsSessions r) a := by
  refine withinMono (fun only => ?_) fills
  rw [only]
  exact .ofSame rfl rfl

omit [Calls] in
theorem throughKeeps {root : Value} {α : Type} {a : Action α} (h : Within (Through root) a) :
    Within (KeepsSessions r) a := withinMono (fun h => .ofSame h.attachments h.contexts) h

theorem assignReplaces (s : Setting) (v : Value) (plain : w.Plain) (known : r < w.contexts.length) :
    Replaces r (assigned s v) w ((assign r s v).leaves w) := by
  have effect := keepsSessions r
  cases s with
  | sessionMap => exact .ofContext known rfl
  | globalSessionMap => exact .ofContext known rfl
  | requestParameters =>
    refine withinBind effect (fillingKeeps (parametersOfFills v)) (fun _ => ?_) w plain
    exact changeKeeps fun _ => rfl
  | currentUser =>
    refine withinBind effect ?_ (fun _ => ?_) w plain
    · unfold principalOf
      split
      · exact withinBind effect (withinModifyGet fun _ => .ofSame rfl rfl)
          fun _ => withinPure effect _
      · exact withinPure effect _
    · exact changeKeeps fun _ => rfl
  | responseAllowed =>
    refine withinBind effect (withinUnchanged effect (readsOverride v)) (fun _ => ?_) w plain
    exact changeKeeps fun _ => rfl
  | _ => exact .ofKept rfl

theorem askToCompleteKeeps : Within (KeepsSessions r) (askToComplete r) := by
  have effect := keepsSessions r
  refine withinBind effect (withinAnswer (by decide) ?_) fun _ => withinPure effect _
  refine withinBind effect ?_ fun _ => withinPure effect _
  exact withinBind effect (changeKeeps fun _ => rfl) fun _ => recordKeeps _

omit [Calls] in
theorem begunKeeps (r : Nat) (flow : Value) (w : World) : KeepsSessions r w (begun r flow w) := by
  let w₁ := w.setContext r { w.context r with redirectFlow := flow }
  let w₂ : World := { w₁ with dictionaries := w.dictionaries.push [], tags := w.tags + 1 }
  have first : KeepsSessions r w w₁ := .ofKept rfl
  have made : KeepsSessions r w₁ w₂ := .ofSame rfl rfl
  have second : KeepsSessions r w₂ (begun r flow w) := .ofKept rfl
  exact first.trans (made.trans second)

theorem redirectDefinitionKeeps (flow input : Value) :
    Within (KeepsSessions r) (redirectDefinition r flow input) := by
  intro w plain
  have effect := keepsSessions r
  have filling : Within (KeepsSessions r) (fills (ownInput w) input) :=
    withinIte _ (withinPure effect ())
      (throughKeeps (Attributes.putAllThrough (.dictionary w.dictionaries.length) input))
  have announcing : Within (KeepsSessions r) (announces r flow) := by
    refine withinBind effect (withinUnchanged effect (readsShown flow)) fun _ => ?_
    exact withinBind effect (recordKeeps _) fun _ => askToCompleteKeeps
  have plain : (begun r flow w).Plain := plain
  have run : (redirectDefinition r flow input).leaves w =
      (fills (ownInput w) input >>= fun _ => announces r flow).leaves (begun r flow w) := by
    simp only [leaves, redirectBegins]
  rw [run]
  exact (begunKeeps r flow w).trans
    (withinBind effect filling (fun _ => announcing) (begun r flow w) plain)

theorem popUpKeeps : Within (KeepsSessions r) (popUp r) := by
  intro w plain
  have effect := keepsSessions r
  have asked := popsUp (r := r) plain
  have marked : Within (KeepsSessions r) (do
      change r fun c => { c with popup := true }
      record .popup : Action Unit) :=
    withinBind effect (changeKeeps fun _ => rfl) fun _ => recordKeeps _
  by_cases requested : (w.context r).redirectRequested = true
  · rw [if_pos requested] at asked
    rw [leavesSame asked]
    exact marked w plain
  · rw [if_neg requested] at asked
    rw [leavesError asked]
    exact effect.refl w

theorem performReplaces (op : Operation) (plain : w.Plain) (known : r < w.contexts.length) :
    Replaces r op.replaced w ((perform r op).leaves w) := by
  have effect := keepsSessions r
  have yielding {a : Action Unit} (h : Within (KeepsSessions r) a) :
      KeepsSessions r w ((yieldNothing a).leaves w) :=
    withinBind effect h (fun _ => withinPure effect _) w plain
  cases reads : op.reads with
  | true =>
    have none : op.replaced = [] := by cases op <;> first | rfl | contradiction
    rw [none]
    exact withinUnchanged effect (performReads reads) w plain
  | false =>
    cases op with
    | assign s v =>
      have same : (perform r (.assign s v)).leaves w = (assign r s v).leaves w :=
        leavesThenPure _ _ w
      rw [same]
      exact assignReplaces s v plain known
    | recordComplete =>
      exact yielding (withinBind effect (changeKeeps fun _ => rfl) fun _ => recordKeeps _)
    | redirectExecution =>
      refine yielding (withinBind effect (changeKeeps fun _ => rfl) fun _ => ?_)
      exact withinBind effect (recordKeeps _) fun _ => askToCompleteKeeps
    | redirectDefinition flow input => exact yielding (redirectDefinitionKeeps flow input)
    | redirectExternal location =>
      refine yielding (withinBind effect (changeKeeps fun _ => rfl) fun _ => ?_)
      refine withinBind effect (withinUnchanged effect (readsShown location)) fun _ => ?_
      exact withinBind effect (recordKeeps _) fun _ => askToCompleteKeeps
    | popUp => exact yielding popUpKeeps
    | putParameter name value => exact yielding (fillingKeeps (putParameterFills r name value))
    | setEvent event => exact yielding (fillingKeeps (setEventFills r event))
    | _ => contradiction

def replacedByEach {α : Type} (step : α → Action Unit) (replaced : α → World → List SessionChange) :
    List α → World → List SessionChange
  | [], _ => []
  | x :: rest, w => replaced x w ++
    match step x w with
    | .ok _ w' => replacedByEach step replaced rest w'
    | .error _ _ => []

omit [Calls] in
theorem eachReplaces {α : Type} {step : α → Action Unit}
    {replaced : α → World → List SessionChange}
    (one : ∀ x w, w.Plain → r < w.contexts.length →
      Replaces r (replaced x w) w ((step x).leaves w))
    (items : List α) (plain : w.Plain) (known : r < w.contexts.length) :
    Replaces r (replacedByEach step replaced items w) w ((items.forM step).leaves w) := by
  induction items generalizing w with
  | nil => exact (keepsSessions r).refl w
  | cons x rest ih =>
    have first := one x w plain known
    have run : (x :: rest).forM step = (do step x; rest.forM step) := rfl
    rw [run]
    unfold replacedByEach
    cases done : step x w with
    | error f w' =>
      rw [leavesError done] at first
      rw [leavesError (bindError done), List.append_nil]
      exact first
    | ok u w' =>
      rw [leavesOk done] at first
      rw [leavesBind done]
      have later := ih (World.plainKept first.attachments plain)
        (Nat.lt_of_lt_of_le known first.contexts)
      exact first.trans later

def replacedByField (field : String × Value) : List SessionChange :=
  match Field.named? field.1 with
  | some (.setting s) => assigned s field.2
  | _ => []

def replacedBySeed (r : Nat) (fields : List (String × Value)) (w : World) : List SessionChange :=
  if fields.any (·.1 == reservedField) then []
  else replacedByEach (fun f => seedField r f.1 f.2) (fun f _ => replacedByField f) fields w

def replacedByLayers (r : Nat) (layers : List Fields) (w : World) : List SessionChange :=
  replacedByEach (seed r) (replacedBySeed r) layers w

theorem fieldReplaces (field : String × Value) (plain : w.Plain) (known : r < w.contexts.length) :
    Replaces r (replacedByField field) w ((seedField r field.1 field.2).leaves w) := by
  have effect := keepsSessions r
  unfold replacedByField seedField
  cases Field.named? field.1 with
  | none =>
    refine withinUnchanged effect ?_ w plain
    exact withinBind unchanged (withinWorld unchanged) fun _ => readsRefusal _
  | some found =>
    cases found with
    | setting s => exact assignReplaces s field.2 plain known
    | parameters =>
      have fills := withinForItems onlyParameters field.2 (askToPutFills r)
      exact fillingKeeps fills w plain
    | event => exact fillingKeeps (askToSignalFills r field.2) w plain

theorem seedAllEach (fields : List (String × Value)) :
    seedAll r fields = fields.forM fun f => seedField r f.1 f.2 := by
  induction fields with
  | nil => rfl
  | cons f rest ih =>
    unfold seedAll
    rw [ih]
    rfl

theorem seedReplaces (fields : List (String × Value)) (plain : w.Plain)
    (known : r < w.contexts.length) :
    Replaces r (replacedBySeed r fields w) w ((seed r fields).leaves w) := by
  unfold replacedBySeed seed checkReserved
  split
  · exact (keepsSessions r).refl w
  · rw [seedAllEach]
    exact eachReplaces (fun f _ plain known => fieldReplaces f plain known) fields plain known

theorem prepareAllEach (layers : List Fields) (placed : List Value) :
    Decorated.prepareAll layers (.context r :: placed) = (do
      layers.forM (seed r)
      return .context r :: placed) := by
  induction layers with
  | nil => rfl
  | cons fields layers ih =>
    have step : Decorated.prepareAll (fields :: layers) (.context r :: placed) = (do
        seed r fields
        Decorated.prepareAll layers (.context r :: placed)) := by
      simp only [Decorated.prepareAll, Decorated.prepare, bind_assoc, pure_bind]
    rw [step, ih]
    exact (bind_assoc _ _ _).symm

theorem layersReplace (layers : List Fields) (placed : List Value) (plain : w.Plain)
    (known : r < w.contexts.length) :
    Replaces r (replacedByLayers r layers w) w
      ((Decorated.prepareAll layers (.context r :: placed)).leaves w) := by
  rw [prepareAllEach, leavesThenPure]
  exact eachReplaces (fun fields _ plain known => seedReplaces fields plain known) layers plain known

/-- Whatever is done with a context, with the sessions replaced on the way. A decorated handler that
is called with the context seeds it by its layers; what the handler does then is done with the
context like all else. -/
inductive Course (r : Nat) (w₁ : World) : List SessionChange → World → Prop where
  | start : Course r w₁ [] w₁
  | asked {changes w} (before : Course r w₁ changes w) (op : Operation) :
      Course r w₁ (changes ++ op.replaced) ((perform r op).leaves w)
  | seeded {changes w} (before : Course r w₁ changes w) (fields : List (String × Value)) :
      Course r w₁ (changes ++ replacedBySeed r fields w) ((seed r fields).leaves w)
  | called {changes w} (before : Course r w₁ changes w) (layers : List Fields)
      (placed : List Value) : Course r w₁ (changes ++ replacedByLayers r layers w)
        ((Decorated.prepareAll layers (.context r :: placed)).leaves w)
  | used {changes w} (before : Course r w₁ changes w) (use : Use)
      (calm : use.Calm (KeepsSessions r)) : Course r w₁ changes (use.act.leaves w)
  | elsewhere {changes w w'} (before : Course r w₁ changes w) (keeps : KeepsSessions r w w') :
      Course r w₁ changes w'

theorem courseReplaces {changes : List SessionChange} {w₁ : World} (course : Course r w₁ changes w)
    (plain : w₁.Plain) (known : r < w₁.contexts.length) : Replaces r changes w₁ w := by
  have later {changes : List SessionChange} {w : World} (before : Replaces r changes w₁ w) :
      w.Plain ∧ r < w.contexts.length :=
    ⟨World.plainKept before.attachments plain, Nat.lt_of_lt_of_le known before.contexts⟩
  have aside {changes : List SessionChange} {w w' : World} (before : Replaces r changes w₁ w)
      (keeps : KeepsSessions r w w') : Replaces r changes w₁ w' := by
    have both := before.trans keeps
    rwa [List.append_nil] at both
  -- A step is told of a world that is plain and has the context: `later` finds both in what the
  -- steps before it replaced.
  induction course with
  | start => exact (keepsSessions r).refl w₁
  | asked before op ih => exact ih.trans (performReplaces op (later ih).1 (later ih).2)
  | seeded before fields ih => exact ih.trans (seedReplaces fields (later ih).1 (later ih).2)
  | called before layers placed ih =>
    exact ih.trans (layersReplace layers placed (later ih).1 (later ih).2)
  | used before use calm ih =>
    refine aside ih (use.within (keepsSessions r) (fun h => ?_) calm _ (later ih).1)
    exact .ofSame h.attachments h.contexts
  | elsewhere before keeps ih => exact aside ih keeps

theorem createdSessions {source : Value} {w₀ w₁ : World} (made : create source w₀ = .ok r w₁) :
    (w₁.context r).globalSessionMap = (w₁.context r).sessionMap := by
  obtain ⟨m, w, _, rest⟩ := bindInv made
  clear made
  cases rest
  simp only [World.context, Heap.readPushed]

theorem courseSessions {source : Value} {w₀ w₁ : World} {changes : List SessionChange}
    (plain : w₀.Plain) (made : create source w₀ = .ok r w₁) (course : Course r w₁ changes w) :
    w.Plain ∧ (w.context r).sessions =
      ⟨lastMap (w₁.context r).sessionMap (changes.filterMap SessionChange.own?),
        lastMap (w₁.context r).sessionMap (changes.filterMap SessionChange.shared?)⟩ := by
  have steady := createSteady source w₀ plain
  rw [leavesOk made] at steady
  have plain₁ := World.plainKept steady.attachments plain
  have replaces := courseReplaces course plain₁ (createdFresh made).1
  have one : (w₁.context r).sessions =
      ⟨(w₁.context r).sessionMap, (w₁.context r).sessionMap⟩ := by
    rw [Context.sessions, createdSessions made]
  refine ⟨World.plainKept replaces.attachments plain₁, ?_⟩
  rw [replaces.sessions, Sessions.replaceAllLast, one]

/-- The sessions of a context are the last maps assigned to them, or else the one map that the
context was made with. So it is not only an assignment of the shared one that parts them: one
assigned to the other parts them as well, and then what is done with that one does not show in the
shared one. -/
theorem sessionsDoNotFollowEachOther {source : Value} {w₀ w₁ : World}
    {changes : List SessionChange} (plain : w₀.Plain) (made : create source w₀ = .ok r w₁)
    (course : Course r w₁ changes w) :
    let first := (w₁.context r).sessionMap
    let owns := changes.filterMap SessionChange.own?
    let shareds := changes.filterMap SessionChange.shared?
    perform r (.setting .sessionMap) w = .ok (lastMap first owns) w ∧
    perform r (.setting .globalSessionMap) w = .ok (lastMap first shareds) w ∧
    (shareds = [] → ((w.context r).globalSessionMap = (w.context r).sessionMap ↔
      owns = [] ∨ owns.getLast? = some first)) ∧
    ∀ (use : Use) d, (lastMap first shareds).root = .dictionary d →
      d < w.dictionaries.length → use.target.root = (lastMap first owns).root →
      (lastMap first owns).root ≠ .dictionary d → use.Calm (Through use.target.root) →
      (use.act.leaves w).items (lastMap first shareds) = w.items (lastMap first shareds) := by
  obtain ⟨plain', sessions⟩ := courseSessions plain made course
  obtain ⟨own, shared⟩ := Sessions.mk.inj sessions
  refine ⟨?_, ?_, fun none => ?_, fun use d ends known same other calm => ?_⟩
  · rw [← own]
    rfl
  · rw [← shared]
    rfl
  · rw [shared, own, none]
    exact Iff.trans eq_comm lastMapFirst
  · have through := use.within (through _) id calm w plain'
    have kept := through.dictionaries d known (same ▸ other)
    rw [World.itemsOver ends, World.itemsOver ends, kept]

end

theorem replacedSessionParts :
    ∃ w₁ changes w, Course 0 w₁ changes w ∧
      changes.filterMap SessionChange.shared? = [] ∧
      perform 0 (.setting .sessionMap) w = .ok (.attributes 9 true (.dictionary 0)) w ∧
      perform 0 (.setting .globalSessionMap) w = .ok (.attributes 1 true (.dictionary 2)) w ∧
      w.items (.attributes 9 true (.dictionary 0)) = ⟨[(.text "user", .text "ann")], none⟩ ∧
      w.items (.attributes 1 true (.dictionary 2)) = ⟨[], none⟩ := by
  let w₀ : World := { dictionaries := [[]] }
  let other : Value := .attributes 9 true (.dictionary 0)
  let use : Use := .setItem other (.text "user") (.text "ann")
  have calm {R : World → World → Prop} : use.Calm R := fun converter called => by
    simp [use, Use.converter?] at called
  have plain : w₀.Plain := fun _ _ _ => rfl
  have made : create .null w₀ = .ok 0 (started w₀) := createStarts w₀
  have fresh : Course 0 (started w₀) [] (started w₀) := .start
  have assigned := fresh.asked (.assign .sessionMap other)
  have course := assigned.used use calm
  obtain ⟨own, shared, _, _⟩ := sessionsDoNotFollowEachOther plain made course
  obtain ⟨_, _, _, apart⟩ := sessionsDoNotFollowEachOther plain made assigned
  have ends : Value.dictionary 0 ≠ .dictionary 2 := by simp
  have kept := apart use 2 rfl (by decide) rfl ends calm
  exact ⟨_, _, _, course, rfl, own, shared, rfl, kept⟩

theorem sessionReplacedAlone :
    ¬ ∀ (w₀ w₁ w : World) (r : Nat) (changes : List SessionChange), w₀.Plain →
      create .null w₀ = .ok r w₁ → Course r w₁ changes w →
      changes.filterMap SessionChange.shared? = [] →
      (w.context r).globalSessionMap = (w.context r).sessionMap := by
  intro all
  have fresh : Course 0 (started {}) [] (started {}) := .start
  have assigned := fresh.asked (.assign .sessionMap (.attributes 9 true (.dictionary 0)))
  have same := all {} _ _ 0 _ World.emptyPlain (createStarts {}) assigned rfl
  cases same

end FlowDouble.Context
