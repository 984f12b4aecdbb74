import FlowDouble.Proofs.Context.Formed
/-! The states a context can come to: it is made from any source, asked for anything and seeded with
anything, while the world around it changes as it may. -/
namespace FlowDouble.Context

open FlowDouble.Action

def Operation.Known (w : World) : Operation → Prop
  | .assign _ v => w.Knows v
  | _ => True

inductive Reachable [Calls] (r : Nat) : World → Prop where
  | made {source w₀ w} (formed : w₀.Formed) (known : w₀.Knows source)
      (made : create source w₀ = .ok r w) : Reachable r w
  | call {w} (before : Reachable r w) (op : Operation) (known : op.Known w) :
      Reachable r ((perform r op).leaves w)
  | seed {w} (before : Reachable r w) (fields : List (String × Value))
      (known : ∀ f ∈ fields, w.Knows f.2) : Reachable r ((Context.seed r fields).leaves w)
  | elsewhere {w w'} (before : Reachable r w) (upholds : Upholds w w') : Reachable r w'

variable {r : Nat} {w w' : World}

theorem yieldUpholds {a : Action Unit} (h : Upholds w (a.leaves w)) :
    Upholds w ((yieldNothing a).leaves w) := by
  have same : (yieldNothing a).leaves w = a.leaves w := leavesThenPure a _ w
  rwa [same]

theorem formedStart {lists : Heap (List Value)} {dictionaries : Heap Entries}
    (sound : ∀ es ∈ dictionaries, es.Sound) : World.Formed { lists, dictionaries } := by
  refine ⟨fun _ _ _ => rfl, sound, fun m => ?_, fun r known => absurd known (Nat.not_lt_zero r)⟩
  have empty : World.parameters { lists, dictionaries } m = [] := rfl
  rw [empty]
  exact heldEmpty

variable [Calls]

theorem createUpholds {source : Value} (plain : w.Plain) (known : w.Knows source)
    (made : create source w = .ok r w') : Upholds w w' ∧ r < w'.contexts.length := by
  obtain ⟨m, w₁, first, rest⟩ := bindInv made
  have parameters := parametersOfKnown plain known first
  have before := parametersOfUpholds source w plain
  rw [leavesOk first] at before
  obtain ⟨requestMap, w₂, second, rest⟩ := bindInv rest
  obtain ⟨sessionMap, w₃, third, rest⟩ := bindInv rest
  obtain ⟨applicationMap, w₄, fourth, rest⟩ := bindInv rest
  have maps : Upholds w₁ w₄ := by
    have plain₁ := World.plainKept before.attachments plain
    have h₂ := leavesOk second ▸ upholdsAttributes false w₁ plain₁
    have plain₂ := World.plainKept h₂.attachments plain₁
    have h₃ := leavesOk third ▸ upholdsAttributes true w₂ plain₂
    have plain₃ := World.plainKept h₃.attachments plain₂
    have h₄ := leavesOk fourth ▸ upholdsAttributes true w₃ plain₃
    exact upholds.trans h₂ (upholds.trans h₃ h₄)
  clear made first second third fourth
  cases rest
  have there : m.ref < w₄.parameterMaps.length := Nat.lt_of_lt_of_le parameters maps.maps
  refine ⟨upholds.trans before (upholds.trans maps ?_), by simp [Heap.push]⟩
  have bare : Upholds w₄ { w₄ with tags := w₄.tags + 1 + 1 + 1, writers := w₄.writers.push [] } :=
    .ofAside rfl rfl rfl rfl
  exact upholds.trans bare (.ofNewContext there)

theorem performUpholds {op : Operation} (plain : w.Plain) (known : op.Known w) :
    Upholds w ((perform r op).leaves w) := by
  have redirecting {change : Context → Context} {a : Action Unit}
      (kept : ∀ c, (change c).parameters = c.parameters) (rest : Within Upholds a) :
      Upholds w ((yieldNothing do Context.change r change; a).leaves w) :=
    yieldUpholds (withinBind upholds (upholdsChange kept) (fun _ => rest) w plain)
  cases reads : op.reads with
  | true => exact withinUnchanged upholds (performReads reads) w plain
  | false =>
    cases op with
    | assign s v => exact yieldUpholds (assignUpholds s plain known)
    | recordComplete => exact redirecting (fun _ => rfl) (upholdsRecord _)
    | redirectExecution =>
      refine redirecting (fun _ => rfl) ?_
      exact withinBind upholds (upholdsRecord _) fun _ => askToCompleteUpholds r
    | redirectDefinition flow input =>
      exact yieldUpholds (redirectDefinitionUpholds r flow input w plain)
    | redirectExternal location =>
      refine redirecting (fun _ => rfl) ?_
      refine withinBind upholds (withinUnchanged upholds (readsShown location)) fun _ => ?_
      exact withinBind upholds (upholdsRecord _) fun _ => askToCompleteUpholds r
    | popUp =>
      refine yieldUpholds ?_
      have asked := popsUp (r := r) plain
      by_cases requested : (w.context r).redirectRequested = true
      · have marked : Within Upholds (do
            change r fun c => { c with popup := true }
            record .popup : Action Unit) :=
          withinBind upholds (upholdsChange fun _ => rfl) fun _ => upholdsRecord _
        rw [if_pos requested] at asked
        rw [leavesSame asked]
        exact marked w plain
      · rw [if_neg requested] at asked
        rw [leavesError asked]
        exact upholds.refl w
    | putParameter name value => exact yieldUpholds (putParameterUpholds r name value w plain)
    | setEvent event => exact yieldUpholds (askToPutUpholds r _ event w plain)
    | _ => contradiction

theorem seedFieldUpholds (name : String) {value : Value} (plain : w.Plain)
    (known : w.Knows value) : Upholds w ((seedField r name value).leaves w) := by
  unfold seedField
  split
  · exact assignUpholds _ plain known
  · exact withinForItems upholds value (askToPutUpholds r) w plain
  · exact askToSignalUpholds r value w plain
  · refine withinUnchanged upholds ?_ w plain
    exact withinBind unchanged (withinWorld unchanged) fun _ => readsRefusal _

theorem seedAllUpholds {fields : List (String × Value)} (plain : w.Plain)
    (known : ∀ f ∈ fields, w.Knows f.2) : Upholds w ((seedAll r fields).leaves w) := by
  induction fields generalizing w with
  | nil => exact upholds.refl w
  | cons field rest ih =>
    have first := seedFieldUpholds (r := r) field.1 plain (known _ List.mem_cons_self)
    have all : seedAll r (field :: rest) = (do
        seedField r field.1 field.2
        seedAll r rest : Action Unit) := rfl
    rw [all]
    cases h : seedField r field.1 field.2 w with
    | error f w' =>
      rw [leavesError (bindError h)]
      exact leavesError h ▸ first
    | ok u w' =>
      rw [leavesOk h] at first
      rw [leavesBind h]
      refine upholds.trans first (ih (World.plainKept first.attachments plain) fun f mem => ?_)
      exact World.knowsLater first.maps (known f (List.mem_cons_of_mem _ mem))

theorem seedUpholds {fields : List (String × Value)} (plain : w.Plain)
    (known : ∀ f ∈ fields, w.Knows f.2) : Upholds w ((seed r fields).leaves w) := by
  unfold seed checkReserved
  split
  · exact upholds.refl w
  · exact seedAllUpholds plain known

theorem reachableFormed (reachable : Reachable r w) : w.Formed ∧ r < w.contexts.length := by
  induction reachable with
  | made formed known made =>
    obtain ⟨after, there⟩ := createUpholds formed.plain known made
    exact ⟨after.formed formed, there⟩
  | call before op known ih =>
    have after := performUpholds (r := r) ih.1.plain known
    exact ⟨after.formed ih.1, Nat.lt_of_lt_of_le ih.2 after.contexts⟩
  | seed before fields known ih =>
    have after := seedUpholds (r := r) ih.1.plain known
    exact ⟨after.formed ih.1, Nat.lt_of_lt_of_le ih.2 after.contexts⟩
  | elsewhere before after ih =>
    exact ⟨after.formed ih.1, Nat.lt_of_lt_of_le ih.2 after.contexts⟩

def startedIn (w : World) : Context where
  contextPath := .null
  parameters := ⟨true, w.parameterMaps.length⟩
  requestMap := .attributes w.tags false (.dictionary w.dictionaries.length)
  sessionMap := .attributes (w.tags + 1) true (.dictionary (w.dictionaries.push []).length)
  globalSessionMap := .attributes (w.tags + 1) true (.dictionary (w.dictionaries.push []).length)
  applicationMap :=
    .attributes (w.tags + 2) true (.dictionary ((w.dictionaries.push []).push []).length)
  nativeContext := .token (w.tags + 3)
  nativeRequest := .token (w.tags + 4)
  nativeResponse := .token (w.tags + 5)
  currentUser := .null
  locale := .null
  ajaxRequest := .bool false
  writer := w.writers.length
  allowed := none
  complete := false
  executionRedirect := false
  redirectFlow := .null
  redirectInput := .null
  externalUrl := .null
  popup := false

def started (w : World) : World where
  lists := w.lists
  dictionaries := ((w.dictionaries.push []).push []).push []
  parameterMaps := w.parameterMaps.push []
  contexts := w.contexts.push (startedIn w)
  writers := w.writers.push []
  streams := w.streams
  errors := w.errors
  functions := w.functions
  attachments := w.attachments
  tags := w.tags + 6
  trail := w.trail
  reach := w.reach

theorem createStarts (w : World) : create .null w = .ok w.contexts.length (started w) := rfl

theorem reachableStarted (formed : w.Formed) : Reachable w.contexts.length (started w) :=
  have known : w.Knows .null := trivial
  .made formed known (createStarts w)

end FlowDouble.Context
