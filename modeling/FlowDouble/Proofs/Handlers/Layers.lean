import FlowDouble.Proofs.Seeding.Invariant
import FlowDouble.Proofs.Seeding.Last
/-! Layers around a handler, whatever the handler does. All of them seed the one context that the
handler gets: the one the call comes with, or the one that the outermost layer makes. -/
namespace FlowDouble

open FlowDouble.Action

abbrev Body := Arguments → Action Value

abbrev Fields := List (String × Value)

def Handler.body [Calls] (h : Handler) : Body := fun a => do
  h.task.run (← ofExcept (h.signature.bind a))

namespace Decorated

variable [Calls]

def layer (fields : Fields) (inner : Body) : Body := fun a => do
  inner ⟨← prepare fields a.placed, a.named⟩

def around (body : Body) : List Fields → Body
  | [] => body
  | fields :: layers => layer fields (around body layers)

def seedLayers (r : Nat) : List Fields → Action Unit
  | [] => return ()
  | fields :: layers => do
    Context.seed r fields
    seedLayers r layers

end Decorated

namespace Arguments

def context (a : Arguments) (w : World) : Nat :=
  match a.placed with
  | .context r :: _ => r
  | _ => w.contexts.length

def entered (a : Arguments) (w : World) : World :=
  match a.placed with
  | .context _ :: _ => w
  | _ => Context.started w

def received (a : Arguments) (w : World) : Arguments :=
  match a.placed with
  | .context _ :: _ => a
  | placed => ⟨.context w.contexts.length :: placed, a.named⟩

def bringsContext (a : Arguments) : Bool :=
  match a.placed with
  | .context _ :: _ => true
  | _ => false

theorem broughtCases (a : Arguments) (w : World) :
    (∃ r rest, a.placed = .context r :: rest ∧ a.bringsContext = true ∧ a.context w = r ∧
      a.entered w = w ∧ a.received w = a) ∨
    (a.bringsContext = false ∧ a.context w = w.contexts.length ∧
      a.entered w = Context.started w ∧
      a.received w = ⟨.context w.contexts.length :: a.placed, a.named⟩) := by
  obtain ⟨placed, named⟩ := a
  cases placed with
  | nil => exact .inr ⟨rfl, rfl, rfl, rfl⟩
  | cons v rest =>
    cases v with
    | context r => exact .inl ⟨r, rest, rfl, rfl, rfl, rfl, rfl⟩
    | _ => exact .inr ⟨rfl, rfl, rfl, rfl⟩

theorem receivedAgain (a : Arguments) (w w' : World) :
    (a.received w).bringsContext = true ∧ (a.received w).context w' = a.context w ∧
      (a.received w).entered w' = w' ∧ (a.received w).received w' = a.received w := by
  rcases broughtCases a w with ⟨r, rest, placed, brings, context, _, received⟩ | ⟨_, context, _, received⟩
  · rw [received, context]
    rcases broughtCases a w' with ⟨q, rest', placed', brings', same, entered, again⟩ | ⟨none, _⟩
    · obtain rfl : r = q := by
        rw [placed] at placed'
        simpa using (List.cons.inj placed').1
      exact ⟨brings', same, entered, again⟩
    · rw [brings] at none
      contradiction
  · rw [received, context]
    exact ⟨rfl, rfl, rfl, rfl⟩

end Arguments

namespace Decorated

variable [Calls] {r : Nat} {w w' : World} {f : Fault}

theorem prepareSeeds (fields : Fields) (a : Arguments) (w : World) :
    prepare fields a.placed w = (do
      Context.seed (a.context w) fields
      return (a.received w).placed) (a.entered w) := by
  rcases a.broughtCases w with ⟨r, rest, placed, _, context, entered, received⟩ |
    ⟨none, context, entered, received⟩
  · rw [context, entered, received, placed]
    rfl
  · have made : prepare fields a.placed = (do
        let r ← Context.create .null
        Context.seed r fields
        return .context r :: a.placed) := by
      obtain ⟨placed, named⟩ := a
      cases placed with
      | nil => rfl
      | cons v rest => cases v <;> first | rfl | contradiction
    rw [context, entered, received, made, bindOk (Context.createStarts w)]

theorem layerSeeds (fields : Fields) (inner : Body) (a : Arguments) (w : World) :
    layer fields inner a w = (do
      Context.seed (a.context w) fields
      inner (a.received w)) (a.entered w) := by
  have prepared := prepareSeeds fields a w
  have same : (⟨(a.received w).placed, a.named⟩ : Arguments) = a.received w := by
    rcases a.broughtCases w with ⟨_, _, _, _, _, _, received⟩ | ⟨_, _, _, received⟩ <;>
      rw [received]
  unfold layer
  cases h : Context.seed (a.context w) fields (a.entered w) with
  | ok u w₁ =>
    rw [bindOk h] at prepared ⊢
    rw [bindOk prepared, same]
  | error e w₁ =>
    rw [bindError h] at prepared ⊢
    rw [bindError prepared]

theorem aroundSeeds (body : Body) (fields : Fields) (layers : List Fields) (a : Arguments)
    (w : World) :
    around body (fields :: layers) a w = (do
      seedLayers (a.context w) (fields :: layers)
      body (a.received w)) (a.entered w) := by
  have outer := layerSeeds fields (around body layers) a w
  have all : seedLayers (a.context w) (fields :: layers) = (do
    Context.seed (a.context w) fields
    seedLayers (a.context w) layers) := rfl
  rw [show around body (fields :: layers) a w = _ from outer, all, bind_assoc]
  cases h : Context.seed (a.context w) fields (a.entered w) with
  | error e w₁ => rw [bindError h, bindError h]
  | ok u w₁ =>
    rw [bindOk h, bindOk h]
    cases layers with
    | nil => rfl
    | cons next rest =>
      -- The layers inside find the context that is now in front.
      obtain ⟨_, context, entered, received⟩ := a.receivedAgain w w₁
      rw [aroundSeeds body next rest (a.received w) w₁, context, entered, received]
termination_by layers.length

theorem prepareAllAround (body : Body) (layers : List Fields) (a : Arguments) :
    (do body ⟨← prepareAll layers a.placed, a.named⟩) = around body layers a := by
  induction layers generalizing a with
  | nil => rfl
  | cons fields layers ih =>
    have step : prepareAll (fields :: layers) a.placed = (do
      prepareAll layers (← prepare fields a.placed)) := rfl
    rw [step, bind_assoc]
    exact bind_congr fun placed => ih ⟨placed, a.named⟩

theorem invokeAround (h : Handler) (layers : List Fields) :
    invoke ⟨h, layers⟩ = around h.body layers := by
  funext a
  exact prepareAllAround h.body layers a

theorem seedUnreservedOnly {fields : Fields} {u : Unit}
    (done : Context.seed r fields w = .ok u w') :
    Context.Unreserved fields ∧ Context.seedAll r fields w = .ok () w' := by
  have free : Context.Unreserved fields := by
    refine Decidable.byContradiction fun reserved => ?_
    rw [Context.seedReserved reserved] at done
    contradiction
  rw [Context.seedUnreserved free] at done
  exact ⟨free, done⟩

theorem seedLayersOk {layers : List Fields} {u : Unit} (done : seedLayers r layers w = .ok u w') :
    (∀ fields ∈ layers, Context.Unreserved fields) ∧
      Context.seedAll r layers.flatten w = .ok () w' := by
  induction layers generalizing w with
  | nil =>
    cases done
    exact ⟨by simp, rfl⟩
  | cons fields layers ih =>
    obtain ⟨_, w₁, first, later⟩ := bindInv done
    obtain ⟨free, outer⟩ := seedUnreservedOnly first
    obtain ⟨others, inner⟩ := ih later
    refine ⟨List.forall_mem_cons.mpr ⟨free, others⟩, ?_⟩
    rw [List.flatten_cons, Context.seedAllAppend, bindOk outer, inner]

inductive StopsLayer (r : Nat) (w : World) : Fields → Fault → World → Prop where
  | reserved {fields} (taken : ¬ Context.Unreserved fields) :
      StopsLayer r w fields
        (.misuse (.call "seed_context" (.givenTwice Context.reservedField))) w
  | field {before name value after w₁ f w'} (seeded : Context.seedAll r before w = .ok () w₁)
      (stops : Context.Stops r w₁ name value f w') :
      StopsLayer r w (before ++ (name, value) :: after) f w'

theorem layerStops {fields : Fields} (plain : w.Plain)
    (failed : Context.seed r fields w = .error f w') : StopsLayer r w fields f w' := by
  by_cases free : Context.Unreserved fields
  · rw [Context.seedUnreserved free] at failed
    obtain ⟨before, name, value, after, w₁, rfl, seeded, offending⟩ := Context.seedAllFails failed
    have left : Context.Unreserved before := fun x mem => free x (List.mem_append_left _ mem)
    exact .field seeded (Context.fieldStops (Context.seedAllPlain left plain seeded) offending)
  · rw [Context.seedReserved free] at failed
    cases failed
    exact .reserved free

theorem seedLayersFail {layers : List Fields} (plain : w.Plain)
    (failed : seedLayers r layers w = .error f w') :
    ∃ outer fields inner w₁, layers = outer ++ fields :: inner ∧
      seedLayers r outer w = .ok () w₁ ∧ StopsLayer r w₁ fields f w' := by
  induction layers generalizing w with
  | nil => contradiction
  | cons fields layers ih =>
    rcases bindFails failed with first | ⟨_, w₁, first, later⟩
    · exact ⟨[], fields, layers, w, rfl, rfl, layerStops plain first⟩
    · obtain ⟨free, outer⟩ := seedUnreservedOnly first
      have plain₁ : w₁.Plain := Context.seedAllPlain free plain outer
      obtain ⟨before, last, inner, w₂, rfl, done, stops⟩ := ih plain₁ later
      exact ⟨fields :: before, last, inner, w₂, rfl, (bindOk first).trans done, stops⟩

end Decorated

namespace Context

open ParameterMap

def Field.rivals : Field → List String
  | .setting .requestParameters | .parameters | .event =>
    ["request_parameter_map", "parameters", "event_id"]
  | .setting s => [s.name]

def Shown (r : Nat) (w w' : World) : Field → Value → Prop
  | .setting s, v => Takes w w' s v ((w'.context r).slot s)
  | .parameters, v => ∀ x y, (Entries.ofPairs (w.given v)).find? x = some y →
    ∃ kept, (w'.parameters (w'.context r).parameters).find? x = some kept ∧ Keeps w.lists y kept
  | .event, v =>
    ∃ kept, (w'.parameters (w'.context r).parameters).find? (.text eventParameter) = some kept ∧
      Keeps w.lists v kept

variable [Calls] {r : Nat} {w w' : World} {fields before after : List (String × Value)}

theorem seedsFirst {f : String × Value} (stands : Stands r (f :: fields) w)
    (done : seedAll r (f :: fields) w = .ok () w') :
    ∃ field w₁, f.1 = Field.name field ∧ Does r w w₁ field f.2 ∧ Upholds w w₁ ∧
      Stands r fields w₁ ∧ seedAll r fields w₁ = .ok () w' := by
  obtain ⟨_, w₁, first, later⟩ := bindInv done
  have one : Stands r [f] w := stands.within fun _ mem => by simp_all
  have rest : Stands r fields w := stands.within fun _ => List.mem_cons_of_mem _
  obtain ⟨field, named, _, does⟩ := fieldDone one first
  have upholds := one.seedField first
  exact ⟨field, w₁, named, does, upholds, rest.later upholds, later⟩

theorem seedLeavesSlot {s : Setting} (stands : Stands r fields w)
    (absent : s.name ∉ fields.map Prod.fst) (done : seedAll r fields w = .ok () w') :
    (w'.context r).slot s = (w.context r).slot s := by
  induction fields generalizing w with
  | nil =>
    cases done
    rfl
  | cons f rest ih =>
    obtain ⟨field, w₁, named, does, _, next, later⟩ := seedsFirst stands done
    simp only [List.map_cons, List.mem_cons, not_or] at absent
    rw [ih next absent.2 later]
    cases does with
    | assigns sets takes same =>
      refine sets.slots s fun again => absent.1 ?_
      rw [named, again]
      rfl
    | pours fills => rw [fills.context]
    | signals fills => rw [fills.context]

theorem seedLeavesMaps (stands : Stands r fields w) (still : ¬ Filling fields)
    (done : seedAll r fields w = .ok () w') :
    w.parameterMaps.length ≤ w'.parameterMaps.length ∧
      ∀ i < w.parameterMaps.length, w'.parameterMaps.read i = w.parameterMaps.read i := by
  induction fields generalizing w with
  | nil =>
    cases done
    exact ⟨Nat.le_refl _, fun _ _ => rfl⟩
  | cons f rest ih =>
    obtain ⟨field, w₁, named, does, upholds, next, later⟩ := seedsFirst stands done
    obtain ⟨grows, same⟩ := ih next
      (fun filling => still (filling.within fun _ => List.mem_cons_of_mem _)) later
    refine ⟨Nat.le_trans upholds.maps grows, fun i known => ?_⟩
    rw [same i (Nat.lt_of_lt_of_le known upholds.maps)]
    cases does with
    | assigns sets takes kept => exact kept i known
    | pours fills => exact absurd (.inl (by simp [named, Field.name])) still
    | signals fills => exact absurd (.inr (by simp [named, Field.name])) still

omit [Calls] in
theorem notFilled (rivals : ∀ name ∈ Field.rivals .parameters, name ∉ fields.map Prod.fst) :
    ¬ Filling fields := fun filling =>
  filling.elim (rivals "parameters" (by decide)) (rivals "event_id" (by decide))

theorem lastFieldShown {field : Field} {v : Value}
    (stands : Stands r (before ++ (field.name, v) :: after) w)
    (rivals : ∀ name ∈ Field.rivals field, name ∉ after.map Prod.fst)
    (done : seedAll r (before ++ (field.name, v) :: after) w = .ok () w') :
    ∃ w₁, seedAll r before w = .ok () w₁ ∧ Shown r w₁ w' field v := by
  obtain ⟨w₁, w₂, cut⟩ := cuts stands done
  refine ⟨w₁, cut.first, ?_⟩
  obtain ⟨named, same, _, does⟩ := fieldDone cut.standsPivot cut.pivot
  obtain rfl := Field.nameInjective same
  have mapKept (known : w₂.parameterMaps.length = w₁.parameterMaps.length)
      (context : w₂.context r = w₁.context r)
      (still : ¬ Filling after) (absent : "request_parameter_map" ∉ after.map Prod.fst) :
      w'.parameters (w'.context r).parameters = w₂.parameters (w₁.context r).parameters := by
    have slot := seedLeavesSlot (s := .requestParameters) cut.standsLast absent cut.last
    obtain ⟨_, kept⟩ := seedLeavesMaps cut.standsLast still cut.last
    rw [slotParameters slot, context]
    exact kept _ (known ▸ cut.standsPivot.formed.owned r cut.standsPivot.there)
  cases does with
  | @assigns s _ x sets takes kept =>
    have slot : (w'.context r).slot s = x := by
      have own : s.name ∈ Field.rivals (.setting s) := by cases s <;> decide
      rw [seedLeavesSlot cut.standsLast (rivals s.name own) cut.last]
      exact sets.slot
    show Takes w₁ w' s v ((w'.context r).slot s)
    rw [slot]
    by_cases map : s = .requestParameters
    · subst map
      have still := notFilled rivals
      obtain ⟨grows, same⟩ := seedLeavesMaps cut.standsLast still cut.last
      exact takes.later grows fun _ => same
    · cases takes with
      | itself own => exact .itself own
      | user t n => exact .user t n
      | map => exact absurd rfl map
  | pours fills =>
    have still := notFilled rivals
    intro x y found
    rw [mapKept fills.length (fills.context r) still (rivals _ (by decide))]
    exact fills.told found
  | signals fills =>
    have still := notFilled rivals
    have found : (Entries.ofPairs [(.text eventParameter, v)]).find? (.text eventParameter) =
        some v := Entries.findInserted _ _ []
    show ∃ kept, _ ∧ _
    rw [mapKept fills.length (fills.context r) still (rivals _ (by decide))]
    exact fills.told found

end Context

namespace Decorated

/-- A call of layered handlers seeds one context, the outermost layer first, and leaves all other
values as they are: the context it comes with, or a new one in front. What is last seeded is shown.
A layer that fails ends the call, the layers around it having been seeded and whatever it wraps not
being run. -/
theorem stackedLayersSeedOneContext (body : Body) (outermost : Fields) (inner : List Fields)
    (a : Arguments) :
    (∀ w, around body (outermost :: inner) a w = (do
      seedLayers (a.context w) (outermost :: inner)
      body (a.received w)) (a.entered w)) ∧
    (∀ r rest, a.placed = .context r :: rest →
      ∀ w, a.context w = r ∧ a.entered w = w ∧ a.received w = a) ∧
    (a.bringsContext = false → ∀ w,
      Context.create .null w = .ok (a.context w) (a.entered w) ∧
      (a.entered w).contexts = w.contexts ++ [Context.startedIn w] ∧
      a.received w = ⟨.context (a.context w) :: a.placed, a.named⟩ ∧
      around body [outermost] a w = (do
        let c ← Script.produceContext outermost
        body ⟨c :: a.placed, a.named⟩) w) ∧
    (∀ w f h, w.function f = ⟨h, outermost :: inner⟩ →
      (Value.function f).invoke a w = around h.body (outermost :: inner) a w) ∧
    (∀ r w w', Context.Reachable r w → (∀ f ∈ (outermost :: inner).flatten, w.Knows f.2) →
      seedLayers r (outermost :: inner) w = .ok () w' →
      Context.seedAll r (outermost :: inner).flatten w = .ok () w' ∧
      ∀ before field v after,
        (outermost :: inner).flatten = before ++ (Field.name field, v) :: after →
        (∀ name ∈ Context.Field.rivals field, name ∉ after.map Prod.fst) →
        ∃ w₁, Context.seedAll r before w = .ok () w₁ ∧ Context.Shown r w₁ w' field v) ∧
    (∀ w f w', w.Plain →
      seedLayers (a.context w) (outermost :: inner) (a.entered w) = .error f w' →
      (∀ other : Body, around other (outermost :: inner) a w = .error f w') ∧
      ∃ outer fields rest w₁, outermost :: inner = outer ++ fields :: rest ∧
        seedLayers (a.context w) outer (a.entered w) = .ok () w₁ ∧
        StopsLayer (a.context w) w₁ fields f w') := by
  refine ⟨aroundSeeds body outermost inner a, fun r rest placed w => ?_, fun brings w => ?_,
    fun w f h same => ?_, fun r w w' reachable known done => ?_, fun w f w' plain failed => ?_⟩
  · rcases a.broughtCases w with ⟨q, _, placed', _, context, entered, received⟩ | ⟨none, _⟩
    · rw [placed] at placed'
      cases placed'
      exact ⟨context, entered, received⟩
    · simp [Arguments.bringsContext, placed] at none
  · rcases a.broughtCases w with ⟨_, _, _, some, _⟩ | ⟨_, context, entered, received⟩
    · rw [brings] at some
      contradiction
    · rw [context, entered]
      refine ⟨Context.createStarts w, rfl, received, ?_⟩
      have seeded := layerSeeds outermost body a w
      rw [context, entered, received] at seeded
      show layer outermost body a w = _
      rw [seeded]
      unfold Script.produceContext
      simp only [bind_assoc, pure_bind]
      rw [bindOk (Context.createStarts w)]
  · have called : (Value.function f).invoke a w = (w.function f).invoke a w := rfl
    rw [called, same, invokeAround]
  · obtain ⟨_, all⟩ := seedLayersOk done
    obtain ⟨formed, there⟩ := Context.reachableFormed reachable
    refine ⟨all, fun before field v after split rivals => ?_⟩
    rw [split] at all known
    exact Context.lastFieldShown ⟨formed, there, known⟩ rivals all
  · have plain' : (a.entered w).Plain := by
      rcases a.broughtCases w with ⟨_, _, _, _, _, entered, _⟩ | ⟨_, _, entered, _⟩
      · rwa [entered]
      · rw [entered]
        exact plain
    refine ⟨fun other => ?_, seedLayersFail plain' failed⟩
    rw [aroundSeeds]
    exact bindError failed

theorem innerLocaleShown :
    ∃ w w₁ w', (Value.function 0).invoke ⟨[], []⟩ w = .ok (.context 0) w₁ ∧
      (w₁.context 0).locale = .text "fr" ∧
      (w₁.context 0).currentUser = .principal 6 (.text "keith") ∧
      (∃ v, Context.Shown 0 v w₁ (.setting .locale) (.text "fr")) ∧
      ∃ f, (Value.function 1).invoke ⟨[.int 5], []⟩ w = .error f w' ∧
        (w'.context 0).locale = .text "fr" ∧ (w'.context 0).ajaxRequest = .bool false ∧
        ∃ outer fields rest v, [[("locale", .text "en")],
            [("locale", .text "fr"), ("event_id", .int 1), ("ajax_request", .bool true)]] =
          outer ++ fields :: rest ∧
          seedLayers 0 outer (Context.started w) = .ok () v ∧ StopsLayer 0 v fields f w' := by
  let layers : List Fields :=
    [[("locale", .text "en"), ("current_user", .text "keith")], [("locale", .text "fr")]]
  let refused : List Fields := [[("locale", .text "en")],
    [("locale", .text "fr"), ("event_id", .int 1), ("ajax_request", .bool true)]]
  let h : Handler := ⟨.state, false⟩
  let w : World := { functions := [⟨h, layers⟩, ⟨h, refused⟩] }
  have formed : w.Formed := by
    refine ⟨fun _ _ _ => rfl, by simp [w, World.Sound], fun m => ?_, fun r known => ?_⟩
    · exact heldEmpty
    · exact absurd known (Nat.not_lt_zero r)
  obtain ⟨called, _, _, runs, shows, _⟩ :=
    stackedLayersSeedOneContext h.body layers.head! layers.tail ⟨[], []⟩
  obtain ⟨_, _, _, runs', _, stops⟩ :=
    stackedLayersSeedOneContext h.body refused.head! refused.tail ⟨[.int 5], []⟩
  obtain ⟨w₁, seeded, locale, user⟩ : ∃ w₁, seedLayers 0 layers (Context.started w) = .ok () w₁ ∧
      (w₁.context 0).locale = .text "fr" ∧
      (w₁.context 0).currentUser = .principal 6 (.text "keith") := ⟨_, rfl, rfl, rfl⟩
  obtain ⟨f, w', failed, locale', ajax⟩ : ∃ f w', seedLayers 0 refused (Context.started w) =
      .error f w' ∧ (w'.context 0).locale = .text "fr" ∧
      (w'.context 0).ajaxRequest = .bool false := ⟨_, _, rfl, rfl, rfl⟩
  refine ⟨w, w₁, w', ?_, locale, user, ?_, f, ?_, locale', ajax, ?_⟩
  · exact (runs w 0 h rfl).trans ((called w).trans (bindOk seeded))
  · obtain ⟨_, last⟩ := shows 0 _ _ (Context.reachableStarted formed)
      (by simp [layers, World.Knows]) seeded
    obtain ⟨v, _, shown⟩ := last layers.head! (.setting .locale) (.text "fr") [] rfl (by simp)
    exact ⟨v, shown⟩
  · exact (runs' w 1 h rfl).trans ((stops w f w' formed.plain failed).1 h.body)
  · exact (stops w f w' formed.plain failed).2

end Decorated

end FlowDouble
