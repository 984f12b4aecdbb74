import FlowDouble.Proofs.Seeding.Fold
import FlowDouble.Proofs.Seeding.Given
/-! Which values a context takes for a field, and what the field then does to it. -/
namespace FlowDouble

open FlowDouble.Action ParameterMap

namespace Context

structure Framed (r : Nat) (w w' : World) : Prop where
  only : OnlyContexts w w'
  others : ∀ q, q ≠ r → w'.context q = w.context q
  count : w'.contexts.length = w.contexts.length
  bare : (w'.context r).bare = (w.context r).bare

namespace Framed

variable {r : Nat} {w w₁ w' : World}

theorem refl (r : Nat) (w : World) : Framed r w w := ⟨onlyContexts.refl w, fun _ _ => rfl, rfl, rfl⟩

theorem trans (before : Framed r w w₁) (after : Framed r w₁ w') : Framed r w w' :=
  ⟨onlyContexts.trans before.only after.only,
    fun q other => (after.others q other).trans (before.others q other),
    after.count.trans before.count, after.bare.trans before.bare⟩

theorem ofParameters (only : OnlyParameters w w') : Framed r w w' := by
  have contexts : w'.contexts = w.contexts := by rw [only]
  have context (q : Nat) : w'.context q = w.context q := congrArg (Heap.read · q) contexts
  exact ⟨.ofParameters only, fun q _ => context q, congrArg List.length contexts,
    congrArg Context.bare (context r)⟩

end Framed

structure Sets (r : Nat) (s : Setting) (x : Value) (w w' : World) : Prop extends Framed r w w' where
  slot : (w'.context r).slot s = x
  slots : ∀ t, t ≠ s → (w'.context r).slot t = (w.context r).slot t

theorem Sets.ofChange {r : Nat} {s : Setting} {x : Value} {w u : World} (c : Context)
    (only : OnlyContexts w u) (contexts : u.contexts = w.contexts)
    (there : r < w.contexts.length) (bare : c.bare = (w.context r).bare) (slot : c.slot s = x)
    (slots : ∀ t, t ≠ s → c.slot t = (w.context r).slot t) :
    Sets r s x w (u.setContext r c) := by
  have written : (u.setContext r c).context r = c := by
    simp only [World.context, World.setContext, contexts]
    exact Heap.readWritten c there
  have set : OnlyContexts u (u.setContext r c) := rfl
  refine ⟨⟨onlyContexts.trans only set, fun q other => ?_, ?_, by rw [written, bare]⟩,
    by rw [written, slot], fun t other => by rw [written, slots t other]⟩
  · simp only [World.context, World.setContext, contexts]
    exact Heap.readOther _ c other.symm
  · exact (Heap.writeKeepsLength _ _ _).trans (congrArg List.length contexts)

def wraps : Setting → Value → Bool
  | .currentUser, .text _ => true
  | .requestParameters, .parameters _ => false
  | .requestParameters, _ => true
  | _, _ => false

inductive Takes (w w' : World) : Setting → Value → Value → Prop where
  | itself {s v} (own : wraps s v = false) : Takes w w' s v v
  | user (t : Nat) (n : String) : Takes w w' .currentUser (.text n) (.principal t (.text n))
  | map {v m} (other : wraps .requestParameters v = true) (writable : m.writable = true)
      (fresh : w.parameterMaps.length ≤ m.ref) (there : m.ref < w'.parameterMaps.length)
      (entries : ∀ x, Option.Rel (Keeps w.lists) ((Entries.ofPairs (w.given v)).find? x)
        ((w'.parameters m).find? x)) :
      Takes w w' .requestParameters v (.parameters m)

section
variable [Calls] {r : Nat} {s : Setting} {v : Value} {w w' : World}

theorem assignSets (there : r < w.contexts.length) (other : s ≠ .requestParameters)
    (done : assign r s v w = .ok () w') :
    ∃ x, Sets r s x w w' ∧ Takes w w' s v x ∧ w'.parameterMaps = w.parameterMaps := by
  have plain (c : Context) (bare : c.bare = (w.context r).bare) (slot : c.slot s = v)
      (slots : ∀ t, t ≠ s → c.slot t = (w.context r).slot t) :
      Sets r s v w (w.setContext r c) :=
    .ofChange c (onlyContexts.refl w) rfl there bare slot slots
  cases s with
  | requestParameters => contradiction
  | currentUser =>
    by_cases named : ∃ n, v = .text n
    · obtain ⟨n, rfl⟩ := named
      cases done
      refine ⟨_, .ofChange (u := { w with tags := w.tags + 1 }) _ rfl rfl there rfl rfl
        fun t apart => ?_, .user w.tags n, rfl⟩
      cases t <;> first | contradiction | rfl
    · have own : wraps .currentUser v = false := by
        cases v <;> first | rfl | exact absurd ⟨_, rfl⟩ named
      have same : principalOf v = pure v := by
        cases v <;> first | rfl | exact absurd ⟨_, rfl⟩ named
      unfold assign at done
      rw [same] at done
      cases done
      refine ⟨v, plain _ rfl rfl fun t apart => ?_, .itself own, rfl⟩
      cases t <;> first | contradiction | rfl
  | responseAllowed =>
    obtain ⟨o, w₁, taken, rest⟩ := bindInv done
    have value : overrideValue o = v ∧ w₁ = w := by
      cases accepted : isOverride v with
      | false =>
        rw [overrideRefused accepted] at taken
        contradiction
      | true =>
        cases v <;> first | contradiction | (cases taken; exact ⟨rfl, rfl⟩)
    obtain ⟨rfl, rfl⟩ := value
    cases rest
    refine ⟨_, plain _ rfl rfl fun t apart => ?_, .itself rfl, rfl⟩
    cases t <;> first | contradiction | rfl
  | _ =>
    cases done
    refine ⟨v, plain _ rfl rfl fun t apart => ?_, .itself rfl, rfl⟩
    cases t <;> first | contradiction | rfl

theorem parametersWrapped (wrapped : wraps .requestParameters v = true) :
    parametersOf v = ParameterMap.create true v := by
  cases v <;> first | rfl | contradiction

theorem assignMap (plain : w.Plain) (there : r < w.contexts.length) (known : w.Knows v)
    (done : assign r .requestParameters v w = .ok () w') :
    (wraps .requestParameters v = true → w.Copies v) ∧
      ∃ x, Sets r .requestParameters x w w' ∧ Takes w w' .requestParameters v x ∧
        w.parameterMaps.length ≤ w'.parameterMaps.length ∧
        ∀ s < w.parameterMaps.length, w'.parameterMaps.read s = w.parameterMaps.read s := by
  obtain ⟨m, w₁, taken, rest⟩ := bindInv done
  cases rest
  cases wrapped : wraps .requestParameters v with
  | false =>
    have map : ∃ t, v = .parameters t := by
      cases v <;> first | contradiction | exact ⟨_, rfl⟩
    obtain ⟨t, rfl⟩ := map
    cases taken
    refine ⟨by simp, _, .ofChange _ (onlyContexts.refl w) rfl there rfl rfl fun u apart => ?_,
      .itself rfl, Nat.le_refl _, fun _ _ => rfl⟩
    cases u <;> first | contradiction | rfl
  | true =>
    rw [parametersWrapped wrapped] at taken
    obtain ⟨copies, created⟩ := createDone plain known taken
    have contexts : w₁.contexts = w.contexts := by rw [created.only]
    obtain ⟨kept, keeps, entries⟩ := created.entries
    refine ⟨fun _ => copies, .parameters m, ?_, ?_, ?_, created.others⟩
    · have same : w₁.context r = w.context r := congrArg (Heap.read · r) contexts
      refine .ofChange _ (.ofParameters created.only) contexts there ?_ rfl fun u apart => ?_
      · rw [same]
        rfl
      · rw [same]
        cases u <;> first | contradiction | rfl
    · obtain rfl := created.map
      refine .map wrapped rfl (Nat.le_refl _) ?_ fun x => ?_
      · show w.parameterMaps.length < w₁.parameterMaps.length
        rw [created.length]
        omega
      · have told : (w₁.setContext r { w₁.context r with
            parameters := ⟨true, w.parameterMaps.length⟩ }).parameters
              ⟨true, w.parameterMaps.length⟩ = Entries.ofPairs kept := entries
        rw [told]
        exact keptFind keeps x
    · show w.parameterMaps.length ≤ w₁.parameterMaps.length
      rw [created.length]
      omega

def Fits (r : Nat) (w : World) : Field → Value → Prop
  | .setting .responseAllowed, v => isOverride v = true
  | .setting .requestParameters, v => wraps .requestParameters v = true → w.Copies v
  | .setting _, _ => True
  | .parameters, v =>
    w.Pours v ∧ (w.given v ≠ [] → (w.context r).parameters.writable = true)
  | .event, v =>
    Puttable w.lists (.text eventParameter, v) ∧ (w.context r).parameters.writable = true

theorem parametersFill (formed : w.Formed) (there : r < w.contexts.length)
    (done : seedField r Field.parameters.name v w = .ok () w') :
    Fits r w .parameters v ∧ Fills (w.context r).parameters (w.given v) w w' := by
  have plain := formed.plain
  by_cases mapping : v.isMapping = true
  · have ran := seedParameters (r := r) plain mapping
    rw [show Field.parameters.name = "parameters" from rfl, ran] at done
    obtain ⟨listed, puts⟩ := forYieldOk.mp done
    rw [Fits, World.Pours, World.givenMapping mapping]
    by_cases writable : (w.context r).parameters.writable = true
    · rw [putsThrough plain writable] at puts
      obtain ⟨puttable, fills⟩ := putsFill (formed.owned r there) puts
      exact ⟨⟨⟨mapping, listed, puttable⟩, fun _ => writable⟩, fills⟩
    · obtain ⟨none, rfl⟩ := putsNothing writable plain puts
      rw [none]
      exact ⟨⟨⟨mapping, listed, by simp⟩, by simp⟩, .none _ _⟩
  · have asked : seedField r Field.parameters.name v = v.forItems (askToPut r) := rfl
    rw [asked, forItemsPlain plain, if_neg mapping] at done
    cases v <;> contradiction

theorem parametersGo (formed : w.Formed) (there : r < w.contexts.length)
    (fits : Fits r w .parameters v) :
    ∃ w', seedField r Field.parameters.name v w = .ok () w' := by
  obtain ⟨⟨mapping, listed, puttable⟩, takes⟩ := fits
  have plain := formed.plain
  have ran := seedParameters (r := r) plain mapping
  rw [show Field.parameters.name = "parameters" from rfl, ran]
  rw [World.givenMapping mapping] at takes
  by_cases none : (w.items v).items = []
  · exact ⟨w, forYieldOk.mpr ⟨listed, by rw [none]; rfl⟩⟩
  · obtain ⟨w', done⟩ := putsAll (formed.owned r there) puttable
    exact ⟨w', forYieldOk.mpr ⟨listed, (putsThrough plain (takes none)).trans done⟩⟩

theorem eventFills (formed : w.Formed) (there : r < w.contexts.length)
    (done : seedField r Field.event.name v w = .ok () w') :
    Fits r w .event v ∧
      Fills (w.context r).parameters [(.text eventParameter, v)] w w' := by
  have asked : seedField r Field.event.name v = askToSignal r v := rfl
  rw [asked, askToSignalPlain formed.plain, putParameterPlain formed.plain] at done
  split at done
  next writable =>
    obtain ⟨puttable, fills⟩ := putDone (formed.owned r there) done
    exact ⟨⟨puttable, writable⟩, fills⟩
  next => contradiction

theorem eventGoes (formed : w.Formed) (fits : Fits r w .event v) :
    ∃ w', seedField r Field.event.name v w = .ok () w' := by
  obtain ⟨puttable, writable⟩ := fits
  have asked : seedField r Field.event.name v = askToSignal r v := rfl
  rw [asked, askToSignalPlain formed.plain, putParameterPlain formed.plain, if_pos writable]
  exact puts puttable

theorem assignFits (done : assign r s v w = .ok () w') (other : s ≠ .requestParameters) :
    Fits r w (.setting s) v := by
  cases s with
  | responseAllowed =>
    obtain ⟨_, _, taken, _⟩ := bindInv done
    show isOverride v = true
    refine Decidable.byContradiction fun other => ?_
    rw [overrideRefused (Bool.eq_false_iff.mpr other)] at taken
    contradiction
  | requestParameters => contradiction
  | _ => trivial

theorem assignDone (formed : w.Formed) (there : r < w.contexts.length) (known : w.Knows v)
    (done : assign r s v w = .ok () w') :
    Fits r w (.setting s) v ∧ ∃ x, Sets r s x w w' ∧ Takes w w' s v x ∧
      w.parameterMaps.length ≤ w'.parameterMaps.length ∧
      ∀ i < w.parameterMaps.length, w'.parameterMaps.read i = w.parameterMaps.read i := by
  by_cases map : s = .requestParameters
  · subst map
    exact assignMap formed.plain there known done
  · obtain ⟨x, sets, takes, same⟩ := assignSets there map done
    exact ⟨assignFits done map, x, sets, takes, Nat.le_of_eq (congrArg List.length same.symm),
      fun i _ => by rw [same]⟩

theorem assignGoes (formed : w.Formed) (known : w.Knows v) (fits : Fits r w (.setting s) v) :
    ∃ w', assign r s v w = .ok () w' := by
  cases s with
  | responseAllowed =>
    have override : isOverride v = true := fits
    cases v <;> first | contradiction | exact ⟨_, rfl⟩
  | requestParameters =>
    cases wrapped : wraps .requestParameters v with
    | false => cases v <;> first | contradiction | exact ⟨_, rfl⟩
    | true =>
      obtain ⟨w₁, made⟩ := createGoes formed.plain known (fits wrapped)
      rw [← parametersWrapped wrapped] at made
      exact ⟨_, bindOk made⟩
  | currentUser => cases v <;> exact ⟨_, rfl⟩
  | _ => exact ⟨_, rfl⟩

theorem fieldGoes (formed : w.Formed) (there : r < w.contexts.length) (known : w.Knows v)
    {field : Field} (fits : Fits r w field v) : ∃ w', seedField r field.name v w = .ok () w' := by
  cases field with
  | setting s =>
    have own : seedField r (Field.setting s).name v = assign r s v := by
      unfold seedField
      rw [Field.namedOwn]
    rw [own]
    exact assignGoes formed known fits
  | parameters => exact parametersGo formed there fits
  | event => exact eventGoes formed fits

end

structure Stands (r : Nat) (fields : List (String × Value)) (w : World) : Prop where
  formed : w.Formed
  there : r < w.contexts.length
  known : ∀ f ∈ fields, w.Knows f.2

def namesEvent (name : Value) : Bool := (Value.text eventParameter).sameKey name

theorem slotParameters {c c' : Context}
    (same : c'.slot .requestParameters = c.slot .requestParameters) :
    c'.parameters = c.parameters := Value.parameters.inj same

section
variable {r : Nat} {w w' : World} {fields before : List (String × Value)}

theorem Stands.later (stands : Stands r fields w) (upholds : Upholds w w') : Stands r fields w' :=
  ⟨upholds.formed stands.formed, Nat.lt_of_lt_of_le stands.there upholds.contexts,
    fun f mem => World.knowsLater upholds.maps (stands.known f mem)⟩

theorem Stands.within (stands : Stands r fields w) (sub : ∀ f ∈ before, f ∈ fields) :
    Stands r before w :=
  ⟨stands.formed, stands.there, fun f mem => stands.known f (sub f mem)⟩

variable [Calls]

theorem Stands.seedField {name : String} {v : Value} (stands : Stands r [(name, v)] w)
    (done : seedField r name v w = .ok () w') : Upholds w w' :=
  leavesOk done ▸ seedFieldUpholds name stands.formed.plain (stands.known _ List.mem_cons_self)

inductive Does (r : Nat) (w w' : World) : Field → Value → Prop where
  | assigns {s v x} (sets : Sets r s x w w') (takes : Takes w w' s v x)
      (same : ∀ i < w.parameterMaps.length, w'.parameterMaps.read i = w.parameterMaps.read i) :
      Does r w w' (.setting s) v
  | pours {v} (fills : Fills (w.context r).parameters (w.given v) w w') : Does r w w' .parameters v
  | signals {v} (fills : Fills (w.context r).parameters [(.text eventParameter, v)] w w') :
      Does r w w' .event v

theorem fieldDone {name : String} {v : Value} (stands : Stands r [(name, v)] w)
    (done : seedField r name v w = .ok () w') :
    ∃ field, name = Field.name field ∧ Fits r w field v ∧ Does r w w' field v := by
  obtain ⟨formed, there, known⟩ := stands
  cases named : Field.named? name with
  | none =>
    rw [seedUnknown (Field.unnamed.mp named)] at done
    contradiction
  | some field =>
    obtain rfl := Field.namedIff.mp named
    cases field with
    | setting s =>
      have own : assign r s v w = .ok () w' := by
        unfold seedField at done
        rwa [named] at done
      obtain ⟨fits, x, sets, takes, _, same⟩ :=
        assignDone formed there (known _ List.mem_cons_self) own
      exact ⟨_, rfl, fits, .assigns sets takes same⟩
    | parameters =>
      obtain ⟨fits, fills⟩ := parametersFill formed there done
      exact ⟨_, rfl, fits, .pours fills⟩
    | event =>
      obtain ⟨fits, fills⟩ := eventFills formed there done
      exact ⟨_, rfl, fits, .signals fills⟩

end

end Context

end FlowDouble
