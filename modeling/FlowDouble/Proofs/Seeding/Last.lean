import FlowDouble.Proofs.Parameters.History
import FlowDouble.Proofs.Seeding.Fields
/-! Which seeded parameters are there at the end: those that no later field takes away. Only another
parameter map in place of the first, or the event under its own name, can come over them. -/
namespace FlowDouble.Context

open FlowDouble.Action ParameterMap

structure Passes (x : Value) (w w' : World) : Prop where
  upholds : Upholds w w'
  only : OnlyContexts w w'
  found : ∀ s < w.parameterMaps.length,
    Entries.find? x (w'.parameterMaps.read s) = Entries.find? x (w.parameterMaps.read s)

namespace Passes

variable {x : Value} {w w₁ w' : World}

theorem refl (x : Value) (w : World) : Passes x w w :=
  ⟨FlowDouble.upholds.refl w, onlyContexts.refl w, fun _ _ => rfl⟩

theorem trans (before : Passes x w w₁) (after : Passes x w₁ w') : Passes x w w' :=
  ⟨FlowDouble.upholds.trans before.upholds after.upholds, onlyContexts.trans before.only after.only,
    fun s there => (after.found s (Nat.lt_of_lt_of_le there before.upholds.maps)).trans
      (before.found s there)⟩

theorem ofFills {m : ParameterMap} {pairs : List (Value × Value)} (upholds : Upholds w w')
    (fills : Fills m pairs w w') (absent : (Entries.ofPairs pairs).find? x = none) :
    Passes x w w' := by
  refine ⟨upholds, .ofParameters fills.only, fun s _ => ?_⟩
  by_cases same : s = m.ref
  · rw [same]
    exact fills.untold absent
  · rw [fills.others s same]

end Passes

section
variable {r : Nat} {m x : Value} {s : String} {w w₁ w' : World}
  {fields before after : List (String × Value)}

def Carries (r : Nat) (s : String) (w : World) : Prop :=
  (w.parameters (w.context r).parameters).find? (.text eventParameter) = some (.text s)

theorem fillsText {p : ParameterMap} {pairs : List (Value × Value)} (fills : Fills p pairs w w')
    (found : (Entries.ofPairs pairs).find? x = some (.text s)) :
    (w'.parameters p).find? x = some (.text s) := by
  obtain ⟨kept, held, keeps⟩ := fills.told found
  cases keeps
  exact held

def Others (p : ParameterMap) (w w' : World) : Prop :=
  ∀ i < w.parameterMaps.length, i ≠ p.ref →
    Entries.find? (.text eventParameter) (w'.parameterMaps.read i) =
      Entries.find? (.text eventParameter) (w.parameterMaps.read i)

theorem givenEvent {p : ParameterMap} (formed : w.Formed) (formed' : w'.Formed)
    (only : OnlyContexts w w') (known : w.Knows m) (others : Others p w w')
    (apart : ∀ e ∈ (w.items m).items, namesEvent e.1 = false)
    (carried : (w'.parameters p).find? (.text eventParameter) = some (.text s)) :
    (Entries.ofPairs (w'.given m)).find? (.text eventParameter) = none ∨
      (Entries.ofPairs (w'.given m)).find? (.text eventParameter) = some (.text s) := by
  by_cases own : ∃ t, m.root = .parameters t ∧ t.ref = p.ref
  · obtain ⟨t, root, same⟩ := own
    have entries : w'.parameters t = w'.parameters p := congrArg w'.parameterMaps.read same
    exact .inr ((World.givenOwn formed' root).trans (entries ▸ carried))
  · refine .inl ?_
    rw [World.givenFind formed formed' only fun t root =>
      others t.ref (World.knownRoot known root) fun same => own ⟨t, root, same⟩]
    exact Entries.findPairsNone.mpr fun e mem =>
      Entries.notSameSymm (apart e (World.givenItem mem))

variable [Calls]

structure Cut (r : Nat) (before : List (String × Value)) (name : String) (v : Value)
    (after : List (String × Value)) (w w₁ w₂ w' : World) : Prop where
  first : seedAll r before w = .ok () w₁
  pivot : Context.seedField r name v w₁ = .ok () w₂
  last : seedAll r after w₂ = .ok () w'
  stands : Stands r before w
  standsPivot : Stands r [(name, v)] w₁
  standsLast : Stands r after w₂
  upholds : Upholds w w₁
  upholdsPivot : Upholds w₁ w₂

theorem cuts {name : String} {v : Value} (stands : Stands r (before ++ (name, v) :: after) w)
    (done : seedAll r (before ++ (name, v) :: after) w = .ok () w') :
    ∃ w₁ w₂, Cut r before name v after w w₁ w₂ w' := by
  rw [seedAllAppend] at done
  obtain ⟨_, w₁, first, rest⟩ := bindInv done
  obtain ⟨_, w₂, pivot, last⟩ := bindInv rest
  have standsFirst := stands.within fun _ mem => List.mem_append_left _ mem
  have upholds : Upholds w w₁ :=
    leavesOk first ▸ seedAllUpholds stands.formed.plain standsFirst.known
  have standsOne : Stands r [(name, v)] w := stands.within (by simp)
  have standsPivot := standsOne.later upholds
  have upholdsPivot := standsPivot.seedField pivot
  have standsRest : Stands r after w := stands.within (by simp +contextual)
  have standsLast := standsRest.later (FlowDouble.upholds.trans upholds upholdsPivot)
  exact ⟨w₁, w₂, first, pivot, last, standsFirst, standsPivot, standsLast, upholds, upholdsPivot⟩

theorem fieldPasses {name : String} {v : Value} (stands : Stands r [(name, v)] w)
    (other : name ≠ "parameters") (apart : name = "event_id" → namesEvent x = false)
    (done : seedField r name v w = .ok () w') :
    Passes x w w' ∧
      (name ≠ "request_parameter_map" → (w'.context r).parameters = (w.context r).parameters) := by
  have upholds := stands.seedField done
  obtain ⟨field, rfl, _, does⟩ := fieldDone stands done
  cases does with
  | pours fills => exact absurd rfl other
  | signals fills =>
    have absent : (Entries.ofPairs [(.text eventParameter, v)]).find? x = none :=
      Entries.findPairsNone.mpr (by simpa [namesEvent] using apart rfl)
    exact ⟨.ofFills upholds fills absent, fun _ => by rw [fills.context]⟩
  | @assigns s _ _ sets _ same =>
    refine ⟨⟨upholds, sets.only, fun s old => by rw [same s old]⟩, fun noMap => ?_⟩
    exact slotParameters (sets.slots _ fun map => noMap (map ▸ rfl))

theorem seedPasses (stands : Stands r fields w) (other : "parameters" ∉ fields.map Prod.fst)
    (apart : "event_id" ∈ fields.map Prod.fst → namesEvent x = false)
    (done : seedAll r fields w = .ok () w') :
    Passes x w w' ∧ ("request_parameter_map" ∉ fields.map Prod.fst →
      (w'.context r).parameters = (w.context r).parameters) := by
  induction fields generalizing w with
  | nil =>
    cases done
    exact ⟨.refl x _, fun _ => rfl⟩
  | cons f rest ih =>
    obtain ⟨_, w₁, first, later⟩ := bindInv done
    simp only [List.map_cons, List.mem_cons, not_or] at other apart ⊢
    obtain ⟨passes, same⟩ := fieldPasses (stands.within (by simp)) (Ne.symm other.1)
      (fun event => apart (.inl event.symm)) first
    obtain ⟨passes', same'⟩ := ih ((stands.within (by simp +contextual)).later passes.upholds)
      other.2 (fun event => apart (.inr event)) later
    exact ⟨passes.trans passes', fun kept => (same' kept.2).trans (same (Ne.symm kept.1))⟩

theorem seedAnswers (stands : Stands r fields w) (other : "parameters" ∉ fields.map Prod.fst)
    (apart : "event_id" ∈ fields.map Prod.fst → namesEvent x = false)
    (kept : "request_parameter_map" ∉ fields.map Prod.fst)
    (done : seedAll r fields w = .ok () w') :
    (w'.parameters (w'.context r).parameters).find? x =
      (w.parameters (w.context r).parameters).find? x := by
  obtain ⟨passes, same⟩ := seedPasses stands other apart done
  rw [same kept]
  exact passes.found _ (stands.formed.owned r stands.there)

theorem parametersLast (stands : Stands r (before ++ ("parameters", m) :: after) w)
    (distinct : ((before ++ ("parameters", m) :: after).map Prod.fst).Nodup)
    (kept : "request_parameter_map" ∉ after.map Prod.fst)
    {e : Value × Value} (mem : e ∈ (w.items m).items)
    (apart : "event_id" ∈ (before ++ ("parameters", m) :: after).map Prod.fst →
      namesEvent e.1 = false)
    (done : seedAll r (before ++ ("parameters", m) :: after) w = .ok () w') :
    ∃ v, (w'.parameters (w'.context r).parameters).find? e.1 = some v ∧ Keeps w.lists e.2 v := by
  obtain ⟨w₁, w₂, cut⟩ := cuts stands done
  simp only [List.map_append, List.map_cons, List.nodup_append, List.nodup_cons, List.mem_append,
    List.mem_cons] at distinct apart
  obtain ⟨_, ⟨onceAfter, _⟩, cross⟩ := distinct
  have onceBefore : "parameters" ∉ before.map Prod.fst := fun mem => cross _ mem _ (.inl rfl) rfl
  obtain ⟨passes, _⟩ := seedPasses (x := e.1) cut.stands onceBefore
    (fun event => apart (.inl event)) cut.first
  obtain ⟨formed₁, there₁, _⟩ := cut.standsPivot
  obtain ⟨⟨⟨mapping, _⟩, _⟩, fills⟩ := parametersFill formed₁ there₁ cut.pivot
  have known : w.Knows m := stands.known _ (List.mem_append_right _ List.mem_cons_self)
  have found : (Entries.ofPairs (w₁.given m)).find? e.1 = some e.2 := by
    rw [World.givenFind stands.formed formed₁ passes.only fun t root =>
      passes.found t.ref (World.knownRoot known root)]
    exact World.givenEntry stands.formed mem mapping
  obtain ⟨v, held, keeps⟩ := fills.told found
  refine ⟨v, ?_, passes.only.lists ▸ keeps⟩
  rw [seedAnswers cut.standsLast onceAfter (fun event => apart (.inr (.inr event))) kept cut.last,
    fills.context]
  exact held

theorem parametersCarry (formed : w.Formed) (known : w.Knows m)
    (stands : Stands r [("parameters", m)] w₁) (only : OnlyContexts w w₁)
    (others : Others (w₁.context r).parameters w w₁)
    (apart : ∀ e ∈ (w.items m).items, namesEvent e.1 = false) (carried : Carries r s w₁)
    (done : seedField r "parameters" m w₁ = .ok () w') : Carries r s w' := by
  obtain ⟨_, fills⟩ := parametersFill stands.formed stands.there done
  unfold Carries
  rw [fills.context]
  rcases givenEvent formed stands.formed only known others apart carried with none | own
  · exact (fills.untold none).trans carried
  · exact fillsText fills own

theorem eventLast (stands : Stands r (before ++ ("event_id", .text s) :: after) w)
    (distinct : ((before ++ ("event_id", .text s) :: after).map Prod.fst).Nodup)
    (kept : "request_parameter_map" ∉ after.map Prod.fst)
    (apart : ∀ m, ("parameters", m) ∈ after → ∀ e ∈ (w.items m).items, namesEvent e.1 = false)
    (done : seedAll r (before ++ ("event_id", .text s) :: after) w = .ok () w') :
    Carries r s w' := by
  obtain ⟨w₁, w₂, cut⟩ := cuts stands done
  obtain ⟨_, fills⟩ := eventFills cut.standsPivot.formed cut.standsPivot.there cut.pivot
  have signalled : Carries r s w₂ := by
    unfold Carries
    rw [fills.context]
    exact fillsText fills (Entries.findInserted _ _ [])
  simp only [List.map_append, List.map_cons, List.nodup_append, List.nodup_cons, List.mem_cons]
    at distinct
  obtain ⟨_, ⟨noEvent, distinct⟩, cross⟩ := distinct
  -- Only parameters given later touch the map once more, and they may be the map itself.
  by_cases parameters : "parameters" ∈ after.map Prod.fst
  · obtain ⟨⟨name, m⟩, inside, rfl⟩ := List.mem_map.mp parameters
    obtain ⟨mid, last, rfl⟩ := List.append_of_mem inside
    obtain ⟨w₃, w₄, next⟩ := cuts cut.standsLast cut.last
    simp only [List.map_append, List.map_cons, List.nodup_append, List.nodup_cons, List.mem_append,
      List.mem_cons, not_or] at distinct cross noEvent kept
    have onceBefore : "parameters" ∉ before.map Prod.fst := fun mem =>
      cross _ mem _ (.inr (.inr (.inl rfl))) rfl
    have noSignal : "event_id" ∉ before.map Prod.fst := fun mem => cross _ mem _ (.inl rfl) rfl
    have onceMid : "parameters" ∉ mid.map Prod.fst := fun mem => distinct.2.2 _ mem _ (.inl rfl) rfl
    have noneMid : "event_id" ∈ mid.map Prod.fst → namesEvent (.text eventParameter) = false :=
      fun event => absurd event noEvent.1
    obtain ⟨passes, _⟩ := seedPasses (x := .text eventParameter) cut.stands onceBefore
      (fun event => absurd event noSignal) cut.first
    obtain ⟨passes', same⟩ := seedPasses next.stands onceMid noneMid next.first
    have midway : Carries r s w₃ :=
      (seedAnswers next.stands onceMid noneMid kept.1 next.first).trans signalled
    have others : Others (w₃.context r).parameters w w₃ := by
      intro i old other
      rw [same kept.1, fills.context] at other
      rw [passes'.found i (Nat.lt_of_lt_of_le old (upholds.trans cut.upholds cut.upholdsPivot).maps),
        fills.others i other, passes.found i old]
    have only : OnlyContexts w w₃ :=
      onlyContexts.trans passes.only (onlyContexts.trans (.ofParameters fills.only) passes'.only)
    have known : w.Knows m := stands.known _ (List.mem_append_right _ (List.mem_cons_of_mem _ inside))
    have poured := parametersCarry stands.formed known next.standsPivot only others
      (apart m inside) midway next.pivot
    exact (seedAnswers next.standsLast distinct.2.1.1 (fun event => absurd event noEvent.2.2)
      kept.2.2 next.last).trans poured
  · exact (seedAnswers cut.standsLast parameters (fun event => absurd event noEvent) kept
      cut.last).trans signalled

end

def valuesOf (lists : Heap (List Value)) : Value → List Value
  | .list s => lists.read s
  | .tuple _ vs => vs
  | v => [v]

theorem keptRow {lists : Heap (List Value)} {v kept : Value} (keeps : Keeps lists v kept) :
    row (some kept) = valuesOf lists v := by
  cases keeps with
  | row s tag one => rfl
  | itself accepted => cases v <;> first | rfl | contradiction

/-- Each entry of the parameters is listed at the end, and the event is told, unless a later field
puts another map in the place of theirs or brings an event of its own. -/
theorem seededParametersStay {r : Nat} {fields : List (String × Value)} {c : Value} {w w' : World}
    (reachable : Reachable r w) (known : ∀ f ∈ fields, w.Knows f.2)
    (distinct : (fields.map Prod.fst).Nodup)
    (done : Script.seedOn (.context r) fields w = .ok c w') :
    (∀ before m after, fields = before ++ ("parameters", m) :: after →
      "request_parameter_map" ∉ after.map Prod.fst →
      ∀ e ∈ (w.items m).items, ("event_id" ∈ fields.map Prod.fst → namesEvent e.1 = false) →
        ∃ p l w₁, perform r (.setting .requestParameters) w' = .ok (.parameters p) w' ∧
          p.perform (.getArray e.1) w' = .ok (.list l) w₁ ∧
          w₁.list l = valuesOf w.lists e.2) ∧
    (∀ before s after, fields = before ++ ("event_id", .text s) :: after →
      "request_parameter_map" ∉ after.map Prod.fst →
      (∀ m, ("parameters", m) ∈ after → ∀ e ∈ (w.items m).items, namesEvent e.1 = false) →
        ∃ p, perform r (.setting .requestParameters) w' = .ok (.parameters p) w' ∧
          p.perform (.get (.text eventParameter) .null) w' = .ok (.text s) w') := by
  obtain ⟨_, _, seeded⟩ := seedOnInv done
  obtain ⟨formed, there⟩ := reachableFormed reachable
  have stands : Stands r fields w := ⟨formed, there, known⟩
  have shown : perform r (.setting .requestParameters) w' =
      .ok (.parameters (w'.context r).parameters) w' := rfl
  constructor
  · rintro before m after rfl kept e mem apart
    obtain ⟨v, found, keeps⟩ := parametersLast stands distinct kept mem apart seeded
    refine ⟨_, _, _, shown, getArrayTells (World.itemsHashable formed mem), ?_⟩
    rw [found, keptRow keeps]
    exact Heap.readPushed _ _
  · rintro before s after rfl kept apart
    have found := eventLast stands distinct kept apart seeded
    refine ⟨_, shown, (getTells (by decide) _).trans ?_⟩
    rw [found]
    rfl

theorem parametersStayBesideEvent :
    ∃ w w', Reachable 0 w ∧ Script.seedOn (.context 0)
        [("event_id", .text "go"), ("parameters", .dictionary 0), ("locale", .text "fr")] w =
          .ok (.context 0) w' ∧
      (∃ p l w₁, perform 0 (.setting .requestParameters) w' = .ok (.parameters p) w' ∧
        p.perform (.getArray (.text "ids")) w' = .ok (.list l) w₁ ∧
        w₁.list l = [.text "1", .text "2"]) ∧
      ∃ p, perform 0 (.setting .requestParameters) w' = .ok (.parameters p) w' ∧
        p.perform (.get (.text eventParameter) .null) w' = .ok (.text "go") w' := by
  let before : World :=
    { lists := [[.text "1", .text "2"]], dictionaries := [[(.text "ids", .list 0)]] }
  have formed : before.Formed := by
    refine formedStart fun es mem => ?_
    rw [List.mem_singleton.mp mem]
    exact ⟨by decide, by decide⟩
  have reachable : Reachable 0 (started before) := reachableStarted formed
  obtain ⟨w', done⟩ : ∃ w', Script.seedOn (.context 0)
      [("event_id", .text "go"), ("parameters", .dictionary 0), ("locale", .text "fr")]
        (started before) = .ok (.context 0) w' := ⟨_, rfl⟩
  have known : ∀ f ∈ [("event_id", Value.text "go"), ("parameters", .dictionary 0),
      ("locale", .text "fr")], (started before).Knows f.2 := by simp [World.Knows]
  have items : ((started before).items (.dictionary 0)).items = [(.text "ids", .list 0)] := rfl
  obtain ⟨entries, event⟩ := seededParametersStay reachable known (by decide) done
  refine ⟨_, w', reachable, done, ?_, ?_⟩
  · exact entries [_] _ [_] rfl (by decide) (.text "ids", .list 0) (by simp [items])
      fun _ => by decide
  · refine event [] _ _ rfl (by decide) fun m mem e inside => ?_
    have same : m = .dictionary 0 := by simpa using mem
    rw [same, items, List.mem_singleton] at inside
    rw [inside]
    decide

theorem laterFieldsTakeOver :
    (¬ ∀ r w w' fields, Reachable r w → (∀ f ∈ fields, w.Knows f.2) → (fields.map Prod.fst).Nodup →
      Script.seedOn (.context r) fields w = .ok (.context r) w' →
      ∀ m, ("parameters", m) ∈ fields → ∀ e ∈ (w.items m).items,
        ("event_id" ∈ fields.map Prod.fst → namesEvent e.1 = false) →
        ∃ p l w₁, perform r (.setting .requestParameters) w' = .ok (.parameters p) w' ∧
          p.perform (.getArray e.1) w' = .ok (.list l) w₁ ∧ w₁.list l = valuesOf w.lists e.2) ∧
    ¬ ∀ r w w' fields, Reachable r w → (∀ f ∈ fields, w.Knows f.2) → (fields.map Prod.fst).Nodup →
      Script.seedOn (.context r) fields w = .ok (.context r) w' →
      ∀ s, ("event_id", .text s) ∈ fields →
        ∃ p, perform r (.setting .requestParameters) w' = .ok (.parameters p) w' ∧
          p.perform (.get (.text eventParameter) .null) w' = .ok (.text s) w' := by
  have formed {dictionaries : Heap Entries} (sound : ∀ es ∈ dictionaries, es.Sound) :
      World.Formed { dictionaries } := formedStart sound
  constructor
  · intro all
    let before : World := { dictionaries := [[(.text "page", .text "2")], []] }
    have reachable : Reachable 0 (started before) := reachableStarted (formed fun es mem => by
      rcases List.mem_cons.mp mem with rfl | mem
      · exact ⟨by decide, by decide⟩
      · rw [List.mem_singleton.mp mem]
        exact Entries.soundNil)
    obtain ⟨w', done, map, entries⟩ : ∃ w', Script.seedOn (.context 0)
        [("parameters", .dictionary 0), ("request_parameter_map", .dictionary 1)]
          (started before) = .ok (.context 0) w' ∧
        perform 0 (.setting .requestParameters) w' = .ok (.parameters ⟨true, 1⟩) w' ∧
        w'.parameters ⟨true, 1⟩ = [] := ⟨_, rfl, rfl, rfl⟩
    obtain ⟨p, l, w₁, shown, listed, values⟩ := all 0 _ w' _ reachable (by simp [World.Knows])
      (by decide) done (.dictionary 0) (by simp) (.text "page", .text "2") (List.mem_singleton.mpr rfl)
      (by decide)
    cases map.symm.trans shown
    have page : (Value.text "page").hashable = true := by decide
    have empty := getArrayTells (m := ⟨true, 1⟩) (w := w') page
    rw [entries] at empty
    cases empty.symm.trans listed
    have none : World.list { w' with lists := w'.lists.push [] } w'.lists.length = [] :=
      Heap.readPushed _ _
    have lost : ([] : List Value) = [.text "2"] := none.symm.trans values
    contradiction
  · intro all
    let before : World := { dictionaries := [[(.text eventParameter, .text "x")]] }
    have reachable : Reachable 0 (started before) := reachableStarted (formed fun es mem => by
      rw [List.mem_singleton.mp mem]
      exact ⟨by decide, by decide⟩)
    obtain ⟨w', done, map, entries⟩ : ∃ w', Script.seedOn (.context 0)
        [("event_id", .text "go"), ("parameters", .dictionary 0)] (started before) =
          .ok (.context 0) w' ∧
        perform 0 (.setting .requestParameters) w' = .ok (.parameters ⟨true, 0⟩) w' ∧
        w'.parameters ⟨true, 0⟩ = [(.text eventParameter, .text "x")] := ⟨_, rfl, rfl, rfl⟩
    obtain ⟨p, shown, told⟩ := all 0 _ w' _ reachable (by simp [World.Knows]) (by decide) done "go"
      (by simp)
    cases map.symm.trans shown
    have event : (Value.text eventParameter).hashable = true := by decide
    have other := getTells (m := ⟨true, 0⟩) (w := w') event .null
    rw [entries] at other
    have clash := (EStateM.Result.ok.inj (other.symm.trans told)).1
    simp [Entries.find?, Value.sameKeyRefl, first] at clash

end FlowDouble.Context
