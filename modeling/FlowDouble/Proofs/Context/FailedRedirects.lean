import FlowDouble.Proofs.Attributes.Offers
import FlowDouble.Proofs.Context.Recorded
import FlowDouble.Proofs.Context.Refusals
/-! A redirect to a definition takes its flow and its map before it knows whether the input can be
copied. Where the copy fails, both are kept and the response is not completed. -/
namespace FlowDouble.Context

open FlowDouble.Action

section
variable [Calls] {r : Nat} {w w' : World} {flow input v : Value} {f : Fault}

def offeredInput (r : Nat) (flow input : Value) (w : World) : Offer :=
  (begun r flow w).offered w.dictionaries.length input

theorem fillsAll (given : input.isNull = false) :
    fills (ownInput w) input =
      Value.update .dictionary (.dictionary w.dictionaries.length) input := by
  unfold fills
  rw [given]
  rfl

theorem fillsPours (r : Nat) (flow : Value) (plain : w.Plain) (given : input.isNull = false) :
    Pours w.dictionaries.length (begun r flow w) (offeredInput r flow input w)
      (fills (ownInput w) input (begun r flow w)) := by
  have sound : ((begun r flow w).dictionary w.dictionaries.length).Sound := by
    rw [begunDictionary]
    exact Entries.soundNil
  have plain : (begun r flow w).Plain := plain
  rw [fillsAll given]
  exact updatePours rfl .dictionary input plain begunGrows sound

theorem fillsThrough (r : Nat) (flow input : Value) (plain : w.Plain) :
    Through (.dictionary w.dictionaries.length) (begun r flow w)
      ((fills (ownInput w) input).leaves (begun r flow w)) := by
  have filling : Within (Through (.dictionary w.dictionaries.length))
      (fills (ownInput w) input) :=
    withinIte _ (withinPure (through _) ())
      (Attributes.putAllThrough (.dictionary w.dictionaries.length) input)
  exact filling _ plain

theorem announcesDone (plain : w.Plain) (known : r < w.contexts.length) (flow : String) :
    ∃ w', announces r (.text flow) w = .ok () w' := by
  obtain ⟨w₁, recorded, moves⟩ := records r w (.definitionRedirect flow)
  have plain₁ := World.plainKept moves.steady.attachments plain
  obtain ⟨w₂, completed, _⟩ := completes (r := r) plain₁
    (Nat.lt_of_lt_of_le known moves.steady.contexts)
  refine ⟨w₂, ?_⟩
  unfold announces
  rw [bindOk (shownText flow w), bindOk recorded, completed]

omit [Calls] in
theorem begunContext (known : r < w.contexts.length) :
    (begun r flow w).context r =
      { w.context r with redirectFlow := flow, redirectInput := ownInput w } := by
  let moved : Context := { w.context r with redirectFlow := flow }
  have there : r < (w.contexts.write r moved).length := by
    rw [Heap.writeKeepsLength]
    exact known
  have first : (w.contexts.write r moved).read r = moved := Heap.readWritten moved known
  have second : (begun r flow w).context r =
      { (w.contexts.write r moved).read r with redirectInput := ownInput w } :=
    Heap.readWritten _ there
  rw [second, first]

omit [Calls] in
theorem begunOthers {s : Nat} (other : s ≠ r) : (begun r flow w).context s = w.context s := by
  have first : (w.contexts.write r { w.context r with redirectFlow := flow }).read s =
      w.context s := Heap.readOther _ _ other.symm
  exact (Heap.readOther _ _ other.symm).trans first

theorem redirectFailsInFilling (plain : w.Plain) (known : r < w.contexts.length) (flow : String) :
    perform r (.redirectDefinition (.text flow) input) w = .error f w' ↔
      fills (ownInput w) input (begun r (.text flow) w) = .error f w' := by
  have run : perform r (.redirectDefinition (.text flow) input) w =
      yieldNothing (redirectDefinition r (.text flow) input) w := rfl
  rw [run, yieldFails, redirectBegins]
  cases filled : fills (ownInput w) input (begun r (.text flow) w) with
  | error e w₁ => rw [bindError filled]
  | ok u w₁ =>
    -- What follows the copy cannot fail, so no failure of the redirect comes from here.
    have through := fillsThrough r (.text flow) input plain
    rw [leavesOk filled] at through
    have there : r < w₁.contexts.length := by
      rw [through.contexts]
      simpa [begun, World.setContext, Heap.writeKeepsLength] using known
    obtain ⟨w₂, done⟩ := announcesDone (World.plainKept through.attachments plain) there flow
    rw [bindOk filled, done]
    simp

/-- What a redirect leaves that failed after so many pairs of its input: the flow and a new map of
these pairs are recorded, and all else is as it was. -/
structure HalfMade (r : Nat) (flow : Value) (pairs : List (Value × Value)) (w w' : World) :
    Prop where
  context : w'.context r =
    { w.context r with redirectFlow := flow, redirectInput := ownInput w }
  others : ∀ s, s ≠ r → w'.context s = w.context s
  own : w'.items (ownInput w) = ⟨Table.writeAll pairs [], none⟩
  maps : ∀ map, w.HasMap map → map.root ≠ (ownInput w).root ∧ w'.items map = w.items map
  writers : w'.writers = w.writers
  trail : w'.trail = w.trail
  attachments : w'.attachments = w.attachments

omit [Calls] in
theorem mapsApart {map : Value} (there : w.HasMap map) : map.root ≠ (ownInput w).root := by
  rcases there with ⟨d, known, ends⟩ | ⟨m, ends⟩
  · rw [ends]
    exact fun same => Nat.ne_of_lt known (Value.dictionary.inj same)
  · rw [ends]
    exact Value.noConfusion

omit [Calls] in
theorem begunHasMap {map : Value} (there : w.HasMap map) : (begun r flow w).HasMap map := by
  rcases there with ⟨d, known, ends⟩ | ends
  · exact .inl ⟨d, Nat.lt_trans known begunGrows, ends⟩
  · exact .inr ends

theorem failedHalfMade (plain : w.Plain) (known : r < w.contexts.length)
    (failed : fills (ownInput w) input (begun r flow w) = .error f w') :
    input.isNull = false ∧ (offeredInput r flow input w).2 = some f.kind ∧
      HalfMade r flow (offeredInput r flow input w).1 w w' := by
  cases given : input.isNull with
  | true =>
    unfold fills at failed
    rw [given] at failed
    contradiction
  | false =>
    have poured := fillsPours r flow plain given
    have through := fillsThrough r flow input plain
    rw [failed] at poured
    rw [leavesError failed] at through
    obtain ⟨fault, after⟩ := poured
    rw [begunDictionary] at after
    refine ⟨rfl, fault, ?_⟩
    have contexts (s : Nat) : w'.context s = (begun r flow w).context s := by
      simp only [World.context, through.contexts]
    exact
      { context := (contexts r).trans (begunContext known)
        others := fun s other => (contexts s).trans (begunOthers other)
        own := by rw [World.itemsOver (d := w.dictionaries.length) rfl, after.dictionary]
        maps := fun map there => by
          have apart := mapsApart there
          exact ⟨apart, (through.itemsKept (begunHasMap there) apart).trans (begunItems there)⟩
        writers := through.writers
        trail := through.trail
        attachments := through.attachments }

theorem popsUpRequested (plain : w.Plain) (requested : (w.context r).redirectRequested = true) :
    ∃ w', perform r .popUp w = .ok .null w' := by
  have marked : ∃ w', popUp r w = .ok () w' := by
    rw [popsUp plain, if_pos requested]
    exact ⟨_, rfl⟩
  obtain ⟨w', marked⟩ := marked
  exact ⟨w', bindOk marked⟩

theorem redirectFailsIff (plain : w.Plain) (known : r < w.contexts.length) (flow : String) :
    (∃ f w', perform r (.redirectDefinition (.text flow) input) w = .error f w') ↔
      input.isNull = false ∧ (offeredInput r (.text flow) input w).2 ≠ none := by
  constructor
  · rintro ⟨f, w', failed⟩
    have filling := (redirectFailsInFilling plain known flow).mp failed
    obtain ⟨given, fault, _⟩ := failedHalfMade plain known filling
    exact ⟨given, fault ▸ Option.some_ne_none _⟩
  · rintro ⟨given, bad⟩
    have poured := fillsPours r (.text flow) plain given
    cases filled : fills (ownInput w) input (begun r (.text flow) w) with
    | ok u w' =>
      rw [filled] at poured
      exact absurd poured.1 bad
    | error f w' => exact ⟨f, w', (redirectFailsInFilling plain known flow).mpr filled⟩

omit [Calls] in
theorem rowsOffered {rows : List (Nat × Value × Value)}
    (breaks : (begun r flow w).BreaksAfter input rows) :
    input.isNull = false ∧ (offeredInput r flow input w).1 = rows.map (·.2) ∧
      (offeredInput r flow input w).2 ≠ none := by
  obtain ⟨k, offer⟩ : ∃ k, offeredInput r flow input w = (rows.map (·.2), some k) :=
    World.offeredUpToBad breaks
  obtain ⟨_, _, _, parts⟩ := breaks.parts
  have given : input.isNull = false := by
    cases input <;> first | rfl | contradiction
  rw [offer]
  exact ⟨given, rfl, Option.some_ne_none k⟩

omit [Calls] in
theorem nothingOffered (other : input.isMapping = false)
    (nothing : (begun r flow w).elements? input = none) :
    offeredInput r flow input w = ([], some .wrongType) := by
  unfold offeredInput World.offered
  rw [other, nothing]
  rfl

/-- A redirect to a definition fails just where its input has something to offer that cannot be
copied. It has recorded its flow by then, and a new map of what came before that in place of the
input recorded earlier. So a redirect counts as requested, and can pop up, without a response that
is complete. -/
theorem failedRedirectIsHalfMade (reachable : Reachable r w) (flow : String) (input : Value) :
    let offer := offeredInput r (.text flow) input w
    ((∃ f w', perform r (.redirectDefinition (.text flow) input) w = .error f w') ↔
      input.isNull = false ∧ offer.2 ≠ none) ∧
    (input.isMapping = false → (begun r (.text flow) w).elements? input = none →
      offer = ([], some .wrongType)) ∧
    (∀ rows, (begun r (.text flow) w).BreaksAfter input rows →
      input.isNull = false ∧ offer.1 = rows.map (·.2) ∧ offer.2 ≠ none) ∧
    ∀ f w', perform r (.redirectDefinition (.text flow) input) w = .error f w' →
      offer.2 = some f.kind ∧ HalfMade r (.text flow) offer.1 w w' ∧
      perform r .isRedirectRequested w' = .ok (.bool true) w' ∧
      perform r .isResponseComplete w' = .ok (.bool (w.context r).complete) w' ∧
      ∃ w'', perform r .popUp w' = .ok .null w'' := by
  obtain ⟨formed, known⟩ := reachableFormed reachable
  have plain := formed.plain
  refine ⟨redirectFailsIff plain known flow, nothingOffered, fun rows => rowsOffered,
    fun f w' failed => ?_⟩
  have filling := (redirectFailsInFilling plain known flow).mp failed
  obtain ⟨_, fault, half⟩ := failedHalfMade plain known filling
  have plain' : w'.Plain := World.plainKept half.attachments plain
  have requested : (w'.context r).redirectRequested = true := by
    rw [half.context]
    simp [redirectRequested, definitionRedirect, Value.isNull]
  have complete : (w'.context r).complete = (w.context r).complete := by rw [half.context]
  refine ⟨fault, half, ?_, ?_, popsUpRequested plain' requested⟩
  · rw [← requested]
    rfl
  · rw [← complete]
    rfl

end

theorem redirectBreaksAtSecond :
    ∃ w f w' w'', Reachable 0 w ∧ w.list 0 = [.tuple 6 [.text "user", .text "ann"], .int 5] ∧
      perform 0 (.redirectDefinition (.text "a") (.list 0)) w = .error f w' ∧
      HalfMade 0 (.text "a") [(.text "user", .text "ann")] w w' ∧
      perform 0 .isRedirectRequested w' = .ok (.bool true) w' ∧
      perform 0 .isResponseComplete w' = .ok (.bool false) w' ∧
      perform 0 .popUp w' = .ok .null w'' := by
  let before : World := { lists := [[.tuple 6 [.text "user", .text "ann"], .int 5]] }
  have formed : before.Formed := formedStart fun es mem => by contradiction
  have reachable : Reachable 0 (started before) := reachableStarted formed
  have breaks : (begun 0 (.text "a") (started before)).BreaksAfter (.list 0)
      [(6, .text "user", .text "ann")] :=
    { parts := ⟨.int 5, [], fun _ => ⟨_, rfl⟩, rfl⟩
      hashable := by simp [Value.hashable, Value.changeable?]
      noMapping := rfl
      noView := by simp [Value.root] }
  obtain ⟨fails, _, offers, half⟩ := failedRedirectIsHalfMade reachable "a" (.list 0)
  obtain ⟨given, pairs, bad⟩ := offers _ breaks
  obtain ⟨f, w', failed⟩ := fails.mpr ⟨given, bad⟩
  obtain ⟨_, halfMade, requested, complete, w'', popped⟩ := half f w' failed
  rw [pairs] at halfMade
  exact ⟨_, f, w', w'', reachable, rfl, failed, halfMade, requested, complete, popped⟩

theorem requestedWithoutResponse :
    ¬ ∀ r w, Reachable r w → ∀ flow input f w',
      perform r (.redirectDefinition (.text flow) input) w = .error f w' →
      perform r .isRedirectRequested w' = .ok (.bool (w.context r).redirectRequested) w' := by
  intro all
  have formed : World.Formed {} := formedStart fun es mem => by contradiction
  have reachable : Reachable 0 (started {}) := reachableStarted formed
  obtain ⟨f, w', failed, requested⟩ : ∃ f w',
      perform 0 (.redirectDefinition (.text "a") (.int 5)) (started {}) = .error f w' ∧
        perform 0 .isRedirectRequested w' = .ok (.bool true) w' := ⟨_, _, rfl, rfl⟩
  have before := all 0 _ reachable "a" (.int 5) f w' failed
  have fresh : ((started {}).context 0).redirectRequested = false := rfl
  rw [requested, fresh] at before
  cases before

end FlowDouble.Context
