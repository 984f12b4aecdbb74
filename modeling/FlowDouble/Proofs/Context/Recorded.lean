import FlowDouble.Proofs.Context.Fresh
import FlowDouble.Proofs.Context.Input
/-! The input recorded by a redirect stands by itself up to the next one: what is done with any other
map does not show in it, and what is done with it shows in no other. -/
namespace FlowDouble

open FlowDouble.Action

theorem Through.itemsKept {d : Nat} {w w' : World} {map : Value}
    (h : Through (.dictionary d) w w') (there : w.HasMap map) (other : map.root ≠ .dictionary d) :
    w'.items map = w.items map := by
  rcases there with ⟨s, known, ends⟩ | ⟨m, ends⟩
  · have kept := h.dictionaries s known fun same => other (ends.trans same.symm)
    rw [World.itemsOver ends, World.itemsOver ends, kept]
  · have kept := h.parameters m fun _ _ => Value.noConfusion
    simp only [World.items, ends, kept]

namespace Context

inductive Attained [Calls] (r : Nat) : World → Prop where
  | made {source w₀ w} (formed : w₀.Formed) (known : w₀.Knows source)
      (made : create source w₀ = .ok r w) : Attained r w
  | call {w} (before : Attained r w) (op : Operation) (known : op.Known w) :
      Attained r ((perform r op).leaves w)
  | seed {w} (before : Attained r w) (fields : List (String × Value))
      (known : ∀ f ∈ fields, w.Knows f.2) : Attained r ((Context.seed r fields).leaves w)
  | elsewhere {w w'} (before : Attained r w) (upholds : Upholds w w')
      (retains : Retains r (fun _ => False) w w') : Attained r w'

inductive Later [Calls] (r d : Nat) (w : World) : List Use → World → Prop where
  | start : Later r d w [] w
  | used {uses w'} (before : Later r d w uses w') (use : Use)
      (calm : use.Calm (Through use.target.root)) :
      Later r d w (uses ++ [use]) (use.act.leaves w')
  | asked {uses w'} (before : Later r d w uses w') (op : Operation)
      (other : ∀ flow input, op ≠ .redirectDefinition flow input) :
      Later r d w uses ((perform r op).leaves w')
  | seeded {uses w'} (before : Later r d w uses w') (fields : List (String × Value)) :
      Later r d w uses ((Context.seed r fields).leaves w')
  | elsewhere {uses w' w''} (before : Later r d w uses w') (retains : Retains r (· = d) w' w'') :
      Later r d w uses w''

def afterUses [Calls] (uses : List Use) (w : World) : World :=
  uses.foldl (fun w use => use.act.leaves w) w

section
variable [Calls] {r d : Nat} {w w' : World} {uses : List Use} {flow input v : Value}

theorem attainedReachable (attained : Attained r w) : Reachable r w := by
  induction attained with
  | made formed known made => exact .made formed known made
  | call before op known ih => exact ih.call op known
  | seed before fields known ih => exact ih.seed fields known
  | elsewhere before upholds retains ih => exact ih.elsewhere upholds

theorem Attained.used (attained : Attained r w) (use : Use)
    (calm : use.Calm (Through use.target.root)) : Attained r (use.act.leaves w) := by
  have plain := (reachableFormed (attainedReachable attained)).1.plain
  have reached := use.within (through _) id calm w plain
  exact attained.elsewhere reached.upholds (.ofThrough reached fun _ => False.elim)

theorem attainedInput (attained : Attained r w) : w.HasInput (w.context r).redirectInput := by
  induction attained with
  | @made source w₀ w formed known made =>
    have fresh := congrArg Guard.hasInput (createdFresh made).2
    have blank : (!(w.context r).redirectInput.isNull) = false := fresh
    refine .inl ?_
    cases h : (w.context r).redirectInput <;> first | rfl | (rw [h] at blank; contradiction)
  | @call w before op known ih =>
    obtain ⟨formed, there⟩ := reachableFormed (attainedReachable before)
    by_cases redirects : ∃ flow input, op = .redirectDefinition flow input
    · obtain ⟨flow, input, rfl⟩ := redirects
      obtain ⟨recorded, has⟩ := redirectRecords flow input formed.plain there
      have same : (perform r (.redirectDefinition flow input)).leaves w =
          (redirectDefinition r flow input).leaves w := leavesThenPure _ _ w
      rw [same, recorded]
      exact .inr has
    · have other : ∀ flow input, op ≠ .redirectDefinition flow input :=
        fun flow input same => redirects ⟨flow, input, same⟩
      have retained := performRetains (r := r) (P := fun _ => False) other w formed.plain
      rw [retained.input]
      exact retained.hasInput ih
  | seed before fields known ih =>
    have plain := (reachableFormed (attainedReachable before)).1.plain
    have retained := seedWithin (settlesRetains r fun _ => False) fields _ plain
    rw [retained.input]
    exact retained.hasInput ih
  | elsewhere before upholds retained ih =>
    rw [retained.input]
    exact retained.hasInput ih

theorem laterRetains (later : Later r d w uses w') (plain : w.Plain) :
    Retains r (fun s => s = d ∧ ∀ use ∈ uses, use.target.root ≠ .dictionary d) w w' := by
  have effect (P : Nat → Prop) := retains r P
  have plainAfter {P : Nat → Prop} {w' : World} (before : Retains r P w w') : w'.Plain :=
    World.plainKept before.attachments plain
  induction later with
  | start => exact (effect _).refl w
  | @used uses w' before use calm ih =>
    have reached := use.within (through _) id calm _ (plainAfter ih)
    have before : Retains r (fun s => s = d ∧
        ∀ other ∈ uses ++ [use], other.target.root ≠ .dictionary d) w w' :=
      ih.mono fun s apart => ⟨apart.1, fun other mem => apart.2 other (List.mem_append_left _ mem)⟩
    refine (effect _).trans before (.ofThrough reached fun s apart => ?_)
    rw [apart.1]
    exact apart.2 use (List.mem_append_right _ (List.mem_singleton.mpr rfl))
  | asked before op other ih => exact (effect _).trans ih (performRetains other _ (plainAfter ih))
  | seeded before fields ih =>
    exact (effect _).trans ih (seedWithin (settlesRetains r _) fields _ (plainAfter ih))
  | elsewhere before retained ih => exact (effect _).trans ih (retained.mono fun s apart => apart.1)

theorem usesWithin {R : World → World → Prop} (effect : Effect R)
    (each : ∀ use ∈ uses, Within R use.act) (plain : w.Plain) : R w (afterUses uses w) := by
  induction uses generalizing w with
  | nil => exact effect.refl w
  | cons use rest ih =>
    have first := each use List.mem_cons_self w plain
    have plain' := World.plainKept (effect.attachments first) plain
    exact effect.trans first (ih (fun later mem => each later (List.mem_cons_of_mem _ mem)) plain')

theorem usesThrough (plain : w.Plain)
    (own : ∀ use ∈ uses, use.target.root = .dictionary d ∧ use.Calm (Through (.dictionary d))) :
    Through (.dictionary d) w (afterUses uses w) := by
  refine usesWithin (through _) (fun use mem => ?_) plain
  obtain ⟨ends, calm⟩ := own use mem
  exact use.within (through _) (fun h => ends ▸ h) calm

/-- A redirect to a definition records its input in a new map that has just the entries of the input, in
order. Up to the next one that map is the recorded one. What is done with any other map, such as the
input, what it is backed by or what was recorded before, does not show in it, nor the other way. -/
theorem redirectInputIsSnapshot (attained : Attained r w) (given : w.HasInput input)
    (done : perform r (.redirectDefinition flow input) w = .ok v w') :
    let own := ownInput w
    perform r (.reading .redirectInput) w' = .ok own w' ∧
    w'.items own = ⟨inputEntries w input, none⟩ ∧
    w.HasInput (w.context r).redirectInput ∧
    (∀ map, w.HasMap map → map.root ≠ own.root) ∧
    ∀ uses w'', Later r w.dictionaries.length w' uses w'' →
      perform r (.reading .redirectInput) w'' = .ok own w'' ∧
      ((∀ use ∈ uses, use.target.root ≠ own.root) →
        w''.items own = ⟨inputEntries w input, none⟩) ∧
      ∀ changes, (∀ use ∈ changes, use.target.root = own.root ∧ use.Calm (Through own.root)) →
        ∀ map, w.HasMap map → (afterUses changes w'').items map = w''.items map := by
  obtain ⟨formed, known⟩ := reachableFormed (attainedReachable attained)
  have plain := formed.plain
  have left : (redirectDefinition r flow input).leaves w = w' :=
    (leavesThenPure _ _ w).symm.trans (leavesOk done)
  have retained := redirectRetains r flow input plain
  obtain ⟨recorded, _⟩ := redirectRecords flow input plain known
  have copied := redirectCopies r flow formed given
  rw [left] at retained recorded copied
  have there : w.dictionaries.length < w'.dictionaries.length :=
    Nat.lt_of_lt_of_le begunGrows retained.grows
  have reads (w : World) :
      perform r (.reading .redirectInput) w = .ok (w.context r).redirectInput w := rfl
  have apart (map : Value) (has : w.HasMap map) : map.root ≠ (ownInput w).root := by
    rcases has with ⟨d, known, ends⟩ | ⟨m, ends⟩
    · rw [ends]
      exact fun same => Nat.ne_of_lt known (Value.dictionary.inj same)
    · rw [ends]
      exact Value.noConfusion
  have plain' : w'.Plain := World.plainKept retained.attachments plain
  refine ⟨by rw [reads, recorded], copied, attainedInput attained, apart,
    fun uses w'' later => ?_⟩
  have kept := laterRetains later plain'
  refine ⟨by rw [reads, kept.input, recorded], fun others => ?_, fun changes own map has => ?_⟩
  · have same := kept.dictionaries _ there ⟨rfl, others⟩
    rw [World.itemsOver (d := w.dictionaries.length) rfl] at copied ⊢
    rw [same]
    exact copied
  · have plain'' := World.plainKept kept.attachments plain'
    have grown : w''.HasMap map := by
      rcases has with ⟨d, known, ends⟩ | map
      · exact .inl ⟨d, Nat.lt_of_lt_of_le known
          (Nat.le_of_lt (Nat.lt_of_lt_of_le there kept.grows)), ends⟩
      · exact .inr map
    exact (usesThrough plain'' own).itemsKept grown (apart map has)

end

theorem inputOfEarlierRedirect :
    ∃ w w' w'', Attained 0 w ∧
      (w.context 0).redirectInput = .attributes 6 false (.dictionary 3) ∧
      perform 0 (.redirectDefinition (.text "b") (w.context 0).redirectInput) w = .ok .null w' ∧
      w''.items (.attributes 6 false (.dictionary 3)) = ⟨[], none⟩ ∧
      perform 0 (.reading .redirectInput) w'' =
        .ok (.attributes 7 false (.dictionary 4)) w'' ∧
      w''.items (.attributes 7 false (.dictionary 4)) =
        ⟨[(.text "user", .text "ann")], none⟩ := by
  have calm {use : Use} {R : World → World → Prop} (none : use.converter? = none) : use.Calm R :=
    fun converter called => by simp [none] at called
  have known : World.Knows {} .null := trivial
  have start : Attained 0 (started {}) := .made (formedStart (by simp)) known (createStarts {})
  let session : Value := .attributes 1 true (.dictionary 1)
  have filled := start.used (.setItem session (.text "user") (.text "ann")) (calm rfl)
  have attained := filled.call (.redirectDefinition (.text "a") session) trivial
  obtain ⟨_, _, _, _, afterwards⟩ := redirectInputIsSnapshot attained (attainedInput attained)
    (show perform 0 (.redirectDefinition (.text "b") _) _ = .ok .null _ from rfl)
  obtain ⟨reading, kept, _⟩ := afterwards _ _ (Later.start.used
    (.deleteItem (.attributes 6 false (.dictionary 3)) (.text "user")) (calm rfl))
  have apart : Value.dictionary 3 ≠ .dictionary 4 := by simp
  refine ⟨_, _, _, attained, rfl, rfl, rfl, reading, kept fun use mem => ?_⟩
  rw [List.mem_singleton.mp mem]
  exact apart

end Context

end FlowDouble
