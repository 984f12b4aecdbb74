import FlowDouble.Proofs.Context.Reachable
import FlowDouble.Proofs.Context.Settings
import FlowDouble.Proofs.Uses.Maps
/-! The input that a redirect records is a copy in a dictionary of its own. It shares nothing with what
it was copied from, and nothing with the input recorded before. -/
namespace FlowDouble

open FlowDouble.Action

theorem Entries.insertAllAppends {es pairs : Entries} (sound : Sound (es ++ pairs)) :
    insertAll es pairs = es ++ pairs := by
  induction pairs generalizing es with
  | nil => exact (List.append_nil es).symm
  | cons p rest ih =>
    have absent : es.has p.1 = false := by
      have apart := (List.pairwise_append.mp sound.distinct).2.2
      simp only [has, findNone.mpr fun e mem => apart e mem p List.mem_cons_self]
      rfl
    have moved : es ++ p :: rest = (es ++ [p]) ++ rest := by simp
    have step : insertAll es (p :: rest) = insertAll (es.insert p.1 p.2) rest := rfl
    rw [moved] at sound ⊢
    rw [step, insertAppends p.2 absent]
    exact ih sound

def World.HasMap (w : World) (v : Value) : Prop :=
  (∃ d < w.dictionaries.length, v.root = .dictionary d) ∨ ∃ m, v.root = .parameters m

theorem World.HasMap.root {w : World} {v : Value} (there : w.HasMap v) :
    v.root.isMapping = true := by
  rcases there with ⟨d, _, ends⟩ | ⟨m, ends⟩ <;> rw [ends] <;> rfl

def World.HasInput (w : World) (v : Value) : Prop := v = .null ∨ w.HasMap v

structure Retains (r : Nat) (P : Nat → Prop) (w w' : World) : Prop where
  attachments : w'.attachments = w.attachments
  input : (w'.context r).redirectInput = (w.context r).redirectInput
  grows : w.dictionaries.length ≤ w'.dictionaries.length
  dictionaries : ∀ d < w.dictionaries.length, P d → w'.dictionary d = w.dictionary d

theorem retains (r : Nat) (P : Nat → Prop) : Effect (Retains r P) where
  refl _ := ⟨rfl, rfl, Nat.le_refl _, fun _ _ _ => rfl⟩
  trans ab bc :=
    { attachments := bc.attachments.trans ab.attachments
      input := bc.input.trans ab.input
      grows := Nat.le_trans ab.grows bc.grows
      dictionaries := fun d known told =>
        (bc.dictionaries d (Nat.lt_of_lt_of_le known ab.grows) told).trans
          (ab.dictionaries d known told) }
  attachments h := h.attachments

namespace Retains

variable {r : Nat} {P Q : Nat → Prop} {w w' : World}

theorem mono (h : ∀ d, Q d → P d) (retained : Retains r P w w') : Retains r Q w w' :=
  ⟨retained.attachments, retained.input, retained.grows,
    fun d known told => retained.dictionaries d known (h d told)⟩

theorem ofSame (attachments : w'.attachments = w.attachments) (contexts : w'.contexts = w.contexts)
    (dictionaries : w'.dictionaries = w.dictionaries) : Retains r P w w' where
  attachments := attachments
  input := by simp only [World.context, contexts]
  grows := Nat.le_of_eq (congrArg List.length dictionaries.symm)
  dictionaries d _ _ := by simp only [World.dictionary, dictionaries]

theorem ofThrough {root : Value} (h : Through root w w') (apart : ∀ d, P d → root ≠ .dictionary d) :
    Retains r P w w' where
  attachments := h.attachments
  input := by simp only [World.context, h.contexts]
  grows := h.grows
  dictionaries d known told := h.dictionaries d known (apart d told)

theorem ofContext {c : Context} (same : c.redirectInput = (w.context r).redirectInput) :
    Retains r P w (w.setContext r c) := by
  by_cases known : r < w.contexts.length
  · refine ⟨rfl, ?_, Nat.le_refl _, fun _ _ _ => rfl⟩
    simpa only [World.context, World.setContext, Heap.readWritten c known] using same
  · rw [World.setUnknownContext known]
    exact (retains r P).refl w

theorem hasInput {v : Value} (retained : Retains r P w w') (there : w.HasInput v) :
    w'.HasInput v := by
  rcases there with rfl | ⟨d, known, ends⟩ | map
  · exact .inl rfl
  · exact .inr (.inl ⟨d, Nat.lt_of_lt_of_le known retained.grows, ends⟩)
  · exact .inr (.inr map)

end Retains

theorem settlesRetains (r : Nat) (P : Nat → Prop) : Settling r (Retains r P) where
  effect := retains r P
  filling only := by
    rw [only]
    exact .ofSame rfl rfl rfl
  changing kept := .ofContext (congrArg Requests.redirectInput kept)

namespace Context

def ownInput (w : World) : Value := .attributes w.tags false (.dictionary w.dictionaries.length)

def begun (r : Nat) (flow : Value) (w : World) : World :=
  let w₁ := w.setContext r { w.context r with redirectFlow := flow }
  let w₂ : World := { w₁ with dictionaries := w.dictionaries.push [], tags := w.tags + 1 }
  w₂.setContext r { w₂.context r with redirectInput := ownInput w }

section
variable [Calls] {r : Nat} {P : Nat → Prop} {w w' : World} {flow input : Value}

omit [Calls] in
theorem retainsChange {change : Context → Context}
    (kept : ∀ c, (change c).redirectInput = c.redirectInput) :
    Within (Retains r P) (Context.change r change) := withinModify fun _ => .ofContext (kept _)

omit [Calls] in
theorem retainsRecord (entry : Record) : Within (Retains r P) (record entry) :=
  withinModify fun _ => .ofSame rfl rfl rfl

theorem askToCompleteRetains : Within (Retains r P) (askToComplete r) := by
  have effect := retains r P
  refine withinBind effect (withinAnswer (by decide) ?_) fun _ => withinPure effect _
  refine withinBind effect ?_ fun _ => withinPure effect _
  exact withinBind effect (retainsChange fun _ => rfl) fun _ => retainsRecord _

theorem performRetains {op : Operation} (other : ∀ flow input, op ≠ .redirectDefinition flow input) :
    Within (Retains r P) (perform r op) := by
  have effect := retains r P
  have yielding {a : Action Unit} (h : Within (Retains r P) a) :
      Within (Retains r P) (yieldNothing a) := withinBind effect h fun _ => withinPure effect _
  cases settles : op.settles with
  | true => exact settlesWithin (settlesRetains r P) settles
  | false =>
    cases op with
    | recordComplete =>
      exact yielding (withinBind effect (retainsChange fun _ => rfl) fun _ => retainsRecord _)
    | redirectExecution =>
      refine yielding (withinBind effect (retainsChange fun _ => rfl) fun _ => ?_)
      exact withinBind effect (retainsRecord _) fun _ => askToCompleteRetains
    | redirectDefinition flow input => exact absurd rfl (other flow input)
    | redirectExternal location =>
      refine yielding (withinBind effect (retainsChange fun _ => rfl) fun _ => ?_)
      refine withinBind effect (withinUnchanged effect (readsShown location)) fun _ => ?_
      exact withinBind effect (retainsRecord _) fun _ => askToCompleteRetains
    | popUp =>
      have marked : Within (Retains r P) (do
          change r fun c => { c with popup := true }
          record .popup : Action Unit) :=
        withinBind effect (retainsChange fun _ => rfl) fun _ => retainsRecord _
      refine yielding fun w plain => ?_
      have asked := popsUp (r := r) plain
      by_cases requested : (w.context r).redirectRequested = true
      · rw [if_pos requested] at asked
        rw [leavesSame asked]
        exact marked w plain
      · rw [if_neg requested] at asked
        rw [leavesError asked]
        exact effect.refl w
    | _ => contradiction

def fills (own input : Value) : Action Unit :=
  if input.isNull then return () else fillInput own input

def announces (r : Nat) (flow : Value) : Action Unit := do
  record (.definitionRedirect (← shown flow))
  askToComplete r

theorem redirectBegins (r : Nat) (flow input : Value) (w : World) :
    redirectDefinition r flow input w =
      (fills (ownInput w) input >>= fun _ => announces r flow) (begun r flow w) := by
  cases input <;> rfl

theorem announcesRetains (flow : Value) : Within (Retains r P) (announces r flow) := by
  have effect := retains r P
  refine withinBind effect (withinUnchanged effect (readsShown flow)) fun _ => ?_
  exact withinBind effect (retainsRecord _) fun _ => askToCompleteRetains

omit [Calls] in
theorem begunInput (known : r < w.contexts.length) :
    ((begun r flow w).context r).redirectInput = ownInput w := by
  have there : r < (w.contexts.write r { w.context r with redirectFlow := flow }).length := by
    rw [Heap.writeKeepsLength]
    exact known
  exact congrArg Context.redirectInput (Heap.readWritten _ there)

omit [Calls] in
theorem begunDictionary : (begun r flow w).dictionary w.dictionaries.length = [] :=
  Heap.readPushed _ _

omit [Calls] in
theorem begunGrows : w.dictionaries.length < (begun r flow w).dictionaries.length := by
  simp [begun, World.setContext, Heap.push]

omit [Calls] in
theorem begunItems {map : Value} (there : w.HasMap map) :
    (begun r flow w).items map = w.items map := by
  rcases there with ⟨d, known, ends⟩ | ⟨m, ends⟩
  · have kept : (begun r flow w).dictionary d = w.dictionary d := Heap.readKept [] known
    rw [World.itemsOver ends, World.itemsOver ends, kept]
  · simp only [World.items, ends]
    rfl

theorem redirectRetains (r : Nat) (flow input : Value) (plain : w.Plain) :
    Retains r (w.dictionaries.length ≠ ·) (begun r flow w)
      ((redirectDefinition r flow input).leaves w) := by
  have effect := retains r (w.dictionaries.length ≠ ·)
  have filling : Within (Retains r (w.dictionaries.length ≠ ·)) (fillInput (ownInput w) input) :=
    withinMono (fun h => .ofThrough h fun d other same => other (Value.dictionary.inj same))
      (Attributes.putAllThrough (.dictionary w.dictionaries.length) input)
  have filled : Within (Retains r (w.dictionaries.length ≠ ·)) (fills (ownInput w) input) :=
    withinIte _ (withinPure effect ()) filling
  have plain : (begun r flow w).Plain := plain
  have run : (redirectDefinition r flow input).leaves w =
      (fills (ownInput w) input >>= fun _ => announces r flow).leaves (begun r flow w) := by
    simp only [leaves, redirectBegins]
  rw [run]
  exact withinBind effect filled (fun _ => announcesRetains flow) _ plain

theorem redirectRecords (flow input : Value) (plain : w.Plain) (known : r < w.contexts.length) :
    let w' := (redirectDefinition r flow input).leaves w
    (w'.context r).redirectInput = ownInput w ∧ w'.HasMap (ownInput w) := by
  have retained := redirectRetains r flow input plain
  exact ⟨retained.input.trans (begunInput known),
    .inl ⟨_, Nat.lt_of_lt_of_le begunGrows retained.grows, rfl⟩⟩

def inputEntries (w : World) (input : Value) : Entries :=
  if input.isNull then [] else (w.items input).items

theorem setsEntries {d : Nat} {pairs : Entries} (known : d < w.dictionaries.length)
    (hashable : ∀ p ∈ pairs, p.1.hashable = true) :
    Value.forPairs (Value.setItem (.dictionary d)) pairs w =
      .ok () (w.setDictionary d (Entries.insertAll (w.dictionary d) pairs)) := by
  induction pairs generalizing w with
  | nil =>
    have same : w.setDictionary d (w.dictionary d) = w := by
      simp [World.setDictionary, World.dictionary, Heap.write, Heap.read, known]
    exact congrArg (EStateM.Result.ok ()) same.symm
  | cons p rest ih =>
    have key := hashable p List.mem_cons_self
    have first : Value.setItem (.dictionary d) p.1 p.2 w =
        .ok () (w.setDictionary d ((w.dictionary d).insert p.1 p.2)) := insertsEntry key p.2 w
    have there : d < (w.setDictionary d ((w.dictionary d).insert p.1 p.2)).dictionaries.length := by
      simpa [World.setDictionary, Heap.writeKeepsLength] using known
    have later := ih there fun q mem => hashable q (List.mem_cons_of_mem _ mem)
    have now : (w.setDictionary d ((w.dictionary d).insert p.1 p.2)).dictionary d =
        (w.dictionary d).insert p.1 p.2 := Heap.readWritten _ known
    have twice (es fs : Entries) : (w.setDictionary d es).setDictionary d fs =
        w.setDictionary d fs := by
      simp [World.setDictionary, Heap.write]
    rw [now, twice] at later
    exact (bindOk first).trans later

theorem fillsOwn (formed : w.Formed) (given : w.HasInput input) :
    fills (ownInput w) input (begun r flow w) =
      .ok () ((begun r flow w).setDictionary w.dictionaries.length (inputEntries w input)) := by
  rcases given with rfl | there
  · have same := setsEntries (w := begun r flow w) begunGrows (List.forall_mem_nil _)
    rw [begunDictionary] at same
    exact same
  have map := there.root
  have mapping : input.isMapping = true := by cases input <;> first | rfl | contradiction
  have given : input.isNull = false := by cases input <;> first | rfl | contradiction
  have sound := formed.itemsSound map
  have plain : (begun r flow w).Plain := formed.plain
  have sets := setsEntries (w := begun r flow w) begunGrows sound.hashable
  have appended := Entries.insertAllAppends (List.nil_append _ ▸ sound :
    Entries.Sound ([] ++ (w.items input).items))
  rw [begunDictionary, appended, List.nil_append] at sets
  have fill : fills (ownInput w) input =
      Value.update .dictionary (.dictionary w.dictionaries.length) input := by
    unfold fills
    rw [given]
    rfl
  have all : inputEntries w input = (w.items input).items := by
    unfold inputEntries
    rw [given]
    rfl
  rw [fill, all]
  unfold Value.update
  rw [forEntriesMapping plain mapping, begunItems there]
  unfold Value.forYield finish
  rw [World.itemsWhole map]
  exact bindOk sets

theorem redirectCopies (r : Nat) (flow : Value) (formed : w.Formed) (given : w.HasInput input) :
    ((redirectDefinition r flow input).leaves w).items (ownInput w) =
      ⟨inputEntries w input, none⟩ := by
  have plain : (begun r flow w).Plain := formed.plain
  have run : (redirectDefinition r flow input).leaves w =
      (announces r flow).leaves
        ((begun r flow w).setDictionary w.dictionaries.length (inputEntries w input)) := by
    simp only [leaves, redirectBegins, bindOk (fillsOwn formed given)]
  have retained : Retains r (fun _ => True) _ _ := announcesRetains flow
    ((begun r flow w).setDictionary w.dictionaries.length (inputEntries w input)) plain
  have grown : w.dictionaries.length < ((begun r flow w).setDictionary w.dictionaries.length
      (inputEntries w input)).dictionaries.length := by
    simpa only [World.setDictionary, Heap.writeKeepsLength] using begunGrows
  have kept := retained.dictionaries w.dictionaries.length grown trivial
  have written : ((begun r flow w).setDictionary w.dictionaries.length
      (inputEntries w input)).dictionary w.dictionaries.length = inputEntries w input :=
    Heap.readWritten _ begunGrows
  rw [World.itemsOver (d := w.dictionaries.length) rfl, run, kept, written]

end

end Context

end FlowDouble
