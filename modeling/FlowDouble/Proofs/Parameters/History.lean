import Mathlib.Logic.Relation
import FlowDouble.Invocation
import FlowDouble.Proofs.Parameters.Following
/-! What holds of a parameter map after anything that was done to it, to other maps, to contexts,
and to the lists and dictionaries values came from and were handed out in. -/
namespace FlowDouble.ParameterMap

open FlowDouble.Action

inductive Event where
  | put (target : ParameterMap) (name value : Value)
  | setItem (target name value : Value)
  | deleteItem (target name : Value)
  | putParameter (r : Nat) (name value : Value)
  | setEvent (r : Nat) (event : Value)
  | seed (r : Nat) (fields : List (String × Value))
  | getArray (target : ParameterMap) (name : Value)
  | toDictionary (target : ParameterMap)
  | setList (r : Nat) (items : List Value)
  | setDictionary (r : Nat) (entries : Entries)

namespace Event

def act [Calls] : Event → Action Unit
  | put target name value => do
    let _ ← (Value.parameters target).perform "put" ⟨[name, value], []⟩
  | setItem target name value => target.setItem name value
  | deleteItem target name => target.deleteItem name
  | putParameter r name value => do let _ ← Context.perform r (.putParameter name value)
  | setEvent r event => do let _ ← Context.perform r (.setEvent event)
  | seed r fields => Context.seed r fields
  | getArray target name => do let _ ← target.perform (.getArray name)
  | toDictionary target => do let _ ← target.perform .toDictionary
  | setList r items => modify fun w => w.setList r items
  | setDictionary r entries => modify fun w => w.setDictionary r entries

def Alone (m : ParameterMap) : Event → Prop
  | put target .. => m.Alone (.parameters target)
  | setItem target .. | deleteItem target _ => m.Alone target.root
  | seed _ fields => ∀ f ∈ fields, m.Alone f.2
  | _ => True

def Targets (m : ParameterMap) (w : World) : Event → Prop
  | put target .. => m.ref = target.ref
  | setItem target .. | deleteItem target _ => ∃ t, target.root = .parameters t ∧ m.ref = t.ref
  | putParameter r .. | setEvent r _ => m.ref = (w.context r).parameters.ref
  | seed .. => True
  | _ => False

def asks [Calls] (w : World) : Event → List (Value × Value)
  | put _ name value | setItem _ name value | putParameter _ name value => [(name, value)]
  | setEvent _ event => [(.text Context.eventParameter, event)]
  | seed r fields => Context.seedAsks r fields w
  | _ => []

def deletes : Event → List Value
  | deleteItem _ name => [name]
  | _ => []

def Accepts [Calls] (m : ParameterMap) (w : World) (e : Event) (c : Change) : Prop :=
  e.Targets m w ∧ (Puts (e.asks w) w.lists c ∨ ∃ name ∈ e.deletes, c = .delete name)

end Event

structure Tracks (m : ParameterMap) (P : Change → Prop) (w w' : World) : Prop where
  attachments : w'.attachments = w.attachments
  settled : Settled m w → Settled m w'
  changes : Settled m w → ∃ changes : List Change, (∀ c ∈ changes, P c) ∧
    (m.writable = false → changes = []) ∧
    w'.parameters m = Change.applyAll changes (w.parameters m)

def Aside (w w' : World) : Prop :=
  w'.attachments = w.attachments ∧ w'.contexts = w.contexts ∧ w'.parameterMaps = w.parameterMaps

theorem aside : Effect Aside where
  refl _ := ⟨rfl, rfl, rfl⟩
  trans ab bc := by
    obtain ⟨attachments, contexts, maps⟩ := ab
    obtain ⟨attachments', contexts', maps'⟩ := bc
    exact ⟨attachments'.trans attachments, contexts'.trans contexts, maps'.trans maps⟩
  attachments h := h.1

namespace Tracks

variable {m : ParameterMap} {P : Change → Prop} {w w' : World}

theorem ofFollows {Q : Heap (List Value) → Change → Prop} (h : Follows m Q w w')
    (weaker : ∀ c, Q w.lists c → P c) : Tracks m P w w' := by
  refine ⟨h.attachments, h.settled, fun s => ?_⟩
  obtain ⟨changes, good, rest⟩ := h.changes s
  exact ⟨changes, fun c mem => weaker c (good c mem), rest⟩

theorem ofAside (h : Aside w w') : Tracks m P w w' := by
  obtain ⟨attachments, contexts, maps⟩ := h
  refine ⟨attachments, fun s => ?_, fun _ => ⟨[], by simp, fun _ => rfl, ?_⟩⟩
  · exact Follows.settledAfter s contexts (Nat.le_of_eq (congrArg List.length maps.symm))
  · simp only [World.parameters, maps]
    rfl

end Tracks

section
variable [Calls] {m : ParameterMap} {w : World}

theorem performPut (target : ParameterMap) (name value : Value) :
    (Value.parameters target).perform "put" ⟨[name, value], []⟩ =
      if target.writable then target.perform (.put name value)
      else misuse (.noMember (.parameters target) "put") := by
  obtain ⟨writable, ref⟩ := target
  cases writable
  · rfl
  · rfl

theorem putTracks {target : ParameterMap} {name value : Value}
    (alone : m.Alone (.parameters target)) :
    Tracks m ((Event.put target name value).Accepts m w) w
      ((Event.put target name value).act.leaves w) := by
  have run : (Event.put target name value).act = (do
      let _ ← (Value.parameters target).perform "put" ⟨[name, value], []⟩) := rfl
  rw [run, performPut]
  by_cases writable : target.writable = true
  · rw [if_pos writable, leavesThenPure]
    have inner : (target.perform (.put name value)).leaves w = (target.put name value).leaves w :=
      leavesThenPure _ _ w
    rw [inner]
    refine .ofFollows (.ofWrites (putWrites target name value w) fun _ same => ?_) ?_
    · exact alone target rfl same.symm writable
    · rintro c ⟨same, puts⟩
      exact ⟨same, .inl puts⟩
  · rw [if_neg writable]
    exact .ofAside (aside.refl w)

theorem setItemAside {target : Value} (other : ∀ t, target.root ≠ .parameters t)
    (name value : Value) : Within Aside (target.setItem name value) := by
  unfold Value.setItem
  split
  · exact withinBind aside (withinUnchanged aside (readsKey name))
      fun _ => withinModify fun _ => ⟨rfl, rfl, rfl⟩
  · rename_i t root
    exact absurd root (other t)
  · refine withinBind aside (withinWorld aside) fun w => ?_
    refine withinBind aside (withinOfExcept aside _) fun i => ?_
    exact withinModify fun _ => ⟨rfl, rfl, rfl⟩
  · exact withinThrow aside _

omit [Calls] in
theorem deleteItemAside {target : Value} (other : ∀ t, target.root ≠ .parameters t)
    (name : Value) : Within Aside (target.deleteItem name) := by
  unfold Value.deleteItem
  split
  · refine withinBind aside (withinWorld aside) fun w => ?_
    refine withinBind aside (withinOfExcept aside _) fun _ => ?_
    exact withinModify fun _ => ⟨rfl, rfl, rfl⟩
  · rename_i t root
    exact absurd root (other t)
  · refine withinBind aside (withinWorld aside) fun w => ?_
    refine withinBind aside (withinOfExcept aside _) fun i => ?_
    exact withinModify fun _ => ⟨rfl, rfl, rfl⟩
  · exact withinUnchanged aside (readsRefuseDeletion _ _)

theorem setItemTracks {target name value : Value} (plain : w.Plain) (alone : m.Alone target.root) :
    Tracks m ((Event.setItem target name value).Accepts m w) w
      ((Event.setItem target name value).act.leaves w) := by
  by_cases map : ∃ t, target.root = .parameters t
  · obtain ⟨t, root⟩ := map
    have run : (Event.setItem target name value).act = t.assign name value := by
      simp only [Event.act, Value.setItem, root]
    rw [run]
    unfold assign
    split
    · rename_i writable
      refine .ofFollows (.ofWrites (askToPutWrites plain) fun _ same => ?_) ?_
      · exact alone t root same.symm writable
      · rintro c ⟨same, puts⟩
        exact ⟨⟨t, root, same⟩, .inl puts⟩
    · exact .ofAside (aside.refl w)
  · exact .ofAside (setItemAside (fun t root => map ⟨t, root⟩) name value w plain)

omit [Calls] in
theorem deleteItemTracks [Calls] {target name : Value} (plain : w.Plain)
    (alone : m.Alone target.root) :
    Tracks m ((Event.deleteItem target name).Accepts m w) w
      ((Event.deleteItem target name).act.leaves w) := by
  by_cases map : ∃ t, target.root = .parameters t
  · obtain ⟨t, root⟩ := map
    have run : (Event.deleteItem target name).act = t.erase name := by
      simp only [Event.act, Value.deleteItem, root]
    rw [run]
    by_cases writable : t.writable = true
    · refine .ofFollows (.ofWrites (eraseWrites writable name w plain) fun _ same => ?_) ?_
      · exact alone t root same.symm writable
      · rintro c ⟨same, deleted⟩
        exact ⟨⟨t, root, same⟩, .inr ⟨name, List.mem_cons_self, deleted⟩⟩
    · exact .ofAside (withinUnchanged aside (eraseRefused writable name) w plain)
  · exact .ofAside (deleteItemAside (fun t root => map ⟨t, root⟩) name w plain)

omit [Calls] in
theorem newListAside (vs : List Value) : Within Aside (newList vs) :=
  withinModifyGet fun _ => ⟨rfl, rfl, rfl⟩

omit [Calls] in
theorem getArrayAside (target : ParameterMap) (name : Value) :
    Within Aside (target.getArray name) := by
  have found : Within Aside (target.find name) :=
    withinBind aside (withinUnchanged aside (readsKey name)) fun _ =>
      withinBind aside (withinWorld aside) fun _ => withinPure aside _
  refine withinBind aside found fun stored => ?_
  split
  · exact newListAside _
  · exact newListAside _
  · exact newListAside _

omit [Calls] in
theorem listedAside (es : Entries) : Within Aside (listed es) := by
  induction es with
  | nil => exact withinPure aside _
  | cons e rest ih =>
    unfold listed
    split
    · contradiction
    · rename_i same
      cases same
      exact withinBind aside (newListAside _) fun _ =>
        withinBind aside ih fun _ => withinPure aside _
    · rename_i same
      cases same
      exact withinBind aside ih fun _ => withinPure aside _

omit [Calls] in
theorem toDictionaryAside (target : ParameterMap) : Within Aside target.toDictionary := by
  refine withinBind aside (withinWorld aside) fun w => ?_
  refine withinBind aside (listedAside _) fun _ => ?_
  exact withinModifyGet fun _ => ⟨rfl, rfl, rfl⟩

theorem actTracks {e : Event} (plain : w.Plain) (alone : e.Alone m) :
    Tracks m (e.Accepts m w) w (e.act.leaves w) := by
  cases e with
  | put target name value => exact putTracks alone
  | setItem target name value => exact setItemTracks plain alone
  | deleteItem target name => exact deleteItemTracks plain alone
  | putParameter r name value =>
    have run : (Event.putParameter r name value).act.leaves w =
        (Context.putParameter r name value).leaves w :=
      (leavesThenPure _ _ w).trans (leavesThenPure _ _ w)
    rw [run]
    refine .ofFollows (Context.putParameterTargets plain) ?_
    rintro c ⟨same, puts⟩
    exact ⟨same, .inl puts⟩
  | setEvent r event =>
    have run : (Event.setEvent r event).act.leaves w =
        (Context.askToPut r (.text Context.eventParameter) event).leaves w :=
      (leavesThenPure _ _ w).trans (leavesThenPure _ _ w)
    rw [run, Context.askToPutLeaves plain]
    refine .ofFollows (Context.putParameterTargets plain) ?_
    rintro c ⟨same, puts⟩
    exact ⟨same, .inl puts⟩
  | seed r fields =>
    exact .ofFollows (Context.seedFollows alone plain) fun c puts => ⟨trivial, .inl puts⟩
  | getArray target name =>
    have run : (Event.getArray target name).act.leaves w = (target.getArray name).leaves w :=
      leavesThenPure _ _ w
    rw [run]
    exact .ofAside (getArrayAside target name w plain)
  | toDictionary target =>
    have run : (Event.toDictionary target).act.leaves w = target.toDictionary.leaves w :=
      leavesThenPure _ _ w
    rw [run]
    exact .ofAside (toDictionaryAside target w plain)
  | setList r items => exact .ofAside ⟨rfl, rfl, rfl⟩
  | setDictionary r entries => exact .ofAside ⟨rfl, rfl, rfl⟩

end

structure Apart (m : ParameterMap) (w w' : World) : Prop where
  entries : w'.parameters m = w.parameters m
  plain : w.Plain → w'.Plain
  settled : Settled m w → Settled m w'

inductive Step [Calls] (m : ParameterMap) : World → World → Prop where
  | event {w} (e : Event) (alone : e.Alone m) : Step m w (e.act.leaves w)
  | elsewhere {w w'} (apart : Apart m w w') : Step m w w'

def Reaches [Calls] (m : ParameterMap) : World → World → Prop := Relation.ReflTransGen (Step m)

structure Keeping (m : ParameterMap) (w : World) : Prop where
  plain : w.Plain
  settled : Settled m w
  held : Held (w.parameters m)

def row : Option Value → List Value
  | none => []
  | some (.tuple _ vs) => vs
  | some v => [v]

section
variable [Calls] {m : ParameterMap} {w w' w₁ : World}

theorem acceptedProper {e : Event} {c : Change} (accepted : e.Accepts m w c) : c.Proper := by
  rcases accepted with ⟨_, puts | ⟨name, _, rfl⟩⟩
  · exact putsProper puts
  · trivial

theorem stepKeeping (step : Step m w w') (keeping : Keeping m w) : Keeping m w' := by
  cases step with
  | event e alone =>
    have tracks := actTracks keeping.plain alone
    obtain ⟨changes, accepted, _, done⟩ := tracks.changes keeping.settled
    refine ⟨World.plainKept tracks.attachments keeping.plain, tracks.settled keeping.settled, ?_⟩
    rw [done]
    exact Change.heldAfter keeping.held fun c mem => acceptedProper (accepted c mem)
  | elsewhere apart =>
    exact ⟨apart.plain keeping.plain, apart.settled keeping.settled,
      apart.entries ▸ keeping.held⟩

theorem stepReadOnly (step : Step m w w') (keeping : Keeping m w) (readOnly : m.writable = false) :
    w'.parameters m = w.parameters m := by
  cases step with
  | event e alone =>
    obtain ⟨changes, _, none, done⟩ := (actTracks keeping.plain alone).changes keeping.settled
    rw [done, none readOnly]
    rfl
  | elsewhere apart => exact apart.entries

theorem reachedKeeping (steps : Reaches m w₁ w) (keeping : Keeping m w₁) :
    Keeping m w ∧ (m.writable = false → w.parameters m = w₁.parameters m) := by
  induction steps with
  | refl => exact ⟨keeping, fun _ => rfl⟩
  | tail steps step ih =>
    obtain ⟨before, same⟩ := ih
    refine ⟨stepKeeping step before, fun readOnly => ?_⟩
    exact (stepReadOnly step before readOnly).trans (same readOnly)

theorem createdKeeping {writable : Bool} {source : Value} {w₀ : World} (plain : w₀.Plain)
    (closed : ∀ c ∈ w₀.contexts, c.parameters.ref < w₀.parameterMaps.length)
    (made : create writable source w₀ = .ok m w₁) : Keeping m w₁ := by
  have ref := createdRef made
  have writes := createWrites writable source plain
  rw [leavesOk made] at writes
  have contexts : w₁.contexts = w₀.contexts := by rw [writes.only]
  have grows : (w₀.parameterMaps.push []).length ≤ w₁.parameterMaps.length := writes.grows
  refine ⟨World.plainKept (onlyParameters.attachments writes.only) plain, ⟨?_, ?_⟩, ?_⟩
  · rw [ref]
    show w₀.parameterMaps.length < w₁.parameterMaps.length
    simp only [Heap.push, List.length_append, List.length_singleton] at grows
    omega
  · intro r t same clash takes
    simp only [World.context, Heap.read, contexts] at same
    cases same
    cases h : w₀.contexts[r]? with
    | none =>
      rw [h] at takes
      contradiction
    | some c =>
      rw [h, ref] at clash
      exact absurd clash (Nat.ne_of_lt (closed c (List.mem_of_getElem? h)))
  · obtain ⟨changes, proper, done⟩ := writes.changes
    rw [Heap.readPushed] at done
    have entries : w₁.parameters m = Change.applyAll changes [] := by
      rw [← done, ref]
      rfl
    rw [entries]
    exact Change.heldAfter ⟨Entries.soundNil, by simp⟩ proper

omit [Calls] in
theorem findTells {name : Value} (hashable : name.hashable = true) :
    m.find name w = .ok ((w.parameters m).find? name) w := by
  unfold find
  rw [bindOk (keyAccepted hashable w)]
  rfl

omit [Calls] in
theorem getTells {name : Value} (hashable : name.hashable = true) (default : Value) :
    m.get name default w = .ok (first ((w.parameters m).find? name) default) w := by
  unfold get
  rw [bindOk (findTells hashable)]
  rfl

omit [Calls] in
theorem getArrayTells {name : Value} (hashable : name.hashable = true) :
    m.getArray name w = .ok (.list w.lists.length)
      { w with lists := w.lists.push (row ((w.parameters m).find? name)) } := by
  unfold getArray
  rw [bindOk (findTells hashable)]
  cases (w.parameters m).find? name with
  | none => rfl
  | some v => cases v <;> rfl

/-- Whatever happens after a parameter map was made: it holds texts, files and rows of one of the
two, no two names are equal, what is read under a name changes by an accepted put or a deletion of
that name alone, a put leaves all names in their places and a deletion the others in their order,
and a map that only reads stays as it was made. -/
theorem parametersKeepTheirForm {writable : Bool} {source : Value} {w₀ : World}
    (plain : w₀.Plain) (closed : ∀ c ∈ w₀.contexts, c.parameters.ref < w₀.parameterMaps.length)
    (made : create writable source w₀ = .ok m w₁) (steps : Reaches m w₁ w) :
    (∀ e ∈ w.parameters m, Holdable e.2) ∧
    (w.parameters m).Pairwise (fun a b => a.1.sameKey b.1 = false) ∧
    (∀ e : Event, e.Alone m →
      (∀ x, ((e.act.leaves w).parameters m).find? x ≠ (w.parameters m).find? x →
        ∃ c, e.Accepts m w c ∧ c.name.sameKey x = true) ∧
      (e.deletes = [] → (w.parameters m).keys <+: ((e.act.leaves w).parameters m).keys) ∧
      (e.deletes ≠ [] →
        ((e.act.leaves w).parameters m).keys.Sublist (w.parameters m).keys)) ∧
    (writable = false → w.parameters m = w₁.parameters m) := by
  obtain ⟨keeping, same⟩ := reachedKeeping steps (createdKeeping plain closed made)
  refine ⟨keeping.held.values, keeping.held.sound.distinct, fun e alone => ?_, ?_⟩
  · obtain ⟨changes, accepted, _, done⟩ := (actTracks keeping.plain alone).changes keeping.settled
    rw [done]
    refine ⟨fun x differs => ?_, fun noDeletion => ?_, fun deletion => ?_⟩
    · refine Classical.byContradiction fun none => differs (Change.findAfter fun c mem => ?_)
      exact Bool.eq_false_iff.mpr fun touches => none ⟨c, accepted c mem, touches⟩
    · refine Change.keysAfterPuts fun c mem => ?_
      rcases (accepted c mem).2 with ⟨_, _, _, rfl, _⟩ | ⟨name, deleted, _⟩
      · rfl
      · rw [noDeletion] at deleted
        contradiction
    · refine Change.keysAfterDeletes keeping.held fun c mem => ?_
      rcases (accepted c mem).2 with ⟨q, asked, _⟩ | ⟨name, _, rfl⟩
      · cases e <;> first | exact absurd rfl deletion | contradiction
      · rfl
  · intro readOnly
    refine same ?_
    rw [createdRef made]
    exact readOnly

end

theorem rowKeptWhenListChanges :
    ∃ w₀ m w₁ w, create true (.dictionary 0) w₀ = .ok m w₁ ∧ Reaches m w₁ w ∧
      w.list 0 = [.int 1] ∧
      w.parameters m = [(.text "x", .tuple 0 [.text "a"]), (.text "y", .text "b")] ∧
      ∀ e ∈ w.parameters m, Holdable e.2 := by
  let w₀ : World :=
    { lists := [[.text "a"]], dictionaries := [[(.text "x", .list 0)]] }
  have plain : w₀.Plain := fun _ _ _ => rfl
  have closed : ∀ c ∈ w₀.contexts, c.parameters.ref < w₀.parameterMaps.length := by
    intro c mem
    contradiction
  let m : ParameterMap := ⟨true, 0⟩
  obtain ⟨w₁, made⟩ : ∃ w₁, create true (.dictionary 0) w₀ = .ok m w₁ := ⟨_, rfl⟩
  have alone (v : Value) : m.Alone v := fun _ _ _ _ => rfl
  have listed : Reaches m w₁ _ := .single (.event (.setList 0 [.int 1]) trivial)
  have refused := listed.tail (.event (.put m (.text "x") (.int 1)) (alone _))
  have steps := refused.tail (.event (.setItem (.parameters m) (.text "y") (.text "b")) (alone _))
  refine ⟨w₀, m, w₁, _, made, steps, ?_, ?_, (parametersKeepTheirForm plain closed made steps).1⟩
  · cases made
    rfl
  · cases made
    rfl

end FlowDouble.ParameterMap
