import FlowDouble.Invocation
import FlowDouble.Proofs.Seeding.Fold
import FlowDouble.Proofs.Seeding.Given
/-! The routes by which the entries of a mapping come into a parameter map. All of them store the
same under the same names, and all of them stop at the first entry that a map does not take. -/
namespace FlowDouble

open FlowDouble.Action ParameterMap

inductive Stored where
  | one (v : Value)
  | row (vs : List Value)

namespace Stored

def ofHeld : Value → Stored
  | .tuple _ vs => row vs
  | v => one v

def ofShown (lists : Heap (List Value)) : Value → Stored
  | .list r => row (lists.read r)
  | v => one v

def of? (lists : Heap (List Value)) : Value → Option Stored
  | .list r => if allOneKind (lists.read r) then some (row (lists.read r)) else none
  | v => if v.isParameter then some (ofHeld v) else none

def ofAll (lists : Heap (List Value)) :
    Entries → Except (Value × Value) (List (Value × Stored))
  | [] => .ok []
  | (name, v) :: rest =>
    match of? lists v with
    | some kept => (ofAll lists rest).map ((name, kept) :: ·)
    | none => .error (name, v)

variable {lists : Heap (List Value)} {v kept : Value}

theorem ofKept (keeps : Keeps lists v kept) : of? lists v = some (ofHeld kept) := by
  cases keeps with
  | itself accepted => cases v <;> first | contradiction | simp [of?, accepted]
  | row r tag one => exact if_pos one

theorem keptOf {s : Stored} (taken : of? lists v = some s) :
    ∃ kept, Keeps lists v kept ∧ ofHeld kept = s := by
  cases v with
  | list r =>
    simp only [of?, Option.ite_none_right_eq_some, Option.some.injEq] at taken
    obtain ⟨one, rfl⟩ := taken
    exact ⟨_, .row r 0 one, rfl⟩
  | _ =>
    simp only [of?, Option.ite_none_right_eq_some, Option.some.injEq] at taken
    obtain ⟨accepted, rfl⟩ := taken
    exact ⟨_, .itself accepted, rfl⟩

theorem ofHoldable (holdable : Holdable v) : of? lists v = some (ofHeld v) :=
  ofKept (.itself (holdableAccepted holdable))

theorem ofAllTaken {es : Entries} {f : Value → Stored}
    (taken : ∀ e ∈ es, of? lists e.2 = some (f e.2)) :
    ofAll lists es = .ok (es.map fun e => (e.1, f e.2)) := by
  induction es with
  | nil => rfl
  | cons e rest ih =>
    obtain ⟨first, later⟩ := List.forall_mem_cons.mp taken
    simp only [ofAll, first, ih later]
    rfl

theorem ofAllHeld {es : Entries} (holdable : ∀ e ∈ es, Holdable e.2) :
    ofAll lists es = .ok (es.map fun e => (e.1, ofHeld e.2)) :=
  ofAllTaken fun e mem => ofHoldable (holdable e mem)

end Stored

namespace World

def stored (w : World) (p : ParameterMap) : List (Value × Stored) :=
  (w.parameters p).map fun e => (e.1, Stored.ofHeld e.2)

def shown (w : World) (d : Nat) : List (Value × Stored) :=
  (w.dictionary d).map fun e => (e.1, Stored.ofShown w.lists e.2)

inductive Maps (w : World) (m : Value) : Entries → Prop where
  | dictionary {d} (ends : m.root = .dictionary d) (sound : (w.dictionary d).Sound) :
      Maps w m (w.dictionary d)
  | parameters {p} (ends : m.root = .parameters p) (there : p.ref < w.parameterMaps.length)
      (held : Held (w.parameters p)) : Maps w m (w.parameters p)

namespace Maps

variable {w w' : World} {m : Value} {es : Entries}

theorem sound (maps : w.Maps m es) : es.Sound := by
  cases maps with
  | dictionary ends sound => exact sound
  | parameters ends there held => exact held.sound

theorem items (maps : w.Maps m es) : m.isMapping = true ∧ w.items m = ⟨es, none⟩ := by
  cases maps with
  | dictionary ends sound => exact ⟨Value.rootMapping ends, itemsOver ends⟩
  | parameters ends there held => exact ownItems ends

theorem truthy (maps : w.Maps m es) : w.truthy m = .ok (es.length != 0) := by
  have own : w.truthy m = (do return (← w.length m) != 0) := by
    have mapping := maps.items.1
    cases m <;> first | rfl | contradiction
  have length : w.length m = .ok es.length := by
    cases maps with
    | dictionary ends sound =>
      simp [World.length, ends, elements?, rootElements?, Value.root, Entries.keys]
    | parameters ends there held =>
      simp [World.length, ends, elements?, rootElements?, Value.root, Entries.keys]
  rw [own, length]
  rfl

theorem kept (maps : w.Maps m es) (dictionaries : ∀ d, w'.dictionary d = w.dictionary d)
    (grows : w.parameterMaps.length ≤ w'.parameterMaps.length)
    (others : ∀ s < w.parameterMaps.length, w'.parameterMaps.read s = w.parameterMaps.read s) :
    w'.Maps m es := by
  cases maps with
  | @dictionary d ends sound =>
    rw [← dictionaries d] at sound ⊢
    exact .dictionary ends sound
  | @parameters p ends there held =>
    have same : w'.parameters p = w.parameters p := others p.ref there
    rw [← same] at held ⊢
    exact .parameters ends (Nat.lt_of_lt_of_le there grows) held

end Maps

end World

namespace ParameterMap

def rejection (name : String) (value : Value) : Report where
  diagnosis := .attributeType (.text name) .null
  message := .text ("Request parameter '" ++ name ++
    "' must be a string, a multipart file, or a list of either")
  metadata := [(.text "key", .text name)]
  debug := Report.actualNote value

variable [Calls]

def Refused (name value : Value) (f : Fault) : Prop :=
  (∃ w : World, (reject name value : Action Value) w = .error f w) ∧
    ∀ s, name = .text s → f = .report (rejection s value)

theorem rejects (name value : Value) (w : World) :
    ∃ f, (reject name value : Action Value) w = .error f w ∧ Refused name value f := by
  obtain ⟨f, failed⟩ := refusesReject (α := Value) name value w
  refine ⟨f, failed, ⟨w, failed⟩, fun s text => ?_⟩
  subst text
  have told : (reject (.text s) value : Action Value) w = .error (.report (rejection s value)) w :=
    bindOk (shownText s w)
  rw [told] at failed
  cases failed
  rfl

theorem acceptRefuses {name v : Value} {w : World} (refused : Stored.of? w.lists v = none) :
    accept name v w = (reject name v : Action Value) w := by
  cases v with
  | list r =>
    have other : ¬ allOneKind (w.lists.read r) = true := by simpa [Stored.of?] using refused
    have own : accept name (.list r) w =
        (if allOneKind (w.lists.read r) then newTuple (w.list r)
          else reject name (.list r)) w := rfl
    rw [own, if_neg other]
  | _ =>
    simp only [Stored.of?, ite_eq_right_iff, reduceCtorEq, imp_false] at refused
    simp only [accept, if_neg refused]

def Delivers (expected : Except (Value × Value) (List (Value × Stored)))
    (a : Action ParameterMap) (w : World) : Prop :=
  match expected with
  | .ok entries => ∃ p w', a w = .ok p w' ∧ w'.stored p = entries ∧ Held (w'.parameters p)
  | .error (name, v) => ∃ f w', a w = .error f w' ∧ Refused name v f

theorem deliversOk {expected : Except (Value × Value) (List (Value × Stored))} {p : ParameterMap}
    {a : Action ParameterMap} {w w' : World} (delivers : Delivers expected a w)
    (done : a w = .ok p w') : expected = .ok (w'.stored p) ∧ Held (w'.parameters p) := by
  unfold Delivers at delivers
  split at delivers
  next entries =>
    obtain ⟨q, w₁, outcome, rfl, held⟩ := delivers
    rw [outcome] at done
    cases done
    exact ⟨rfl, held⟩
  next =>
    obtain ⟨f, w₁, outcome, _⟩ := delivers
    rw [outcome] at done
    contradiction

theorem deliversFrom {expected : Except (Value × Value) (List (Value × Stored))}
    {a b : Action ParameterMap} {w u : World} (runs : a w = b u)
    (delivers : Delivers expected b u) : Delivers expected a w := by
  unfold Delivers at delivers ⊢
  rwa [runs]

theorem deliversThen {α : Type} {expected : Except (Value × Value) (List (Value × Stored))}
    {a : Action α} {b : α → Action ParameterMap} {c : Action ParameterMap} {w : World}
    (delivers : Delivers expected c w)
    (failing : ∀ f w', c w = .error f w' → a w = .error f w')
    (going : ∀ p w', c w = .ok p w' → ∃ q w'', (a >>= b) w = .ok q w'' ∧
      w''.parameters q = w'.parameters p) : Delivers expected (a >>= b) w := by
  unfold Delivers at delivers ⊢
  split at delivers
  next entries =>
    obtain ⟨p, w₁, made, stored, held⟩ := delivers
    obtain ⟨q, w₂, done, same⟩ := going p w₁ made
    refine ⟨q, w₂, done, ?_, same ▸ held⟩
    rw [← stored, World.stored, World.stored, same]
  next name v =>
    obtain ⟨f, w₁, failed, refused⟩ := delivers
    exact ⟨f, w₁, bindError (failing f w₁ failed), refused⟩

theorem putRefused (p : ParameterMap) (name : Value) {v : Value} {u : World}
    (refused : Stored.of? u.lists v = none) :
    ∃ f, p.put name v u = .error f u ∧ Refused name v f := by
  obtain ⟨f, failed, told⟩ := rejects name v u
  exact ⟨f, bindError ((acceptRefuses refused).trans failed), told⟩

theorem putAppends {p : ParameterMap} {name v : Value} {s : Stored} {u : World}
    (taken : Stored.of? u.lists v = some s) (hashable : name.hashable = true)
    (there : p.ref < u.parameterMaps.length) (held : Held (u.parameters p))
    (absent : (u.parameters p).has name = false) :
    ∃ u' kept, p.put name v u = .ok () u' ∧ u'.lists = u.lists ∧
      u'.parameterMaps.length = u.parameterMaps.length ∧ Held (u'.parameters p) ∧
      u'.parameters p = u.parameters p ++ [(name, kept)] ∧ Stored.ofHeld kept = s := by
  obtain ⟨own, keeps, _⟩ := Stored.keptOf taken
  obtain ⟨u', put⟩ := puts (m := p) ⟨hashable, own, keeps⟩
  rcases putOutcome p name v u with ⟨f, tags, failed⟩ | ⟨kept, tags, done, _, keeps⟩
  · rw [failed] at put
    contradiction
  · have entries : (World.setParameters { u with tags } p
        ((u.parameters p).insert name kept)).parameters p = (u.parameters p).insert name kept :=
      Heap.readWritten _ there
    refine ⟨_, kept, done, rfl, Heap.writeKeepsLength _ _ _, ?_, ?_, ?_⟩
    · have proper : (Change.put name kept).Proper := ⟨hashable, keptHoldable keeps⟩
      rw [entries]
      exact Change.heldApplied held proper
    · rw [entries, Entries.insertAppends kept absent]
    · have again := Stored.ofKept keeps
      rw [taken] at again
      exact (Option.some.inj again).symm

theorem putsStore {p : ParameterMap} {es : Entries} {u : World} (sound : es.Sound)
    (there : p.ref < u.parameterMaps.length) (held : Held (u.parameters p))
    (absent : ∀ e ∈ es, (u.parameters p).has e.1 = false) :
    match Stored.ofAll u.lists es with
    | .ok entries => ∃ u', Value.forPairs p.put es u = .ok () u' ∧
        u'.stored p = u.stored p ++ entries ∧ Held (u'.parameters p)
    | .error (name, v) => ∃ f u', Value.forPairs p.put es u = .error f u' ∧ Refused name v f := by
  -- on the entries: each goes to the end, as its name is not there yet
  induction es generalizing u with
  | nil => exact ⟨u, rfl, (List.append_nil _).symm, held⟩
  | cons e rest ih =>
    obtain ⟨name, v⟩ := e
    have step : Value.forPairs p.put ((name, v) :: rest) u =
        (do p.put name v; Value.forPairs p.put rest : Action Unit) u := rfl
    rw [step]
    cases taken : Stored.of? u.lists v with
    | none =>
      obtain ⟨f, failed, refused⟩ := putRefused p name taken
      simp only [Stored.ofAll, taken]
      exact ⟨f, u, bindError failed, refused⟩
    | some s =>
      obtain ⟨apart, _⟩ := List.pairwise_cons.mp sound.distinct
      obtain ⟨u₁, kept, put, lists, length, held₁, entries, own⟩ :=
        putAppends taken (sound.hashable _ List.mem_cons_self) there held
          (absent _ List.mem_cons_self)
      have absent₁ (d) (mem : d ∈ rest) : (u₁.parameters p).has d.1 = false := by
        have before := absent d (List.mem_cons_of_mem _ mem)
        simp only [Entries.has, Option.isSome_eq_false_iff, Option.isNone_iff_eq_none,
          Entries.findNone, entries] at before ⊢
        intro c inside
        rcases List.mem_append.mp inside with old | new
        · exact before c old
        · rw [List.mem_singleton.mp new]
          exact apart d mem
      have later := ih (Entries.soundTail sound) (length ▸ there) held₁ absent₁
      rw [lists] at later
      have stored : u₁.stored p = u.stored p ++ [(name, s)] := by
        simp [World.stored, entries, own]
      cases rests : Stored.ofAll u.lists rest with
      | error refused =>
        obtain ⟨f, u', failed, told⟩ := rests ▸ later
        simp only [Stored.ofAll, taken, rests]
        exact ⟨f, u', (bindOk put).trans failed, told⟩
      | ok others =>
        obtain ⟨u', done, stored', held'⟩ := rests ▸ later
        simp only [Stored.ofAll, taken, rests]
        refine ⟨u', (bindOk put).trans done, ?_, held'⟩
        rw [stored', stored, List.append_assoc]
        rfl

omit [Calls] in
theorem begunMaps {m : Value} {es : Entries} {w : World} (maps : w.Maps m es) :
    (begun w).Maps m es :=
  maps.kept (fun _ => rfl) (Nat.le_of_lt (begunRoom w)) fun _ there => Heap.readKept [] there

theorem poursItems {m : Value} {es : Entries} {w : World} (plain : w.Plain) (maps : w.Maps m es)
    (f : Value → Value → Action Unit) : m.forItems f w = Value.forPairs f es w := by
  obtain ⟨mapping, items⟩ := maps.items
  rw [forItemsPlain plain, if_pos mapping, items]
  cases h : Value.forPairs f es w with
  | ok u u' => exact bindOk h
  | error f u' => exact bindError h

def poured (writable : Bool) (m : Value) : Action ParameterMap := do
  let p ← create writable .null
  m.forItems p.put
  return p

theorem deliversPoured {p : ParameterMap} {es : Entries} {u : World} {a : Action Unit}
    {b : Unit → Action ParameterMap} (sound : es.Sound) (there : p.ref < u.parameterMaps.length)
    (empty : u.parameters p = []) (pours : a u = Value.forPairs p.put es u)
    (gives : ∀ u', Fills p es u u' → b () u' = .ok p u') :
    Delivers (Stored.ofAll u.lists es) (a >>= b) u := by
  have absent (e) (_ : e ∈ es) : (u.parameters p).has e.1 = false := by
    rw [empty]
    rfl
  have outcome := putsStore sound there (empty ▸ heldEmpty : Held _) absent
  unfold Delivers
  split at outcome
  next entries _ =>
    obtain ⟨u', done, stored, held⟩ := outcome
    obtain ⟨_, fills⟩ := putsFill there done
    refine ⟨p, u', (bindOk (pours.trans done)).trans (gives u' fills), ?_, held⟩
    rw [stored, World.stored, empty]
    rfl
  next =>
    obtain ⟨f, u', failed, refused⟩ := outcome
    exact ⟨f, u', bindError (pours.trans failed), refused⟩

theorem pouredStores {writable : Bool} {m : Value} {es : Entries} {w : World} (plain : w.Plain)
    (maps : w.Maps m es) : Delivers (Stored.ofAll w.lists es) (poured writable m) w := by
  let p : ParameterMap := ⟨writable, w.parameterMaps.length⟩
  have empty : (begun w).parameters p = [] := Heap.readPushed w.parameterMaps []
  have pours := poursItems (begunPlain plain) (begunMaps maps) p.put
  have runs : poured writable m w =
      (do m.forItems p.put; return p : Action ParameterMap) (begun w) := rfl
  refine deliversFrom runs ?_
  exact deliversPoured maps.sound (begunRoom w) empty pours fun _ _ => rfl

theorem createPours {writable : Bool} {m : Value} {es : Entries} {w : World} (plain : w.Plain)
    (maps : w.Maps m es) : create writable m w = poured writable m w := by
  let p : ParameterMap := ⟨writable, w.parameterMaps.length⟩
  have full := (begunMaps maps).truthy
  have runs : create writable m w =
      (do if ← truthy m then m.forItems p.put
          return p : Action ParameterMap) (begun w) := rfl
  rw [runs, bindOk (truthyOk.mpr ⟨full, rfl⟩)]
  cases es with
  | cons e rest => rfl
  | nil =>
    have pours := poursItems (begunPlain plain) (begunMaps maps) p.put
    exact (bindOk (pours.trans rfl) : (do m.forItems p.put; return p : Action _) _ = _).symm

theorem createStores {writable : Bool} {m : Value} {es : Entries} {w : World} (plain : w.Plain)
    (maps : w.Maps m es) : Delivers (Stored.ofAll w.lists es) (create writable m) w :=
  deliversFrom (createPours plain maps) (pouredStores plain maps)

end ParameterMap

namespace Context

variable [Calls] {m : Value} {es : Entries} {w : World}

theorem parametersOfStores (plain : w.Plain) (maps : w.Maps m es) :
    Delivers (Stored.ofAll w.lists es) (parametersOf m) w := by
  by_cases taken : ∃ p, m = .parameters p
  · obtain ⟨p, rfl⟩ := taken
    cases maps with
    | dictionary ends sound => contradiction
    | parameters ends there held =>
      cases ends
      rw [Stored.ofAllHeld held.values]
      exact ⟨p, w, rfl, rfl, held⟩
  · have made : parametersOf m = ParameterMap.create true m := by
      unfold parametersOf
      split
      · exact absurd ⟨_, rfl⟩ taken
      · rfl
    rw [made]
    exact createStores plain maps

theorem createWith {p : ParameterMap} {w₁ : World} (made : parametersOf m w = .ok p w₁) :
    ∃ r w', create m w = .ok r w' ∧ (w'.context r).parameters = p ∧
      w'.parameterMaps = w₁.parameterMaps := by
  refine ⟨_, _, bindOk made, ?_, rfl⟩
  simp only [World.context]
  exact congrArg Context.parameters (Heap.readPushed _ _)

end Context

namespace ParameterMap

section
variable [Calls]

inductive Route where
  | writable
  | readOnly
  | puts
  | context
  | assigned (r : Nat)
  | seeded

namespace Route

def take (m : Value) : Route → Action ParameterMap
  | writable => create true m
  | readOnly => create false m
  | puts => do
    let p ← create true .null
    m.forItems p.put
    return p
  | context => do
    let r ← Context.create m
    return ((← world).context r).parameters
  | assigned r => do
    Context.assign r .requestParameters m
    return ((← world).context r).parameters
  | seeded => do
    let r ← Context.create .null
    Context.seed r [("parameters", m)]
    return ((← world).context r).parameters

def There (w : World) : Route → Prop
  | assigned r => r < w.contexts.length
  | _ => True

variable {m : Value} {es : Entries} {w : World}

theorem throughAssigned {r : Nat} (plain : w.Plain) (maps : w.Maps m es)
    (there : r < w.contexts.length) :
    Delivers (Stored.ofAll w.lists es) ((assigned r).take m) w := by
  refine deliversThen (Context.parametersOfStores plain maps) ?_ ?_
  · intro f w' failed
    exact bindError failed
  · intro p w' made
    have contexts : w'.contexts = w.contexts := by
      have fills := Context.parametersOfFills m w plain
      rw [leavesOk made] at fills
      rw [fills]
    let c : Context := { w'.context r with parameters := p }
    have done : Context.assign r .requestParameters m w = .ok () (w'.setContext r c) := bindOk made
    have own : (w'.setContext r c).context r = c := Heap.readWritten _ (contexts ▸ there)
    refine ⟨p, w'.setContext r c, (bindOk done).trans ?_, rfl⟩
    rw [worldBind, own]
    rfl

theorem throughContext (plain : w.Plain) (maps : w.Maps m es) :
    Delivers (Stored.ofAll w.lists es) (context.take m) w := by
  refine deliversThen (Context.parametersOfStores plain maps) ?_ ?_
  · intro f w' failed
    exact bindError failed
  · intro p w' made
    obtain ⟨r, w'', done, own, same⟩ := Context.createWith made
    refine ⟨p, w'', (bindOk done).trans ?_, congrArg (Heap.read · p.ref) same⟩
    rw [worldBind, own]
    rfl

theorem seedsPuts {r : Nat} (plain : w.Plain) (maps : w.Maps m es)
    (writable : (w.context r).parameters.writable = true) :
    Context.seed r [("parameters", m)] w =
      Value.forPairs (w.context r).parameters.put es w := by
  obtain ⟨mapping, items⟩ := maps.items
  have free : Context.Unreserved [("parameters", m)] := by
    simp [Context.Unreserved, Context.reservedField]
  rw [Context.seedUnreserved free, Context.seedOne, Context.seedParameters plain mapping, items,
    ← Context.putsThrough plain writable]
  cases h : Value.forPairs (Context.putParameter r) es w with
  | ok _ u' => exact bindOk h
  | error f u' => exact bindError h

omit [Calls] in
theorem startedMaps (maps : w.Maps m es) : (Context.started w).Maps m es := by
  refine maps.kept (fun d => ?_) (Nat.le_of_lt (begunRoom w)) fun _ there => Heap.readKept [] there
  show Heap.read (((w.dictionaries.push []).push []).push []) d = _
  exact (Heap.readPushedDefault _ d).trans
    ((Heap.readPushedDefault _ d).trans (Heap.readPushedDefault _ d))

theorem throughSeeding (plain : w.Plain) (maps : w.Maps m es) :
    Delivers (Stored.ofAll w.lists es) (seeded.take m) w := by
  have own : (Context.started w).context w.contexts.length = Context.startedIn w :=
    Heap.readPushed _ _
  have there : (Context.startedIn w).parameters.ref < (Context.started w).parameterMaps.length :=
    begunRoom w
  have empty : (Context.started w).parameters (Context.startedIn w).parameters = [] :=
    Heap.readPushed _ _
  have started : (Context.started w).Plain := plain
  have pours := seedsPuts (r := w.contexts.length) started (startedMaps maps) (by rw [own]; rfl)
  rw [own] at pours
  have runs : seeded.take m w = (do
      Context.seed w.contexts.length [("parameters", m)]
      return ((← world).context w.contexts.length).parameters : Action ParameterMap)
      (Context.started w) := bindOk (Context.createStarts w)
  refine deliversFrom runs ?_
  refine deliversPoured maps.sound there empty pours fun u' fills => ?_
  rw [worldBind, fills.context, own]
  rfl

theorem delivers (plain : w.Plain) (maps : w.Maps m es) {route : Route}
    (there : route.There w) : Delivers (Stored.ofAll w.lists es) (route.take m) w := by
  cases route with
  | writable => exact createStores plain maps
  | readOnly => exact createStores plain maps
  | puts => exact pouredStores plain maps
  | context => exact throughContext plain maps
  | assigned r => exact throughAssigned plain maps there
  | seeded => exact throughSeeding plain maps

end Route

omit [Calls] in
theorem singleOrRow {v : Value} (holdable : Holdable v) :
    (∃ tag vs, v = .tuple tag vs ∧ allOneKind vs = true) ∨
      Stored.ofHeld v = .one v ∧ (∀ lists, Stored.ofShown lists v = .one v) ∧
        ∀ name rest, listed ((name, v) :: rest) = (do return (name, v) :: (← listed rest)) := by
  have accepted := holdableAccepted holdable
  cases holdable with
  | text s => exact .inr ⟨rfl, fun _ => rfl, fun _ _ => rfl⟩
  | upload tag name content originalName contentType =>
    exact .inr ⟨rfl, fun _ => rfl, fun _ _ => rfl⟩
  | texts tag all => exact .inl ⟨tag, _, rfl, accepted⟩
  | uploads tag all => exact .inl ⟨tag, _, rfl, accepted⟩

omit [Calls] in
theorem listedShows {es : Entries} {w : World} (holdable : ∀ e ∈ es, Holdable e.2) :
    ∃ shown lists, listed es w = .ok shown { w with lists } ∧ w.lists <+: lists ∧
      shown.keys = es.keys ∧
      shown.map (fun e => (e.1, Stored.ofShown lists e.2)) =
        es.map (fun e => (e.1, Stored.ofHeld e.2)) ∧
      ∀ e ∈ shown, Stored.of? lists e.2 = some (Stored.ofShown lists e.2) := by
  -- on the entries: the lists that later rows get leave those of earlier rows alone
  induction es generalizing w with
  | nil => exact ⟨[], w.lists, rfl, List.prefix_rfl, rfl, rfl, by simp⟩
  | cons e rest ih =>
    obtain ⟨name, v⟩ := e
    obtain ⟨first, later⟩ := List.forall_mem_cons.mp holdable
    rcases singleOrRow first with ⟨tag, vs, rfl, one⟩ | ⟨held, asShown, next⟩
    · let w₁ : World := { w with lists := w.lists.push vs }
      obtain ⟨shown, lists, done, grows, keys, same, taken⟩ := ih (w := w₁) later
      have runs : listed ((name, .tuple tag vs) :: rest) w =
          (do return (name, .list w.lists.length) :: (← listed rest) : Action Entries) w₁ := rfl
      have own : Heap.read lists w.lists.length = vs := by
        obtain ⟨more, rfl⟩ := grows
        simp [w₁, Heap.read, Heap.push]
      refine ⟨(name, .list w.lists.length) :: shown, lists, runs.trans (bindOk done),
        (List.prefix_append _ _).trans grows, ?_, ?_, ?_⟩
      · simp only [Entries.keys, List.map_cons] at keys ⊢
        rw [keys]
      · have row : Stored.ofShown lists (.list w.lists.length) = .row vs := congrArg Stored.row own
        simp only [List.map_cons, same, row]
        rfl
      · refine List.forall_mem_cons.mpr ⟨?_, taken⟩
        simp only [Stored.of?, Stored.ofShown, own, one, if_true]
    · obtain ⟨shown, lists, done, grows, keys, same, taken⟩ := ih (w := w) later
      refine ⟨(name, v) :: shown, lists, ?_, grows, ?_, ?_, ?_⟩
      · rw [next]
        exact bindOk done
      · simp only [Entries.keys, List.map_cons] at keys ⊢
        rw [keys]
      · simp only [List.map_cons, same, asShown, held]
      · refine List.forall_mem_cons.mpr ⟨?_, taken⟩
        rw [Stored.ofHoldable first, held, asShown]

omit [Calls] in
theorem toDictionaryShows {p : ParameterMap} {w : World} (held : Held (w.parameters p)) :
    ∃ d w', p.toDictionary w = .ok (.dictionary d) w' ∧ w'.shown d = w.stored p ∧
      (w.Plain → w'.Plain) ∧ ∃ es, w'.Maps (.dictionary d) es ∧
        Stored.ofAll w'.lists es = .ok (w.stored p) := by
  obtain ⟨shown, lists, done, _, keys, same, taken⟩ := listedShows (w := w) held.values
  let w' : World := { w with lists, dictionaries := w.dictionaries.push shown }
  have own : w'.dictionary w.dictionaries.length = shown := Heap.readPushed _ _
  have made : p.toDictionary w = .ok (.dictionary w.dictionaries.length) w' := bindOk done
  refine ⟨_, w', made, ?_, id, shown, ?_, ?_⟩
  · rw [World.shown, own]
    exact same
  · have maps := World.Maps.dictionary (w := w') (m := .dictionary w.dictionaries.length) rfl
      (own ▸ Entries.soundKeys held.sound keys)
    rwa [own] at maps
  · rw [Stored.ofAllTaken taken, same]
    rfl

/-- Whatever way the entries of a mapping go, the map they come into stores the same of them, or the
way ends at the first of them that no map takes. As a dictionary a map shows what it stores, rows as
lists, and a map that is made from the dictionary stores the same again. -/
theorem parameterRoutesAgree {m : Value} {es : Entries} {w : World} (plain : w.Plain)
    (maps : w.Maps m es) :
    (∀ route : Route, route.There w → Delivers (Stored.ofAll w.lists es) (route.take m) w) ∧
    (∀ (route : Route) p w', route.There w → route.take m w = .ok p w' →
      ∃ d w'', p.toDictionary w' = .ok (.dictionary d) w'' ∧ w''.shown d = w'.stored p) ∧
    (∀ p, m = .parameters p → Stored.ofAll w.lists es = .ok (w.stored p) ∧
      ∃ d w', p.toDictionary w = .ok (.dictionary d) w' ∧ w'.shown d = w.stored p ∧
        ∀ route : Route, route.There w' →
          Delivers (.ok (w.stored p)) (route.take (.dictionary d)) w') := by
  refine ⟨fun route there => Route.delivers plain maps there, fun route p w' there done => ?_,
    fun p own => ?_⟩
  · obtain ⟨_, held⟩ := deliversOk (Route.delivers plain maps there) done
    obtain ⟨d, w'', shows, shown, _⟩ := toDictionaryShows held
    exact ⟨d, w'', shows, shown⟩
  · subst own
    cases maps with
    | dictionary ends sound => contradiction
    | parameters ends there held =>
      cases ends
      obtain ⟨d, w', done, shown, plain', es, again, same⟩ := toDictionaryShows held
      refine ⟨Stored.ofAllHeld held.values, d, w', done, shown, fun route there => ?_⟩
      exact same ▸ Route.delivers (plain' plain) again there

end

theorem badEntryRefusedOnEveryRoute :
    ∃ w : World,
      (∃ p w', Route.seeded.take (.dictionary 0) w = .ok p w' ∧
        w'.stored p = [(.text "x", .row [.text "1", .text "2"]), (.text "y", .one (.text "3"))] ∧
        ∃ d w'', p.toDictionary w' = .ok (.dictionary d) w'' ∧ w''.shown d = w'.stored p) ∧
      (∀ route : Route, route.There w → ∃ w',
        route.take (.dictionary 1) w = .error (.report (rejection "b" (.int 1))) w') ∧
      ∃ d w' p w'', toDictionary ⟨true, 0⟩ w = .ok (.dictionary d) w' ∧
        Route.context.take (.dictionary d) w' = .ok p w'' ∧
        w''.stored p = [(.text "z", .row [])] := by
  let w : World := {
    lists := [[.text "1", .text "2"]]
    dictionaries := [[(.text "x", .list 0), (.text "y", .text "3")],
      [(.text "a", .text ""), (.text "b", .int 1), (.text "c", .null)]]
    parameterMaps := [[(.text "z", .tuple 0 [])]] }
  have plain : w.Plain := fun _ _ _ => rfl
  have good : w.Maps (.dictionary 0) (w.dictionary 0) := .dictionary rfl ⟨by decide, by decide⟩
  have bad : w.Maps (.dictionary 1) (w.dictionary 1) := .dictionary rfl ⟨by decide, by decide⟩
  have held : Held (w.parameters ⟨true, 0⟩) := by
    refine ⟨⟨by decide, by decide⟩, fun e mem => ?_⟩
    rw [List.mem_singleton.mp mem]
    exact .texts 0 (by simp)
  have own : w.Maps (.parameters ⟨true, 0⟩) (w.parameters ⟨true, 0⟩) :=
    .parameters rfl (by decide) held
  refine ⟨w, ?_, fun route there => ?_, ?_⟩
  · obtain ⟨delivers, shows, _⟩ := parameterRoutesAgree plain good
    obtain ⟨p, w', done, stored, _⟩ := delivers .seeded trivial
    exact ⟨p, w', done, stored, shows .seeded p w' trivial done⟩
  · obtain ⟨f, w', failed, _, report⟩ := (parameterRoutesAgree plain bad).1 route there
    exact ⟨w', report "b" rfl ▸ failed⟩
  · obtain ⟨_, _, again⟩ := parameterRoutesAgree plain own
    obtain ⟨_, d, w', done, _, delivers⟩ := again ⟨true, 0⟩ rfl
    obtain ⟨p, w'', made, stored, _⟩ := delivers .context trivial
    exact ⟨d, w', p, w'', done, made, stored⟩

end ParameterMap

end FlowDouble
