import Mathlib.Data.List.Nodup
import FlowDouble.Proofs.Seeding.Fields
/-! What a seeding has made of a context: it is told by which fields were seeded, so neither their
order nor how often each was seeded matters. This holds of fields that stay apart. -/
namespace FlowDouble.Context

open FlowDouble.Action ParameterMap

/-- Fields of which no two are about the same thing: none is given twice, no other map is put in the
place of one that is filled, and the parameters leave the event to its own field. -/
structure Apart (fields : List (String × Value)) (w : World) : Prop where
  distinct : (fields.map Prod.fst).Nodup
  map : "request_parameter_map" ∈ fields.map Prod.fst →
    "parameters" ∉ fields.map Prod.fst ∧ "event_id" ∉ fields.map Prod.fst
  event : "event_id" ∈ fields.map Prod.fst → ∀ m, ("parameters", m) ∈ fields →
    ∀ e ∈ (w.items m).items, namesEvent e.1 = false

def isOwn (r : Nat) (w : World) (v : Value) : Bool :=
  match v.root with
  | .parameters t => t.ref == (w.context r).parameters.ref
  | _ => false

def brings (r : Nat) (w : World) : Field → Value → List (Value × Value)
  | .setting _, _ => []
  | .parameters, v => if isOwn r w v then [] else w.given v
  | .event, v => [(.text eventParameter, v)]

def Brought (r : Nat) (w : World) (fields : List (String × Value)) (x y : Value) : Prop :=
  ∃ field v, (Field.name field, v) ∈ fields ∧
    (Entries.ofPairs (brings r w field v)).find? x = some y

def Filling (fields : List (String × Value)) : Prop :=
  "parameters" ∈ fields.map Prod.fst ∨ "event_id" ∈ fields.map Prod.fst

def Reached (r : Nat) (w : World) (fields : List (String × Value)) (i : Nat) : Prop :=
  i = (w.context r).parameters.ref ∧ (w.context r).parameters.writable = true ∧ Filling fields

structure Seeded (r : Nat) (fields : List (String × Value)) (w u : World) : Prop
    extends Framed r w u where
  upholds : Upholds w u
  named : ∀ s v, (Setting.name s, v) ∈ fields → Takes w u s v ((u.context r).slot s)
  unnamed : ∀ s, Setting.name s ∉ fields.map Prod.fst →
    (u.context r).slot s = (w.context r).slot s
  kept : ∀ i < w.parameterMaps.length, ¬ Reached r w fields i →
    u.parameterMaps.read i = w.parameterMaps.read i
  told : ∀ x y, Brought r w fields x y →
    ∃ kept, (u.parameters (w.context r).parameters).find? x = some kept ∧ Keeps w.lists y kept
  untold : ∀ x, (∀ y, ¬ Brought r w fields x y) →
    (u.parameters (w.context r).parameters).find? x =
      (w.parameters (w.context r).parameters).find? x

section
variable {r : Nat} {w : World} {fields others : List (String × Value)}

theorem Filling.within (filling : Filling fields) (sub : ∀ f ∈ fields, f ∈ others) :
    Filling others := by
  have names {name : String} (mem : name ∈ fields.map Prod.fst) : name ∈ others.map Prod.fst := by
    obtain ⟨f, inside, rfl⟩ := List.mem_map.mp mem
    exact List.mem_map_of_mem (sub f inside)
  exact filling.imp names names

theorem Reached.within {i : Nat} (reached : Reached r w fields i)
    (sub : ∀ f ∈ fields, f ∈ others) : Reached r w others i :=
  ⟨reached.1, reached.2.1, reached.2.2.within sub⟩

theorem Brought.within {x y : Value} (brought : Brought r w fields x y)
    (sub : ∀ f ∈ fields, f ∈ others) : Brought r w others x y := by
  obtain ⟨field, v, mem, found⟩ := brought
  exact ⟨field, v, sub _ mem, found⟩

theorem broughtCons {field : Field} {v x y : Value} :
    Brought r w ((field.name, v) :: fields) x y ↔
      (Entries.ofPairs (brings r w field v)).find? x = some y ∨ Brought r w fields x y := by
  constructor
  · rintro ⟨g, v', mem, found⟩
    rcases List.mem_cons.mp mem with first | later
    · obtain rfl := Field.nameInjective (congrArg Prod.fst first)
      obtain rfl : v' = v := congrArg Prod.snd first
      exact .inl found
    · exact .inr ⟨g, v', later, found⟩
  · rintro (found | before)
    · exact ⟨field, v, List.mem_cons_self, found⟩
    · exact before.within fun _ => List.mem_cons_of_mem _

end

theorem ownMap {r : Nat} {w : World} {v : Value} (own : isOwn r w v = true) :
    ∃ t, v.root = .parameters t ∧ t.ref = (w.context r).parameters.ref := by
  unfold isOwn at own
  split at own
  next t root => exact ⟨t, root, by simpa using own⟩
  next => contradiction

theorem bringsItems {r : Nat} {w : World} {m : Value} {p : Value × Value}
    (mem : p ∈ brings r w .parameters m) : p ∈ (w.items m).items := by
  have own : brings r w .parameters m = if isOwn r w m then [] else w.given m := rfl
  rw [own] at mem
  split at mem
  next => contradiction
  next => exact World.givenItem mem

theorem notBrought {r : Nat} {w : World} {fields : List (String × Value)} {x : Value}
    (parameters : ∀ m, ("parameters", m) ∈ fields → isOwn r w m = false →
      ∀ e ∈ (w.items m).items, e.1.sameKey x = false)
    (event : "event_id" ∈ fields.map Prod.fst → namesEvent x = false) (y : Value) :
    ¬ Brought r w fields x y := by
  rintro ⟨field, v, mem, found⟩
  obtain ⟨p, inside, same, _⟩ := Entries.findPairsSome found
  cases field with
  | setting s => contradiction
  | parameters =>
    cases own : isOwn r w v with
    | true =>
      have nothing : brings r w .parameters v = [] := if_pos own
      rw [nothing] at inside
      contradiction
    | false =>
      rw [parameters v mem own p (bringsItems inside)] at same
      contradiction
  | event =>
    rw [List.mem_singleton.mp inside] at same
    have other := event (List.mem_map_of_mem mem)
    rw [namesEvent, same] at other
    contradiction

namespace Takes

variable {w u u' : World} {s : Setting} {v x : Value}

theorem since (takes : Takes u u' s v x) (grows : w.parameterMaps.length ≤ u.parameterMaps.length)
    (lists : u.lists = w.lists) (given : s = .requestParameters → u.given v = w.given v) :
    Takes w u' s v x := by
  cases takes with
  | itself own => exact .itself own
  | user t n => exact .user t n
  | map other writable fresh there entries =>
    refine .map other writable (Nat.le_trans grows fresh) there ?_
    rw [← given rfl, ← lists]
    exact entries

theorem later (takes : Takes w u s v x)
    (grows : u.parameterMaps.length ≤ u'.parameterMaps.length)
    (same : s = .requestParameters → ∀ i < u.parameterMaps.length,
      u'.parameterMaps.read i = u.parameterMaps.read i) : Takes w u' s v x := by
  cases takes with
  | itself own => exact .itself own
  | user t n => exact .user t n
  | @map v m other writable fresh there entries =>
    refine .map other writable fresh (Nat.lt_of_lt_of_le there grows) ?_
    have entriesSame : u'.parameters m = u.parameters m := same rfl m.ref there
    rw [entriesSame]
    exact entries

end Takes

namespace Apart

variable {r : Nat} {w : World} {fields : List (String × Value)} (apart : Apart fields w)
include apart

theorem once {name : String} {v v' : Value} (mem : (name, v) ∈ fields) (mem' : (name, v') ∈ fields) :
    v = v' :=
  congrArg Prod.snd (List.inj_on_of_nodup_map apart.distinct mem mem' rfl)

theorem bringsOnce {f g : Field} {v v' x y y' : Value} (memf : (f.name, v) ∈ fields)
    (memg : (g.name, v') ∈ fields)
    (bringsf : (Entries.ofPairs (brings r w f v)).find? x = some y)
    (bringsg : (Entries.ofPairs (brings r w g v')).find? x = some y') : y = y' := by
  have clash {m e z z' : Value} (memm : ("parameters", m) ∈ fields) (meme : ("event_id", e) ∈ fields)
      (fromm : (Entries.ofPairs (brings r w .parameters m)).find? x = some z)
      (frome : (Entries.ofPairs (brings r w .event e)).find? x = some z') : False := by
    obtain ⟨p, mem, same, _⟩ := Entries.findPairsSome frome
    rw [List.mem_singleton.mp mem] at same
    obtain ⟨q, inside, sameq, _⟩ := Entries.findPairsSome fromm
    have other := apart.event (List.mem_map_of_mem meme) m memm q (bringsItems inside)
    have equal := Value.sameKeyTrans same (Value.sameKeySymm sameq)
    rw [namesEvent, equal] at other
    contradiction
  by_cases same : f = g
  · subst same
    obtain rfl := apart.once memf memg
    exact Option.some.inj (bringsf.symm.trans bringsg)
  · cases f with
    | setting s => contradiction
    | parameters =>
      cases g with
      | setting s => contradiction
      | parameters => exact absurd rfl same
      | event => exact (clash memf memg bringsf bringsg).elim
    | event =>
      cases g with
      | setting s => contradiction
      | parameters => exact (clash memg memf bringsg bringsf).elim
      | event => exact absurd rfl same

theorem still {some : List (String × Value)} (sub : ∀ f ∈ some, f ∈ fields)
    (map : "request_parameter_map" ∈ fields.map Prod.fst) : ¬ Filling some := fun filling =>
  (filling.within sub).elim (apart.map map).1 (apart.map map).2

theorem noMap (filling : Filling fields) : "request_parameter_map" ∉ fields.map Prod.fst :=
  fun map => apart.still (fun _ mem => mem) map filling

end Apart

namespace Seeded

section
variable {r : Nat} {w u : World} {fields others : List (String × Value)}

theorem start (r : Nat) (w : World) : Seeded r [] w w where
  toFramed := .refl r w
  upholds := FlowDouble.upholds.refl w
  named _ _ mem := nomatch mem
  unnamed _ _ := rfl
  kept _ _ _ := rfl
  told _ _ brought := by
    obtain ⟨_, _, mem, _⟩ := brought
    contradiction
  untold _ _ := rfl

theorem congr (seeded : Seeded r fields w u) (same : ∀ f, f ∈ fields ↔ f ∈ others) :
    Seeded r others w u := by
  have forth : ∀ f ∈ fields, f ∈ others := fun f => (same f).mp
  have back : ∀ f ∈ others, f ∈ fields := fun f => (same f).mpr
  exact { seeded with
    named := fun s v mem => seeded.named s v (back _ mem)
    unnamed := fun s other => seeded.unnamed s fun mem => by
      obtain ⟨f, inside, name⟩ := List.mem_map.mp mem
      exact other (name ▸ List.mem_map_of_mem (forth f inside))
    kept := fun i known apart => seeded.kept i known fun mem => apart (mem.within forth)
    told := fun x y mem => seeded.told x y (mem.within back)
    untold := fun x absent => seeded.untold x fun y mem => absent y (mem.within forth) }

end

section
variable {r : Nat} {all fields : List (String × Value)} {w u u' : World}

theorem map (seeded : Seeded r fields w u)
    (other : "request_parameter_map" ∉ fields.map Prod.fst) :
    (u.context r).parameters = (w.context r).parameters :=
  slotParameters (seeded.unnamed .requestParameters other)

theorem untouched (seeded : Seeded r fields w u) (still : ¬ Filling fields) {m : ParameterMap}
    (known : m.ref < w.parameterMaps.length) : u.parameters m = w.parameters m :=
  seeded.kept m.ref known fun reached => still reached.2.2

theorem mapBeside (seeded : Seeded r fields w u) (apart : Apart all w)
    (sub : ∀ f ∈ fields, f ∈ all) (filling : Filling all) :
    (u.context r).parameters = (w.context r).parameters := by
  refine seeded.map fun map => apart.noMap filling ?_
  obtain ⟨f, inside, same⟩ := List.mem_map.mp map
  exact same ▸ List.mem_map_of_mem (sub f inside)

theorem itemsKept (seeded : Seeded r fields w u) {v : Value} (known : w.Knows v)
    (still : ∀ t, v.root = .parameters t → ¬ Reached r w fields t.ref) : u.items v = w.items v :=
  World.itemsSame seeded.only fun t root =>
    seeded.kept t.ref (World.knownRoot known root) (still t root)

theorem fits (seeded : Seeded r fields w u) (apart : Apart all w) (stands : Stands r all w)
    (sub : ∀ f ∈ fields, f ∈ all) {field : Field} {v : Value} (mem : (field.name, v) ∈ all) :
    Fits r u field v ↔ Fits r w field v := by
  have known : w.Knows v := stands.known _ mem
  have lists := seeded.only.lists
  have named : field.name ∈ all.map Prod.fst := List.mem_map_of_mem mem
  cases field with
  | setting s =>
    cases s with
    | requestParameters =>
      have still : ¬ Filling fields := apart.still sub named
      have truthy : u.truthy v = w.truthy v :=
        World.truthySame seeded.only (fun m there => seeded.untouched still there) known
      have items := seeded.itemsKept known fun t _ reached => still reached.2.2
      simp only [Fits, World.Copies, World.Pours, truthy, items, lists]
    | _ => exact Iff.rfl
  | parameters =>
    have filled := seeded.mapBeside apart sub (.inl named)
    by_cases own : ∃ t, v.root = .parameters t ∧ t.ref = (w.context r).parameters.ref ∧
        (w.context r).parameters.writable = true
    · obtain ⟨t, root, _, writable⟩ := own
      have pours := World.poursOwn stands.formed root
      have pours' := World.poursOwn (seeded.upholds.formed stands.formed) root
      simp only [Fits, pours, pours', filled, writable, implies_true]
    · have items := seeded.itemsKept known fun t root reached =>
        own ⟨t, root, reached.1, reached.2.1⟩
      simp only [Fits, World.Pours, World.given, items, lists, filled]
  | event => simp only [Fits, lists, seeded.mapBeside apart sub (.inr named)]

theorem assignedNamed (seeded : Seeded r fields w u) (apart : Apart all w) (stands : Stands r all w)
    (sub : ∀ f ∈ fields, f ∈ all) {s : Setting} {v x : Value} (mem : (s.name, v) ∈ all)
    (upholds : Upholds u u') (sets : Sets r s x u u') (takes : Takes u u' s v x)
    (same : ∀ i < u.parameterMaps.length, u'.parameterMaps.read i = u.parameterMaps.read i)
    {t : Setting} {v' : Value} (inside : (t.name, v') ∈ (s.name, v) :: fields) :
    Takes w u' t v' ((u'.context r).slot t) := by
  by_cases again : t = s
  · -- It was perhaps seeded before, but then with this very value.
    subst again
    have inAll : (t.name, v') ∈ all := by
      rcases List.mem_cons.mp inside with first | later
      · exact first ▸ mem
      · exact sub _ later
    obtain rfl := apart.once mem inAll
    rw [sets.slot]
    refine takes.since seeded.upholds.maps seeded.only.lists fun map => ?_
    subst map
    have still := apart.still sub (List.mem_map_of_mem mem)
    have items := seeded.itemsKept (stands.known _ mem) fun t _ reached => still reached.2.2
    simp only [World.given, items]
  · rw [sets.slots t again]
    have before : (t.name, v') ∈ fields := by
      refine (List.mem_cons.mp inside).resolve_left fun first => again ?_
      exact Field.setting.inj (Field.nameInjective (congrArg Prod.fst first))
    exact (seeded.named t v' before).later upholds.maps fun _ => same

theorem assigned (seeded : Seeded r fields w u) (apart : Apart all w) (stands : Stands r all w)
    (sub : ∀ f ∈ fields, f ∈ all) {s : Setting} {v x : Value} (mem : (s.name, v) ∈ all)
    (upholds : Upholds u u') (sets : Sets r s x u u') (takes : Takes u u' s v x)
    (same : ∀ i < u.parameterMaps.length, u'.parameterMaps.read i = u.parameterMaps.read i) :
    Seeded r ((s.name, v) :: fields) w u' := by
  have grows := seeded.upholds.maps
  have owned := stands.formed.owned r stands.there
  have entries : u'.parameters (w.context r).parameters = u.parameters (w.context r).parameters :=
    same _ (Nat.lt_of_lt_of_le owned grows)
  have later : ∀ f ∈ fields, f ∈ (s.name, v) :: fields := fun f => List.mem_cons_of_mem _
  constructor
  case toFramed => exact seeded.toFramed.trans sets.toFramed
  case upholds => exact FlowDouble.upholds.trans seeded.upholds upholds
  case named =>
    exact fun t v' => seeded.assignedNamed apart stands sub mem upholds sets takes same
  case unnamed =>
    intro t absent
    have other : t ≠ s := by
      rintro rfl
      exact absent List.mem_cons_self
    rw [sets.slots t other]
    exact seeded.unnamed t fun inside => absent (List.mem_cons_of_mem _ inside)
  case kept =>
    intro i known absent
    rw [same i (Nat.lt_of_lt_of_le known grows)]
    exact seeded.kept i known fun reached => absent (reached.within later)
  case told =>
    intro y z (brought : Brought r w (((Field.setting s).name, v) :: fields) y z)
    rw [entries]
    exact seeded.told y z ((broughtCons.mp brought).resolve_left nofun)
  case untold =>
    intro y absent
    rw [entries]
    exact seeded.untold y fun z mem => absent z (mem.within later)

end

structure Adds (r : Nat) (field : Field) (v : Value) (w u u' : World) : Prop where
  only : OnlyParameters u u'
  others : ∀ i, i ≠ (w.context r).parameters.ref →
    u'.parameterMaps.read i = u.parameterMaps.read i
  still : (w.context r).parameters.writable = false →
    u'.parameters (w.context r).parameters = u.parameters (w.context r).parameters
  told : ∀ {x y}, (Entries.ofPairs (brings r w field v)).find? x = some y →
    ∃ kept, (u'.parameters (w.context r).parameters).find? x = some kept ∧ Keeps w.lists y kept
  untold : ∀ {x}, (Entries.ofPairs (brings r w field v)).find? x = none →
    (u'.parameters (w.context r).parameters).find? x =
      (u.parameters (w.context r).parameters).find? x

section
variable {r : Nat} {all fields : List (String × Value)} {w u u' : World} {v : Value}

theorem addedEvent (seeded : Seeded r fields w u)
    (filled : (u.context r).parameters = (w.context r).parameters) (fits : Fits r w .event v)
    (fills : Fills (u.context r).parameters [(.text eventParameter, v)] u u') :
    Adds r .event v w u u' := by
  rw [filled] at fills
  refine ⟨fills.only, fills.others, fun readOnly => ?_, fun found => ?_, fills.untold⟩
  · rw [fits.2] at readOnly
    contradiction
  · exact seeded.only.lists ▸ fills.told found

theorem addedParameters (seeded : Seeded r fields w u) (stands : Stands r all w)
    (known : w.Knows v) (filled : (u.context r).parameters = (w.context r).parameters)
    (fits : Fits r u .parameters v)
    (fills : Fills (u.context r).parameters (u.given v) u u') : Adds r .parameters v w u u' := by
  have formed' := seeded.upholds.formed stands.formed
  rw [filled] at fills
  have still (readOnly : (w.context r).parameters.writable = false) :
      u'.parameters (w.context r).parameters = u.parameters (w.context r).parameters := by
    have none : u.given v = [] := by
      refine Decidable.byContradiction fun some => ?_
      have writable := fits.2 some
      rw [filled, readOnly] at writable
      contradiction
    rw [none] at fills
    exact fills.nothing
  by_cases own : isOwn r w v = true
  · -- The map is filled with what it has, so each entry of it is kept as it is.
    obtain ⟨t, root, same⟩ := ownMap own
    have nothing : brings r w .parameters v = [] := if_pos own
    refine ⟨fills.only, fills.others, still, fun found => ?_, fun {x} _ => ?_⟩
    · rw [nothing] at found
      contradiction
    · have gives : (Entries.ofPairs (u.given v)).find? x =
          (u.parameters (w.context r).parameters).find? x := by
        rw [World.givenOwn formed' root]
        exact congrArg (fun i => (u.parameterMaps.read i).find? x) same
      cases there : (u.parameters (w.context r).parameters).find? x with
      | none =>
        rw [there] at gives
        exact (fills.untold gives).trans there
      | some y =>
        rw [there] at gives
        obtain ⟨kept, found, keeps⟩ := fills.told gives
        obtain ⟨e, mem, _, rfl⟩ := Entries.findSome there
        have holdable := (formed'.held (w.context r).parameters).values e mem
        rw [found, keepsHoldable holdable keeps]
  · have brought : brings r w .parameters v = w.given v := if_neg own
    have gives (x : Value) : (Entries.ofPairs (u.given v)).find? x =
        (Entries.ofPairs (brings r w .parameters v)).find? x := by
      rw [brought]
      refine World.givenFind stands.formed formed' seeded.only fun t root => ?_
      have same := seeded.kept t.ref (World.knownRoot known root) fun reached => own ?_
      · exact congrArg (Entries.find? x) same
      · simp [isOwn, root, reached.1]
    exact ⟨fills.only, fills.others, still,
      fun found => seeded.only.lists ▸ fills.told ((gives _).trans found),
      fun absent => fills.untold ((gives _).trans absent)⟩

theorem added (seeded : Seeded r fields w u) (apart : Apart all w) (sub : ∀ f ∈ fields, f ∈ all)
    {field : Field} (mem : (field.name, v) ∈ all) (filling : Filling [(field.name, v)])
    (upholds : Upholds u u') (adds : Adds r field v w u u') :
    Seeded r ((field.name, v) :: fields) w u' := by
  have framed : Framed r u u' := .ofParameters adds.only
  have context : u'.context r = u.context r := by rw [adds.only]; rfl
  have within {f : String × Value} (inside : f ∈ (field.name, v) :: fields) : f ∈ all := by
    rcases List.mem_cons.mp inside with rfl | later
    · exact mem
    · exact sub f later
  have one : ∀ f ∈ [(field.name, v)], f ∈ (field.name, v) :: fields := by simp
  have later : ∀ f ∈ fields, f ∈ (field.name, v) :: fields := fun f => List.mem_cons_of_mem _
  have noMap (s : Setting) (inside : s.name ∈ all.map Prod.fst) : s ≠ .requestParameters := by
    rintro rfl
    exact apart.still (fun f inside => within (one f inside)) inside filling
  have otherField (s : Setting) : field ≠ .setting s := by
    rintro rfl
    cases s <;> simp [Filling, Field.name, Setting.name] at filling
  constructor
  case toFramed => exact seeded.toFramed.trans framed
  case upholds => exact FlowDouble.upholds.trans seeded.upholds upholds
  case named =>
    intro s v' inside
    rw [context]
    have before : (s.name, v') ∈ fields := by
      refine (List.mem_cons.mp inside).resolve_left fun first => otherField s ?_
      have same : field.name = (Field.setting s).name := (congrArg Prod.fst first).symm
      exact Field.nameInjective same
    exact (seeded.named s v' before).later upholds.maps fun map =>
      absurd map (noMap s (List.mem_map_of_mem (within inside)))
  case unnamed =>
    intro s absent
    rw [context]
    exact seeded.unnamed s fun inside => absent (List.mem_cons_of_mem _ inside)
  case kept =>
    intro i known absent
    have before : ¬ Reached r w fields i := fun reached => absent (reached.within later)
    rw [← seeded.kept i known before]
    by_cases same : i = (w.context r).parameters.ref
    · subst same
      refine adds.still (Bool.eq_false_iff.mpr fun writable => ?_)
      exact absent ⟨rfl, writable, filling.within one⟩
    · exact adds.others i same
  case told =>
    -- A name that this field brings is brought by no other one, so what it was put as is the last.
    intro x y brought
    rcases broughtCons.mp brought with own | ⟨g, v', inside, found⟩
    · exact adds.told own
    · cases here : (Entries.ofPairs (brings r w field v)).find? x with
      | some z =>
        rw [apart.bringsOnce (sub _ inside) mem found here]
        exact adds.told here
      | none =>
        rw [adds.untold here]
        exact seeded.told x y ⟨g, v', inside, found⟩
  case untold =>
    intro x absent
    have here : (Entries.ofPairs (brings r w field v)).find? x = none :=
      Option.eq_none_iff_forall_ne_some.mpr fun y found => absent y (broughtCons.mpr (.inl found))
    rw [adds.untold here]
    exact seeded.untold x fun y brought => absent y (brought.within later)

end

end Seeded

def Takeable (r : Nat) (w : World) (f : String × Value) : Prop :=
  ∃ field, f.1 = Field.name field ∧ Fits r w field f.2

section
variable [Calls] {r : Nat} {all fields rest : List (String × Value)} {w u u' : World}

theorem Seeded.step (seeded : Seeded r fields w u) (apart : Apart all w) (stands : Stands r all w)
    (sub : ∀ f ∈ fields, f ∈ all) {f : String × Value} (mem : f ∈ all)
    (done : seedField r f.1 f.2 u = .ok () u') :
    Takeable r w f ∧ Seeded r (f :: fields) w u' := by
  obtain ⟨name, v⟩ := f
  have one : Stands r [(name, v)] w := stands.within fun f single =>
    List.mem_singleton.mp single ▸ mem
  have upholds := (one.later seeded.upholds).seedField done
  obtain ⟨field, rfl, fits, does⟩ := fieldDone (one.later seeded.upholds) done
  have before := (seeded.fits apart stands sub mem).mp fits
  refine ⟨⟨field, rfl, before⟩, ?_⟩
  cases does with
  | assigns sets takes same => exact seeded.assigned apart stands sub mem upholds sets takes same
  | pours fills =>
    have filled := seeded.mapBeside apart sub (.inl (List.mem_map_of_mem mem))
    have adds := seeded.addedParameters stands (stands.known _ mem) filled fits fills
    exact seeded.added apart sub mem (.inl List.mem_cons_self) upholds adds
  | signals fills =>
    have filled := seeded.mapBeside apart sub (.inr (List.mem_map_of_mem mem))
    have adds := seeded.addedEvent filled before fills
    exact seeded.added apart sub mem (.inr List.mem_cons_self) upholds adds

theorem Seeded.run (seeded : Seeded r fields w u) (apart : Apart all w) (stands : Stands r all w)
    (sub : ∀ f ∈ fields, f ∈ all) (within : ∀ f ∈ rest, f ∈ all)
    (done : seedAll r rest u = .ok () u') :
    (∀ f ∈ rest, Takeable r w f) ∧ Seeded r (fields ++ rest) w u' := by
  induction rest generalizing fields u with
  | nil =>
    cases done
    exact ⟨by simp, by simpa using seeded⟩
  | cons f rest ih =>
    obtain ⟨_, u₁, first, later⟩ := bindInv done
    obtain ⟨mem, others⟩ := List.forall_mem_cons.mp within
    obtain ⟨takeable, seeded₁⟩ := seeded.step apart stands sub mem first
    obtain ⟨takeables, seeded'⟩ := ih seeded₁ (List.forall_mem_cons.mpr ⟨mem, sub⟩) others later
    refine ⟨List.forall_mem_cons.mpr ⟨takeable, takeables⟩, seeded'.congr fun g => ?_⟩
    simp only [List.cons_append, List.mem_cons, List.mem_append]
    exact or_left_comm

theorem Seeded.goes (seeded : Seeded r fields w u) (apart : Apart all w) (stands : Stands r all w)
    (sub : ∀ f ∈ fields, f ∈ all) (within : ∀ f ∈ rest, f ∈ all)
    (takeable : ∀ f ∈ rest, Takeable r w f) : ∃ u', seedAll r rest u = .ok () u' := by
  induction rest generalizing fields u with
  | nil => exact ⟨u, rfl⟩
  | cons f rest ih =>
    obtain ⟨name, v⟩ := f
    obtain ⟨mem, others⟩ := List.forall_mem_cons.mp within
    obtain ⟨⟨field, same, fits⟩, takeables⟩ := List.forall_mem_cons.mp takeable
    obtain rfl : name = field.name := same
    obtain ⟨formed, there, known⟩ := stands.later seeded.upholds
    obtain ⟨u₁, first⟩ := fieldGoes formed there (known _ mem)
      ((seeded.fits apart stands sub mem).mpr fits)
    obtain ⟨_, seeded₁⟩ := seeded.step apart stands sub mem first
    obtain ⟨u', later⟩ := ih seeded₁ (List.forall_mem_cons.mpr ⟨mem, sub⟩) others takeables
    exact ⟨u', (bindOk first).trans later⟩

end

end FlowDouble.Context
