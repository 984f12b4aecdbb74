import FlowDouble.Proofs.Seeding.Invariant
/-! Fields that stay apart can be seeded in any order and more than once: the context is the same in
the end, tells each field by what was given for it and all else as before. -/
namespace FlowDouble.Context

open FlowDouble.Action ParameterMap

inductive Twin : Value → Value → Prop where
  | same (v : Value) : Twin v v
  | principal (t t' : Nat) (name : Value) : Twin (.principal t name) (.principal t' name)
  | row (t t' : Nat) (vs : List Value) : Twin (.tuple t vs) (.tuple t' vs)

structure Alike (r : Nat) (u u' : World) : Prop where
  bare : (u'.context r).bare = (u.context r).bare
  slots : ∀ s, s ≠ .requestParameters → Twin ((u.context r).slot s) ((u'.context r).slot s)
  writable : (u'.context r).parameters.writable = (u.context r).parameters.writable
  entries : ∀ x, Option.Rel Twin ((u.parameters (u.context r).parameters).find? x)
    ((u'.parameters (u'.context r).parameters).find? x)

theorem keepsTwin {lists : Heap (List Value)} {v kept kept' : Value} (keeps : Keeps lists v kept)
    (keeps' : Keeps lists v kept') : Twin kept kept' := by
  cases keeps with
  | itself accepted =>
    cases keeps' with
    | itself _ => exact .same _
    | row r tag one => contradiction
  | row r tag one =>
    cases keeps' with
    | itself accepted => contradiction
    | row _ tag' _ => exact .row tag tag' _

theorem keptTwin {lists : Heap (List Value)} {given found found' : Option Value}
    (kept : Option.Rel (Keeps lists) given found) (kept' : Option.Rel (Keeps lists) given found') :
    Option.Rel Twin found found' := by
  cases kept with
  | none =>
    cases kept'
    exact .none
  | some keeps =>
    cases kept' with
    | some keeps' => exact .some (keepsTwin keeps keeps')

theorem twinRefl (o : Option Value) : Option.Rel Twin o o := by
  cases o with
  | none => exact .none
  | some v => exact .some (.same v)

theorem takesTwin {w u u' : World} {s : Setting} {v x x' : Value} (other : s ≠ .requestParameters)
    (takes : Takes w u s v x) (takes' : Takes w u' s v x') : Twin x x' := by
  cases takes with
  | itself own =>
    cases takes' with
    | itself _ => exact .same _
    | user t n => contradiction
    | map => contradiction
  | user t n =>
    cases takes' with
    | itself own => contradiction
    | user t' _ => exact .principal t t' _
  | map => contradiction

namespace Seeded

variable {r : Nat} {fields : List (String × Value)} {w u u' : World}

theorem mapTwin (seeded : Seeded r fields w u) (seeded' : Seeded r fields w u')
    (apart : Apart fields w) (stands : Stands r fields w)
    (named : "request_parameter_map" ∈ fields.map Prod.fst) :
    (u'.context r).parameters.writable = (u.context r).parameters.writable ∧
      ∀ x, Option.Rel Twin ((u.parameters (u.context r).parameters).find? x)
        ((u'.parameters (u'.context r).parameters).find? x) := by
  obtain ⟨⟨name, v⟩, mem, rfl⟩ := List.mem_map.mp named
  have still : ¬ Filling fields := apart.still (fun _ mem => mem) named
  have takes : Takes w u .requestParameters v (.parameters (u.context r).parameters) :=
    seeded.named .requestParameters v mem
  have takes' : Takes w u' .requestParameters v (.parameters (u'.context r).parameters) :=
    seeded'.named .requestParameters v mem
  generalize (u.context r).parameters = m at takes ⊢
  generalize (u'.context r).parameters = m' at takes' ⊢
  cases takes with
  | itself own =>
    cases takes' with
    | itself _ =>
      have known : m.ref < w.parameterMaps.length := stands.known _ mem
      rw [seeded.untouched still known, seeded'.untouched still known]
      exact ⟨rfl, fun x => twinRefl _⟩
    | map other => contradiction
  | map other writable fresh there entries =>
    cases takes' with
    | itself own => contradiction
    | map _ writable' _ _ entries' =>
      exact ⟨writable'.trans writable.symm, fun x => keptTwin (entries x) (entries' x)⟩

theorem alike (seeded : Seeded r fields w u) (seeded' : Seeded r fields w u')
    (apart : Apart fields w) (stands : Stands r fields w) : Alike r u u' := by
  have maps : (u'.context r).parameters.writable = (u.context r).parameters.writable ∧
      ∀ x, Option.Rel Twin ((u.parameters (u.context r).parameters).find? x)
        ((u'.parameters (u'.context r).parameters).find? x) := by
    by_cases named : "request_parameter_map" ∈ fields.map Prod.fst
    · exact mapTwin seeded seeded' apart stands named
    · rw [seeded.map named, seeded'.map named]
      refine ⟨rfl, fun x => ?_⟩
      by_cases brought : ∃ y, Brought r w fields x y
      · obtain ⟨y, brought⟩ := brought
        obtain ⟨kept, found, keeps⟩ := seeded.told x y brought
        obtain ⟨kept', found', keeps'⟩ := seeded'.told x y brought
        rw [found, found']
        exact .some (keepsTwin keeps keeps')
      · have absent (y : Value) : ¬ Brought r w fields x y := fun mem => brought ⟨y, mem⟩
        rw [seeded.untold x absent, seeded'.untold x absent]
        exact twinRefl _
  refine ⟨seeded'.bare.trans seeded.bare.symm, fun s other => ?_, maps.1, maps.2⟩
  by_cases named : s.name ∈ fields.map Prod.fst
  · obtain ⟨⟨name, v⟩, mem, rfl⟩ := List.mem_map.mp named
    exact takesTwin other (seeded.named s v mem) (seeded'.named s v mem)
  · rw [seeded.unnamed s named, seeded'.unnamed s named]
    exact .same _

theorem slotOverride (seeded : Seeded r fields w u) {v : Value}
    (mem : ("response_allowed", v) ∈ fields) : (u.context r).slot .responseAllowed = v := by
  have takes := seeded.named .responseAllowed v mem
  generalize (u.context r).slot .responseAllowed = x at takes
  cases takes
  rfl

theorem showsParameters (seeded : Seeded r fields w u) (apart : Apart fields w)
    (stands : Stands r fields w) {m : Value} (mem : ("parameters", m) ∈ fields)
    (mapping : m.isMapping = true) {e : Value × Value} (item : e ∈ (w.items m).items) :
    ∃ kept, (u.parameters (u.context r).parameters).find? e.1 = some kept ∧
      Keeps w.lists e.2 kept := by
  have given : (Entries.ofPairs (w.given m)).find? e.1 = some e.2 :=
    World.givenEntry stands.formed item mapping
  rw [seeded.map (apart.noMap (.inl (List.mem_map_of_mem mem)))]
  by_cases own : isOwn r w m = true
  · obtain ⟨t, root, same⟩ := ownMap own
    have there : (w.parameters (w.context r).parameters).find? e.1 = some e.2 := by
      rw [World.givenOwn stands.formed root] at given
      rwa [World.parameters, ← same]
    have absent := notBrought (r := r) (x := e.1)
      (fun m' mem' other => by
        obtain rfl := apart.once mem mem'
        rw [own] at other
        contradiction)
      fun event => apart.event event m mem e item
    rw [seeded.untold e.1 absent, there]
    obtain ⟨d, inside, _, value⟩ := Entries.findSome there
    have holdable := (stands.formed.held (w.context r).parameters).values d inside
    exact ⟨e.2, rfl, .itself (holdableAccepted (value ▸ holdable))⟩
  · have brought : brings r w .parameters m = w.given m := if_neg own
    exact seeded.told e.1 e.2 ⟨.parameters, m, mem, brought ▸ given⟩

end Seeded

structure Shows [Calls] (r : Nat) (fields : List (String × Value)) (w u : World) : Prop
    extends Framed r w u where
  named : ∀ s v, (Setting.name s, v) ∈ fields → s ≠ .responseAllowed →
    ∃ x, perform r (.setting s) u = .ok x u ∧ Takes w u s v x
  override : ∀ b, ("response_allowed", .bool b) ∈ fields →
    perform r (.setting .responseAllowed) u = .ok (.bool b) u
  derived : ("response_allowed", .null) ∈ fields →
    perform r (.setting .responseAllowed) u = .ok (.bool !(w.context r).complete) u
  parameters : ∀ m, ("parameters", m) ∈ fields → ∀ e ∈ (w.items m).items,
    ∃ kept, (u.parameters (u.context r).parameters).find? e.1 = some kept ∧ Keeps w.lists e.2 kept
  event : ∀ v, ("event_id", v) ∈ fields →
    ∃ kept, (u.parameters (u.context r).parameters).find? (.text eventParameter) = some kept ∧
      Keeps w.lists v kept
  otherParameters : ∀ x, "request_parameter_map" ∉ fields.map Prod.fst →
    (∀ m, ("parameters", m) ∈ fields → ∀ e ∈ (w.items m).items, e.1.sameKey x = false) →
    ("event_id" ∈ fields.map Prod.fst → namesEvent x = false) →
      (u.parameters (u.context r).parameters).find? x =
        (w.parameters (w.context r).parameters).find? x
  unnamed : ∀ op, Operation.Looks op → (∀ s ∈ op.about, Setting.name s ∉ fields.map Prod.fst) →
    (perform r op).yields u = (perform r op).yields w
  otherMaps : ∀ i < w.parameterMaps.length,
    (i = (w.context r).parameters.ref → ¬ Filling fields) →
      u.parameterMaps.read i = w.parameterMaps.read i

section
variable [Calls] {r : Nat} {fields : List (String × Value)} {w u : World}

theorem tellsOverride {o : Option Bool} (plain : w.Plain)
    (slot : (w.context r).slot .responseAllowed = overrideValue o) :
    perform r (.setting .responseAllowed) w = .ok (.bool (o.getD !(w.context r).complete)) w := by
  have same : (w.context r).allowed = o := overrideSame slot
  have told : perform r (.setting .responseAllowed) w = isResponseAllowed r w := rfl
  rw [told, asksAllowed plain, responseAllowed, same]

namespace Seeded

theorem shows (seeded : Seeded r fields w u) (apart : Apart fields w) (stands : Stands r fields w)
    (takeable : ∀ f ∈ fields, Takeable r w f) : Shows r fields w u := by
  have formed' := seeded.upholds.formed stands.formed
  constructor
  case toFramed => exact seeded.toFramed
  case named =>
    intro s v mem other
    refine ⟨(u.context r).slot s, ?_, seeded.named s v mem⟩
    cases s <;> first | contradiction | rfl
  case override =>
    intro b mem
    exact tellsOverride (o := some b) formed'.plain (seeded.slotOverride mem)
  case derived =>
    intro mem
    have told := tellsOverride (o := none) formed'.plain (seeded.slotOverride mem)
    have complete : (u.context r).complete = (w.context r).complete :=
      congrArg (·.2.1) seeded.bare
    rw [told, complete]
    rfl
  case parameters =>
    intro m mem e item
    obtain ⟨field, same, fits⟩ := takeable _ mem
    obtain rfl : Field.parameters = field := Field.nameInjective same
    exact seeded.showsParameters apart stands mem fits.1.1 item
  case event =>
    intro v mem
    rw [seeded.map (apart.noMap (.inr (List.mem_map_of_mem mem)))]
    exact seeded.told _ v ⟨.event, v, mem, Entries.findInserted _ _ []⟩
  case otherParameters =>
    intro x noMap parameters event
    rw [seeded.map noMap]
    exact seeded.untold x (notBrought (fun m mem _ => parameters m mem) event)
  case unnamed =>
    intro op looks other
    exact looksSame looks stands.formed.plain formed'.plain seeded.bare fun s about =>
      seeded.unnamed s (other s about)
  case otherMaps =>
    intro i known still
    exact seeded.kept i known fun reached => still reached.1 reached.2.2

end Seeded

end

/-- Seeded in another order, or once more on top, fields that stay apart succeed as well and leave the
same context, which tells them and nothing else anew. -/
theorem seedingForgetsOrder {r : Nat} {fields : List (String × Value)} {c : Value} {w u : World}
    (reachable : Reachable r w) (known : ∀ f ∈ fields, w.Knows f.2) (apart : Apart fields w)
    (done : Script.seedOn (.context r) fields w = .ok c u) :
    Shows r fields w u ∧ ∀ other, List.Perm other fields →
      (∃ u', Script.seedOn (.context r) other w = .ok (.context r) u' ∧ Alike r u u' ∧
        Shows r fields w u') ∧
      ∃ u', Script.seedOn (.context r) other u = .ok (.context r) u' ∧ Alike r u u' ∧
        Shows r fields w u' := by
  obtain ⟨free, _, done⟩ := seedOnInv done
  obtain ⟨formed, there⟩ := reachableFormed reachable
  have stands : Stands r fields w := ⟨formed, there, known⟩
  have start := Seeded.start r w
  obtain ⟨takeable, seeded⟩ := start.run apart stands (by simp) (fun _ mem => mem) done
  refine ⟨seeded.shows apart stands takeable, fun other perm => ?_⟩
  have within : ∀ f ∈ other, f ∈ fields := fun _ => perm.mem_iff.mp
  have free' : Unreserved other := fun f mem => free f (within f mem)
  have takeable' : ∀ f ∈ other, Takeable r w f := fun f mem => takeable f (within f mem)
  constructor
  · obtain ⟨u', again⟩ := start.goes apart stands (by simp) within takeable'
    obtain ⟨_, seeded'⟩ := start.run apart stands (by simp) within again
    have same : Seeded r fields w u' := seeded'.congr fun _ => perm.mem_iff
    exact ⟨u', (seedOnOk free').mpr ⟨rfl, again⟩, seeded.alike same apart stands,
      same.shows apart stands takeable⟩
  · obtain ⟨u', again⟩ := seeded.goes apart stands (fun _ mem => mem) within takeable'
    obtain ⟨_, seeded'⟩ := seeded.run apart stands (fun _ mem => mem) within again
    have same : Seeded r fields w u' := seeded'.congr fun f => by simp [perm.mem_iff]
    exact ⟨u', (seedOnOk free').mpr ⟨rfl, again⟩, seeded.alike same apart stands,
      same.shows apart stands takeable⟩

theorem userAndParametersInTwoOrders :
    ∃ w u u', Reachable 0 w ∧
      Script.seedOn (.context 0) [("parameters", .dictionary 0), ("event_id", .text "go"),
        ("current_user", .text "keith"), ("response_allowed", .bool true)] w =
          .ok (.context 0) u ∧
      Script.seedOn (.context 0) [("response_allowed", .bool true), ("current_user", .text "keith"),
        ("event_id", .text "go"), ("parameters", .dictionary 0)] w = .ok (.context 0) u' ∧
      Alike 0 u u' ∧
      (∃ x, perform 0 (.setting .currentUser) u = .ok x u ∧ Twin (.principal 0 (.text "keith")) x) ∧
      perform 0 (.setting .responseAllowed) u = .ok (.bool true) u ∧
      (perform 0 (.setting .locale)).yields u = (perform 0 (.setting .locale)).yields w := by
  let before : World :=
    { lists := [[.text "1", .text "2"]], dictionaries := [[(.text "ids", .list 0)]] }
  have formed : before.Formed := by
    refine formedStart fun es mem => ?_
    rw [List.mem_singleton.mp mem]
    exact ⟨by decide, by decide⟩
  have reachable : Reachable 0 (started before) := reachableStarted formed
  let fields : List (String × Value) := [("parameters", .dictionary 0), ("event_id", .text "go"),
    ("current_user", .text "keith"), ("response_allowed", .bool true)]
  obtain ⟨u, done⟩ : ∃ u, Script.seedOn (.context 0) fields (started before) =
    .ok (.context 0) u := ⟨_, rfl⟩
  have apart : Apart fields (started before) := by
    refine ⟨by decide, by decide, fun _ m mem e item => ?_⟩
    have same : m = .dictionary 0 := by simpa [fields] using mem
    have items : ((started before).items (.dictionary 0)).items = [(.text "ids", .list 0)] := rfl
    rw [same, items, List.mem_singleton] at item
    rw [item]
    decide
  obtain ⟨shows, orders⟩ :=
    seedingForgetsOrder reachable (by simp [fields, World.Knows]) apart done
  obtain ⟨⟨u', again, alike, _⟩, _⟩ := orders _ (List.reverse_perm fields)
  obtain ⟨x, told, takes⟩ := shows.named .currentUser (.text "keith")
    (by simp [fields, Setting.name]) (by decide)
  refine ⟨_, u, u', reachable, done, again, alike, ⟨x, told, ?_⟩,
    shows.override true (by simp [fields]),
    shows.unnamed _ (.setting .locale) (by decide)⟩
  cases takes with
  | itself own => contradiction
  | user t n => exact .principal 0 t _

end FlowDouble.Context
