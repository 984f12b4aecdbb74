import FlowDouble.Attributes.Operation
import FlowDouble.Proofs.Attributes.Operations
/-! What an attribute map is asked for, as an order to the table its dictionary holds. The order
knows neither the map nor how many layers there are between it and the dictionary. -/
namespace FlowDouble

open FlowDouble.Action

structure Layer where
  tag : Nat
  shared : Bool
  backing : Value

namespace Layer

def map (l : Layer) : Value := .attributes l.tag l.shared l.backing

def Over (l : Layer) (d : Nat) : Prop := l.backing.root = .dictionary d

end Layer

inductive Request where
  | get (key default : Value)
  | item (key : Value)
  | assign (key value : Value)
  | delete (key : Value)
  | has (key : Value)
  | count
  | iterate
  | put (key value : Value)
  | putAll (source : Value)
  | remove (key : Value)
  | toDictionary
  | pop (key : Value) (default : Option Value)
  | popFirst
  | clear
  | update (source : Option Value) (named : List (String × Value))
  | getOrPut (key default : Value)
  | equals (other : Value)

namespace World

variable [Calls]

def compared (w : World) (other : Value) (es : Entries) : Except Kind Bool :=
  ((Snapshot.mapping (.attributes false) (Entries.snapshot (resolver w.reach w) es)).equal
    (w.snapshot other)).mapError Fault.kind

end World

namespace Request

def act [Calls] (l : Layer) : Request → Action Value
  | get key default => Attributes.perform l.map l.backing (.get key default)
  | item key => l.map.getItem key
  | assign key value => yieldNothing (l.map.setItem key value)
  | delete key => yieldNothing (l.map.deleteItem key)
  | has key => do return .bool (← l.map.contains key)
  | count => do return .int (← length l.map)
  | iterate => do newTuple (← elements l.map)
  | put key value => Attributes.perform l.map l.backing (.put key value)
  | putAll source => Attributes.perform l.map l.backing (.putAll source)
  | remove key => Attributes.perform l.map l.backing (.remove key)
  | toDictionary => Attributes.perform l.map l.backing .toDictionary
  | pop key default => Attributes.perform l.map l.backing (.pop key default)
  | popFirst => Attributes.perform l.map l.backing .popFirst
  | clear => Attributes.perform l.map l.backing .clear
  | update source named =>
    Attributes.perform l.map l.backing (.update source (namedEntries named))
  | getOrPut key default => Attributes.perform l.map l.backing (.getOrPut key default)
  | equals other => do return .bool (← l.map.isEqual other)

def order [Calls] (d : Nat) (w : World) : Request → Table.Order
  | get key default => .get key default
  | item key => .item key
  | assign key value => .assign key value
  | delete key => .delete key
  | has key => .has key
  | count => .count
  | iterate => .iterate
  | put key value => .put key value
  | putAll source =>
    let offer := w.offered d source
    .pour offer.1 offer.2 true
  | remove key => .pop key (some .null)
  | toDictionary => .copy
  | pop key default => .pop key default
  | popFirst => .popFirst
  | clear => .clear
  | update source named =>
    let offer := Offer.followed (source.elim ([], none) (w.offered d)) (namedEntries named)
    .pour offer.1 offer.2 false
  | getOrPut key default => .getOrPut key default
  | equals other => .compare (w.compared other)

def Proper : Request → Prop
  | get key _ | item key | assign key _ | delete key | has key | put key _ | remove key
  | pop key _ | getOrPut key _ => key.hashable = true
  | _ => True

end Request

namespace Table

def Reply.Shown (map : Value) (w w' : World) : Reply → Value → Prop
  | .value v, x => x = v
  | .itself, x => x = map
  | .row vs, x => ∃ tag, x = .tuple tag vs
  | .copy es, x => ∃ r, x = .dictionary r ∧ w.dictionaries.length ≤ r ∧ w'.dictionary r = es

end Table

def Meets (d : Nat) (map : Value) (w : World) (order : Table.Order) :
    EStateM.Result Fault World Value → Prop
  | .ok v w' =>
    ∃ reply, (Table.step (w.dictionary d) order).1 = .ok reply ∧ reply.Shown map w w' v ∧
      After d w w' (Table.step (w.dictionary d) order).2
  | .error f w' =>
    (Table.step (w.dictionary d) order).1 = .error f.kind ∧
      After d w w' (Table.step (w.dictionary d) order).2

section
variable [Calls] {l : Layer} {d : Nat} {w : World}

omit [Calls] in
theorem namedHashable (named : List (String × Value)) :
    ∀ p ∈ namedEntries named, p.1.hashable = true := by
  intro p mem
  obtain ⟨v, _, rfl⟩ := List.mem_map.mp mem
  rfl

omit [Calls] in
theorem updateHashable {source : Option Value} {named : List (String × Value)} :
    ∀ p ∈ (Offer.followed (source.elim ([], none) (w.offered d)) (namedEntries named)).1,
      p.1.hashable = true := by
  have offered : ∀ p ∈ (source.elim ([], none) (w.offered d) : Offer).1, p.1.hashable = true := by
    cases source with
    | none => simp
    | some v => exact World.offeredHashable
  unfold Offer.followed
  split
  · intro p mem
    rcases List.mem_append.mp mem with first | later
    · exact offered p first
    · exact namedHashable named p later
  · exact offered

theorem orderHashable {request : Request} (proper : request.Proper) :
    (request.order d w).Hashable := by
  cases request with
  | putAll source => exact World.offeredHashable
  | update source named => exact updateHashable
  | _ => exact proper

end

end FlowDouble
