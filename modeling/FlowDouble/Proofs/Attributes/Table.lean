import FlowDouble.Fault
import FlowDouble.Proofs.Entries
/-! A table: one list of entries in order of insertion, no two keys equal, with what can be asked of
it and what it answers. It knows of no maps, layers or references. -/
namespace FlowDouble.Table

def lookup (key : Value) (es : Entries) : Option Value :=
  (List.find? (fun e => e.1.sameKey key) es).map (·.2)

def write (key value : Value) (es : Entries) : Entries :=
  if es.any fun e => e.1.sameKey key then
    es.map fun e => if e.1.sameKey key then (e.1, value) else e
  else es ++ [(key, value)]

def drop (key : Value) (es : Entries) : Entries := es.filter fun e => !e.1.sameKey key

def writeAll (pairs : List (Value × Value)) (es : Entries) : Entries :=
  pairs.foldl (fun es p => write p.1 p.2 es) es

inductive Order where
  | get (key default : Value)
  | item (key : Value)
  | assign (key value : Value)
  | delete (key : Value)
  | has (key : Value)
  | count
  | iterate
  | put (key value : Value)
  | pour (pairs : List (Value × Value)) (fault : Option Kind) (chained : Bool)
  | copy
  | pop (key : Value) (default : Option Value)
  | popFirst
  | clear
  | getOrPut (key default : Value)
  | compare (test : Entries → Except Kind Bool)

inductive Reply where
  | value (v : Value)
  | itself
  | row (vs : List Value)
  | copy (es : Entries)

abbrev Answer := Except Kind Reply

def nothing : Reply := .value .null

def step (es : Entries) : Order → Answer × Entries
  | .get key default => (.ok (.value ((lookup key es).getD default)), es)
  | .item key =>
    match lookup key es with
    | some v => (.ok (.value v), es)
    | none => (.error .missingKey, es)
  | .assign key value => (.ok nothing, write key value es)
  | .delete key =>
    match lookup key es with
    | some _ => (.ok nothing, drop key es)
    | none => (.error .missingKey, es)
  | .has key => (.ok (.value (.bool (lookup key es).isSome)), es)
  | .count => (.ok (.value (.int es.length)), es)
  | .iterate => (.ok (.row (es.map (·.1))), es)
  | .put key value => (.ok (.value ((lookup key es).getD .null)), write key value es)
  | .pour pairs fault chained =>
    match fault with
    | none => (.ok (if chained then .itself else nothing), writeAll pairs es)
    | some k => (.error k, writeAll pairs es)
  | .copy => (.ok (.copy es), es)
  | .pop key default =>
    match lookup key es, default with
    | some v, _ => (.ok (.value v), drop key es)
    | none, some d => (.ok (.value d), es)
    | none, none => (.error .missingKey, es)
  | .popFirst =>
    match es with
    | [] => (.error .missingKey, [])
    | (key, value) :: rest => (.ok (.row [key, value]), rest)
  | .clear => (.ok nothing, [])
  | .getOrPut key default =>
    match lookup key es with
    | some v => (.ok (.value v), es)
    | none => (.ok (.value default), write key default es)
  | .compare test => ((test es).map fun b => .value (.bool b), es)

def replay (es : Entries) : List Order → List Answer × Entries
  | [] => ([], es)
  | order :: rest =>
    let (answer, es) := step es order
    let (answers, es) := replay es rest
    (answer :: answers, es)

def Order.Hashable : Order → Prop
  | .get key _ | .item key | .assign key _ | .delete key | .has key | .put key _ | .pop key _
  | .getOrPut key _ => key.hashable = true
  | .pour pairs _ _ => ∀ p ∈ pairs, p.1.hashable = true
  | _ => True

theorem lookupFind (key : Value) (es : Entries) : es.find? key = lookup key es := by
  induction es with
  | nil => rfl
  | cons e rest ih =>
    unfold lookup at ih ⊢
    cases same : e.1.sameKey key with
    | true => simp only [Entries.find?, List.find?, same, if_true, Option.map_some]
    | false =>
      simp only [Entries.find?, List.find?, same, ih]
      rfl

theorem hasAny (key : Value) (es : Entries) : es.has key = es.any fun e => e.1.sameKey key := by
  unfold Entries.has
  rw [lookupFind]
  unfold lookup
  rw [Option.isSome_map, List.isSome_find?]

section
variable {es : Entries} (sound : es.Sound)
include sound

theorem writeInserts (key value : Value) : es.insert key value = write key value es := by
  unfold write
  rw [← hasAny]
  cases there : es.has key with
  | true => exact Entries.insertReplaces sound.distinct value there
  | false => exact Entries.insertAppends value there

theorem dropErases (key : Value) : es.erase key = drop key es :=
  Entries.eraseFilters sound.distinct key

theorem soundWritten {key : Value} (hashable : key.hashable = true) (value : Value) :
    (write key value es).Sound :=
  writeInserts sound key value ▸ Entries.soundInserted sound hashable value

theorem soundDropped (key : Value) : (drop key es).Sound :=
  dropErases sound key ▸ Entries.soundErased sound key

theorem soundWrittenAll {pairs : List (Value × Value)}
    (hashable : ∀ p ∈ pairs, p.1.hashable = true) : (writeAll pairs es).Sound := by
  induction pairs generalizing es with
  | nil => exact sound
  | cons p rest ih =>
    have first := soundWritten sound (hashable p List.mem_cons_self) p.2
    exact ih first fun q mem => hashable q (List.mem_cons_of_mem _ mem)

theorem soundAfter {order : Order} (hashable : order.Hashable) : (step es order).2.Sound := by
  cases order with
  | assign key value | put key value => exact soundWritten sound hashable value
  | item key =>
    simp only [step]
    split <;> exact sound
  | delete key =>
    simp only [step]
    split
    · exact soundDropped sound key
    · exact sound
  | pop key default =>
    simp only [step]
    split
    · exact soundDropped sound key
    · exact sound
    · exact sound
  | pour pairs fault chained => cases fault <;> exact soundWrittenAll sound hashable
  | popFirst =>
    cases es with
    | nil => exact sound
    | cons e rest => exact Entries.soundTail sound
  | clear => exact Entries.soundNil
  | getOrPut key default =>
    simp only [step]
    split
    · exact sound
    · exact soundWritten sound hashable default
  | _ => exact sound

end

end FlowDouble.Table
