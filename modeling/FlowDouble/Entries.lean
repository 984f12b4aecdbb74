import FlowDouble.Value
/-! Entries in order of insertion. A replaced value keeps its place and the key it first had. -/
namespace FlowDouble

abbrev Entries := List (Value × Value)

namespace Entries

def find? (k : Value) : Entries → Option Value
  | [] => none
  | (k', v) :: rest => if k'.sameKey k then some v else find? k rest

def insert (k v : Value) : Entries → Entries
  | [] => [(k, v)]
  | (k', v') :: rest => if k'.sameKey k then (k', v) :: rest else (k', v') :: insert k v rest

def erase (k : Value) : Entries → Entries
  | [] => []
  | (k', v') :: rest => if k'.sameKey k then rest else (k', v') :: erase k rest

def has (es : Entries) (k : Value) : Bool := (es.find? k).isSome

def keys (es : Entries) : List Value := es.map (·.1)

def values (es : Entries) : List Value := es.map (·.2)

theorem findInserted (k v : Value) (es : Entries) : (es.insert k v).find? k = some v := by
  induction es with
  | nil => simp [insert, find?, k.sameKeyRefl]
  | cons e es ih => by_cases h : e.1.sameKey k = true <;> simp [insert, find?, h, ih]

theorem keysInserted (k v : Value) (es : Entries) :
    (es.insert k v).keys = if es.has k then es.keys else es.keys ++ [k] := by
  induction es with
  | nil => simp [insert, has, find?, keys]
  | cons e es ih =>
    by_cases h : e.1.sameKey k = true
    · simp [insert, has, find?, keys, h]
    · simp only [has, keys] at ih
      simp [insert, has, find?, keys, h, ih]
      split <;> simp_all

def insertAll (es : Entries) (pairs : List (Value × Value)) : Entries :=
  pairs.foldl (fun es p => es.insert p.1 p.2) es

def ofPairs (pairs : List (Value × Value)) : Entries := insertAll [] pairs

end Entries

end FlowDouble
