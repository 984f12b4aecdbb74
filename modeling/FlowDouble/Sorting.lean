import FlowDouble.Fault
/-! Things in ascending order. The run a list begins with is kept, turned around if it falls, and
everything after it goes to its place in what is sorted so far. What has no place of its own, such
as a key that is no number at all, stays where the comparisons leave it. -/
namespace FlowDouble.Sorting

variable {α : Type} (less : α → α → Except Fault Bool)

-- The longest run in which each thing is below the one before, or none is, and what comes after it.
def run (falling : Bool) (last : α) : List α → Except Fault (List α × List α)
  | [] => .ok ([], [])
  | k :: ks => do
    if (← less k last) = falling then
      let (ahead, behind) ← run falling k ks
      return (k :: ahead, behind)
    else return ([], k :: ks)

def place (k : α) (sorted : List α) : Nat → Nat → Nat → Except Fault Nat
  | 0, lo, _ => .ok lo
  | n + 1, lo, hi =>
    if lo < hi then do
      let middle := lo + (hi - lo) / 2
      let below ← match sorted[middle]? with
        | some l => less k l
        | none => pure true
      if below then place k sorted n lo middle else place k sorted n (middle + 1) hi
    else .ok lo

def insert (sorted : List α) (k : α) : Except Fault (List α) := do
  let i ← place less k sorted sorted.length 0 sorted.length
  return sorted.insertIdx i k

def sort : List α → Except Fault (List α)
  | [] => .ok []
  | [k] => .ok [k]
  | k :: l :: ks => do
    let falling ← less l k
    let (ahead, behind) ← run less falling l ks
    let start := k :: l :: ahead
    behind.foldlM (insert less) (if falling then start.reverse else start)

end FlowDouble.Sorting
