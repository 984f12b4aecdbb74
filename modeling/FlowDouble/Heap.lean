/-! Heaps: things that can change, kept by position. A reference is a position; a heap only
grows, so a reference stays good. Main statement: what is read is what was last written there. -/
namespace FlowDouble

abbrev Heap (α : Type) := List α

namespace Heap

variable {α : Type}

def read [Inhabited α] (h : Heap α) (r : Nat) : α := h[r]?.getD default

def write (h : Heap α) (r : Nat) (x : α) : Heap α := h.set r x

def push (h : Heap α) (x : α) : Heap α := h ++ [x]

theorem writeKeepsLength (h : Heap α) (r : Nat) (x : α) : (h.write r x).length = h.length := by
  simp [write]

theorem readWritten [Inhabited α] {h : Heap α} {r : Nat} (x : α) (known : r < h.length) :
    (h.write r x).read r = x := by
  simp [read, write, known]

theorem readOther [Inhabited α] (h : Heap α) {r s : Nat} (x : α) (other : r ≠ s) :
    (h.write r x).read s = h.read s := by
  simp [read, write, other]

theorem readPushed [Inhabited α] (h : Heap α) (x : α) : (h.push x).read h.length = x := by
  simp [read, push]

theorem readBeyond [Inhabited α] {h : Heap α} {r : Nat} (beyond : h.length ≤ r) :
    h.read r = default := by
  simp [read, List.getElem?_eq_none beyond]

theorem readKept [Inhabited α] {h : Heap α} {r : Nat} (x : α) (known : r < h.length) :
    (h.push x).read r = h.read r := by
  simp [read, push, List.getElem?_append_left known]

end Heap

end FlowDouble
