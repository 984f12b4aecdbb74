import FlowDouble.Member
import FlowDouble.Proofs.Effects
/-! A stream as a tape: the bytes behind its position and those ahead of it. Main statements: a stream
answers as its tape does, and what is only read comes out in order, each byte once. -/
namespace FlowDouble

open FlowDouble.Action

structure Tape where
  behind : List UInt8
  ahead : List UInt8
  deriving DecidableEq, Repr

namespace Tape

inductive Use where
  | read (size : Int)
  | readAll
  | write (bytes : List UInt8)
  | whole
  deriving DecidableEq, Repr

namespace Use

def name : Use → String
  | read _ | readAll => "read"
  | write _ => "write"
  | whole => "getvalue"

def arguments : Use → Arguments
  | read n => ⟨[.int n], []⟩
  | write bs => ⟨[.bytes bs], []⟩
  | readAll | whole => ⟨[], []⟩

def reads : Use → Bool
  | read _ | readAll => true
  | write _ | whole => false

end Use

def rewound (bs : List UInt8) : Tape := ⟨[], bs⟩

def wind (t : Tape) (n : Nat) : Tape := ⟨t.behind ++ t.ahead.take n, t.ahead.drop n⟩

def overwrite (t : Tape) (bs : List UInt8) : Tape := ⟨t.behind ++ bs, t.ahead.drop bs.length⟩

def sized (t : Tape) (size : Int) : Nat := if size < 0 then t.ahead.length else size.toNat

def use (t : Tape) : Use → Except Fault Value × Tape
  | .read n =>
    if countable n then (.ok (.bytes (t.ahead.take (t.sized n))), t.wind (t.sized n))
    else (.error (.misuse .hugeCount), t)
  | .readAll => (.ok (.bytes t.ahead), t.wind t.ahead.length)
  | .write bs => (.ok (.int bs.length), t.overwrite bs)
  | .whole => (.ok (.bytes (t.behind ++ t.ahead)), t)

def answers (t : Tape) : List Use → List (Except Fault Value)
  | [] => []
  | u :: us => (t.use u).1 :: (t.use u).2.answers us

end Tape

def bytesTold : Except Fault Value → List UInt8
  | .ok (.bytes bs) => bs
  | _ => []

namespace Tape

variable (t : Tape)

theorem readsAhead {u : Use} (reads : u.reads = true) :
    bytesTold (t.use u).1 ++ (t.use u).2.ahead = t.ahead := by
  cases u with
  | read n =>
    simp only [use]
    split
    · exact List.take_append_drop _ _
    · rfl
  | readAll => simp [use, wind, bytesTold]
  | write bs => contradiction
  | whole => contradiction

theorem readsJoined {us : List Use} (reads : ∀ u ∈ us, u.reads = true) :
    (t.answers (us ++ [.readAll])).flatMap bytesTold = t.ahead := by
  induction us generalizing t with
  | nil => exact List.append_nil _
  | cons u us ih =>
    have rest := ih (t.use u).2 fun v mem => reads v (List.mem_cons_of_mem u mem)
    rw [List.cons_append, answers, List.flatMap_cons, rest]
    exact t.readsAhead (reads u List.mem_cons_self)

end Tape

namespace Stream

structure Shown (s : Stream) (t : Tape) : Prop where
  content : s.content = t.behind ++ t.ahead
  position : s.position = t.behind.length

variable {s : Stream} {t : Tape}

theorem Shown.ahead (shown : s.Shown t) : s.content.drop s.position = t.ahead := by
  rw [shown.content, shown.position, List.drop_left]

theorem Shown.read (shown : s.Shown t) (n : Nat) :
    (s.read (some n)).1 = t.ahead.take n ∧ (s.read (some n)).2.Shown (t.wind n) := by
  have taken : (s.read (some n)).1 = t.ahead.take n := congrArg (List.take n) shown.ahead
  refine ⟨taken, ?_, ?_⟩
  · show s.content = t.behind ++ t.ahead.take n ++ t.ahead.drop n
    rw [List.append_assoc, List.take_append_drop, shown.content]
  · show s.position + (s.read (some n)).1.length = (t.behind ++ t.ahead.take n).length
    rw [taken, shown.position, List.length_append]

theorem readRest (s : Stream) : s.read none = s.read (some (s.content.drop s.position).length) := by
  simp only [Stream.read, List.take_length]

theorem Shown.readAll (shown : s.Shown t) :
    (s.read none).1 = t.ahead ∧ (s.read none).2.Shown (t.wind t.ahead.length) := by
  rw [readRest, shown.ahead]
  obtain ⟨taken, left⟩ := shown.read t.ahead.length
  exact ⟨taken.trans List.take_length, left⟩

theorem Shown.readSized (shown : s.Shown t) (size : Int) :
    let asked := if size < 0 then none else some size.toNat
    (s.read asked).1 = t.ahead.take (t.sized size) ∧
      (s.read asked).2.Shown (t.wind (t.sized size)) := by
  unfold Tape.sized
  by_cases below : size < 0
  · rw [if_pos below, if_pos below, List.take_length]
    exact shown.readAll
  · rw [if_neg below, if_neg below]
    exact shown.read size.toNat

theorem Shown.write (shown : s.Shown t) (bs : List UInt8) : (s.write bs).Shown (t.overwrite bs) := by
  have behind : s.content.take s.position = t.behind := by
    rw [shown.content, shown.position, List.take_left]
  have beyond : s.content.drop (s.position + bs.length) = t.ahead.drop bs.length := by
    rw [← List.drop_drop, shown.ahead]
  refine ⟨?_, ?_⟩
  · show s.content.take s.position ++ bs ++ s.content.drop (s.position + bs.length) = _
    rw [behind, beyond]
    rfl
  · show s.position + bs.length = (t.behind ++ bs).length
    rw [shown.position, List.length_append]

end Stream

theorem World.setStreamSame (w : World) (r : Nat) : w.setStream r (w.stream r) = w := by
  have same : w.streams.write r (w.streams.read r) = w.streams := by
    by_cases known : r < w.streams.length
    · simp [Heap.write, Heap.read, known]
    · exact List.set_eq_of_length_le (Nat.le_of_not_lt known)
  unfold setStream stream
  rw [same]

namespace Tape

def Use.of [Calls] (u : Use) (v : Value) : Action Value := v.call u.name u.arguments

inductive Answered (t : Tape) (u : Use) (r : Nat) (w : World) :
    EStateM.Result Fault World Value → Prop where
  | told {v s} (same : (t.use u).1 = .ok v) (left : s.Shown (t.use u).2) :
      Answered t u r w (.ok v (w.setStream r s))
  | refused {f} (same : t.use u = (.error f, t)) : Answered t u r w (.error f w)

theorem useRest (t : Tape) : t.use .readAll = t.use (.read (-1)) := by
  have counts : countable (-1) = true := by decide
  have all : t.sized (-1) = t.ahead.length := if_pos (by decide)
  simp only [use, if_pos counts, all, List.take_length]

section
variable {t : Tape} {u : Use} {r : Nat} {w : World} (shown : (w.stream r).Shown t)
include shown

theorem readAnswered (n : Int) : t.Answered (.read n) r w (Stream.readFrom r (.int n) w) := by
  by_cases counts : countable n = true
  · let asked := if n < 0 then none else some n.toNat
    have counted : Stream.count (.int n) = .ok asked := if_pos counts
    have ended : Stream.readFrom r (.int n) w = .ok (.bytes ((w.stream r).read asked).1)
        (w.setStream r ((w.stream r).read asked).2) := by
      unfold Stream.readFrom
      rw [counted]
      rfl
    obtain ⟨taken, left⟩ := shown.readSized n
    rw [ended, taken]
    refine .told ?_ ?_
    · simp only [use, if_pos counts]
    · simpa only [use, if_pos counts] using left
  · have counted : Stream.count (.int n) = .error (.misuse .hugeCount) := if_neg counts
    have ended : Stream.readFrom r (.int n) w = .error (.misuse .hugeCount) w := by
      unfold Stream.readFrom
      rw [counted]
      rfl
    rw [ended]
    exact .refused (if_neg counts)

theorem restAnswered : t.Answered .readAll r w (Stream.readFrom r (.int (-1)) w) := by
  have rest := readAnswered shown (-1)
  generalize Stream.readFrom r (.int (-1)) w = x at rest ⊢
  cases rest with
  | told same left => exact .told (t.useRest ▸ same) (t.useRest ▸ left)
  | refused same => exact .refused (t.useRest ▸ same)

theorem wholeAnswered : t.Answered .whole r w (.ok (.bytes (w.stream r).content) w) := by
  have done : t.Answered .whole r w (.ok _ (w.setStream r (w.stream r))) := .told rfl shown
  rwa [w.setStreamSame, ← shown.content] at done

theorem useAnswered [Calls] (unhidden : ∀ name, w.attachment? (.stream r) name = none) (u : Use) :
    t.Answered u r w (u.of (.stream r) w) := by
  have own : u.of (.stream r) w = (Value.stream r).applyOperation u.name u.arguments w := by
    cases u <;> exact Value.answerUnhidden (unhidden _) _ _
  rw [own]
  cases u with
  | read n => exact readAnswered shown n
  | readAll => exact restAnswered shown
  | write bs => exact .told rfl (shown.write bs)
  | whole => exact wholeAnswered shown

end

end Tape

end FlowDouble
