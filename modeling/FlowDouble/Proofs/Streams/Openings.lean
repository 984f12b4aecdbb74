import Mathlib.Logic.Function.Basic
import FlowDouble.Invocation
import FlowDouble.Proofs.Streams.Tape
/-! An uploaded file and the streams opened over it, used in any order. Main statement: the file shows
its content and every new stream holds all of it, whatever was done before, and each stream answers as
if it were the only one. -/
namespace FlowDouble.Upload

open FlowDouble.Action Tape

inductive Turn where
  | opens
  | uses (place : Nat) (use : Use)
  deriving DecidableEq, Repr

namespace Turn

def openings : Turn → Nat
  | opens => 1
  | uses .. => 0

def own (place opened : Nat) : Turn → List Use
  | opens => []
  | uses p u => if p = place ∧ p < opened then [u] else []

theorem openingsCounted (t : Turn) (turns : List Turn) :
    (t :: turns).count opens = t.openings + turns.count opens := by
  cases t with
  | opens => rw [List.count_cons_self, openings, Nat.add_comm]
  | uses place u =>
    have other : uses place u ≠ opens := nofun
    rw [List.count_cons_of_ne other, openings, Nat.zero_add]

end Turn

def ownUses (place : Nat) : Nat → List Turn → List Use
  | _, [] => []
  | opened, t :: turns => t.own place opened ++ ownUses place (opened + t.openings) turns

structure Desk where
  world : World
  opened : List Value := []

namespace Desk

variable [Calls]

def take (file : Value) (d : Desk) : Turn → Option (Nat × Except Fault Value) × Desk
  | .opens =>
    match file.call "open" ⟨[], []⟩ d.world with
    | .ok v w => (none, ⟨w, d.opened ++ [v]⟩)
    | .error _ w => (none, ⟨w, d.opened⟩)
  | .uses place u =>
    match d.opened[place]? with
    | none => (none, d)
    | some v =>
      match u.of v d.world with
      | .ok x w => (some (place, .ok x), ⟨w, d.opened⟩)
      | .error f w => (some (place, .error f), ⟨w, d.opened⟩)

def takeAll (file : Value) (d : Desk) : List Turn → List (Nat × Except Fault Value) × Desk
  | [] => ([], d)
  | t :: turns =>
    let (answer, d) := d.take file t
    let (answers, d) := d.takeAll file turns
    (answer.toList ++ answers, d)

end Desk

def answersAt (place : Nat) (answers : List (Nat × Except Fault Value)) : List (Except Fault Value) :=
  answers.filterMap fun a => if a.1 = place then some a.2 else none

theorem answersAtOne (place p : Nat) (x : Except Fault Value) :
    answersAt place [(p, x)] = if p = place then [x] else [] := by
  by_cases here : p = place <;> simp [answersAt, here]

theorem answersAtAppend (place : Nat) (as bs : List (Nat × Except Fault Value)) :
    answersAt place (as ++ bs) = answersAt place as ++ answersAt place bs := List.filterMap_append

structure Unhidden (file : Value) (w : World) : Prop where
  file : ∀ name, w.attachment? file name = none
  streams : ∀ r name, w.streams.length ≤ r → w.attachment? (.stream r) name = none

structure Tells [Calls] (file : Value) (bs : List UInt8) (w : World) : Prop where
  content : file.getMember "content" w = .ok (.bytes bs) w
  size : file.getMember "size" w = .ok (.int bs.length) w
  isEmpty : file.call "is_empty" ⟨[], []⟩ w = .ok (.bool bs.isEmpty) w
  getBytes : file.call "get_bytes" ⟨[], []⟩ w = .ok (.bytes bs) w

def Holds (file : Value) (bs : List UInt8) : Prop :=
  ∃ tag name original type, file = .upload tag name (.bytes bs) original type

section
variable [Calls] {file : Value} {bs : List UInt8} {w : World}

theorem Holds.tells (holds : Holds file bs) (unhidden : ∀ name, w.attachment? file name = none) :
    Tells file bs w := by
  obtain ⟨tag, name, original, type, rfl⟩ := holds
  refine ⟨rfl, ?_, ?_, Value.answerUnhidden (unhidden _) _ _⟩
  · show EStateM.Result.ok (Value.int (Value.numbers bs).length) w = _
    rw [Value.numbers, List.length_map]
  · refine (Value.answerUnhidden (unhidden _) _ _).trans ?_
    show EStateM.Result.ok (Value.bool !!bs.isEmpty) w = _
    rw [Bool.not_not]

theorem Holds.opens (holds : Holds file bs) (unhidden : ∀ name, w.attachment? file name = none) :
    file.call "open" ⟨[], []⟩ w =
      .ok (.stream w.streams.length) { w with streams := w.streams.push ⟨bs, 0⟩ } := by
  obtain ⟨tag, name, original, type, rfl⟩ := holds
  exact Value.answerUnhidden (unhidden _) _ _

end

/-- How a desk stands to the world it began in: each opened stream is shown by a tape of its own, and
all else is as it was. Places that are still free have all of the content ahead. -/
structure Laid (bs : List UInt8) (w₀ : World) (tapes : Nat → Tape) (d : Desk) : Prop where
  rest : d.world = { w₀ with streams := d.world.streams }
  grown : d.world.streams.length = w₀.streams.length + d.opened.length
  older : ∀ r < w₀.streams.length, d.world.stream r = w₀.stream r
  opened : ∀ place < d.opened.length,
    d.opened[place]? = some (.stream (w₀.streams.length + place))
  shown : ∀ place < d.opened.length,
    (d.world.stream (w₀.streams.length + place)).Shown (tapes place)
  free : ∀ place, d.opened.length ≤ place → tapes place = .rewound bs

namespace Laid

variable {bs : List UInt8} {w₀ : World} {tapes : Nat → Tape} {d : Desk} {place : Nat}

theorem start (bs : List UInt8) (w₀ : World) : Laid bs w₀ (fun _ => .rewound bs) ⟨w₀, []⟩ where
  rest := rfl
  grown := rfl
  older _ _ := rfl
  opened _ none := absurd none (Nat.not_lt_zero _)
  shown _ none := absurd none (Nat.not_lt_zero _)
  free _ _ := rfl

theorem attachment (laid : Laid bs w₀ tapes d) (v : Value) (name : String) :
    d.world.attachment? v name = w₀.attachment? v name := by
  rw [laid.rest]
  rfl

theorem unhidden {file : Value} (laid : Laid bs w₀ tapes d) (unhidden : Unhidden file w₀) :
    Unhidden file d.world where
  file name := (laid.attachment _ name).trans (unhidden.file name)
  streams r name beyond := by
    have grown := laid.grown
    exact (laid.attachment _ name).trans (unhidden.streams r name (by omega))

theorem fresh (laid : Laid bs w₀ tapes d) : Value.stream d.world.streams.length ∉ d.opened := by
  intro there
  obtain ⟨place, known, same⟩ := List.mem_iff_getElem.mp there
  have stream := laid.opened place known
  rw [List.getElem?_eq_getElem known, same] at stream
  have grown := laid.grown
  injection stream with stream
  injection stream with stream
  omega

theorem pushed (laid : Laid bs w₀ tapes d) :
    Laid bs w₀ tapes ⟨{ d.world with streams := d.world.streams.push ⟨bs, 0⟩ },
      d.opened ++ [.stream d.world.streams.length]⟩ := by
  have grown := laid.grown
  have count : (d.opened ++ [Value.stream d.world.streams.length]).length = d.opened.length + 1 :=
    List.length_append
  refine ⟨?_, ?_, fun r old => ?_, fun place known => ?_, fun place known => ?_,
    fun place beyond => ?_⟩
  · exact congrArg (fun w : World => { w with streams := d.world.streams.push ⟨bs, 0⟩ }) laid.rest
  · simp only [Heap.push, List.length_append, List.length_singleton]
    omega
  · exact (Heap.readKept _ (by omega)).trans (laid.older r old)
  · rw [count] at known
    rcases Nat.lt_succ_iff_lt_or_eq.mp known with old | rfl
    · rw [List.getElem?_append_left old]
      exact laid.opened place old
    · rw [List.getElem?_concat_length, grown]
  · show ((d.world.streams.push ⟨bs, 0⟩).read (w₀.streams.length + place)).Shown (tapes place)
    rw [count] at known
    rcases Nat.lt_succ_iff_lt_or_eq.mp known with old | rfl
    · rw [Heap.readKept _ (by omega)]
      exact laid.shown place old
    · rw [← grown, Heap.readPushed, laid.free _ (Nat.le_refl _)]
      exact ⟨rfl, rfl⟩
  · rw [count] at beyond
    exact laid.free place (by omega)

theorem replaced (laid : Laid bs w₀ tapes d) (known : place < d.opened.length) {s : Stream} {t : Tape}
    (shown : s.Shown t) :
    Laid bs w₀ (Function.update tapes place t)
      ⟨d.world.setStream (w₀.streams.length + place) s, d.opened⟩ := by
  have grown := laid.grown
  refine ⟨?_, ?_, fun r old => ?_, laid.opened, fun p opened => ?_, fun p beyond => ?_⟩
  · exact congrArg (fun w : World => w.setStream (w₀.streams.length + place) s) laid.rest
  · exact (Heap.writeKeepsLength _ _ _).trans grown
  · exact (Heap.readOther _ _ (by omega)).trans (laid.older r old)
  · show ((d.world.streams.write (w₀.streams.length + place) s).read _).Shown _
    by_cases here : p = place
    · subst here
      rw [Function.update_self, Heap.readWritten _ (by omega)]
      exact shown
    · rw [Function.update_of_ne here, Heap.readOther _ _ (by omega)]
      exact laid.shown p opened
  · rw [Function.update_of_ne (Nat.ne_of_gt (Nat.lt_of_lt_of_le known beyond))]
    exact laid.free p beyond

section
variable [Calls] {file : Value} (laid : Laid bs w₀ tapes d) (holds : Holds file bs)
  (unhidden : Unhidden file w₀)
include laid unhidden

include holds in
theorem opens :
    d.take file .opens = (none, ⟨{ d.world with streams := d.world.streams.push ⟨bs, 0⟩ },
      d.opened ++ [.stream d.world.streams.length]⟩) := by
  simp only [Desk.take, holds.opens (laid.unhidden unhidden).file]

theorem uses (known : place < d.opened.length) (u : Use) :
    ∃ w, d.take file (.uses place u) = (some (place, ((tapes place).use u).1), ⟨w, d.opened⟩) ∧
      Laid bs w₀ (Function.update tapes place ((tapes place).use u).2) ⟨w, d.opened⟩ := by
  have bare (name : String) :
      d.world.attachment? (.stream (w₀.streams.length + place)) name = none :=
    (laid.attachment _ name).trans (unhidden.streams _ name (Nat.le_add_right _ _))
  have answered := useAnswered (laid.shown place known) bare u
  simp only [Desk.take, laid.opened place known]
  generalize u.of (.stream (w₀.streams.length + place)) d.world = x at answered ⊢
  cases answered with
  | told same left => exact ⟨_, by rw [same], laid.replaced known left⟩
  | refused same =>
    refine ⟨d.world, by rw [same], ?_⟩
    rw [same, Function.update_eq_self]
    exact laid

include holds in
theorem step (t : Turn) :
    ∃ tapes', Laid bs w₀ tapes' (d.take file t).2 ∧
      (d.take file t).2.opened.length = d.opened.length + t.openings ∧
      ∀ place us, answersAt place (d.take file t).1.toList ++ (tapes' place).answers us =
        (tapes place).answers (t.own place d.opened.length ++ us) := by
  cases t with
  | opens =>
    rw [laid.opens holds unhidden]
    exact ⟨tapes, laid.pushed, List.length_append, fun _ _ => rfl⟩
  | uses p u =>
    by_cases known : p < d.opened.length
    · obtain ⟨w, taken, left⟩ := laid.uses unhidden known u
      rw [taken]
      refine ⟨_, left, rfl, fun place us => ?_⟩
      by_cases here : p = place
      · subst here
        have own : Turn.own p d.opened.length (.uses p u) = [u] := if_pos ⟨rfl, known⟩
        rw [own, Function.update_self, Option.toList_some, answersAtOne, if_pos rfl]
        rfl
      · have own : Turn.own place d.opened.length (.uses p u) = [] := if_neg fun h => here h.1
        rw [own, Function.update_of_ne (Ne.symm here), Option.toList_some, answersAtOne, if_neg here]
        rfl
    · have taken : d.take file (.uses p u) = (none, d) := by
        simp only [Desk.take, List.getElem?_eq_none (Nat.le_of_not_lt known)]
      rw [taken]
      refine ⟨tapes, laid, rfl, fun place us => ?_⟩
      have own : Turn.own place d.opened.length (.uses p u) = [] := if_neg fun h => known h.2
      rw [own]
      rfl

include holds in
theorem run (turns : List Turn) :
    ∃ tapes', Laid bs w₀ tapes' (d.takeAll file turns).2 ∧
      (d.takeAll file turns).2.opened.length = d.opened.length + turns.count .opens ∧
      ∀ place, answersAt place (d.takeAll file turns).1 =
        (tapes place).answers (ownUses place d.opened.length turns) := by
  induction turns generalizing tapes d with
  | nil => exact ⟨tapes, laid, rfl, fun _ => rfl⟩
  | cons t turns ih =>
    obtain ⟨tapes₁, laid₁, count₁, first⟩ := laid.step holds unhidden t
    obtain ⟨tapes₂, laid₂, count₂, rest⟩ := ih laid₁
    refine ⟨tapes₂, laid₂, ?_, fun place => ?_⟩
    · rw [Desk.takeAll, count₂, count₁, t.openingsCounted, Nat.add_assoc]
    · rw [Desk.takeAll, answersAtAppend, rest, count₁, ownUses]
      exact first place _

end

end Laid

theorem ownUsesLast (place opened : Nat) (turns : List Turn) (u : Use)
    (known : place < opened + turns.count .opens) :
    ownUses place opened (turns ++ [.uses place u]) = ownUses place opened turns ++ [u] := by
  induction turns generalizing opened with
  | nil => exact congrArg (· ++ []) (if_pos ⟨rfl, known⟩)
  | cons t turns ih =>
    have later : place < opened + t.openings + turns.count .opens := by
      rwa [t.openingsCounted, ← Nat.add_assoc] at known
    rw [List.cons_append, ownUses, ownUses, ih _ later, List.append_assoc]

/-- Whatever is done with a file and the streams opened over it, in whatever order: the file tells its
content, and nothing else is changed; every opening yields a stream, and the next one is new and stands
at the start of all the content; each stream answers its own uses as a tape of its own would; and what is
read of one that is only read is, with the rest of it, all of the content in order. -/
theorem openedStreamsKeepApart [Calls] {tag : Nat} {name original type : Value} {bs : List UInt8}
    {w : World} (unhidden : Unhidden (.upload tag name (.bytes bs) original type) w)
    (turns : List Turn) :
    let file : Value := .upload tag name (.bytes bs) original type
    let run (turns : List Turn) := Desk.takeAll file ⟨w, []⟩ turns
    let desk := (run turns).2
    Tells file bs desk.world ∧
    (desk.world = { w with streams := desk.world.streams } ∧
      ∀ r < w.streams.length, desk.world.stream r = w.stream r) ∧
    desk.opened.length = turns.count .opens ∧
    (∃ r w', file.call "open" ⟨[], []⟩ desk.world = .ok (.stream r) w' ∧
      w'.stream r = ⟨bs, 0⟩ ∧ .stream r ∉ desk.opened) ∧
    (∀ place, answersAt place (run turns).1 = (Tape.rewound bs).answers (ownUses place 0 turns)) ∧
    ∀ place < turns.count .opens, (∀ u ∈ ownUses place 0 turns, u.reads = true) →
      (answersAt place (run (turns ++ [.uses place .readAll])).1).flatMap bytesTold = bs := by
  intro file run desk
  have holds : Holds file bs := ⟨tag, name, original, type, rfl⟩
  have start := Laid.start bs w
  obtain ⟨tapes, laid, count, answers⟩ := start.run holds unhidden turns
  have bare := (laid.unhidden unhidden).file
  have counted : desk.opened.length = turns.count .opens := count.trans (Nat.zero_add _)
  refine ⟨holds.tells bare, ⟨laid.rest, laid.older⟩, counted, ?_, answers, ?_⟩
  · refine ⟨_, _, holds.opens bare, ?_, laid.fresh⟩
    exact Heap.readPushed desk.world.streams ⟨bs, 0⟩
  · intro place opened reads
    obtain ⟨_, _, _, answers⟩ := start.run holds unhidden (turns ++ [.uses place .readAll])
    rw [answers, List.length_nil, ownUsesLast place 0 turns _ ((Nat.zero_add _).symm ▸ opened)]
    exact Tape.readsJoined _ reads

theorem refusedSizeLosesNothing :
    let file : Value := .upload 0 (.text "file") (.bytes [1, 2, 3]) (.text "") .null
    let turns : List Turn := [.opens, .uses 0 (.read 2), .opens, .uses 1 (.write [9]),
      .uses 0 (.read (twoTo 63)), .uses 1 (.read 1), .uses 1 .whole]
    ∃ w : World, w.attachment? (.stream 0) "read" = some .null ∧ Unhidden file w ∧
      0 < turns.count .opens ∧ (∀ u ∈ ownUses 0 0 turns, u.reads = true) ∧
      (answersAt 0 (Desk.takeAll file ⟨w, []⟩ (turns ++ [.uses 0 .readAll])).1).flatMap bytesTold =
        [1, 2, 3] ∧
      (answersAt 1 (Desk.takeAll file ⟨w, []⟩ turns).1).map bytesTold = [[], [2], [9, 2, 3]] := by
  intro file turns
  let w : World := {
    streams := [⟨[7], 1⟩]
    attachments := [⟨.stream 0, "read", .null⟩]
    tags := 1 }
  have unhidden : Unhidden file w := by
    refine ⟨fun _ => rfl, fun r name beyond => ?_⟩
    obtain ⟨n, rfl⟩ := Nat.exists_eq_add_of_le' beyond
    rfl
  obtain ⟨_, _, _, _, answers, joined⟩ := openedStreamsKeepApart unhidden turns
  refine ⟨w, rfl, unhidden, by decide, by decide, joined 0 (by decide) (by decide), ?_⟩
  rw [answers 1]
  decide

end FlowDouble.Upload
