import FlowDouble.Member
import FlowDouble.Proofs.Context.Emissions
import FlowDouble.Proofs.Context.History
/-! What is done around a context from its making on: it is asked and seeded, maps are used, and texts
are written through every handle of its writer that was handed out before. -/
namespace FlowDouble

open FlowDouble.Action

def Action.answer? {α : Type} (a : Action α) (w : World) : Option α :=
  match a w with
  | .ok v _ => some v
  | .error .. => none

namespace Context

inductive Event where
  | asked (op : Operation) (answer : Option Value)
  | seeded (fields : List (String × Value))
  | used (use : Use)
  | wrote (handle value : Value)

def Event.handle? : Event → Option Value
  | asked .responseWriter answer | asked (.reading .writer) answer => answer
  | _ => none

def handles (events : List Event) : List Value := events.filterMap Event.handle?

def writeThrough [Calls] (handle value : Value) : Action Value :=
  handle.perform "write" ⟨[value], []⟩

structure Bystanding (r : Nat) (w w' : World) : Prop where
  plain : w.Plain → w'.Plain
  contexts : w.contexts.length ≤ w'.contexts.length
  marks : (w'.context r).marks = (w.context r).marks
  writers : w.writers.length ≤ w'.writers.length
  written : w'.written (w.context r).writer = w.written (w.context r).writer
  trail : w'.trail = w.trail

inductive Conduct [Calls] (r : Nat) (w : World) : List Event → World → Prop where
  | start : Conduct r w [] w
  | asked {events w'} (before : Conduct r w events w') (op : Operation) :
      Conduct r w (events ++ [.asked op ((perform r op).answer? w')]) ((perform r op).leaves w')
  | seeded {events w'} (before : Conduct r w events w') (fields : List (String × Value)) :
      Conduct r w (events ++ [.seeded fields]) ((seed r fields).leaves w')
  | used {events w'} (before : Conduct r w events w') (use : Use) (calm : use.Calm (Silent r)) :
      Conduct r w (events ++ [.used use]) (use.act.leaves w')
  | wrote {events w'} (before : Conduct r w events w') (handle value : Value)
      (held : handle ∈ handles events) :
      Conduct r w (events ++ [.wrote handle value]) ((writeThrough handle value).leaves w')
  | apart {events w' w''} (before : Conduct r w events w') (apart : Bystanding r w' w'') :
      Conduct r w events w''

structure Standing (r n : Nat) (events : List Event) (w : World) : Prop where
  plain : w.Plain
  known : r < w.contexts.length
  writer : (w.context r).writer = n
  there : n < w.writers.length
  handles : ∀ handle ∈ handles events, handle = .writer n

section
variable [Calls] {r n : Nat} {w w₀ w₁ : World} {events : List Event}

theorem writesText (n : Nat) (s : String) (w : World) :
    writeThrough (.writer n) (.text s) w =
      .ok (.int s.length) (w.setWritten n (w.written n ++ [s])) := rfl

theorem writeRefused {v : Value} (other : v.isText = false) (w : World) :
    writeThrough (.writer n) v w = .error (.misuse (.notText v.kindOf)) w := by
  cases v <;> first | rfl | contradiction

theorem createdBlank {source : Value} (plain : w₀.Plain) (made : create source w₀ = .ok r w₁) :
    w₁.Plain ∧ r < w₁.contexts.length ∧ w₁.trail = w₀.trail ∧
      (w₁.context r).marks = ⟨w₀.writers.length, false, false⟩ ∧
      w₁.writers = w₀.writers.push [] := by
  obtain ⟨m, v₁, first, rest⟩ := bindInv made
  obtain ⟨requestMap, v₂, second, rest⟩ := bindInv rest
  obtain ⟨sessionMap, v₃, third, rest⟩ := bindInv rest
  obtain ⟨applicationMap, v₄, fourth, rest⟩ := bindInv rest
  have before : Silent r w₀ v₄ := by
    have h₁ : Silent r w₀ v₁ :=
      .ofOnlyParameters (leavesOk first ▸ parametersOfFills source w₀ plain)
    have plain₁ := World.plainKept h₁.attachments plain
    have h₂ := leavesOk second ▸ newAttributesSilent (r := r) false v₁ plain₁
    have plain₂ := World.plainKept h₂.attachments plain₁
    have h₃ := leavesOk third ▸ newAttributesSilent (r := r) true v₂ plain₂
    have plain₃ := World.plainKept h₃.attachments plain₂
    have h₄ := leavesOk fourth ▸ newAttributesSilent (r := r) true v₃ plain₃
    exact (silent r).trans h₁ ((silent r).trans h₂ ((silent r).trans h₃ h₄))
  have trail : v₄.trail = w₀.trail := by rw [before.trail, List.append_nil]
  clear made first second third fourth
  cases rest
  refine ⟨World.plainKept before.attachments plain, by simp [Heap.push], trail, ?_, ?_⟩
  · simp only [World.context, Heap.readPushed, marks, before.writers]
  · simp only [before.writers]

theorem createdStands {source : Value} (plain : w₀.Plain) (made : create source w₀ = .ok r w₁) :
    Standing r w₀.writers.length [] w₁ := by
  obtain ⟨plain₁, known, _, marks, writers⟩ := createdBlank plain made
  refine ⟨plain₁, known, congrArg Marks.writer marks, ?_, by simp [handles]⟩
  simp [writers, Heap.push]

omit [Calls] in
theorem handlesNext (e : Event) : handles (events ++ [e]) = handles events ++ e.handle?.toList := by
  unfold handles
  rw [List.filterMap_append]
  cases h : e.handle? <;> simp [h]

omit [Calls] in
theorem Standing.emits {records : List Record} (stands : Standing r n events w)
    (emits : Emits r records w w₁) (e : Event) (handle : ∀ v ∈ e.handle?, v = .writer n) :
    Standing r n (events ++ [e]) w₁ where
  plain := World.plainKept emits.attachments stands.plain
  known := Nat.lt_of_lt_of_le stands.known emits.contexts
  writer := (congrArg Marks.writer emits.marks).trans stands.writer
  there := emits.writers ▸ stands.there
  handles v mem := by
    rw [handlesNext] at mem
    rcases List.mem_append.mp mem with old | new
    · exact stands.handles v old
    · exact handle v (Option.mem_toList.mp new)

theorem handedOut (stands : Standing r n events w) (op : Operation) :
    ∀ v ∈ (Event.asked op ((perform r op).answer? w)).handle?, v = .writer n := by
  intro v handed
  cases op with
  | responseWriter =>
    have run : perform r .responseWriter w = _ := writesIfAllowed stands.plain
    have answer : (perform r .responseWriter).answer? w = some v := handed
    unfold Action.answer? at answer
    rw [run] at answer
    split at answer
    · rename_i same
      split at same
      · cases same
        cases answer
        rw [stands.writer]
      · contradiction
    · contradiction
  | reading g =>
    cases g with
    | writer =>
      have answer : some (Value.writer (w.context r).writer) = some v := handed
      cases answer
      rw [stands.writer]
    | _ => contradiction
  | _ => contradiction

theorem emitsSome (stands : Standing r n events w) (op : Operation) :
    ∃ records, Emits r records w ((perform r op).leaves w) := by
  have ended := performEnds r op w stands.plain stands.known
  cases h : perform r op w with
  | ok v w' =>
    rw [h] at ended
    obtain ⟨records, _, emits⟩ := ended
    exact ⟨records, leavesOk h ▸ emits⟩
  | error f w' =>
    rw [h] at ended
    exact ⟨[], leavesError h ▸ ended⟩

theorem wroteLeaves (n : Nat) (v : Value) (w : World) :
    (writeThrough (.writer n) v).leaves w = w ∨
      ∃ s, v = .text s ∧
        (writeThrough (.writer n) v).leaves w = w.setWritten n (w.written n ++ [s]) := by
  cases text : v.isText with
  | false => exact .inl (leavesError (writeRefused text w))
  | true =>
    cases v with
    | text s => exact .inr ⟨s, rfl, leavesOk (writesText n s w)⟩
    | _ => contradiction

theorem conductStands (conduct : Conduct r w₁ events w) (stands : Standing r n [] w₁) :
    Standing r n events w := by
  induction conduct with
  | start => exact stands
  | asked before op ih =>
    obtain ⟨records, emits⟩ := emitsSome ih op
    exact ih.emits emits _ (handedOut ih op)
  | seeded before fields ih => exact ih.emits (seedSilent r fields _ ih.plain) _ (by simp [Event.handle?])
  | used before use calm ih =>
    exact ih.emits (use.within (silent r) Emits.ofThrough calm _ ih.plain) _ (by simp [Event.handle?])
  | @wrote events w before handle value held ih =>
    obtain rfl := ih.handles handle held
    have handles : Context.handles (events ++ [.wrote (.writer n) value]) = Context.handles events := by
      rw [handlesNext]
      exact List.append_nil _
    rcases wroteLeaves n value w with same | ⟨s, _, written⟩
    · rw [same]
      exact ⟨ih.plain, ih.known, ih.writer, ih.there, handles ▸ ih.handles⟩
    · rw [written]
      refine ⟨ih.plain, ih.known, ih.writer, ?_, handles ▸ ih.handles⟩
      simpa [World.setWritten, Heap.writeKeepsLength] using ih.there
  | apart before apart ih =>
    exact ⟨apart.plain ih.plain, Nat.lt_of_lt_of_le ih.known apart.contexts,
      (congrArg Marks.writer apart.marks).trans ih.writer,
      Nat.lt_of_lt_of_le ih.there apart.writers, ih.handles⟩

end

end Context

end FlowDouble
