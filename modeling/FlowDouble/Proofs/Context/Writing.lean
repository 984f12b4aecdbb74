import FlowDouble.Proofs.Context.Conduct
import FlowDouble.Proofs.Context.Reachable
/-! The text of a response is all that was written through any of its handles, in order. Neither what
refuses the writer nor anything else that is done takes from it or adds to it. -/
namespace FlowDouble.Context

open FlowDouble.Action

def Event.texts : Event → List String
  | wrote _ (.text s) => [s]
  | _ => []

def texts (events : List Event) : List String := events.flatMap Event.texts

theorem textsNext (events : List Event) (e : Event) :
    texts (events ++ [e]) = texts events ++ e.texts := by
  simp [texts]

def valueOf [Calls] (handle : Value) : Action Value := handle.perform "getvalue" ⟨[], []⟩

section
variable [Calls] {r n : Nat} {w w₀ w₁ : World} {events : List Event}

theorem valueOfWriter (n : Nat) (w : World) :
    valueOf (.writer n) w = .ok (.text (String.join (w.written n))) w := rfl

theorem conductWritten (conduct : Conduct r w₁ events w) (stands : Standing r n [] w₁) :
    w.written n = w₁.written n ++ texts events := by
  have unwritten {e : Event} {w w' : World} {records : List Record} {events : List Event}
      (emits : Emits r records w w') (wordless : e.texts = [])
      (before : w.written n = w₁.written n ++ texts events) :
      w'.written n = w₁.written n ++ texts (events ++ [e]) := by
    rw [textsNext, wordless, List.append_nil, ← before]
    simp only [World.written, emits.writers]
  induction conduct with
  | start => exact (List.append_nil _).symm
  | asked before op ih =>
    obtain ⟨records, emits⟩ := emitsSome (conductStands before stands) op
    exact unwritten emits rfl ih
  | seeded before fields ih =>
    exact unwritten (seedSilent r fields _ (conductStands before stands).plain) rfl ih
  | used before use calm ih =>
    have plain := (conductStands before stands).plain
    exact unwritten (use.within (silent r) Emits.ofThrough calm _ plain) rfl ih
  | @wrote events w before handle value held ih =>
    have standing := conductStands before stands
    obtain rfl := standing.handles handle held
    rw [textsNext, ← List.append_assoc, ← ih]
    cases text : value.isText with
    | false =>
      rw [leavesError (writeRefused text w)]
      cases value <;> first | exact (List.append_nil _).symm | contradiction
    | true =>
      cases value with
      | text s =>
        rw [leavesOk (writesText n s w)]
        exact Heap.readWritten _ standing.there
      | _ => contradiction
  | apart before apart ih =>
    have written := apart.written
    rw [(conductStands before stands).writer] at written
    exact written.trans ih

/-- However the writer is asked for and whatever is done around a context from its making on: there is
one writer, and its text is what was written through all handles, in order. Every text is written and its
characters are told, what is no text is refused, and nothing else changes the text. -/
theorem responseTextTellsWrites {source : Value} (plain : w₀.Plain)
    (made : create source w₀ = .ok r w₁) (conduct : Conduct r w₁ events w) :
    ∃ handle,
      perform r (.reading .writer) w = .ok handle w ∧
      (perform r .responseWriter w = .ok handle w ∨
        ∃ f, perform r .responseWriter w = .error f w) ∧
      (∀ v ∈ handles events, v = handle) ∧
      valueOf handle w = .ok (.text (String.join (texts events))) w ∧
      (∀ s, ∃ w', writeThrough handle (.text s) w = .ok (.int s.length) w' ∧
        valueOf handle w' = .ok (.text (String.join (texts events) ++ s)) w') ∧
      (∀ v, v.isText = false → ∃ f, writeThrough handle v w = .error f w) ∧
      (∀ op, ∃ w', (perform r op).leaves w = w' ∧
        valueOf handle w' = .ok (.text (String.join (texts events))) w') ∧
      (∀ fields, ∃ w', (seed r fields).leaves w = w' ∧
        valueOf handle w' = .ok (.text (String.join (texts events))) w') := by
  obtain ⟨_, _, _, _, writers⟩ := createdBlank plain made
  have stands := createdStands plain made
  have empty : w₁.written w₀.writers.length = [] := by
    simp only [World.written, writers, Heap.readPushed]
  have written {events : List Event} {w : World} (conduct : Conduct r w₁ events w) :
      w.written w₀.writers.length = texts events := by
    rw [conductWritten conduct stands, empty, List.nil_append]
  have standing := conductStands conduct stands
  have tells {w' : World} (same : w'.written w₀.writers.length = texts events) :
      valueOf (.writer w₀.writers.length) w' = .ok (.text (String.join (texts events))) w' := by
    rw [valueOfWriter, same]
  have spared {e : Event} {w' : World} (after : Conduct r w₁ (events ++ [e]) w')
      (wordless : e.texts = []) :
      valueOf (.writer w₀.writers.length) w' = .ok (.text (String.join (texts events))) w' := by
    refine tells ?_
    rw [written after, textsNext, wordless, List.append_nil]
  refine ⟨.writer w₀.writers.length, ?_, ?_, standing.handles, tells (written conduct),
    fun s => ⟨_, writesText _ s w, ?_⟩, fun v other => ⟨_, writeRefused other w⟩,
    fun op => ⟨_, rfl, spared (conduct.asked op) rfl⟩,
    fun fields => ⟨_, rfl, spared (conduct.seeded fields) rfl⟩⟩
  · have reads : perform r (.reading .writer) w = .ok (.writer (w.context r).writer) w := rfl
    rw [reads, standing.writer]
  · have asked : perform r .responseWriter w = _ := writesIfAllowed standing.plain
    rw [asked, standing.writer]
    split
    · exact .inl rfl
    · exact .inr ⟨_, rfl⟩
  · have appended : (w.setWritten w₀.writers.length (texts events ++ [s])).written
        w₀.writers.length = texts events ++ [s] := Heap.readWritten _ standing.there
    have single : String.join [s] = s := by simp
    rw [written conduct, valueOfWriter, appended, String.join_append, single]

end

theorem textsOfTwoHandles :
    ∃ events w, Conduct 0 (started {}) events w ∧
      handles events = [.writer 0, .writer 0] ∧
      perform 0 .responseWriter w = .ok (.writer 0) w ∧
      valueOf (.writer 0) w = .ok (.text "page and footer") w := by
  have asked := (Conduct.start (r := 0) (w := started {})).asked .responseWriter
  have wrote := (asked.wrote (.writer 0) (.text "page") (.head _)).asked
    (.redirectExternal (.text "/x"))
  have refused := (wrote.asked .responseWriter).wrote (.writer 0) (.int 1) (.head _)
  have again := (refused.asked (.assign .responseAllowed (.bool true))).asked .responseWriter
  have conduct := again.wrote (.writer 0) (.text " and footer") (.head _)
  obtain ⟨handle, reading, _, _, value, _⟩ :=
    responseTextTellsWrites World.emptyPlain (createStarts {}) conduct
  cases reading
  exact ⟨_, _, conduct, rfl, rfl, value⟩

end FlowDouble.Context
