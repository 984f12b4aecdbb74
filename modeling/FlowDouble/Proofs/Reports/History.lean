import FlowDouble.Member
import FlowDouble.Proofs.Reports.Making
/-! What a failure that explains itself holds through its history: what it was made with, and the hints
and notes added since. Hints and notes are handed out as copies, so whatever becomes of those, they stay.
Its text tells all of it. -/
namespace FlowDouble

open FlowDouble.Action

theorem World.Holds.changed {w : World} {r d : Nat} {told : Report} (holds : w.Holds r d told)
    {f : Report → Report}
    (metadata : (f told).metadata = told.metadata) : ∃ w', Raised.change r f w = .ok () w' ∧
      w'.Holds r d (f told) ∧ w'.dictionaries = w.dictionaries ∧ w'.reach = w.reach := by
  obtain ⟨arguments, held⟩ := holds.held
  let w' := w.setError r (.report (f told) (.dictionary d) arguments)
  have run : Raised.change r f w = .ok () w' :=
    congrArg (EStateM.Result.ok ()) (by beta_reduce; rw [held])
  refine ⟨w', run, ⟨⟨arguments, Heap.readWritten _ holds.error⟩, ?_, ?_, holds.dictionary⟩, rfl, rfl⟩
  · exact holds.metadata.trans metadata.symm
  · exact Nat.lt_of_lt_of_eq holds.error (Heap.writeKeepsLength _ _ _).symm

section
variable [Calls] {k : Kind} {w : World} {r d : Nat} {told : Report}

theorem Raised.methodsOwn (explains : k.under .flowError = true) (name : String) :
    (Value.error k r).method? name = method? (.error k r) r name := if_pos explains

theorem Raised.addSuggestion (explains : k.under .flowError = true) (hint : Value) :
    (Value.error k r).perform "add_suggestion" ⟨[hint], []⟩ = (do
      change r (·.suggest hint)
      return .error k r) := by
  unfold Value.perform
  rw [Raised.methodsOwn explains]
  rfl

theorem Raised.addNote (explains : k.under .flowError = true) (key : String) (v : Value) :
    (Value.error k r).perform "add_debug_info" ⟨[.text key, v], []⟩ = (do
      change r (·.note (.text key) v)
      return .error k r) := by
  unfold Value.perform
  rw [Raised.methodsOwn explains]
  rfl

theorem World.Holds.handsOut (holds : w.Holds r d told) {member : String} {w' : World} {v : Value}
    (listed : member ∈ ["suggestions", "debug_info"])
    (read : Raised.readReport? told (.dictionary d) member w = .ok (some v) w') :
    (Value.error k r).getMember member w = .ok v w' := by
  obtain ⟨arguments, held⟩ := holds.held
  have carried : (Value.error k r).carried? member w = Raised.read? r member w := rfl
  have own : Raised.read? r member w = Raised.readReport? told (.dictionary d) member w := by
    rw [Raised.read?, worldBind, held]
    rcases List.mem_pair.mp listed with rfl | rfl <;> rfl
  exact bindOk (carried.trans (own.trans read))

end

structure World.Aloof (r : Nat) (w w' : World) : Prop where
  error : w'.error r = w.error r
  metadata : ∀ told d arguments, w.error r = .report told (.dictionary d) arguments →
    w'.dictionary d = w.dictionary d
  errors : w.errors.length ≤ w'.errors.length
  dictionaries : w.dictionaries.length ≤ w'.dictionaries.length
  reach : w'.reach = w.reach

/-- A failure that was made to explain itself, with all its hints and notes in the order they were given,
and with the lists of hints and the tables of notes that were handed out and could be changed at will.
References are followed far enough to tell what it holds. -/
inductive Explains [Calls] (k : Kind) (r : Nat) (told : Report) : World → List String →
    List (String × Value) → List Nat → List Nat → Prop where
  | made {a w w' metadata arguments hints notes} (explains : k.under .flowError = true)
      (deep : 1 < w.reach) (made : Kind.make k a w = .ok (.error k r) w')
      (held : w'.error r = .report told metadata arguments)
      (hinted : told.suggestions = hints.map .text) (noted : told.debug = namedEntries notes) :
      Explains k r told w' hints notes [] []
  | hinted {w w' hints notes lists tables x hint} (before : Explains k r told w hints notes lists tables)
      (done : (Value.error k r).perform "add_suggestion" ⟨[.text hint], []⟩ w = .ok x w') :
      Explains k r told w' (hints ++ [hint]) notes lists tables
  | noted {w w' hints notes lists tables x name v}
      (before : Explains k r told w hints notes lists tables)
      (done : (Value.error k r).perform "add_debug_info" ⟨[.text name, v], []⟩ w = .ok x w') :
      Explains k r told w' hints (notes ++ [(name, v)]) lists tables
  | listed {w w' hints notes lists tables l} (before : Explains k r told w hints notes lists tables)
      (done : (Value.error k r).getMember "suggestions" w = .ok (.list l) w') :
      Explains k r told w' hints notes (l :: lists) tables
  | tabled {w w' hints notes lists tables t} (before : Explains k r told w hints notes lists tables)
      (done : (Value.error k r).getMember "debug_info" w = .ok (.dictionary t) w') :
      Explains k r told w' hints notes lists (t :: tables)
  | listChanged {w hints notes lists tables l} (before : Explains k r told w hints notes lists tables)
      (out : l ∈ lists) (vs : List Value) : Explains k r told (w.setList l vs) hints notes lists tables
  | tableChanged {w hints notes lists tables t} (before : Explains k r told w hints notes lists tables)
      (out : t ∈ tables) (es : Entries) :
      Explains k r told (w.setDictionary t es) hints notes lists tables
  | elsewhere {w w' hints notes lists tables} (before : Explains k r told w hints notes lists tables)
      (aloof : World.Aloof r w w') : Explains k r told w' hints notes lists tables

def Report.grown (told : Report) (hints : List String) (notes : List (String × Value)) : Report :=
  { told with suggestions := hints.map .text, debug := namedEntries (gathered notes) }

structure World.Keeps (w : World) (k : Kind) (r d : Nat) (told : Report) (hints : List String)
    (notes : List (String × Value)) (tables : List Nat) : Prop where
  explains : k.under .flowError = true
  kind : told.diagnosis.kind = k
  metadata : Snapshot.Keys told.metadata
  holds : w.Holds r d (told.grown hints notes)
  apart : ∀ t ∈ tables, t ≠ d
  deep : 1 < w.reach

section
variable {k : Kind} {r d : Nat} {told : Report} {w w' : World} {hints : List String}
  {notes : List (String × Value)} {lists tables : List Nat}

theorem World.Keeps.aloof (keeps : w.Keeps k r d told hints notes tables) (aloof : World.Aloof r w w') :
    w'.Keeps k r d told hints notes tables := by
  obtain ⟨arguments, held⟩ := keeps.holds.held
  exact {
    keeps with
    holds := {
      held := ⟨arguments, aloof.error.trans held⟩
      metadata := (aloof.metadata _ d arguments held).trans keeps.holds.metadata
      error := Nat.lt_of_lt_of_le keeps.holds.error aloof.errors
      dictionary := Nat.lt_of_lt_of_le keeps.holds.dictionary aloof.dictionaries }
    deep := Nat.lt_of_lt_of_eq keeps.deep aloof.reach.symm }

theorem World.Keeps.grown (keeps : w.Keeps k r d told hints notes tables) {f : Report → Report}
    {hints' : List String} {notes' : List (String × Value)}
    (grows : f (told.grown hints notes) = told.grown hints' notes')
    (done : Raised.change r f w = .ok () w') : w'.Keeps k r d told hints' notes' tables := by
  have metadata : (f (told.grown hints notes)).metadata = (told.grown hints notes).metadata := by
    rw [grows]
    rfl
  obtain ⟨u, run, holds, dictionaries, reach⟩ := keeps.holds.changed metadata
  cases run.symm.trans done
  exact { keeps with holds := grows ▸ holds, deep := Nat.lt_of_lt_of_eq keeps.deep reach.symm }

theorem World.Keeps.aloofOf (keeps : w.Keeps k r d told hints notes tables)
    (errors : w'.errors = w.errors) (metadata : w'.dictionary d = w.dictionary d)
    (dictionaries : w.dictionaries.length ≤ w'.dictionaries.length) (reach : w'.reach = w.reach) :
    World.Aloof r w w' := by
  have same : w'.error r = w.error r := congrArg (Heap.read · r) errors
  refine ⟨same, fun told' d' arguments held => ?_, by rw [errors], dictionaries, reach⟩
  obtain ⟨_, own⟩ := keeps.holds.held
  cases own.symm.trans held
  exact metadata

theorem World.Keeps.handedOut {t : Nat} (keeps : w.Keeps k r d told hints notes tables) (apart : t ≠ d) :
    w.Keeps k r d told hints notes (t :: tables) :=
  { keeps with apart := List.forall_mem_cons.mpr ⟨apart, keeps.apart⟩ }

theorem namedInjective {notes' : List (String × Value)}
    (same : namedEntries notes = namedEntries notes') : notes = notes' := by
  refine List.map_injective_iff.mpr (fun a b same => ?_) same
  obtain ⟨name, value⟩ := Prod.mk.inj same
  exact Prod.ext (Value.text.inj name) value

theorem Report.grownMade (worded : told.Worded) (hinted : told.suggestions = hints.map .text)
    (noted : told.debug = namedEntries notes) : told.grown hints notes = told := by
  obtain ⟨own, same, distinct⟩ := worded.debug
  obtain rfl := namedInjective (noted.symm.trans same)
  unfold Report.grown
  rw [gatheredDistinct distinct, ← hinted, ← noted]
  cases told
  rfl

theorem Report.grownHint (hint : String) :
    (told.grown hints notes).suggest (.text hint) = told.grown (hints ++ [hint]) notes := by
  simp [Report.suggest, Report.grown]

theorem Report.grownNote (name : String) (v : Value) :
    (told.grown hints notes).note (.text name) v = told.grown hints (notes ++ [(name, v)]) := by
  simp [Report.note, Report.grown, gatheredSnoc]

variable [Calls]

theorem explainsKeeps (history : Explains k r told w hints notes lists tables) :
    ∃ d, w.Keeps k r d told hints notes tables := by
  induction history with
  | made explains deep made held hinted noted =>
    obtain ⟨report, same, kind, worded, holds, reach⟩ := Kind.madeHolds explains made
    obtain ⟨_, rfl⟩ := Value.error.inj same
    obtain ⟨_, own⟩ := holds.held
    cases own.symm.trans held
    rw [← Report.grownMade worded hinted noted] at holds
    exact ⟨_, explains, kind, worded.metadata, holds, List.forall_mem_nil _,
      Nat.lt_of_lt_of_eq deep reach.symm⟩
  | hinted before done ih =>
    obtain ⟨d, keeps⟩ := ih
    rw [Raised.addSuggestion keeps.explains] at done
    obtain ⟨_, u, changed, done⟩ := bindInv done
    cases done
    exact ⟨d, keeps.grown (Report.grownHint _) changed⟩
  | noted before done ih =>
    obtain ⟨d, keeps⟩ := ih
    rw [Raised.addNote keeps.explains] at done
    obtain ⟨_, u, changed, done⟩ := bindInv done
    cases done
    exact ⟨d, keeps.grown (Report.grownNote _ _) changed⟩
  | listed before done ih =>
    obtain ⟨d, keeps⟩ := ih
    cases (keeps.holds.handsOut (by decide) rfl).symm.trans done
    exact ⟨d, keeps.aloof (keeps.aloofOf rfl rfl le_rfl rfl)⟩
  | @tabled _ _ hints notes _ _ _ before done ih =>
    obtain ⟨d, keeps⟩ := ih
    cases (keeps.holds.handsOut (by decide) rfl).symm.trans done
    have read := Heap.readKept (told.grown hints notes).debug keeps.holds.dictionary
    exact ⟨d, World.Keeps.handedOut (keeps.aloof (keeps.aloofOf rfl read (by simp [Heap.push]) rfl))
      (Nat.ne_of_gt keeps.holds.dictionary)⟩
  | listChanged before out vs ih =>
    obtain ⟨d, keeps⟩ := ih
    exact ⟨d, keeps.aloof (keeps.aloofOf rfl rfl le_rfl rfl)⟩
  | @tableChanged w _ _ _ _ t before out es ih =>
    obtain ⟨d, keeps⟩ := ih
    have other := Heap.readOther w.dictionaries es (keeps.apart t out)
    have length := Nat.le_of_eq (Heap.writeKeepsLength w.dictionaries t es).symm
    exact ⟨d, keeps.aloof (keeps.aloofOf rfl other length rfl)⟩
  | elsewhere before aloof ih =>
    obtain ⟨d, keeps⟩ := ih
    exact ⟨d, keeps.aloof aloof⟩

end

end FlowDouble
