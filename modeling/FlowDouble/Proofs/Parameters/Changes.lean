import FlowDouble.Parameters.Entry
import FlowDouble.Proofs.Entries
/-! What can happen to the entries of a parameter map: a value it may hold is put under a name, or
a name is deleted. Either keeps what a map is, and touches no other name. -/
namespace FlowDouble.ParameterMap

inductive Holdable : Value → Prop where
  | text (s : String) : Holdable (.text s)
  | upload (tag : Nat) (name content originalName contentType : Value) :
      Holdable (.upload tag name content originalName contentType)
  | texts (tag : Nat) {vs : List Value} (all : ∀ v ∈ vs, ∃ s, v = .text s) :
      Holdable (.tuple tag vs)
  | uploads (tag : Nat) {vs : List Value} (all : ∀ v ∈ vs, ∃ t n c o k, v = .upload t n c o k) :
      Holdable (.tuple tag vs)

theorem isTextIff {v : Value} : v.isText = true ↔ ∃ s, v = .text s := by
  cases v <;> simp [Value.isText]

theorem isUploadIff {v : Value} : v.isUpload = true ↔ ∃ t n c o k, v = .upload t n c o k := by
  cases v <;> simp [Value.isUpload]

theorem holdableRow (tag : Nat) {vs : List Value} (one : allOneKind vs = true) :
    Holdable (.tuple tag vs) := by
  rcases Bool.or_eq_true_iff.mp one with texts | uploads
  · exact .texts tag fun v mem => isTextIff.mp (List.all_eq_true.mp texts v mem)
  · exact .uploads tag fun v mem => isUploadIff.mp (List.all_eq_true.mp uploads v mem)

theorem holdableParameter {v : Value} (accepted : v.isParameter = true) : Holdable v := by
  cases v with
  | text s => exact .text s
  | upload tag name content originalName contentType => exact .upload ..
  | tuple tag vs => exact holdableRow tag accepted
  | _ => contradiction

inductive Keeps (lists : Heap (List Value)) : Value → Value → Prop where
  | itself {v : Value} (accepted : v.isParameter = true) : Keeps lists v v
  | row (r tag : Nat) (one : allOneKind (lists.read r) = true) :
      Keeps lists (.list r) (.tuple tag (lists.read r))

theorem keptHoldable {lists : Heap (List Value)} {value kept : Value}
    (keeps : Keeps lists value kept) : Holdable kept := by
  cases keeps with
  | itself accepted => exact holdableParameter accepted
  | row r tag one => exact holdableRow tag one

structure Held (es : Entries) : Prop where
  sound : es.Sound
  values : ∀ e ∈ es, Holdable e.2

inductive Change where
  | put (name value : Value)
  | delete (name : Value)

namespace Change

def name : Change → Value
  | put name _ | delete name => name

def isPut : Change → Bool
  | put .. => true
  | delete _ => false

def apply (es : Entries) : Change → Entries
  | put name value => es.insert name value
  | delete name => es.erase name

def applyAll (changes : List Change) (es : Entries) : Entries := changes.foldl apply es

def Proper : Change → Prop
  | put name value => name.hashable = true ∧ Holdable value
  | delete _ => True

variable {es : Entries} {c : Change} {changes : List Change}

theorem heldApplied (held : Held es) (proper : c.Proper) : Held (c.apply es) := by
  cases c with
  | put name value =>
    obtain ⟨hashable, holdable⟩ := proper
    refine ⟨Entries.soundInserted held.sound hashable value, fun e mem => ?_⟩
    rcases Entries.memInserted mem with old | ⟨same, _⟩
    · exact held.values e old
    · exact same ▸ holdable
  | delete name =>
    exact ⟨Entries.soundErased held.sound name, fun e mem => held.values e (Entries.memErased mem)⟩

theorem heldAfter (held : Held es) (proper : ∀ c ∈ changes, c.Proper) :
    Held (applyAll changes es) := by
  induction changes generalizing es with
  | nil => exact held
  | cons c rest ih =>
    have first := heldApplied held (proper c List.mem_cons_self)
    exact ih first fun d mem => proper d (List.mem_cons_of_mem _ mem)

theorem findAfter {x : Value} (other : ∀ c ∈ changes, c.name.sameKey x = false) :
    (applyAll changes es).find? x = es.find? x := by
  induction changes generalizing es with
  | nil => rfl
  | cons c rest ih =>
    have apart := other c List.mem_cons_self
    have first : (c.apply es).find? x = es.find? x := by
      cases c with
      | put name value => exact Entries.findInsertedOther apart value es
      | delete name => exact Entries.findErasedOther apart es
    rw [← first]
    exact ih fun d mem => other d (List.mem_cons_of_mem _ mem)

theorem keysAfterPuts (puts : ∀ c ∈ changes, c.isPut = true) :
    es.keys <+: (applyAll changes es).keys := by
  induction changes generalizing es with
  | nil => exact List.prefix_refl _
  | cons c rest ih =>
    have later : (c.apply es).keys <+: (applyAll rest (c.apply es)).keys :=
      ih fun d mem => puts d (List.mem_cons_of_mem _ mem)
    refine List.IsPrefix.trans ?_ later
    cases c with
    | put name value =>
      simp only [apply, Entries.keysInserted]
      split
      · exact List.prefix_refl _
      · exact List.prefix_append _ _
    | delete name => simpa [isPut] using puts _ List.mem_cons_self

theorem keysAfterDeletes (held : Held es) (deletes : ∀ c ∈ changes, c.isPut = false) :
    (applyAll changes es).keys.Sublist es.keys := by
  induction changes generalizing es with
  | nil => exact List.Sublist.refl _
  | cons c rest ih =>
    cases c with
    | put name value => simpa [isPut] using deletes _ List.mem_cons_self
    | delete name =>
      have proper : (Change.delete name).Proper := trivial
      have later := ih (heldApplied held proper) fun d mem => deletes d (List.mem_cons_of_mem _ mem)
      refine later.trans ?_
      simp only [apply, Entries.keysErased held.sound]
      exact List.filter_sublist

theorem applyAllAppend (first second : List Change) :
    applyAll (first ++ second) es = applyAll second (applyAll first es) :=
  List.foldl_append

end Change

end FlowDouble.ParameterMap
