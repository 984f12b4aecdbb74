import FlowDouble.Proofs.Handlers.Layers
/-! What layers show of the parameters of a handler, and what the handler takes. However many layers
there are, one context is put in front of the values of a call, but each layer hides a parameter. -/
namespace FlowDouble

open FlowDouble.Action

namespace Signature

variable {s : Signature} {first : Parameter} {rest : List Parameter} {c : String} {needed : Bool}

def after (s : Signature) (rest : List Parameter) : Signature := { s with parameters := rest }

section
variable (takes : s.parameters = first :: rest) (slot : first.slot? = some (c, needed))
include takes slot

theorem slotsAfter : s.slots = (c, needed) :: (s.after rest).slots := by
  unfold slots after
  rw [takes, List.filterMap_cons_some slot]

theorem restAfter : s.parameters.any Parameter.isRest = rest.any Parameter.isRest := by
  rw [takes]
  cases first <;> first | rfl | contradiction

theorem namedAfter : s.parameters.any Parameter.isNamed = rest.any Parameter.isNamed := by
  rw [takes]
  cases first <;> first | rfl | contradiction

theorem keywordsAfter : s.keywords = (s.after rest).keywords := by
  unfold keywords after
  rw [takes]
  cases first <;> first | rfl | contradiction

theorem nameChecked (n : Nat) {name : String} (other : name ≠ c) :
    s.checkName (n + 1) name = (s.after rest).checkName n name := by
  have apart : (c == name) = false := by simpa using other.symm
  unfold checkName
  rw [slotsAfter takes slot, namedAfter takes slot, keywordsAfter takes slot, List.findIdx?_cons,
    apart]
  simp only [Bool.and_false]
  cases (s.after rest).slots.findIdx? fun p => !p.1.isEmpty && p.1 == name with
  | none => rfl
  | some i =>
    show (if _ then _ else if i + 1 < n + 1 then _ else _) = _
    simp only [Nat.add_lt_add_iff_right]
    rfl

theorem namesChecked (n : Nat) {named : List (String × Value)} (others : ∀ v ∈ named, v.1 ≠ c) :
    s.checkNames (n + 1) named = (s.after rest).checkNames n named := by
  induction named with
  | nil => rfl
  | cons v named ih =>
    unfold checkNames
    rw [nameChecked takes slot n (others v List.mem_cons_self),
      ih fun u mem => others u (List.mem_cons_of_mem _ mem)]

theorem countChecked (ctx : Value) (placed : List Value) (named : List (String × Value)) :
    s.checkCount ⟨ctx :: placed, named⟩ = .ok () ↔
      (s.after rest).checkCount ⟨placed, named⟩ = .ok () := by
  unfold checkCount
  rw [slotsAfter takes slot, restAfter takes slot]
  simp only [List.length_cons, Nat.add_le_add_iff_right]
  show _ ↔ (if placed.length ≤ (s.after rest).slots.length ∨ rest.any Parameter.isRest
    then _ else _) = _
  split
  · simp
  · simp

theorem neededChecked (ctx : Value) (placed : List Value) (named : List (String × Value)) :
    s.checkNeeded ⟨ctx :: placed, named⟩ = (s.after rest).checkNeeded ⟨placed, named⟩ := by
  unfold checkNeeded
  rw [slotsAfter takes slot, keywordsAfter takes slot]
  rfl

theorem fillsFirst (ctx : Value) (placed : List Value) (named : List (String × Value)) :
    fill s.parameters (ctx :: placed) named = (fill rest placed named).bind c ctx := by
  rw [takes]
  cases first with
  | required name =>
    cases slot
    rfl
  | optional name default =>
    cases slot
    rfl
  | _ => contradiction

end

theorem checkedOk (free : s.byPlaceAlone = false) {a : Arguments} :
    s.check a = .ok () ↔ s.checkNames a.placed.length a.named = .ok () ∧
      s.checkCount a = .ok () ∧ s.checkNeeded a = .ok () := by
  unfold check
  rw [free]
  have failed (c : CallFault) : ¬ Except.error (Misuse.call s.fullName c) = .ok () := by simp
  cases s.checkNames a.placed.length a.named with
  | error c => exact iff_of_false (failed c) fun all => by simp at all
  | ok u =>
    cases s.checkCount a with
    | error c => exact iff_of_false (failed c) fun all => by simp at all
    | ok u =>
      cases s.checkNeeded a with
      | error c => exact iff_of_false (failed c) fun all => by simp at all
      | ok u => exact iff_of_true rfl ⟨rfl, rfl, rfl⟩

theorem bindsChecked {a : Arguments} (good : s.check a = .ok ()) :
    (s.bind a).toOption = some (fill s.parameters a.placed a.named) := by
  unfold bind
  rw [good]
  rfl

theorem bindsUnchecked {a : Arguments} (bad : s.check a ≠ .ok ()) :
    (s.bind a).toOption = none := by
  unfold bind
  cases checked : s.check a with
  | ok u => exact absurd checked bad
  | error e => rfl

theorem namesGood {n : Nat} {named : List (String × Value)}
    (good : s.checkNames n named = .ok ()) : ∀ v ∈ named, s.checkName n v.1 = .ok () := by
  induction named with
  | nil => simp
  | cons u named ih =>
    unfold checkNames at good
    cases first : s.checkName n u.1 with
    | error e =>
      rw [first] at good
      contradiction
    | ok _ =>
      rw [first] at good
      intro v mem
      rcases List.mem_cons.mp mem with rfl | later
      · exact first
      · exact ih good v later

section
variable (takes : s.parameters = first :: rest) (slot : first.slot? = some (c, needed))
  (free : s.byPlaceAlone = false)
include takes slot free

theorem checksAfter (ctx : Value) (placed : List Value) {named : List (String × Value)}
    (others : ∀ v ∈ named, v.1 ≠ c) :
    s.check ⟨ctx :: placed, named⟩ = .ok () ↔
      (s.after rest).check ⟨placed, named⟩ = .ok () := by
  rw [checkedOk free, checkedOk (show (s.after rest).byPlaceAlone = false from free)]
  have names := namesChecked takes slot placed.length others
  have count := countChecked takes slot ctx placed named
  have needs := neededChecked takes slot ctx placed named
  simp only [List.length_cons, names, count, needs]

theorem bindsAfter (ctx : Value) (placed : List Value) {named : List (String × Value)}
    (others : ∀ v ∈ named, v.1 ≠ c) :
    (s.bind ⟨ctx :: placed, named⟩).toOption =
      ((s.after rest).bind ⟨placed, named⟩).toOption.map (·.bind c ctx) := by
  have same := checksAfter takes slot free ctx placed others
  by_cases good : (s.after rest).check ⟨placed, named⟩ = .ok ()
  · rw [bindsChecked (same.mpr good), bindsChecked good, fillsFirst takes slot]
    rfl
  · rw [bindsUnchecked (fun h => good (same.mp h)), bindsUnchecked good]
    rfl

theorem bindsNoFirst (ctx : Value) (placed : List Value) {named : List (String × Value)}
    (called : c.isEmpty = false) (again : ∃ v ∈ named, v.1 = c) :
    (s.bind ⟨ctx :: placed, named⟩).toOption = none := by
  refine bindsUnchecked fun good => ?_
  obtain ⟨v, mem, rfl⟩ := again
  have names := ((checkedOk free).mp good).1
  have one := namesGood names v mem
  unfold checkName at one
  rw [slotsAfter takes slot, List.findIdx?_cons, called] at one
  simp at one

end

end Signature

namespace Decorated

variable {layers : List Fields}

theorem visibleDrops (parameters : List Parameter) :
    visible layers parameters = parameters.drop layers.length := by
  induction layers with
  | nil => rfl
  | cons fields layers ih =>
    have outer : visible (fields :: layers) parameters = (visible layers parameters).tail := rfl
    rw [outer, ih, List.tail_drop]
    rfl

theorem visibleAll {first : Parameter} {rest : List Parameter} (decorated : layers ≠ []) :
    visible layers (first :: rest) = rest ↔ layers.length = 1 ∨ rest = [] := by
  obtain ⟨fields, inner, rfl⟩ := List.exists_cons_of_ne_nil decorated
  rw [visibleDrops, List.length_cons, List.drop_succ_cons]
  constructor
  · intro all
    have fewer := congrArg List.length all
    rw [List.length_drop] at fewer
    cases rest with
    | nil => exact .inr rfl
    | cons p rest =>
      left
      simp only [List.length_cons] at fewer
      omega
  · rintro (one | none)
    · have inside : inner.length = 0 := by omega
      rw [inside, List.drop_zero]
    · rw [none, List.drop_nil]

section
variable [Calls]

theorem prepareReceives {fields : Fields} {a : Arguments} {w w' : World} {ws : List Value}
    (done : prepare fields a.placed w = .ok ws w') : ws = (a.received w).placed := by
  rw [prepareSeeds] at done
  obtain ⟨_, _, _, same⟩ := bindInv done
  cases same
  rfl

theorem prepareAllReceives {a : Arguments} {w w' : World} {ws : List Value}
    (decorated : layers ≠ []) (done : prepareAll layers a.placed w = .ok ws w') :
    ws = (a.received w).placed := by
  induction layers generalizing a w with
  | nil => contradiction
  | cons fields inner ih =>
    obtain ⟨placed, w₁, first, later⟩ := bindInv done
    have received := prepareReceives first
    cases inner with
    | nil =>
      cases later
      exact received
    | cons next inner =>
      -- The outer layer has put a context in front, so the ones inside receive that and add none.
      rw [received] at later
      obtain ⟨_, _, _, again⟩ := a.receivedAgain w w₁
      rw [← again]
      exact ih (List.cons_ne_nil _ _) later

/-- Layers show the parameters of a handler without as many of the first as there are layers, so one
layer shows what the handler takes after its context, and more show less. But the values of a call
get one context in front, so however many layers there are, a call is bound as the parameters after
the first would bind it alone, and a call that names the first is not bound. -/
theorem layersHideOneParameterEach {s : Signature} {first : Parameter} {rest : List Parameter}
    {c : String} {needed : Bool} (takes : s.parameters = first :: rest)
    (slot : first.slot? = some (c, needed)) (free : s.byPlaceAlone = false)
    (layers : List Fields) (decorated : layers ≠ []) :
    visible layers s.parameters = rest.drop (layers.length - 1) ∧
    (visible layers s.parameters = rest ↔ layers.length = 1 ∨ rest = []) ∧
    (∀ (a : Arguments) w ws w',
      prepareAll layers a.placed w = .ok ws w' → ws = (a.received w).placed) ∧
    ∀ r placed named,
      ((∀ v ∈ named, v.1 ≠ c) →
        (s.bind ⟨.context r :: placed, named⟩).toOption =
          ((s.after rest).bind ⟨placed, named⟩).toOption.map (·.bind c (.context r))) ∧
      (c.isEmpty = false → (∃ v ∈ named, v.1 = c) →
        (s.bind ⟨.context r :: placed, named⟩).toOption = none) := by
  refine ⟨?_, ?_, fun a w ws w' => prepareAllReceives decorated, fun r placed named => ?_⟩
  · obtain ⟨fields, inner, rfl⟩ := List.exists_cons_of_ne_nil decorated
    rw [takes, visibleDrops]
    rfl
  · rw [takes]
    exact visibleAll decorated
  · exact ⟨Signature.bindsAfter takes slot free _ placed,
      Signature.bindsNoFirst takes slot free _ placed⟩

end

theorem requiredParameterHidden :
    let s := (Handler.mk .url false).signature
    let shown := visible [[], []] s.parameters
    (∃ f, ((s.after shown).bind ⟨[], []⟩).toOption = some f) ∧
    shown = [.optional "key" (some (.text "k"))] ∧
    (s.bind ⟨[.context 0], []⟩).toOption = none := by
  obtain ⟨shown, _, _, binds⟩ := layersHideOneParameterEach
    (s := (Handler.mk .url false).signature) rfl rfl rfl [[], []] (by simp)
  refine ⟨⟨_, rfl⟩, shown, ?_⟩
  rw [(binds 0 [] []).1 (by simp)]
  rfl

theorem secondLayerHidesParameter :
    ¬ ∀ (d : Decorated) first rest, d.layers ≠ [] →
      d.handler.signature.parameters = first :: rest → d.signature = rest := by
  intro all
  have hidden := all ⟨⟨.url, false⟩, [[], []]⟩ _ _ (by simp) rfl
  simp [signature, visible, Task.parameters] at hidden

end Decorated

end FlowDouble
