import FlowDouble.Proofs.Renaming.Calls
import FlowDouble.Proofs.Renaming.Literals
import FlowDouble.Script.Request
/-! What whoever holds a context can do with it and with all that is reached from it, and what is seen
of that: every outcome, written out in full. Main statement: what is done alike in twin worlds comes
out alike. -/
namespace FlowDouble

open Script (Table)

inductive Deed where
  | write (v : Literal)
  | call (on : Literal) (name : String) (call : LiteralCall)
  | apply (on : Literal) (placed : List Literal)
  | getMember (on : Literal) (name : String)
  | assign (on : Literal) (name : String) (v : Literal)
  | getItem (on key : Literal)
  | setItem (on key v : Literal)
  | deleteItem (on key : Literal)
  | contains (on key : Literal)
  | length (on : Literal)
  | truth (on : Literal)
  | elements (on : Literal)
  | equal (a b : Literal)
  | same (a b : Literal)
  | shown (v : Literal)
  | spelled (v : Literal)
  deriving Repr

namespace Deed

open FlowDouble.Action

def assignTo (v : Value) (name : String) (x : Value) : Action Unit :=
  match v with
  | .context r =>
    if (Context.member? name).isSome then Value.setMember (.context r) name x
    else misuse (.lacks .context name)
  | v => misuse (.lacks v.kindOf name)

def perform (look : String → Option Value) : Deed → Action Value
  | write v => v.build look
  | call on name c => do
    let v ← on.build look
    let a ← c.build look
    v.answer name a (v.applyOperation name a)
  | apply on placed => do
    let v ← on.build look
    v.apply ⟨← Literal.buildAll look placed, []⟩
  | getMember on name => do (← on.build look).getMember name
  | assign on name x => do
    let v ← on.build look
    yieldNothing (assignTo v name (← x.build look))
  | getItem on key => do
    let v ← on.build look
    v.getItem (← key.build look)
  | setItem on key x => do
    let v ← on.build look
    let x ← x.build look
    yieldNothing (v.setItem (← key.build look) x)
  | deleteItem on key => do
    let v ← on.build look
    yieldNothing (v.deleteItem (← key.build look))
  | contains on key => do
    let v ← on.build look
    return .bool (← v.contains (← key.build look))
  | length on => do return .int (← Action.length (← on.build look))
  | truth on => do return .bool (← truthy (← on.build look))
  | elements on => do newList (← Action.elements (← on.build look))
  | equal a b => do
    let v ← a.build look
    return .bool (← v.isEqual (← b.build look))
  | same a b => do
    let v ← a.build look
    return .bool (v.same (← b.build look))
  | shown v => do return .text (← Action.shown (← v.build look))
  | spelled v => do return .text (← Action.spelled (← v.build look))

end Deed

inductive Outcome where
  | value (s : Snapshot)
  | failed (chain : List (Kind × List (List Snapshot)))
  deriving Repr

def Outcome.text? : Outcome → Option String
  | .value (.text s) => some s
  | _ => none

namespace Fault

def causes : Fault → List Fault
  | report ⟨_, _, _, _, _, some f⟩ => f :: f.causes
  | _ => []

def contents : Fault → List (List Value)
  | report told =>
    [[told.message], told.metadata.keys, told.metadata.values, told.debug.keys,
      told.debug.values, told.suggestions, detailNames.filterMap told.diagnosis.detail?]
  | misuse (.noMember owner name) => [(misuse (.noMember owner name)).arguments, [owner]]
  | f => [f.arguments]

end Fault

def World.disclose (w : World) (f : Fault) : Kind × List (List Snapshot) :=
  (f.kind, f.contents.map fun vs => vs.map w.snapshot)

def World.failure (w : World) (f : Fault) : Outcome := .failed ((f :: f.causes).map w.disclose)

structure Hand where
  world : World
  table : Table := []

namespace Hand

def hold (t : Table) (name : Option String) (v : Value) : Table :=
  match name with
  | some name => t.insert name v
  | none => t

def attempt (h : Hand) (a : Action Value) (name : Option String) : Outcome × Hand :=
  match a h.world with
  | .ok v w => (.value (w.snapshot v), ⟨w, hold h.table name v⟩)
  | .error f w => (w.failure f, ⟨w, h.table⟩)

def attemptAll (h : Hand) : List (Deed × Option String) → List Outcome × Hand
  | [] => ([], h)
  | (d, name) :: rest =>
    let (out, h) := h.attempt (d.perform h.table.lookup) name
    let (outs, h) := h.attemptAll rest
    (out :: outs, h)

end Hand

section
variable {P : Pairing} {t t' : Table} {v v' : Value} {f f' : Fault} {w w' : World}

theorem Alike.looks (alike : Alike P t t') : Looks P t.lookup t'.lookup :=
  fun name => alike.map (f := fun t : Table => t.lookup name) fun ρ t => namedRenamed ρ name t

theorem insertIsNamed (t : Table) (name : String) (v : Value) :
    t.insert name v = Literal.insertNamed name v t := by
  induction t with
  | nil => rfl
  | cons e t ih => simp only [Table.insert, Literal.insertNamed, ih]

theorem Alike.hold (alike : Alike P t t') (name : Option String) (value : Alike P v v') :
    Alike P (Hand.hold t name v) (Hand.hold t' name v') := by
  cases name with
  | none => exact alike
  | some name =>
    show Alike P (t.insert name v) (t'.insert name v')
    rw [insertIsNamed, insertIsNamed]
    exact value.map₂ (f := Literal.insertNamed name)
      (fun ρ v named => insertNamedRenamed ρ name v named) alike

instance : Renames Outcome where
  rename ρ
    | .value s => .value (rename ρ s)
    | .failed chain => .failed (rename ρ chain)
  one out := by cases out <;> simp only [Renames.one]
  mul ρ σ out := by cases out <;> simp only [Renames.mul]

theorem causesRenamed (ρ : Renaming) : ∀ f : Fault, (rename ρ f).causes = rename ρ f.causes
  | .report ⟨_, _, _, _, _, some f⟩ => congrArg (rename ρ f :: ·) (causesRenamed ρ f)
  | .report ⟨_, _, _, _, _, none⟩ | .missingKey _ | .misuse _ => rfl

theorem detailsRenamed (ρ : Renaming) (d : Diagnosis) :
    detailNames.filterMap (rename ρ d).detail? = rename ρ (detailNames.filterMap d.detail?) := by
  rw [renameList, List.map_filterMap]
  exact congrArg (detailNames.filterMap ·) (funext fun name => detailRenamed ρ d name)

theorem contentsRenamed (ρ : Renaming) (f : Fault) :
    (rename ρ f).contents = rename ρ f.contents := by
  have other := congrArg (fun vs => [vs]) (f.argumentsRenamed ρ)
  cases f with
  | report told =>
    have entries (es : Entries) : (rename ρ es).values = rename ρ es.values := by
      simp only [Entries.values, renameList, List.map_map]
      rfl
    rw [renameReport]
    show [_, _, _, _, _, _, _] = [_, _, _, _, _, _, _]
    rw [← Entries.keysRenamed, ← entries, ← Entries.keysRenamed, ← entries]
    exact congrArg (fun vs => [[rename ρ told.message], _, _, _, _, _, vs])
      (detailsRenamed ρ told.diagnosis)
  | missingKey key => exact other
  | misuse m =>
    cases m with
    | noMember owner name =>
      exact congrArg (fun vs => [vs, [rename ρ owner]])
        ((Fault.misuse (.noMember owner name)).argumentsRenamed ρ)
    | _ => exact other

theorem Twin.disclose (twin : Twin P w w') (alike : Alike P f f') :
    Alike P (w.disclose f) (w'.disclose f') := by
  have kind : f'.kind = f.kind := by
    rw [alike.renamed]
    exact f.kindRenamed _
  have contents := alike.map contentsRenamed
  have shown := contents.each fun vs vs' parts => parts.each fun v v' same => twin.snapshot same
  unfold World.disclose
  rw [kind]
  exact alikePair (alikeStill _) shown

theorem Twin.failure (twin : Twin P w w') (alike : Alike P f f') :
    Alike P (w.failure f) (w'.failure f') := by
  have chain := alikeCons alike (alike.map causesRenamed)
  have disclosed := chain.each fun g g' same => twin.disclose same
  exact disclosed.map (f := Outcome.failed) fun _ _ => rfl

namespace Mirrors

variable {R : Bond} [Grows R] {look look' : String → Option Value} {u u' : Value}

theorem assignTo (alike : Alike P v v') (name : String) (value : Alike P u u') :
    Mirrors R P (Deed.assignTo v name u) (Deed.assignTo v' name u') := by
  have kind := alike.kindOf
  have other : Mirrors R P (Action.misuse (.lacks v.kindOf name) : Action Unit)
      (Action.misuse (.lacks v'.kindOf name)) := by
    rw [kind]
    exact .refused fun _ => rfl
  cases alike.like with
  | context pairs =>
    refine .ite Iff.rfl (fun member => ?_) fun _ => .refused fun _ => rfl
    unfold Context.member? at member
    simp only [Value.setMember]
    cases setting : Setting.named? name with
    | some s => exact .assign pairs s value
    | none =>
      cases reading : Context.Reading.named? name with
      | some g => exact .refused fun _ => rfl
      | none => simp [setting, reading] at member
  | _ => exact other

theorem bothBuilt {β : Type} [Renames β] {g g' : Value → Value → Action β}
    (looks : Looks P look look') (l m : Literal)
    (next : ∀ Q, P ≤ Q → ∀ v v' u u', Alike Q v v' → Alike Q u u' → Mirrors R Q (g v u) (g' v' u')) :
    Mirrors R P (l.build look >>= fun v => m.build look >>= fun u => g v u)
      (l.build look' >>= fun v => m.build look' >>= fun u => g' v u) :=
  .bind (.build l looks) fun _ le _ _ first =>
    .bind (.build m (looks.mono le)) fun _ more _ _ second =>
      next _ (le.trans more) _ _ _ _ (first.mono more) second

omit [Grows R] in
theorem answered {a a' : Action Bool} (mirrors : Mirrors R P a a') :
    Mirrors R P (do return Value.bool (← a)) (do return Value.bool (← a')) :=
  .bind mirrors fun _ _ _ _ same => by
    rw [same.still]
    exact .pure (Like.bool _).alike

omit [Grows R] in
theorem worded {a a' : Action String} (mirrors : Mirrors R P a a') :
    Mirrors R P (do return Value.text (← a)) (do return Value.text (← a')) :=
  .bind mirrors fun _ _ _ _ same => by
    rw [same.still]
    exact .pure (Like.text _).alike

theorem deed (looks : Looks P look look') (d : Deed) :
    Mirrors R P (d.perform look) (d.perform look') := by
  cases d with
  | write l => exact .build l looks
  | call on name c =>
    refine .bind (.build on looks) fun Q le v v' owner => ?_
    refine .bind (.buildCall (looks.mono le) c) fun S more a a' args => ?_
    exact .answer (.applyOperation (owner.mono more) name args)
  | apply on placed =>
    refine .bind (.build on looks) fun Q le v v' called => ?_
    refine .bind (.buildAll placed (looks.mono le)) fun S more vs vs' parts => ?_
    exact Heeds.apply (called.mono more) (parts.map (f := fun vs => Arguments.mk vs [])
      fun _ _ => rfl) rfl
  | getMember on name =>
    exact .bind (.build on looks) fun _ _ _ _ owner => .getMember owner name
  | assign on name x =>
    exact .bothBuilt looks on x fun _ _ _ _ _ _ owner value =>
      .yieldNothing (.assignTo owner name value)
  | getItem on key => exact .bothBuilt looks on key fun _ _ _ _ _ _ owner key => .getItem owner key
  | setItem on key x =>
    refine .bind (.build on looks) fun Q le v v' owner => ?_
    refine .bothBuilt (looks.mono le) x key fun S more _ _ _ _ value key => ?_
    exact .yieldNothing (.setItem (owner.mono more) key value)
  | deleteItem on key =>
    exact .bothBuilt looks on key fun _ _ _ _ _ _ owner key =>
      .yieldNothing (.deleteItem owner key)
  | contains on key =>
    exact .bothBuilt looks on key fun _ _ _ _ _ _ owner key => .answered (.contains owner key)
  | length on =>
    refine .bind (.build on looks) fun Q le v v' owner => ?_
    refine .bind (.length owner) fun _ _ n n' same => ?_
    rw [same.still]
    exact .pure (Like.int n).alike
  | truth on => exact .bind (.build on looks) fun _ _ _ _ owner => .answered (.truthy owner)
  | elements on =>
    exact .bind (.build on looks) fun _ _ _ _ owner =>
      .bind (.elements owner) fun _ _ _ _ parts => .newList parts
  | equal a b =>
    exact .bothBuilt looks a b fun _ _ _ _ _ _ left right => .answered (.isEqual left right)
  | same a b =>
    refine .bothBuilt looks a b fun _ _ _ _ _ _ left right => ?_
    rw [left.same right]
    exact .pure (Like.bool _).alike
  | shown l => exact .bind (.build l looks) fun _ _ _ _ value => .worded (.shown value)
  | spelled l => exact .bind (.build l looks) fun _ _ _ _ value => .worded (.spelled value)

end Mirrors

structure Handed (R : Bond) (P : Pairing) (h h' : Hand) : Prop where
  twin : Twin P h.world h'.world
  bond : R P h.world h'.world
  table : Alike P h.table h'.table

def Matched (R : Bond) (P : Pairing) (out out' : Outcome × Hand) : Prop :=
  ∃ Q, P ≤ Q ∧ Alike Q out.1 out'.1 ∧ Handed R Q out.2 out'.2

section
variable {R : Bond} {h h' : Hand}

theorem Handed.attempt {a a' : Action Value} (handed : Handed R P h h')
    (mirrors : Mirrors R P a a') (name : Option String) :
    Matched R P (h.attempt a name) (h'.attempt a' name) := by
  have agrees := mirrors h.world h'.world handed.twin handed.bond
  unfold Hand.attempt
  generalize a h.world = x, a' h'.world = x' at agrees ⊢
  cases agrees with
  | ok le twin bond alike =>
    refine ⟨_, le, ?_, twin, bond, (handed.table.mono le).hold name alike⟩
    exact (twin.snapshot alike).map (f := Outcome.value) fun _ _ => rfl
  | error le twin bond alike =>
    exact ⟨_, le, twin.failure alike, twin, bond, handed.table.mono le⟩

theorem Handed.attemptAll [Grows R] (handed : Handed R P h h')
    (deeds : List (Deed × Option String)) :
    ∃ Q, P ≤ Q ∧ Alike Q (h.attemptAll deeds).1 (h'.attemptAll deeds).1 ∧
      Handed R Q (h.attemptAll deeds).2 (h'.attemptAll deeds).2 := by
  induction deeds generalizing P h h' with
  | nil => exact ⟨P, le_rfl, alikeNil, handed⟩
  | cons step rest ih =>
    obtain ⟨d, name⟩ := step
    obtain ⟨Q, le, out, next⟩ := handed.attempt (.deed handed.table.looks d) name
    obtain ⟨S, more, outs, last⟩ := ih next
    exact ⟨S, le.trans more, alikeCons (out.mono more) outs, last⟩

end

end

end FlowDouble
