import FlowDouble.Proofs.Renaming.Steps
import FlowDouble.Signature
/-! The values of a call bound to the parameters of an operation. Whether they can be bound depends on
how many there are and on their names alone. -/
namespace FlowDouble

instance : Renames Arguments where
  rename ρ a := ⟨rename ρ a.placed, rename ρ a.named⟩
  one a := by simp only [Renames.one]
  mul ρ σ a := by simp only [Renames.mul]

instance : Renames Frame where
  rename ρ f := ⟨rename ρ f.bound, rename ρ f.rest, rename ρ f.named⟩
  one f := by simp only [Renames.one]
  mul ρ σ f := by simp only [Renames.mul]

def Parameter.Plain : Parameter → Prop
  | .optional _ (some d) | .keyword _ (some d) => ∀ ρ : Renaming, d.rename ρ = d
  | _ => True

variable (ρ : Renaming)

theorem namedRenamed (name : String) (given : List (String × Value)) :
    named? name (rename ρ given) = rename ρ (named? name given) := by
  show ((given.map (rename ρ)).find? (·.1 == name)).map (·.2) =
    ((given.find? (·.1 == name)).map (·.2)).map (rename ρ)
  rw [List.find?_map, Option.map_map, Option.map_map]
  rfl

theorem withoutRenamed (name : String) (given : List (String × Value)) :
    without name (rename ρ given) = rename ρ (without name given) :=
  List.filter_map

theorem givenForRenamed (name : String) (given : List (String × Value)) :
    givenFor name (rename ρ given) = rename ρ (givenFor name given) := by
  unfold givenFor
  split
  · rfl
  · exact namedRenamed ρ name given

theorem Frame.bindRenamed (f : Frame) (name : String) (v : Value) :
    (rename ρ f).bind name (v.rename ρ) = rename ρ (f.bind name v) := rfl

theorem fillRenamed {ps : List Parameter} (plain : ∀ p ∈ ps, p.Plain) (vs : List Value)
    (given : List (String × Value)) :
    fill ps (rename ρ vs) (rename ρ given) = rename ρ (fill ps vs given) := by
  induction ps generalizing vs given with
  | nil => rfl
  | cons p ps ih =>
    have rest := ih fun q there => plain q (List.mem_cons_of_mem _ there)
    have named (name : String) (vs : List Value) (v : Value) :
        (fill ps (rename ρ vs) (without name (rename ρ given))).bind name (rename ρ v) =
          rename ρ ((fill ps vs (without name given)).bind name v) := by
      rw [withoutRenamed, rest]
      rfl
    have standing (name : String) {d : Value} (same : d.rename ρ = d) (vs : List Value) :
        (fill ps (rename ρ vs) (rename ρ given)).bind name d =
          rename ρ ((fill ps vs given).bind name d) := by
      rw [rest, ← Frame.bindRenamed, same]
    cases p with
    | required name =>
      cases vs with
      | cons v vs => exact congrArg (Frame.bind · name (v.rename ρ)) (rest vs given)
      | nil =>
        simp only [renameNil, fill, givenForRenamed]
        cases givenFor name given with
        | none => exact rest [] given
        | some v => exact named name [] v
    | optional name default =>
      cases vs with
      | cons v vs => exact congrArg (Frame.bind · name (v.rename ρ)) (rest vs given)
      | nil =>
        simp only [renameNil, fill, givenForRenamed]
        cases givenFor name given with
        | some v => exact named name [] v
        | none =>
          cases default with
          | none => exact rest [] given
          | some d => exact standing name (plain _ List.mem_cons_self ρ) []
    | rest name => exact congrArg ({ · with rest := rename ρ vs }) (rest [] given)
    | keyword name default =>
      simp only [fill, givenForRenamed]
      cases givenFor name given with
      | some v => exact named name vs v
      | none =>
        cases default with
        | none => exact rest vs given
        | some d => exact standing name (plain _ List.mem_cons_self ρ) vs
    | named name => exact congrArg ({ · with named := rename ρ given }) (rest vs [])

section
variable (s : Signature)

theorem checkNamesRenamed (n : Nat) (given : List (String × Value)) :
    s.checkNames n (rename ρ given) = s.checkNames n given := by
  induction given with
  | nil => rfl
  | cons p rest ih => exact congrArg (s.checkName n p.1 >>= fun _ => ·) ih

omit s in
theorem lackingRenamed (slots : List (String × Bool)) (given : List (String × Value)) :
    Signature.lacking slots (rename ρ given) = Signature.lacking slots given := by
  have same (name : String) :
      (givenFor name (rename ρ given)).isNone = (givenFor name given).isNone := by
    rw [givenForRenamed]
    cases givenFor name given <;> rfl
  unfold Signature.lacking
  simp only [same]

theorem countRenamed (placed : List Value) (given : List (String × Value)) :
    s.checkCount ⟨rename ρ placed, rename ρ given⟩ = s.checkCount ⟨placed, given⟩ := by
  have same (name : String) :
      (givenFor name (rename ρ given)).isSome = (givenFor name given).isSome := by
    rw [givenForRenamed]
    cases givenFor name given <;> rfl
  unfold Signature.checkCount
  simp only [same, renameLength]

theorem checkRenamed (a : Arguments) : s.check (rename ρ a) = s.check a := by
  obtain ⟨placed, named⟩ := a
  show s.check ⟨rename ρ placed, rename ρ named⟩ = _
  have empty : (rename ρ named).isEmpty = named.isEmpty := by cases named <;> rfl
  simp only [Signature.check, Signature.checkPlaces, Signature.checkNeeded, renameLength,
    checkNamesRenamed, countRenamed, lackingRenamed, empty]

theorem checkFixed (a : Arguments) : rename ρ (s.check a) = s.check a := by
  unfold Signature.check Signature.checkPlaces
  dsimp only
  repeat' split
  all_goals rfl

end

section
variable {P : Pairing} {a a' : Arguments} {f f' : Frame}

theorem Alike.bound {s : Signature} (plain : ∀ p ∈ s.parameters, p.Plain) (alike : Alike P a a') :
    Alike P (s.bind a) (s.bind a') := by
  refine alike.map (f := s.bind) fun ρ a => ?_
  have filled := fillRenamed ρ plain a.placed a.named
  have refused := checkFixed ρ s a
  unfold Signature.bind
  rw [checkRenamed]
  generalize s.check a = checked at refused ⊢
  cases checked with
  | ok _ => exact congrArg Except.ok filled
  | error m => exact congrArg (Except.error ∘ Fault.misuse) (Except.error.inj refused).symm

theorem Alike.argument? (alike : Alike P f f') (name : String) :
    Alike P (f.value? name) (f'.value? name) :=
  alike.map (f := (Frame.value? · name)) fun ρ f => namedRenamed ρ name f.bound

theorem Alike.argument (alike : Alike P f f') (name : String) :
    Alike P (f.value name) (f'.value name) :=
  (alike.argument? name).getD Like.null.alike

theorem Alike.restOf (alike : Alike P f f') : Alike P f.rest f'.rest :=
  alike.map (f := Frame.rest) fun _ _ => rfl

theorem Alike.namedOf (alike : Alike P f f') :
    Alike P (namedEntries f.named) (namedEntries f'.named) :=
  alike.map (f := fun f => namedEntries f.named) fun ρ f => by
    show namedEntries (f.named.map (rename ρ)) = (namedEntries f.named).map (rename ρ)
    simp only [namedEntries, List.map_map]
    rfl

end

end FlowDouble
