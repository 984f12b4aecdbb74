import FlowDouble.Kind
/-! A kind falls under whatever a chain of parents leads to. Every parent is lower than what it is a
parent of, so the steps that are allowed for are enough for any chain. -/
namespace FlowDouble.Kind

inductive Falls : Kind → Kind → Prop where
  | object (k : Kind) : Falls k .object
  | same (k : Kind) : Falls k k
  | parent {k p above : Kind} (right : p ∈ k.parents) (falls : Falls p above) : Falls k above

def height : Kind → Nat
  | sharedAttributes | redirectNotRequested | responseNotAllowed | attributeNotFound => 3
  | dictionary | attributes | writableParameters | illegalState | configuration | attributeType
  | missingKey | badIndex | frozenMember | tooDeep => 2
  | bool | text | bytes | list | tuple | mutableMapping | parameters | context | flowError | lookup
  | wrongType | wrongValue | wrongState | missingMember | tooLarge | abstractKind => 1
  | _ => 0

theorem parentsLower (k : Kind) : ∀ p ∈ k.parents, p.height < k.height := by
  cases k <;> decide

theorem heightBounded (k : Kind) : k.height ≤ 4 := by
  cases k <;> decide

theorem reachesFalls {n : Nat} {k above : Kind} (reached : reaches n k above = true) :
    Falls k above := by
  induction n generalizing k with
  | zero => exact eq_of_beq reached ▸ .same k
  | succ n ih =>
    simp only [reaches, Bool.or_eq_true, List.any_eq_true, beq_iff_eq] at reached
    rcases reached with rfl | ⟨p, right, later⟩
    · exact .same k
    · exact .parent right (ih later)

theorem fallsReaches {k above : Kind} (falls : Falls k above) {n : Nat} (enough : k.height ≤ n) :
    above = .object ∨ reaches n k above = true := by
  induction falls generalizing n with
  | object k => exact .inl rfl
  | same k => cases n <;> simp [reaches]
  | parent right falls ih =>
    have lower := parentsLower _ _ right
    cases n with
    | zero => omega
    | succ n =>
      rcases ih (n := n) (by omega) with object | later
      · exact .inl object
      · simp only [reaches, Bool.or_eq_true, List.any_eq_true]
        exact .inr (.inr ⟨_, right, later⟩)

theorem underIff {k above : Kind} : k.under above = true ↔ Falls k above := by
  simp only [under, Bool.or_eq_true, beq_iff_eq]
  constructor
  · rintro (rfl | reached)
    · exact .object k
    · exact reachesFalls reached
  · exact fun falls => fallsReaches falls k.heightBounded

example : bool.under .int = true ∧ sharedAttributes.under .mapping = true ∧
    dictionary.under .mapping = true ∧ writableParameters.under .mutableMapping = false := by
  decide

end FlowDouble.Kind
