import FlowDouble.Cast
import FlowDouble.Proofs.Renaming.Attributes
/-! Plain values made of other values in twin worlds. Reading a number goes by what a value is written
as, never by where it is. -/
namespace FlowDouble

section
variable {P : Pairing} {v v' b b' : Value}

theorem Alike.number (alike : Alike P v v') : v'.number? = v.number? := by
  rw [alike.renamed]
  exact Value.numberRenamed _ v

theorem Alike.source (alike : Alike P v v') : Cast.source? v' = Cast.source? v := by
  cases alike.like <;> rfl

theorem Alike.whole (alike : Alike P v v') : Alike P (Cast.whole v) (Cast.whole v') := by
  have fixed (ρ : Renaming) : rename ρ (Cast.whole v) = Cast.whole v := by
    unfold Cast.whole Cast.truncated Cast.readWhole
    repeat' split
    all_goals rfl
  have same : Cast.whole v' = Cast.whole v := by
    unfold Cast.whole
    rw [alike.number, alike.source, alike.kindOf]
  rw [same]
  exact alikeFixed fixed

theorem Alike.index (alike : Alike P v v') : Alike P (Cast.index v) (Cast.index v') := by
  have kind := alike.kindOf
  have other : Alike P (.error (.told .wrongType (Misuse.quotedName v.kindOf.fullName ++
        " object cannot be interpreted as an integer")) : Except Fault Int)
      (.error (.told .wrongType (Misuse.quotedName v'.kindOf.fullName ++
        " object cannot be interpreted as an integer"))) := by
    rw [kind]
    exact alikeFixed fun _ => rfl
  cases alike.like with
  | int n => exact alikeFixed fun _ => rfl
  | bool b => exact alikeFixed fun _ => rfl
  | _ => exact other

theorem Alike.wholeIn (base : Alike P b b') (alike : Alike P v v') :
    Alike P (Cast.wholeIn b v) (Cast.wholeIn b' v') := by
  have source := alike.source
  refine base.index.andThen fun n n' same => ?_
  rw [same.still]
  rw [source]
  refine alikeFixed fun ρ => ?_
  unfold Cast.readWhole
  dsimp only
  repeat' split
  all_goals rfl

theorem Alike.word (alike : Alike P v v') : Alike P (Cast.word v) (Cast.word v') := by
  have kind := alike.kindOf
  have fixed (ρ : Renaming) : rename ρ (Cast.word v) = Cast.word v := by
    unfold Cast.word Cast.wordOf
    dsimp only
    repeat' split
    all_goals rfl
  have same : Cast.word v' = Cast.word v := by
    cases alike.like with
    | null | bool b | int n | text s | bytes bs | kind k | converter c => rfl
    | _ => simp only [Cast.word, Cast.source?, kind]
  rw [same]
  exact alikeFixed fixed

theorem Alike.byte (alike : Alike P v v') : Alike P (Cast.byte v) (Cast.byte v') := by
  refine alike.index.andThen fun n n' same => ?_
  rw [same.still]
  exact alikeIf (alikeFixed fun _ => rfl) (alikeFixed fun _ => rfl)

end

namespace Mirrors

variable {R : Bond} {P : Pairing} {v v' : Value} {vs vs' : List Value} [Grows R]

theorem real (alike : Alike P v v') : Mirrors R P (Cast.real v) (Cast.real v') := by
  have word := alike.word
  have other : Mirrors R P
      (do return Value.float (← Action.newTag) (← ofExcept (Cast.word v)))
      (do return Value.float (← Action.newTag) (← ofExcept (Cast.word v'))) := by
    refine .newTag fun Q le t t' pairs => .bind (.except (word.mono le)) fun S more x x' same => ?_
    rw [same.still]
    exact .pure (Like.float (pairs.mono more) x).alike
  cases alike.like with
  | float pairs => exact .pure alike
  | _ => exact other

theorem bytesFrom (source : Alike P v v') (parts : Alike P vs vs') :
    Mirrors R P (Cast.bytesFrom v vs) (Cast.bytesFrom v' vs') := by
  induction vs generalizing P v v' vs' with
  | nil =>
    obtain ⟨_, rfl⟩ | ⟨_, _, _, _, wrong, _⟩ := parts.list
    · exact .pure (alikeStill _)
    · contradiction
  | cons u us ih =>
    obtain ⟨wrong, _⟩ | ⟨_, _, u', us', here, rfl, first, others⟩ := parts.list
    · contradiction
    · cases here
      refine .bind (.take source first) fun Q le _ _ _ => ?_
      refine .bind (.except (first.byte.mono le)) fun S more b b' same => ?_
      have all := le.trans more
      refine .bind (ih (source.mono all) (others.mono all)) fun _ _ bs bs' same' => ?_
      rw [same.still, same'.still]
      exact .pure (alikeStill _)

theorem bytes (alike : Alike P v v') : Mirrors R P (Cast.bytes v) (Cast.bytes v') := by
  have zeros (n : Int) : Mirrors R P
      (do return Value.bytes (← ofExcept (Cast.zeros n)))
      (do return Value.bytes (← ofExcept (Cast.zeros n))) := by
    have fixed : Alike P (Cast.zeros n) (Cast.zeros n) := alikeFixed fun ρ => by
      unfold Cast.zeros
      split
      · rfl
      split
      · rfl
      · exact congrArg Except.ok (renameStill _)
    refine .bind (.except fixed) fun _ _ bs bs' same => ?_
    rw [same.still]
    exact .pure (Like.bytes _).alike
  have kind := alike.kindOf
  have refused : Mirrors R P
      (Action.misuse (.told .wrongType
        ("cannot convert " ++ Misuse.quotedName v.kindOf.fullName ++ " object to bytes")) :
        Action Value)
      (Action.misuse (.told .wrongType
        ("cannot convert " ++ Misuse.quotedName v'.kindOf.fullName ++ " object to bytes"))) := by
    rw [kind]
    exact .refused fun _ => rfl
  have gathered {us us' : List Value} (parts : Alike P us us') : Mirrors R P
      (do return Value.bytes (← Cast.bytesFrom v us))
      (do return Value.bytes (← Cast.bytesFrom v' us')) := by
    refine .bind (.bytesFrom alike parts) fun _ _ bs bs' same => ?_
    rw [same.still]
    exact .pure (Like.bytes _).alike
  cases alike.like with
  | bytes bs => exact .pure alike
  | text s => exact .refused fun _ => rfl
  | int n => exact zeros n
  | bool b => exact zeros (if b then 1 else 0)
  | _ =>
    refine .world fun w w' twin bond => ?_
    obtain ⟨e, e'⟩ | ⟨us, us', e, e', parts⟩ := (twin.elements alike).option
    · rw [e, e']
      exact refused w w' twin bond
    · rw [e, e']
      exact gathered parts w w' twin bond

theorem tuple (alike : Alike P v v') : Mirrors R P (Cast.tuple v) (Cast.tuple v') := by
  have other : Mirrors R P (do Action.newTuple (← Action.elements v))
      (do Action.newTuple (← Action.elements v')) :=
    .bind (.elements alike) fun _ _ _ _ same => .newTuple same
  cases alike.like with
  | tuple pairs items => exact .pure alike
  | _ => exact other

end Mirrors

end FlowDouble
