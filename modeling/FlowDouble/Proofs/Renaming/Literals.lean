import FlowDouble.Proofs.Renaming.Binding
import FlowDouble.Proofs.Renaming.Copying
import FlowDouble.Script.Literal
/-! Values written down are made alike in twin worlds, where names stand for alike values. -/
namespace FlowDouble

variable {R : Bond} {P Q : Pairing} {look look' : String → Option Value}

theorem Alike.ofPairs {es es' : List (Value × Value)} (alike : Alike P es es') :
    Alike P (Entries.ofPairs es) (Entries.ofPairs es') :=
  alike.map fun ρ es => Entries.insertAllRenamed ρ [] es

theorem insertNamedRenamed (ρ : Renaming) (name : String) (v : Value)
    (named : List (String × Value)) :
    Literal.insertNamed name (rename ρ v) (rename ρ named) =
      rename ρ (Literal.insertNamed name v named) := by
  induction named with
  | nil => rfl
  | cons p rest ih =>
    obtain ⟨n, x⟩ := p
    simp only [Literal.insertNamed, renameCons, renamePair, renameStill]
    split
    · rfl
    · exact congrArg (List.cons (n, rename ρ x)) ih

theorem foldNamedAlike {ps ps' named named' : List (String × Value)} (pairs : Alike P ps ps')
    (start : Alike P named named') :
    Alike P (ps.foldl (fun out p => Literal.insertNamed p.1 p.2 out) named)
      (ps'.foldl (fun out p => Literal.insertNamed p.1 p.2 out) named') := by
  induction ps generalizing ps' named named' with
  | nil =>
    obtain ⟨_, rfl⟩ | ⟨_, _, _, _, wrong, _⟩ := pairs.list
    · exact start
    · contradiction
  | cons p rest ih =>
    obtain ⟨wrong, _⟩ | ⟨_, _, p', rest', here, rfl, first, others⟩ := pairs.list
    · contradiction
    · cases here
      have name : p'.1 = p.1 := first.fst.still
      rw [List.foldl_cons, List.foldl_cons, name]
      refine ih others ?_
      exact first.snd.map₂ (f := Literal.insertNamed p.1)
        (fun ρ v named => insertNamedRenamed ρ p.1 v named) start

theorem zipAlike (names : List String) {vs vs' : List Value} (parts : Alike P vs vs') :
    Alike P (names.zip vs) (names.zip vs') := by
  induction names generalizing vs vs' with
  | nil => exact alikeNil
  | cons name names ih =>
    obtain ⟨rfl, rfl⟩ | ⟨v, rest, v', rest', rfl, rfl, first, others⟩ := parts.list
    · exact alikeNil
    · exact alikeCons (alikePair (alikeStill name) first) (ih others)

def Looks (P : Pairing) (look look' : String → Option Value) : Prop :=
  ∀ name, Alike P (look name) (look' name)

theorem Looks.mono (looks : Looks P look look') (le : P ≤ Q) : Looks Q look look' :=
  fun name => (looks name).mono le

namespace Mirrors

def Stands (R : Bond) (P : Pairing) (stands stands' : String → Action Value) : Prop :=
  ∀ Q, P ≤ Q → ∀ name, Mirrors R Q (stands name) (stands' name)

theorem Stands.mono {stands stands' : String → Action Value} (same : Stands R P stands stands')
    (le : P ≤ Q) : Stands R Q stands stands' := fun _ more => same _ (le.trans more)

theorem looksStand (looks : Looks P look look') :
    Stands R P (Literal.lookUp look) (Literal.lookUp look') := by
  intro Q le name
  unfold Literal.lookUp
  obtain ⟨e, e'⟩ | ⟨v, v', e, e', found⟩ := (looks name).option
  · rw [e, e']
    exact .throw (alikeFixed fun _ => rfl)
  · rw [e, e']
    exact .pure (found.mono le)

theorem leaveStands [Grows R] : Stands R P Literal.leave Literal.leave :=
  fun _ _ _ => .newDictionary (alikeFixed fun _ => rfl)

mutual

theorem literal [Grows R] : ∀ (l : Literal) {P : Pairing}
    {stands stands' : String → Action Value}, Stands R P stands stands' →
    Mirrors R P (l.make stands) (l.make stands')
  | .null, _, _, _, _ => .pure Like.null.alike
  | .bool b, _, _, _, _ => .pure (Like.bool b).alike
  | .int n, _, _, _, _ => .pure (Like.int n).alike
  | .float w, _, _, _, _ => .newTag fun _ _ _ _ pairs => .pure (Like.float pairs w).alike
  | .text s, _, _, _, _ => .pure (Like.text s).alike
  | .bytes bs, _, _, _, _ => .pure (Like.bytes bs).alike
  | .list items, _, _, _, same => .bind (literals items same) fun _ _ _ _ parts => .newList parts
  | .tuple items, _, _, _, same => .bind (literals items same) fun _ _ _ _ parts => .newTuple parts
  | .dictionary entries, _, _, _, same =>
    .bind (literalPairs entries same) fun _ _ _ _ pairs => .newDictionary pairs.ofPairs
  | .upload n c o t, _, _, _, _ => by
    refine .bind (literal n leaveStands) fun Q le _ _ name => ?_
    refine .bind (literal c leaveStands) fun S le₁ _ _ content => ?_
    refine .bind (literal o leaveStands) fun T le₂ _ _ original => ?_
    refine .bind (literal t leaveStands) fun U le₃ _ _ type => ?_
    refine .newTag fun V le₄ _ _ pairs => .pure ?_
    exact (Like.upload pairs (name.mono (le₁.trans (le₂.trans (le₃.trans le₄))))
      (content.mono (le₂.trans (le₃.trans le₄))) (original.mono (le₃.trans le₄))
      (type.mono le₄)).alike
  | .principal n, _, _, _, _ => .bind (literal n leaveStands) fun _ _ _ _ name =>
    .newTag fun _ le _ _ pairs => .pure (Like.principal pairs (name.mono le)).alike
  | .token, _, _, _, _ => .newToken
  | .kind k, _, _, _, _ => .pure (Like.kind k).alike
  | .converter c, _, _, _, _ => .pure (Like.converter c).alike
  | .bound name, _, _, _, same => same _ le_rfl name

theorem literals [Grows R] : ∀ (ls : List Literal) {P : Pairing}
    {stands stands' : String → Action Value}, Stands R P stands stands' →
    Mirrors R P (Literal.makeAll stands ls) (Literal.makeAll stands' ls)
  | [], _, _, _, _ => .pure alikeNil
  | l :: ls, _, _, _, same => .bind (literal l same) fun _ le _ _ first =>
    .bind (literals ls (same.mono le)) fun _ more _ _ rest =>
      .pure (alikeCons (first.mono more) rest)

theorem literalPairs [Grows R] : ∀ (ls : List (Literal × Literal)) {P : Pairing}
    {stands stands' : String → Action Value}, Stands R P stands stands' →
    Mirrors R P (Literal.makePairs stands ls) (Literal.makePairs stands' ls)
  | [], _, _, _, _ => .pure alikeNil
  | (k, l) :: ls, _, _, _, same => by
    refine .bind (literal k same) fun Q le _ _ key => ?_
    refine .bind (literal l (same.mono le)) fun S le₁ _ _ value => ?_
    refine .bind (.requireHashable (key.mono le₁)) fun T le₂ _ _ _ => ?_
    have all := (le.trans le₁).trans le₂
    refine .bind (literalPairs ls (same.mono all)) fun U le₃ _ _ rest => ?_
    exact .pure (alikeCons (alikePair (key.mono (le₁.trans (le₂.trans le₃)))
      (value.mono (le₂.trans le₃))) rest)

end

section
variable [Grows R]

theorem build (l : Literal) (looks : Looks P look look') :
    Mirrors R P (l.build look) (l.build look') := literal l (looksStand looks)

theorem buildAll (ls : List Literal) (looks : Looks P look look') :
    Mirrors R P (Literal.buildAll look ls) (Literal.buildAll look' ls) :=
  literals ls (looksStand looks)

theorem buildNamed (looks : Looks P look look') (named : List (String × Literal)) :
    Mirrors R P (Literal.buildNamed look named) (Literal.buildNamed look' named) :=
  .bind (.buildAll _ looks) fun _ _ _ _ parts =>
    .pure (foldNamedAlike (zipAlike _ parts) alikeNil)

theorem buildCall (looks : Looks P look look') (c : LiteralCall) :
    Mirrors R P (c.build look) (c.build look') :=
  .bind (.buildAll _ looks) fun _ le _ _ placed =>
    .bind (.buildNamed (looks.mono le) _) fun _ more _ _ named =>
      .pure ((placed.mono more).map₂ (f := Arguments.mk) (fun _ _ _ => rfl) named)

end

end Mirrors

end FlowDouble
