import FlowDouble.Proofs.Renaming.Worlds
/-! The single steps on a world: what is read from twins is alike, and what both make or change leaves
them twins. -/
namespace FlowDouble

section
variable {P : Pairing} {w w' : World} {r r' : Nat}

namespace Twin

theorem list (twin : Twin P w w') (pairs : P.Pairs .list r r') :
    Alike P (w.list r) (w'.list r') := by
  obtain ⟨c, c', found, found', alike⟩ := twin.cell pairs
  show Alike P (w.lists[r]?.getD default) (w'.lists[r']?.getD default)
  rw [show w.lists[r]? = some c from found, show w'.lists[r']? = some c' from found']
  exact alike

theorem dictionary (twin : Twin P w w') (pairs : P.Pairs .dictionary r r') :
    Alike P (w.dictionary r) (w'.dictionary r') := by
  obtain ⟨c, c', found, found', alike⟩ := twin.cell pairs
  show Alike P (w.dictionaries[r]?.getD default) (w'.dictionaries[r']?.getD default)
  rw [show w.dictionaries[r]? = some c from found, show w'.dictionaries[r']? = some c' from found']
  exact alike

theorem parameters {writable : Bool} (twin : Twin P w w') (pairs : P.Pairs .parameters r r') :
    Alike P (w.parameters ⟨writable, r⟩) (w'.parameters ⟨writable, r'⟩) := by
  obtain ⟨c, c', found, found', alike⟩ := twin.cell pairs
  show Alike P (w.parameterMaps[r]?.getD default) (w'.parameterMaps[r']?.getD default)
  rw [show w.parameterMaps[r]? = some c from found, show w'.parameterMaps[r']? = some c' from found']
  exact alike

theorem context (twin : Twin P w w') (pairs : P.Pairs .context r r') :
    Alike P (w.context r) (w'.context r') := by
  obtain ⟨c, c', found, found', alike⟩ := twin.cell pairs
  show Alike P (w.contexts[r]?.getD default) (w'.contexts[r']?.getD default)
  rw [show w.contexts[r]? = some c from found, show w'.contexts[r']? = some c' from found']
  exact alike

theorem written (twin : Twin P w w') (pairs : P.Pairs .writer r r') :
    w'.written r' = w.written r := by
  obtain ⟨c, c', found, found', alike⟩ := twin.cell pairs
  show w'.writers[r']?.getD default = w.writers[r]?.getD default
  rw [show w.writers[r]? = some c from found, show w'.writers[r']? = some c' from found']
  exact Alike.still (α := List String) alike

theorem stream (twin : Twin P w w') (pairs : P.Pairs .stream r r') :
    w'.stream r' = w.stream r := by
  obtain ⟨c, c', found, found', alike⟩ := twin.cell pairs
  show w'.streams[r']?.getD default = w.streams[r]?.getD default
  rw [show w.streams[r]? = some c from found, show w'.streams[r']? = some c' from found']
  exact Alike.still (α := Stream) alike

theorem error (twin : Twin P w w') (pairs : P.Pairs .error r r') :
    Alike P (w.error r) (w'.error r') := by
  obtain ⟨c, c', found, found', alike⟩ := twin.cell pairs
  show Alike P (w.errors[r]?.getD default) (w'.errors[r']?.getD default)
  rw [show w.errors[r]? = some c from found, show w'.errors[r']? = some c' from found']
  exact alike

theorem function (twin : Twin P w w') (pairs : P.Pairs .function r r') :
    Alike P (w.function r) (w'.function r') := by
  obtain ⟨c, c', found, found', alike⟩ := twin.cell pairs
  show Alike P (w.functions[r]?.getD default) (w'.functions[r']?.getD default)
  rw [show w.functions[r]? = some c from found, show w'.functions[r']? = some c' from found']
  exact alike

theorem unhidden (twin : Twin P w w') (v : Value) (name : String) :
    w.attachment? v name = none := by
  simp [World.attachment?, twin.bare]

theorem unhidden' (twin : Twin P w w') (v : Value) (name : String) :
    w'.attachment? v name = none := by
  simp [World.attachment?, twin.bare']

end Twin

end

namespace Mirrors

variable {R : Bond} {P : Pairing} {α : Type} [Renames α]

theorem misuse {m m' : Misuse} (alike : Alike P m m') :
    Mirrors R P (Action.misuse m : Action α) (Action.misuse m') :=
  .throw (alike.map fun _ _ => rfl)

theorem refused {m : Misuse} (plain : ∀ ρ, rename ρ m = m) :
    Mirrors R P (Action.misuse m : Action α) (Action.misuse m) :=
  .misuse ⟨(plain _).symm, fun ρ _ => plain ρ⟩

theorem answer [Calls] {v v' : Value} {name : String} {a a' : Arguments} {own own' : Action Value}
    (mirrors : Mirrors R P own own') : Mirrors R P (v.answer name a own) (v'.answer name a' own') := by
  intro w w' twin bond
  rw [Value.answerUnhidden (twin.unhidden v name), Value.answerUnhidden (twin.unhidden' v' name)]
  exact mirrors w w' twin bond

section
variable [Grows R]

theorem newTag {f f' : Nat → Action α}
    (next : ∀ Q, P ≤ Q → ∀ t t', Q.Pairs .tag t t' → Mirrors R Q (f t) (f' t')) :
    Mirrors R P (Action.newTag >>= f) (Action.newTag >>= f') := by
  intro w w' twin bond
  have counted (u : World) : u.tags = u.count .tag := (List.length_replicate).symm
  show Agrees R P (f w.tags (w.push .tag ())) (f' w'.tags (w'.push .tag ()))
  rw [counted, counted]
  have more : P ≤ P.pair .tag (w.count .tag) (w'.count .tag) := twin.grown
  have alike : Alike (α := Cell .tag) P () () := ⟨rfl, fun _ _ => rfl⟩
  exact (next _ more _ _ (P.pairsLast ..) _ _ (twin.push alike)
    (Grows.push bond twin alike)).later more

theorem newList {vs vs' : List Value} (alike : Alike P vs vs') :
    Mirrors R P (Action.newList vs) (Action.newList vs') :=
  .push (s := .list) alike fun _ _ _ _ pairs => (Like.list pairs).alike

theorem newDictionary {es es' : Entries} (alike : Alike P es es') :
    Mirrors R P (Action.newDictionary es) (Action.newDictionary es') :=
  .push (s := .dictionary) alike fun _ _ _ _ pairs => (Like.dictionary pairs).alike

theorem newParameters {es es' : Entries} (writable : Bool) (alike : Alike P es es') :
    Mirrors R P (Action.newParameters writable es) (Action.newParameters writable es') :=
  .push (s := .parameters) alike fun _ _ _ _ pairs =>
    ⟨congrArg (ParameterMap.mk writable) pairs.2.symm,
      fun _ fixes => congrArg (ParameterMap.mk writable) (pairs.fixed fixes)⟩

theorem newStream (content : List UInt8) :
    Mirrors R P (Action.newStream content) (Action.newStream content) :=
  .push (s := .stream) ⟨rfl, fun _ _ => rfl⟩ fun _ _ _ _ pairs => (Like.stream pairs).alike

theorem newError {e e' : Raised} (k : Kind) (alike : Alike P e e') :
    Mirrors R P (Action.newError k e) (Action.newError k e') :=
  .push (s := .error) alike fun _ _ _ _ pairs => (Like.error k pairs).alike

theorem newWriter {f f' : Nat → Action α}
    (next : ∀ Q, P ≤ Q → ∀ r r', Q.Pairs .writer r r' → Mirrors R Q (f r) (f' r')) :
    Mirrors R P (Action.newWriter >>= f) (Action.newWriter >>= f') := by
  intro w w' twin bond
  have more : P ≤ P.pair .writer (w.count .writer) (w'.count .writer) := twin.grown
  have alike : Alike (α := Cell .writer) P [] [] := ⟨rfl, fun _ _ => rfl⟩
  exact (next _ more _ _ (P.pairsLast ..) _ _ (twin.push alike)
    (Grows.push bond twin alike)).later more

theorem newContext {c c' : Context} {f f' : Nat → Action α} (alike : Alike P c c')
    (next : ∀ Q, P ≤ Q → ∀ r r', Q.Pairs .context r r' → Mirrors R Q (f r) (f' r')) :
    Mirrors R P (Action.newContext c >>= f) (Action.newContext c' >>= f') := by
  intro w w' twin bond
  have more : P ≤ P.pair .context (w.count .context) (w'.count .context) := twin.grown
  exact (next _ more _ _ (P.pairsLast ..) _ _ (twin.push (s := .context) alike)
    (Grows.push (s := .context) bond twin alike)).later more

theorem newTuple {vs vs' : List Value} (alike : Alike P vs vs') :
    Mirrors R P (Action.newTuple vs) (Action.newTuple vs') :=
  .newTag fun _ le _ _ pairs => .pure (Like.tuple pairs (alike.mono le)).alike

theorem newToken : Mirrors R P Action.newToken Action.newToken :=
  .newTag fun _ _ _ _ pairs => .pure (Like.token pairs).alike

theorem newPending : Mirrors R P Action.newPending Action.newPending :=
  .newTag fun _ _ _ _ pairs => .pure (Like.pending pairs).alike

theorem newAttributes {v v' : Value} (shared : Bool) (alike : Alike P v v') :
    Mirrors R P (Action.newAttributes shared v) (Action.newAttributes shared v') := by
  have named {Q : Pairing} {u u' : Value} (same : Alike Q u u') :
      Mirrors R Q (do return Value.attributes (← Action.newTag) shared u)
        (do return .attributes (← Action.newTag) shared u') :=
    .newTag fun _ le _ _ pairs => .pure (Like.attributes pairs shared (same.mono le)).alike
  refine .ite (by rw [alike.isNull]) (fun _ => ?_) fun _ => ?_
  · exact .bind (.newDictionary alikeNil) fun _ _ _ _ same => named same
  · exact named alike

end

end Mirrors

end FlowDouble
