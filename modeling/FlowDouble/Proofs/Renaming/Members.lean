import FlowDouble.Proofs.Renaming.Methods
/-! Members of values in twin worlds: what is read, what is lacking, and operations that are asked
for through their kind. -/
namespace FlowDouble

theorem readsFailure (r : Nat) (member : String) (w : World) :
    Raised.read? r member w = (match w.error r with
      | .report told metadata arguments =>
        if member = "args" then pure (some arguments)
        else Raised.readReport? told metadata member
      | .plain _ arguments => if member = "args" then pure (some arguments) else pure none :
        Action (Option Value)) w := by
  unfold Raised.read?
  rw [Action.worldBind]
  cases w.error r with
  | report told metadata arguments =>
    by_cases all : member = "args"
    · subst all
      rfl
    · split <;> simp_all
  | plain k arguments =>
    by_cases all : member = "args"
    · subst all
      rfl
    · split <;> simp_all

section
variable [Calls] (t : Nat) (n c o y b : Value) (name : String)

theorem lockCarried : (Value.attributes t true b).carried? name =
    if name = "mutex" then pure (some (.lock t)) else pure none := by
  by_cases mutex : name = "mutex"
  · subst mutex
    rfl
  · rw [if_neg mutex]
    unfold Value.carried?
    split <;> first | contradiction | rfl

theorem principalCarried : (Value.principal t n).carried? name =
    if name = "name" then pure (some n) else pure none := by
  by_cases named : name = "name"
  · subst named
    rfl
  · rw [if_neg named]
    unfold Value.carried?
    split <;> first | contradiction | simp_all

theorem uploadCarried : (Value.upload t n c o y).carried? name =
    if name = "name" then pure (some n)
    else if name = "content" then pure (some c)
    else if name = "original_filename" then pure (some o)
    else if name = "content_type" then pure (some y)
    else if name = "size" then do return some (← Upload.size c)
    else pure none := by
  by_cases named : name = "name"
  · subst named
    rfl
  by_cases content : name = "content"
  · subst content
    rfl
  by_cases original : name = "original_filename"
  · subst original
    rfl
  by_cases type : name = "content_type"
  · subst type
    rfl
  by_cases size : name = "size"
  · subst size
    rfl
  rw [if_neg named, if_neg content, if_neg original, if_neg type, if_neg size]
  unfold Value.carried?
  split <;> first | contradiction | simp_all

end

theorem facetPlain {α : Type} {name : String} {ask : Facet → α} {m : Method α}
    (found : facetMethod? name ask = some m) :
    m.signature.parameters.all Parameter.isPlain = true := by
  unfold facetMethod? at found
  split at found <;> cases found <;> rfl

theorem attributesPlain {name : String} {m : Method Attributes.Operation}
    (found : Attributes.method? name = some m) :
    m.signature.parameters.all Parameter.isPlain = true := by
  unfold Attributes.method? at found
  split at found <;> first | exact facetPlain found | (cases found; rfl)

theorem parametersPlain {writable : Bool} {name : String} {m : Method ParameterMap.Operation}
    (found : ParameterMap.method? writable name = some m) :
    m.signature.parameters.all Parameter.isPlain = true := by
  unfold ParameterMap.method? at found
  split at found <;> first
    | exact facetPlain found
    | (cases found; rfl)
    | split at found <;> first | contradiction | (cases found; rfl)

theorem plainSignature {k : Kind} {name : String} {s : Signature}
    (found : k.signature? name = some s) : s.parameters.all Parameter.isPlain = true := by
  unfold Kind.signature? at found
  split at found
  · obtain ⟨m, here, rfl⟩ := Option.map_eq_some_iff.mp found
    exact attributesPlain here
  · obtain ⟨m, here, rfl⟩ := Option.map_eq_some_iff.mp found
    exact attributesPlain here
  · obtain ⟨m, here, rfl⟩ := Option.map_eq_some_iff.mp found
    exact parametersPlain here
  · obtain ⟨m, here, rfl⟩ := Option.map_eq_some_iff.mp found
    exact parametersPlain here
  · obtain ⟨m, here, rfl⟩ := Option.map_eq_some_iff.mp found
    unfold Context.method? at here
    split at here <;> cases here <;> rfl
  · obtain ⟨m, here, rfl⟩ := Option.map_eq_some_iff.mp found
    unfold Upload.method? at here
    split at here <;> cases here <;> rfl
  · split at found
    · obtain ⟨m, here, rfl⟩ := Option.map_eq_some_iff.mp found
      unfold Raised.method? at here
      split at here <;> cases here <;> rfl
    · contradiction

section
variable {R : Bond} {P : Pairing} {v v' u u' : Value} {r r' : Nat} [Calls]

namespace Mirrors

section
variable [Grows R]

omit [Calls] in
theorem readReport {told told' : Report} (report : Alike P told told') (metadata : Alike P v v')
    (member : String) :
    Mirrors R P (Raised.readReport? told v member) (Raised.readReport? told' v' member) := by
  have message := report.map (f := Report.message) fun _ _ => rfl
  have hints := report.map (f := Report.suggestions) fun _ _ => rfl
  have notes := report.map (f := Report.debug) fun _ _ => rfl
  have diagnosis := report.map (f := Report.diagnosis) fun _ _ => rfl
  unfold Raised.readReport?
  split
  · exact .pure (alikeSome message)
  · exact .pure (alikeSome metadata)
  · exact .bind (.newList hints) fun _ _ _ _ same => .pure (alikeSome same)
  · exact .bind (.newDictionary notes) fun _ _ _ _ same => .pure (alikeSome same)
  · exact .pure (diagnosis.map (f := fun d => d.detail? member) fun ρ d => detailRenamed ρ d member)

omit [Calls] in
theorem readFailure (pairs : P.Pairs .error r r') (member : String) :
    Mirrors R P (Raised.read? r member) (Raised.read? r' member) := by
  intro w w' twin bond
  rw [readsFailure, readsFailure]
  obtain ⟨told, told', metadata, metadata', arguments, arguments', held, held', report, rest⟩ |
    ⟨k, arguments, arguments', held, held', same⟩ := (twin.error pairs).raised
  · rw [held, held']
    exact Mirrors.ite Iff.rfl (fun _ => .pure (alikeSome rest.2))
      (fun _ => .readReport report rest.1 member) w w' twin bond
  · rw [held, held']
    exact Mirrors.ite Iff.rfl (fun _ => .pure (alikeSome same))
      (fun _ => .pure alikeNone) w w' twin bond

omit [Grows R] in
theorem contextMember (pairs : P.Pairs .context r r') (name : String) :
    Mirrors R P ((Value.context r).carried? name) ((Value.context r').carried? name) := by
  simp only [Value.carried?, Context.member?]
  cases Setting.named? name with
  | some s =>
    exact .bind (.readSetting pairs s) fun _ _ _ _ same => .pure (alikeSome same)
  | none =>
    cases Context.Reading.named? name with
    | none => exact .pure alikeNone
    | some g => exact .bind (.read pairs g) fun _ _ _ _ same => .pure (alikeSome same)

theorem carried (alike : Alike P v v') (name : String) :
    Mirrors R P (v.carried? name) (v'.carried? name) := by
  have nothing : Mirrors R P (Pure.pure none : Action (Option Value)) (Pure.pure none) :=
    .pure alikeNone
  have one {x x' : Value} (same : Alike P x x') :
      Mirrors R P (Pure.pure (some x) : Action (Option Value)) (Pure.pure (some x')) :=
    .pure (alikeSome same)
  cases alike.like with
  | context pairs => exact .contextMember pairs name
  | error k pairs => exact .readFailure pairs name
  | attributes pairs shared backing =>
    cases shared with
    | false => exact nothing
    | true =>
      rw [lockCarried, lockCarried]
      exact .ite Iff.rfl (fun _ => one (Like.lock pairs).alike) fun _ => nothing
  | upload pairs n content original type =>
    rw [uploadCarried, uploadCarried]
    refine .ite Iff.rfl (fun _ => one n) fun _ => ?_
    refine .ite Iff.rfl (fun _ => one content) fun _ => ?_
    refine .ite Iff.rfl (fun _ => one original) fun _ => ?_
    refine .ite Iff.rfl (fun _ => one type) fun _ => .ite Iff.rfl (fun _ => ?_) fun _ => nothing
    refine .bind (.bind (.length content) fun _ _ _ _ size => ?_) fun _ _ _ _ same =>
      .pure (alikeSome same)
    rw [size.still]
    exact .pure (Like.int _).alike
  | principal pairs n =>
    rw [principalCarried, principalCarried]
    exact .ite Iff.rfl (fun _ => one n) fun _ => nothing
  | _ => exact nothing

omit [Calls] [Grows R] in
theorem lacking (alike : Alike P v v') (name : String) :
    Mirrors R P (v.lacking name) (v'.lacking name) := by
  have missing : Alike P (Misuse.noMember v name) (.noMember v' name) :=
    alike.map (f := fun v => Misuse.noMember v name) fun _ _ => rfl
  refine .ite Iff.rfl (fun _ => .asked fun _ _ twin => twin.kindName alike) fun _ => ?_
  cases alike.like with
  | error k pairs =>
    exact .ite Iff.rfl (fun _ => .pure Like.null.alike) fun _ => .misuse missing
  | _ => exact .misuse missing

variable [Heeds R]

theorem getMember (alike : Alike P v v') (name : String) :
    Mirrors R P (v.getMember name) (v'.getMember name) := by
  unfold Value.getMember
  refine .bind (.carried alike name) fun Q le x x' same => ?_
  refine .world fun w w' twin bond => ?_
  rw [twin.unhidden, twin.unhidden']
  obtain ⟨rfl, rfl⟩ | ⟨x, x', rfl, rfl, found⟩ := same.option
  · refine Mirrors.ite (by rw [alike.hasOperation R]) (fun _ => ?_) (fun _ => ?_) w w' twin bond
    · exact .newTag fun S more _ _ pairs =>
        .pure (Like.operation pairs (alike.mono (le.trans more)) name).alike
    · exact .lacking (alike.mono le) name
  · exact Mirrors.pure found w w' twin bond

theorem performAs (k : Kind) {s : Signature} (plain : s.parameters.all Parameter.isPlain = true)
    (name : String) {a a' : Arguments} (args : Alike P a a') :
    Mirrors R P (Value.performAs k s name a) (Value.performAs k s name a') := by
  have placed := args.map (f := Arguments.placed) fun _ _ => rfl
  have named := args.map (f := Arguments.named) fun _ _ => rfl
  have exposed : ∀ p ∈ s.exposed.parameters, p.Plain := by
    intro p there
    rcases List.mem_cons.mp there with rfl | there
    · exact trivial
    · exact plainParameters plain p there
  unfold Value.performAs
  obtain ⟨rest, rest'⟩ | ⟨v, rest, v', rest', e, e', receiver, others⟩ := placed.list
  · rw [rest, rest']
    exact .refused fun _ => rfl
  · rw [e, e']
    refine .bind (.except (args.bound exposed)) fun Q le _ _ _ => ?_
    refine .ite (by unfold Value.isA; rw [receiver.kindOf]) (fun _ => ?_) fun _ => ?_
    · have given := (others.map₂ (f := Arguments.mk) (fun _ _ _ => rfl) named).mono le
      exact .perform (receiver.mono le) name given
    · exact .misuse ((receiver.mono le).map (f := fun v => Misuse.noMember v name) fun _ _ => rfl)

theorem applyOperation (owner : Alike P v v') (name : String) {a a' : Arguments}
    (args : Alike P a a') :
    Mirrors R P (v.applyOperation name a) (v'.applyOperation name a') := by
  cases owner.like with
  | kind k =>
    simp only [Value.applyOperation]
    split
    · rename_i found
      exact .performAs k (plainSignature found) name args
    · exact .misuse (owner.map (f := fun v => Misuse.noMember v name) fun _ _ => rfl)
  | _ => exact .perform owner name args

end

end Mirrors

end

end FlowDouble
