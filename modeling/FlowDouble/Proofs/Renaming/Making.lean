import FlowDouble.Proofs.Renaming.Casting
import FlowDouble.Proofs.Renaming.Methods
/-! Things made from the values of a call, in twin worlds. Without named values nothing is put on what
is made. -/
namespace FlowDouble

variable {R : Bond} {P : Pairing} {v v' u u' : Value} {vs vs' : List Value} {f f' : Frame}

theorem Alike.general {es es' : Entries} (message : Alike P v v') (metadata : Alike P es es') :
    Alike P (Report.general v es) (Report.general v' es') :=
  message.map₂ (f := Report.general) (fun _ _ _ => rfl) metadata

theorem Twin.reportOf {w w' : World} (twin : Twin P w w') (k : Kind) (args : Alike P f f') :
    Alike P (k.report? w f) (k.report? w' f') := by
  have message := args.argument "message"
  have metadata := args.namedOf
  unfold Kind.report?
  cases k with
  | flowError => exact alikeSome (alikeOk (message.general metadata))
  | illegalState =>
    exact alikeSome (alikeOk (message.map₂ (f := Report.illegalState) (fun _ _ _ => rfl) metadata))
  | redirectNotRequested => exact alikeSome (twin.redirectNotRequested message metadata)
  | responseNotAllowed =>
    exact alikeSome (alikeOk (message.map₃ (f := Report.responseNotAllowed)
      Report.responseNotAllowedRenamed (args.argument "reason") metadata))
  | configuration => exact alikeSome (twin.configuration message (args.argument "field") metadata)
  | attributeNotFound =>
    exact alikeSome (twin.attributeNotFound message (args.argument "key") metadata)
  | attributeType =>
    exact alikeSome (twin.attributeType message (args.argument "key")
      (args.argument "expected_type") (args.argument "value") metadata)
  | _ => exact alikeNone

theorem makerPlain {k : Kind} {s : Signature} (found : k.maker? = some s) :
    ∀ p ∈ s.parameters, p.Plain := by
  refine plainParameters ?_
  unfold Kind.maker? at found
  split at found <;> cases found <;> rfl

namespace Mirrors

section
variable [Grows R]

theorem keepReport {told told' : Report} (report : Alike P told told') :
    Mirrors R P (Action.keep (.report told)) (Action.keep (.report told')) := by
  have fault : Alike P (Fault.report told) (.report told') := report.fault
  have kind : (Fault.report told').kind = (Fault.report told).kind := by
    rw [fault.renamed]
    exact Fault.kindRenamed _ _
  have arguments : Alike P (Fault.report told).arguments (Fault.report told').arguments :=
    fault.map fun ρ f => f.argumentsRenamed ρ
  have metadata := report.map (f := Report.metadata) fun _ _ => rfl
  refine .bind (.newTuple arguments) fun Q le row row' same => ?_
  refine .bind (.newDictionary (metadata.mono le)) fun S more kept kept' here => ?_
  rw [kind]
  have made := (report.mono (le.trans more)).map₃ (f := Raised.report) (fun _ _ _ _ => rfl) here
    (same.mono more)
  exact .newError _ made

theorem makeBare (k : Kind) (parts : Alike P vs vs') :
    Mirrors R P (k.makeBare ⟨vs, []⟩) (k.makeBare ⟨vs', []⟩) := by
  unfold Kind.makeBare
  dsimp only
  rw [parts.isEmpty]
  split
  · exact .pure Like.null.alike
  · exact .refused fun _ => rfl
  · exact .newToken
  · exact .refused fun _ => rfl
  · exact .refused fun _ => rfl

theorem makeFailure (k : Kind) (parts : Alike P vs vs') :
    Mirrors R P (k.makeFailure ⟨vs, []⟩) (k.makeFailure ⟨vs', []⟩) := by
  have made : Mirrors R P
      (do
        let e ← Action.newError k (.plain k (← Action.newTuple vs))
        Action.attachAll e []
        return e)
      (do
        let e ← Action.newError k (.plain k (← Action.newTuple vs'))
        Action.attachAll e []
        return e) := by
    refine .bind (.newTuple parts) fun Q le row row' same => ?_
    refine .bind (.newError k (same.map (f := Raised.plain k) fun _ _ => rfl)) fun S more e e' here => ?_
    exact .bind (.pure (alikeStill ())) fun T last _ _ _ => .pure (here.mono last)
  unfold Kind.makeFailure
  dsimp only
  cases k.failureNames <;> exact made

variable [Calls]

theorem makeFrom (k : Kind) (args : Alike P f f') : Mirrors R P (k.makeFrom f) (k.makeFrom f') := by
  have map {Q : Pairing} {m m' : ParameterMap} (same : Alike Q m m') :
      Mirrors R Q (Pure.pure (Value.parameters m)) (Pure.pure (Value.parameters m')) :=
    .pure (same.map fun _ _ => rfl)
  have refused : Mirrors R P (k.refuseMaking "() cannot be made" : Action Value)
      (k.refuseMaking "() cannot be made") := .refused fun _ => rfl
  have other := Mirrors.found (fun _ _ twin => twin.reportOf k args) refused fun _ _ report =>
    .bind (.except report) fun _ _ _ _ same => .keepReport same
  cases k with
  | attributes => exact .newAttributes false (args.argument "backing")
  | sharedAttributes => exact .newAttributes true (args.argument "backing")
  | parameters =>
    exact .bind (.createParameters false (args.argument "parameters")) fun _ _ _ _ same => map same
  | writableParameters =>
    exact .bind (.createParameters true (args.argument "parameters")) fun _ _ _ _ same => map same
  | upload =>
    refine .newTag fun Q le t t' pairs => .pure ?_
    have arg (name : String) := (args.argument name).mono le
    exact (Like.upload pairs (arg "name") (arg "content") (arg "original_filename")
      (arg "content_type")).alike
  | principal =>
    exact .newTag fun Q le t t' pairs =>
      .pure (Like.principal pairs ((args.argument "name").mono le)).alike
  | context =>
    exact .create (args.argument "request_parameter_map") fun Q le r r' pairs =>
      .pure (Like.context pairs).alike
  | _ => exact other

theorem make (k : Kind) (parts : Alike P vs vs') :
    Mirrors R P (k.make ⟨vs, []⟩) (k.make ⟨vs', []⟩) := by
  have args : Alike P (Arguments.mk vs []) ⟨vs', []⟩ :=
    parts.map (f := fun vs => Arguments.mk vs []) fun _ _ => rfl
  unfold Kind.make
  cases maker : k.maker? with
  | some s => exact .bind (.except (args.bound (makerPlain maker))) fun _ _ _ _ same => .makeFrom k same
  | none => exact .ite Iff.rfl (fun _ => .makeFailure k parts) fun _ => .makeBare k parts

omit [Calls] [Grows R] in
theorem castOne (k : Kind) {empty empty' : Action Value} {cast cast' : Value → Action Value}
    (none : Mirrors R P empty empty')
    (one : ∀ v v', Alike P v v' → Mirrors R P (cast v) (cast' v')) (parts : Alike P vs vs') :
    Mirrors R P (k.castOne empty cast ⟨vs, []⟩) (k.castOne empty' cast' ⟨vs', []⟩) := by
  obtain ⟨rfl, rfl⟩ | ⟨v, rest, v', rest', rfl, rfl, first, others⟩ := parts.list
  · exact none
  obtain ⟨rfl, rfl⟩ | ⟨u, more, u', more', rfl, rfl, second, last⟩ := others.list
  · exact one v v' first
  · have count := last.lengths
    simp only [Kind.castOne, List.length_cons, count]
    exact .refused fun _ => rfl

omit [Calls] [Grows R] in
theorem castWhole (parts : Alike P vs vs') :
    Mirrors R P (Kind.castWhole ⟨vs, []⟩) (Kind.castWhole ⟨vs', []⟩) := by
  obtain ⟨rfl, rfl⟩ | ⟨v, rest, v', rest', rfl, rfl, first, others⟩ := parts.list
  · exact .pure (Like.int 0).alike
  obtain ⟨rfl, rfl⟩ | ⟨u, more, u', more', rfl, rfl, second, last⟩ := others.list
  · refine .bind (.except first.whole) fun _ _ n n' same => ?_
    rw [same.still]
    exact .pure (Like.int n).alike
  obtain ⟨rfl, rfl⟩ | ⟨t, ends, t', ends', rfl, rfl, third, final⟩ := last.list
  · refine .bind (.except (second.wholeIn first)) fun _ _ n n' same => ?_
    rw [same.still]
    exact .pure (Like.int n).alike
  · have count := final.lengths
    simp only [Kind.castWhole, List.length_cons, count]
    exact .refused fun _ => rfl

theorem castDictionary (parts : Alike P vs vs') :
    Mirrors R P (Kind.castDictionary ⟨vs, []⟩) (Kind.castDictionary ⟨vs', []⟩) := by
  have ends {Q : Pairing} {x x' : Value} (made : Alike Q x x') :
      Mirrors R Q
        (Value.forPairs x.insertEntry (namedEntries []) >>= fun _ => Pure.pure x)
        (Value.forPairs x'.insertEntry (namedEntries []) >>= fun _ => Pure.pure x') :=
    .bind (.pure (alikeStill ())) fun _ le _ _ _ => .pure (made.mono le)
  obtain ⟨rfl, rfl⟩ | ⟨v, rest, v', rest', rfl, rfl, first, others⟩ := parts.list
  · exact .bind (.newDictionary alikeNil) fun _ _ _ _ same => ends same
  obtain ⟨rfl, rfl⟩ | ⟨u, more, u', more', rfl, rfl, second, last⟩ := others.list
  · exact .bind (.copied first) fun _ _ _ _ same => ends same
  · have count := last.lengths
    simp only [Kind.castDictionary, List.length_cons, count]
    exact .bind (.refused fun _ => rfl) fun _ _ _ _ same => ends same

theorem cast (k : Kind) (parts : Alike P vs vs') :
    Mirrors R P (k.cast ⟨vs, []⟩) (k.cast ⟨vs', []⟩) := by
  unfold Kind.cast
  cases k with
  | int => exact .castWhole parts
  | float =>
    exact .castOne _ (.newTag fun _ _ _ _ pairs => .pure (Like.float pairs 0).alike)
      (fun _ _ same => .real same) parts
  | text =>
    refine .castOne _ (.pure (Like.text "").alike) (fun v v' same => ?_) parts
    refine .bind (.shown same) fun _ _ s s' shown => ?_
    rw [shown.still]
    exact .pure (Like.text s).alike
  | bool =>
    refine .castOne _ (.pure (Like.bool false).alike) (fun v v' same => ?_) parts
    refine .bind (.truthy same) fun _ _ b b' given => ?_
    rw [given.still]
    exact .pure (Like.bool b).alike
  | list =>
    exact .castOne _ (.newList alikeNil)
      (fun _ _ same => .bind (.elements same) fun _ _ _ _ parts => .newList parts) parts
  | tuple => exact .castOne _ (.newTuple alikeNil) (fun _ _ same => .tuple same) parts
  | bytes => exact .castOne _ (.pure (Like.bytes []).alike) (fun _ _ same => .bytes same) parts
  | dictionary => exact .castDictionary parts
  | _ => exact .make _ parts

omit [Calls] [Grows R] in
theorem convert (c : Converter) (value : Alike P v v') :
    Mirrors R P (c.apply v) (c.apply v') := by
  cases c with
  | length =>
    refine .bind (.length value) fun _ _ n n' same => ?_
    rw [same.still]
    exact .pure (Like.int n).alike
  | hexadecimal =>
    refine .bind (.except ((Like.int 16).alike.wholeIn value)) fun _ _ n n' same => ?_
    rw [same.still]
    exact .pure (Like.int n).alike
  | discard => exact .pure Like.null.alike
  | identity => exact .pure value
  | refuseField =>
    exact .world fun w w' twin bond => Mirrors.refuseWith
      (twin.configuration (Like.text _).alike value alikeNil) w w' twin bond
  | refuseAttribute => exact .refuseType _ (Like.text _).alike (Like.kind _).alike value
  | missAttribute => exact .refuseMissing _ (Like.text _).alike alikeNil
  | _ => exact .throw (alikeFixed fun _ => rfl)

theorem applyPlain (alike : Alike P v v') (parts : Alike P vs vs') :
    Mirrors R P (v.applyPlain ⟨vs, []⟩) (v'.applyPlain ⟨vs', []⟩) := by
  have kind := alike.kindOf
  have other : Mirrors R P (Action.misuse (.notCallable v.kindOf) : Action Value)
      (Action.misuse (.notCallable v'.kindOf)) := by
    rw [kind]
    exact .refused fun _ => rfl
  cases alike.like with
  | kind k => exact .cast k parts
  | converter c =>
    obtain ⟨rfl, rfl⟩ | ⟨x, rest, x', rest', rfl, rfl, first, others⟩ := parts.list
    · cases c <;> exact .refused fun _ => rfl
    obtain ⟨rfl, rfl⟩ | ⟨u, more, u', more', rfl, rfl, second, last⟩ := others.list
    · exact .convert c first
    · have count := last.lengths
      cases c with
      | length =>
        simp only [Value.applyPlain, List.length_cons, count]
        exact .refused fun _ => rfl
      | _ => exact .refused fun _ => rfl
  | _ => exact other

end

end Mirrors

end FlowDouble
