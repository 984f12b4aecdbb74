import FlowDouble.Proofs.Renaming.Values
import FlowDouble.Report
/-! Entries, failures and contexts renamed. -/
namespace FlowDouble

variable (ρ : Renaming)

@[simp] theorem renameValue (v : Value) : rename ρ v = v.rename ρ := rfl

namespace Entries

theorem findRenamed (es : Entries) (k : Value) :
    find? (rename ρ k) (rename ρ es) = rename ρ (es.find? k) := by
  induction es with
  | nil => rfl
  | cons e es ih =>
    obtain ⟨key, v⟩ := e
    simp only [renameCons, renamePair, renameValue, find?, Value.sameKeyRenamed] at ih ⊢
    split
    · rfl
    · exact ih

theorem insertRenamed (es : Entries) (k v : Value) :
    insert (rename ρ k) (rename ρ v) (rename ρ es) = rename ρ (es.insert k v) := by
  induction es with
  | nil => rfl
  | cons e es ih =>
    obtain ⟨key, old⟩ := e
    simp only [renameCons, renamePair, renameValue, insert, Value.sameKeyRenamed] at ih ⊢
    split
    · rfl
    · rw [ih]
      rfl

theorem eraseRenamed (es : Entries) (k : Value) :
    erase (rename ρ k) (rename ρ es) = rename ρ (es.erase k) := by
  induction es with
  | nil => rfl
  | cons e es ih =>
    obtain ⟨key, old⟩ := e
    simp only [renameCons, renamePair, renameValue, erase, Value.sameKeyRenamed] at ih ⊢
    split
    · rfl
    · rw [ih]
      rfl

theorem keysRenamed (es : Entries) : keys (rename ρ es) = rename ρ es.keys := by
  simp only [keys, renameList, List.map_map]
  rfl

theorem insertAllRenamed (es : Entries) (pairs : List (Value × Value)) :
    insertAll (rename ρ es) (rename ρ pairs) = rename ρ (es.insertAll pairs) := by
  induction pairs generalizing es with
  | nil => rfl
  | cons p rest ih =>
    obtain ⟨k, v⟩ := p
    show insertAll (insert (rename ρ k) (rename ρ v) (rename ρ es)) (rename ρ rest) = _
    rw [insertRenamed, ih]
    rfl

end Entries

instance : Renames Misuse where
  rename ρ
    | .notSubscriptable v => .notSubscriptable (rename ρ v)
    | .noMember owner name => .noMember (rename ρ owner) name
    | m => m
  one m := by cases m <;> simp [Value.renameOne]
  mul ρ σ m := by cases m <;> simp [Value.renameMul]

instance : Renames Diagnosis where
  rename ρ
    | .responseNotAllowed reason => .responseNotAllowed (rename ρ reason)
    | .attributeNotFound key => .attributeNotFound (rename ρ key)
    | .attributeType key expected => .attributeType (rename ρ key) (rename ρ expected)
    | d => d
  one d := by cases d <;> simp [Value.renameOne]
  mul ρ σ d := by cases d <;> simp [Value.renameMul]

namespace Fault

mutual

protected def rename (ρ : Renaming) : Fault → Fault
  | report ⟨diagnosis, message, metadata, debug, suggestions, cause⟩ =>
    report ⟨rename ρ diagnosis, rename ρ message, rename ρ metadata, rename ρ debug,
      rename ρ suggestions, renameCause ρ cause⟩
  | missingKey key => missingKey (rename ρ key)
  | misuse m => misuse (rename ρ m)

def renameCause (ρ : Renaming) : Option Fault → Option Fault
  | none => none
  | some f => some (f.rename ρ)

end

mutual

theorem renameOne : ∀ f : Fault, f.rename 1 = f
  | report ⟨_, _, _, _, _, cause⟩ => by simp only [Fault.rename, Renames.one, renameCauseOne cause]
  | missingKey _ | misuse _ => by simp only [Fault.rename, Renames.one]

theorem renameCauseOne : ∀ cause : Option Fault, renameCause 1 cause = cause
  | none => rfl
  | some f => congrArg some f.renameOne

end

mutual

theorem renameMul (ρ σ : Renaming) : ∀ f : Fault, f.rename (ρ * σ) = (f.rename σ).rename ρ
  | report ⟨_, _, _, _, _, cause⟩ => by
    simp only [Fault.rename, Renames.mul, renameCauseMul ρ σ cause]
  | missingKey _ | misuse _ => by simp only [Fault.rename, Renames.mul]

theorem renameCauseMul (ρ σ : Renaming) :
    ∀ cause : Option Fault, renameCause (ρ * σ) cause = renameCause ρ (renameCause σ cause)
  | none => rfl
  | some f => congrArg some (f.renameMul ρ σ)

end

end Fault

instance : Renames Fault where
  rename := Fault.rename
  one := Fault.renameOne
  mul := Fault.renameMul

instance : Renames Report where
  rename ρ r :=
    { diagnosis := rename ρ r.diagnosis
      message := rename ρ r.message
      metadata := rename ρ r.metadata
      debug := rename ρ r.debug
      suggestions := rename ρ r.suggestions
      cause := rename ρ r.cause }
  one r := by
    cases r
    simp only [Renames.one]
  mul ρ σ r := by simp only [Renames.mul]

theorem renameReport (r : Report) : rename ρ (Fault.report r) = .report (rename ρ r) := by
  obtain ⟨_, _, _, _, _, cause⟩ := r
  cases cause <;> rfl

instance : Renames Context where
  rename ρ c :=
    { c with
      contextPath := rename ρ c.contextPath
      parameters := rename ρ c.parameters
      requestMap := rename ρ c.requestMap
      sessionMap := rename ρ c.sessionMap
      globalSessionMap := rename ρ c.globalSessionMap
      applicationMap := rename ρ c.applicationMap
      nativeContext := rename ρ c.nativeContext
      nativeRequest := rename ρ c.nativeRequest
      nativeResponse := rename ρ c.nativeResponse
      currentUser := rename ρ c.currentUser
      locale := rename ρ c.locale
      ajaxRequest := rename ρ c.ajaxRequest
      writer := ρ .writer c.writer
      redirectFlow := rename ρ c.redirectFlow
      redirectInput := rename ρ c.redirectInput
      externalUrl := rename ρ c.externalUrl }
  one c := by simp only [Renames.one]; rfl
  mul ρ σ c := by simp only [Renames.mul]; rfl

instance : Renames Raised where
  rename ρ
    | .report r metadata arguments => .report (rename ρ r) (rename ρ metadata) (rename ρ arguments)
    | .plain k arguments => .plain k (rename ρ arguments)
  one e := by cases e <;> simp only [Renames.one]
  mul ρ σ e := by cases e <;> simp only [Renames.mul]

instance : Renames Decorated where
  rename ρ d := ⟨d.handler, rename ρ d.layers⟩
  one d := by simp only [Renames.one]
  mul ρ σ d := by simp only [Renames.mul]

instance : Renames Stream := .still Stream

instance : Still Stream := ⟨fun _ _ => rfl⟩

theorem Misuse.kindRenamed (m : Misuse) : (rename ρ m).kind = m.kind := by
  cases m with
  | _ => rfl

theorem Misuse.textRenamed (m : Misuse) : (rename ρ m).text = m.text := by
  cases m with
  | notSubscriptable v =>
    have kind := v.kindOfRenamed ρ
    cases v with
    | kind k => rfl
    | _ =>
      exact congrArg (fun k : Kind => quotedName k.fullName ++ " object is not subscriptable") kind
  | noMember v name =>
    have kind := v.kindOfRenamed ρ
    cases v with
    | kind k => rfl
    | _ =>
      exact congrArg (fun k : Kind => quotedName k.fullName ++ " object has no attribute " ++
        quotedName name) kind
  | _ => rfl

theorem Misuse.ofKindRenamed (k : Kind) (name : String) :
    rename ρ (Misuse.ofKind k name) = Misuse.ofKind k name := by
  unfold Misuse.ofKind
  split
  · rfl
  · split <;> rfl

theorem Diagnosis.kindRenamed (d : Diagnosis) : (rename ρ d).kind = d.kind := by
  cases d with
  | _ => rfl

namespace Fault

theorem kindRenamed (f : Fault) : (rename ρ f).kind = f.kind := by
  cases f with
  | report r =>
    rw [renameReport]
    exact r.diagnosis.kindRenamed ρ
  | missingKey key => rfl
  | misuse m => exact m.kindRenamed ρ

theorem argumentsRenamed (f : Fault) : (rename ρ f).arguments = rename ρ f.arguments := by
  cases f with
  | report r =>
    rw [renameReport]
    rfl
  | missingKey key => cases key <;> rfl
  | misuse m =>
    show (if (rename ρ m).text.isEmpty then [] else [Value.text (rename ρ m).text]) =
      rename ρ (if m.text.isEmpty then [] else [Value.text m.text])
    rw [m.textRenamed]
    split
    · rfl
    · rfl

end Fault

theorem Alike.fault {P : Pairing} {r r' : Report} (alike : Alike P r r') :
    Alike P (Fault.report r) (.report r') :=
  alike.map (f := Fault.report) fun ρ r => (renameReport ρ r).symm

inductive LikeFault (P : Pairing) : Fault → Fault → Prop where
  | report {r r'} (alike : Alike P r r') : LikeFault P (.report r) (.report r')
  | missingKey {k k'} (alike : Alike P k k') : LikeFault P (.missingKey k) (.missingKey k')
  | misuse {m m'} (alike : Alike P m m') : LikeFault P (.misuse m) (.misuse m')

theorem Alike.likeFault {P : Pairing} {f f' : Fault} (alike : Alike P f f') : LikeFault P f f' := by
  obtain ⟨rfl, within⟩ := alike
  cases f with
  | report r =>
    rw [renameReport]
    exact .report ⟨rfl, fun ρ fixes =>
      Fault.report.inj ((renameReport ρ r).symm.trans (within ρ fixes))⟩
  | missingKey key => exact .missingKey ⟨rfl, fun ρ fixes => Fault.missingKey.inj (within ρ fixes)⟩
  | misuse m => exact .misuse ⟨rfl, fun ρ fixes => Fault.misuse.inj (within ρ fixes)⟩

theorem Report.causeKindRenamed (r : Report) :
    (rename ρ r).cause.map Fault.kind = r.cause.map Fault.kind := by
  show (r.cause.map (rename ρ)).map Fault.kind = _
  rw [Option.map_map]
  exact congrArg (r.cause.map ·) (funext (Fault.kindRenamed ρ))

end FlowDouble
