import FlowDouble.Content
import FlowDouble.Proofs.Keys
import FlowDouble.Proofs.Renaming.Support
/-! Values renamed. What is asked of a value alone, its kind, whether it can be a key, which other key
it equals, does not depend on what its references and tags are. -/
namespace FlowDouble

@[simp] theorem partnerEqual (e : Equiv.Perm Nat) (r s : Nat) : (e r == e s) = (r == s) := by
  by_cases same : r = s <;> simp [same]

instance : Renames ParameterMap where
  rename ρ m := ⟨m.writable, ρ .parameters m.ref⟩
  one _ := rfl
  mul _ _ _ := rfl

namespace Value

mutual

def rename (ρ : Renaming) : Value → Value
  | null => null
  | bool b => bool b
  | int n => int n
  | float tag word => float (ρ .tag tag) word
  | text s => text s
  | bytes bs => bytes bs
  | tuple tag vs => tuple (ρ .tag tag) (renameAll ρ vs)
  | upload tag n c o t =>
    upload (ρ .tag tag) (n.rename ρ) (c.rename ρ) (o.rename ρ) (t.rename ρ)
  | principal tag n => principal (ρ .tag tag) (n.rename ρ)
  | attributes tag shared backing => attributes (ρ .tag tag) shared (backing.rename ρ)
  | parameters m => parameters (Renames.rename ρ m)
  | list r => list (ρ .list r)
  | dictionary r => dictionary (ρ .dictionary r)
  | context r => context (ρ .context r)
  | writer r => writer (ρ .writer r)
  | stream r => stream (ρ .stream r)
  | error k r => error k (ρ .error r)
  | token tag => token (ρ .tag tag)
  | lock tag => lock (ρ .tag tag)
  | kind k => kind k
  | converter c => converter c
  | function r => function (ρ .function r)
  | operation tag owner name => operation (ρ .tag tag) (owner.rename ρ) name
  | facet tag f map => facet (ρ .tag tag) f (map.rename ρ)
  | pending tag => pending (ρ .tag tag)

def renameAll (ρ : Renaming) : List Value → List Value
  | [] => []
  | v :: vs => v.rename ρ :: renameAll ρ vs

end

mutual

theorem renameOne : ∀ v : Value, v.rename 1 = v
  | tuple _ vs => by simp [rename, renameAllOne vs]
  | upload _ n c o t => by simp [rename, n.renameOne, c.renameOne, o.renameOne, t.renameOne]
  | principal _ n => by simp [rename, n.renameOne]
  | attributes _ _ backing => by simp [rename, backing.renameOne]
  | operation _ owner _ => by simp [rename, owner.renameOne]
  | facet _ _ map => by simp [rename, map.renameOne]
  | null | bool _ | int _ | float .. | text _ | bytes _ | parameters _ | list _ | dictionary _
  | context _ | writer _ | stream _ | error .. | token _ | lock _ | kind _ | converter _
  | function _ | pending _ => rfl

theorem renameAllOne : ∀ vs : List Value, renameAll 1 vs = vs
  | [] => rfl
  | v :: vs => by simp [renameAll, v.renameOne, renameAllOne vs]

end

mutual

theorem renameMul (ρ σ : Renaming) : ∀ v : Value, v.rename (ρ * σ) = (v.rename σ).rename ρ
  | tuple _ vs => by simp [rename, renameAllMul ρ σ vs]
  | upload _ n c o t => by
    simp [rename, n.renameMul ρ σ, c.renameMul ρ σ, o.renameMul ρ σ, t.renameMul ρ σ]
  | principal _ n => by simp [rename, n.renameMul ρ σ]
  | attributes _ _ backing => by simp [rename, backing.renameMul ρ σ]
  | operation _ owner _ => by simp [rename, owner.renameMul ρ σ]
  | facet _ _ map => by simp [rename, map.renameMul ρ σ]
  | null | bool _ | int _ | float .. | text _ | bytes _ | parameters _ | list _ | dictionary _
  | context _ | writer _ | stream _ | error .. | token _ | lock _ | kind _ | converter _
  | function _ | pending _ => rfl

theorem renameAllMul (ρ σ : Renaming) :
    ∀ vs : List Value, renameAll (ρ * σ) vs = renameAll ρ (renameAll σ vs)
  | [] => rfl
  | v :: vs => by simp [renameAll, v.renameMul ρ σ, renameAllMul ρ σ vs]

end

instance : Renames Value where
  rename := Value.rename
  one := renameOne
  mul := renameMul

theorem renameEach (ρ : Renaming) (vs : List Value) : renameAll ρ vs = Renames.rename ρ vs := by
  induction vs with
  | nil => rfl
  | cons v vs ih => simp only [renameAll, ih]; rfl

end Value

inductive Like (P : Pairing) : Value → Value → Prop where
  | null : Like P .null .null
  | bool (b : Bool) : Like P (.bool b) (.bool b)
  | int (n : Int) : Like P (.int n) (.int n)
  | float {tag tag'} (pairs : P.Pairs .tag tag tag') (word : UInt64) :
      Like P (.float tag word) (.float tag' word)
  | text (s : String) : Like P (.text s) (.text s)
  | bytes (bs : List UInt8) : Like P (.bytes bs) (.bytes bs)
  | tuple {tag tag' vs vs'} (pairs : P.Pairs .tag tag tag') (items : Alike P vs vs') :
      Like P (.tuple tag vs) (.tuple tag' vs')
  | upload {tag tag' n n' c c' o o' t t'} (pairs : P.Pairs .tag tag tag')
      (name : Alike P n n') (content : Alike P c c') (originalName : Alike P o o')
      (contentType : Alike P t t') : Like P (.upload tag n c o t) (.upload tag' n' c' o' t')
  | principal {tag tag' n n'} (pairs : P.Pairs .tag tag tag') (name : Alike P n n') :
      Like P (.principal tag n) (.principal tag' n')
  | attributes {tag tag' b b'} (pairs : P.Pairs .tag tag tag') (shared : Bool)
      (backing : Alike P b b') : Like P (.attributes tag shared b) (.attributes tag' shared b')
  | parameters {r r'} (writable : Bool) (pairs : P.Pairs .parameters r r') :
      Like P (.parameters ⟨writable, r⟩) (.parameters ⟨writable, r'⟩)
  | list {r r'} (pairs : P.Pairs .list r r') : Like P (.list r) (.list r')
  | dictionary {r r'} (pairs : P.Pairs .dictionary r r') : Like P (.dictionary r) (.dictionary r')
  | context {r r'} (pairs : P.Pairs .context r r') : Like P (.context r) (.context r')
  | writer {r r'} (pairs : P.Pairs .writer r r') : Like P (.writer r) (.writer r')
  | stream {r r'} (pairs : P.Pairs .stream r r') : Like P (.stream r) (.stream r')
  | error (k : Kind) {r r'} (pairs : P.Pairs .error r r') : Like P (.error k r) (.error k r')
  | token {tag tag'} (pairs : P.Pairs .tag tag tag') : Like P (.token tag) (.token tag')
  | lock {tag tag'} (pairs : P.Pairs .tag tag tag') : Like P (.lock tag) (.lock tag')
  | kind (k : Kind) : Like P (.kind k) (.kind k)
  | converter (c : Converter) : Like P (.converter c) (.converter c)
  | function {r r'} (pairs : P.Pairs .function r r') : Like P (.function r) (.function r')
  | operation {tag tag' v v'} (pairs : P.Pairs .tag tag tag') (owner : Alike P v v')
      (name : String) : Like P (.operation tag v name) (.operation tag' v' name)
  | facet {tag tag' v v'} (pairs : P.Pairs .tag tag tag') (f : Facet) (map : Alike P v v') :
      Like P (.facet tag f v) (.facet tag' f v')
  | pending {tag tag'} (pairs : P.Pairs .tag tag tag') : Like P (.pending tag) (.pending tag')

section
variable {P : Pairing} {v v' u u' : Value}

theorem Pairing.pairsOf {s : Store} {r : Nat} (fixed : ∀ ρ, Fixes P.domain ρ → ρ s r = r) :
    P.Pairs s r (P.partner s r) := ⟨P.domainOf fixed, rfl⟩

theorem Alike.like (alike : Alike P v v') : Like P v v' := by
  obtain ⟨rfl, within⟩ := alike
  cases v with
  | null => exact .null
  | bool b => exact .bool b
  | int n => exact .int n
  | float tag word => exact .float (P.pairsOf fun ρ fixes => (Value.float.inj (within ρ fixes)).1) word
  | text s => exact .text s
  | bytes bs => exact .bytes bs
  | tuple tag vs =>
    have parts ρ (fixes : Fixes P.domain ρ) := Value.tuple.inj (within ρ fixes)
    refine .tuple (P.pairsOf fun ρ fixes => (parts ρ fixes).1) ⟨Value.renameEach _ vs, ?_⟩
    exact fun ρ fixes => (Value.renameEach ρ vs).symm.trans (parts ρ fixes).2
  | upload tag n c o t =>
    have parts ρ (fixes : Fixes P.domain ρ) := Value.upload.inj (within ρ fixes)
    exact .upload (P.pairsOf fun ρ fixes => (parts ρ fixes).1)
      ⟨rfl, fun ρ fixes => (parts ρ fixes).2.1⟩ ⟨rfl, fun ρ fixes => (parts ρ fixes).2.2.1⟩
      ⟨rfl, fun ρ fixes => (parts ρ fixes).2.2.2.1⟩ ⟨rfl, fun ρ fixes => (parts ρ fixes).2.2.2.2⟩
  | principal tag n =>
    have parts ρ (fixes : Fixes P.domain ρ) := Value.principal.inj (within ρ fixes)
    exact .principal (P.pairsOf fun ρ fixes => (parts ρ fixes).1)
      ⟨rfl, fun ρ fixes => (parts ρ fixes).2⟩
  | attributes tag shared backing =>
    have parts ρ (fixes : Fixes P.domain ρ) := Value.attributes.inj (within ρ fixes)
    exact .attributes (P.pairsOf fun ρ fixes => (parts ρ fixes).1) shared
      ⟨rfl, fun ρ fixes => (parts ρ fixes).2.2⟩
  | parameters m =>
    exact .parameters m.writable (P.pairsOf fun ρ fixes =>
      (ParameterMap.mk.inj (Value.parameters.inj (within ρ fixes))).2)
  | list r => exact .list (P.pairsOf fun ρ fixes => Value.list.inj (within ρ fixes))
  | dictionary r =>
    exact .dictionary (P.pairsOf fun ρ fixes => Value.dictionary.inj (within ρ fixes))
  | context r => exact .context (P.pairsOf fun ρ fixes => Value.context.inj (within ρ fixes))
  | writer r => exact .writer (P.pairsOf fun ρ fixes => Value.writer.inj (within ρ fixes))
  | stream r => exact .stream (P.pairsOf fun ρ fixes => Value.stream.inj (within ρ fixes))
  | error k r => exact .error k (P.pairsOf fun ρ fixes => (Value.error.inj (within ρ fixes)).2)
  | token tag => exact .token (P.pairsOf fun ρ fixes => Value.token.inj (within ρ fixes))
  | lock tag => exact .lock (P.pairsOf fun ρ fixes => Value.lock.inj (within ρ fixes))
  | kind k => exact .kind k
  | converter c => exact .converter c
  | function r => exact .function (P.pairsOf fun ρ fixes => Value.function.inj (within ρ fixes))
  | operation tag owner name =>
    have parts ρ (fixes : Fixes P.domain ρ) := Value.operation.inj (within ρ fixes)
    exact .operation (P.pairsOf fun ρ fixes => (parts ρ fixes).1)
      ⟨rfl, fun ρ fixes => (parts ρ fixes).2.1⟩ name
  | facet tag f map =>
    have parts ρ (fixes : Fixes P.domain ρ) := Value.facet.inj (within ρ fixes)
    exact .facet (P.pairsOf fun ρ fixes => (parts ρ fixes).1) f
      ⟨rfl, fun ρ fixes => (parts ρ fixes).2.2⟩
  | pending tag => exact .pending (P.pairsOf fun ρ fixes => Value.pending.inj (within ρ fixes))

theorem Pairing.Pairs.fixed {s : Store} {r r' : Nat} (pairs : P.Pairs s r r') {ρ : Renaming}
    (fixes : Fixes P.domain ρ) : ρ s r = r := fixes s r pairs.1

theorem Like.renamed (like : Like P v v') : v' = rename P.partner v := by
  cases like with
  | tuple pairs items =>
    rw [← pairs.2, items.renamed, ← Value.renameEach]
    rfl
  | upload pairs name content originalName contentType =>
    rw [← pairs.2, name.renamed, content.renamed, originalName.renamed, contentType.renamed]
    rfl
  | principal pairs name =>
    rw [← pairs.2, name.renamed]
    rfl
  | attributes pairs shared backing =>
    rw [← pairs.2, backing.renamed]
    rfl
  | operation pairs owner name =>
    rw [← pairs.2, owner.renamed]
    rfl
  | facet pairs f map =>
    rw [← pairs.2, map.renamed]
    rfl
  | float pairs | list pairs | dictionary pairs | context pairs | writer pairs | stream pairs
  | error _ pairs | token pairs | lock pairs | function pairs | pending pairs
  | parameters _ pairs =>
    rw [← pairs.2]
    rfl
  | _ => rfl

theorem Like.within (like : Like P v v') : Confined P.domain v := by
  intro ρ fixes
  cases like with
  | tuple pairs items =>
    show Value.tuple (ρ .tag _) (Value.renameAll ρ _) = _
    rw [pairs.fixed fixes, Value.renameEach, items.within ρ fixes]
  | upload pairs name content originalName contentType =>
    show Value.upload (ρ .tag _) (rename ρ _) (rename ρ _) (rename ρ _) (rename ρ _) = _
    rw [pairs.fixed fixes, name.within ρ fixes, content.within ρ fixes,
      originalName.within ρ fixes, contentType.within ρ fixes]
  | principal pairs name =>
    show Value.principal (ρ .tag _) (rename ρ _) = _
    rw [pairs.fixed fixes, name.within ρ fixes]
  | attributes pairs shared backing =>
    show Value.attributes (ρ .tag _) shared (rename ρ _) = _
    rw [pairs.fixed fixes, backing.within ρ fixes]
  | operation pairs owner name =>
    show Value.operation (ρ .tag _) (rename ρ _) name = _
    rw [pairs.fixed fixes, owner.within ρ fixes]
  | facet pairs f map =>
    show Value.facet (ρ .tag _) f (rename ρ _) = _
    rw [pairs.fixed fixes, map.within ρ fixes]
  | float pairs word => exact congrArg (Value.float · word) (pairs.fixed fixes)
  | parameters writable pairs =>
    exact congrArg (fun r => Value.parameters ⟨writable, r⟩) (pairs.fixed fixes)
  | list pairs => exact congrArg Value.list (pairs.fixed fixes)
  | dictionary pairs => exact congrArg Value.dictionary (pairs.fixed fixes)
  | context pairs => exact congrArg Value.context (pairs.fixed fixes)
  | writer pairs => exact congrArg Value.writer (pairs.fixed fixes)
  | stream pairs => exact congrArg Value.stream (pairs.fixed fixes)
  | error k pairs => exact congrArg (Value.error k) (pairs.fixed fixes)
  | token pairs => exact congrArg Value.token (pairs.fixed fixes)
  | lock pairs => exact congrArg Value.lock (pairs.fixed fixes)
  | function pairs => exact congrArg Value.function (pairs.fixed fixes)
  | pending pairs => exact congrArg Value.pending (pairs.fixed fixes)
  | _ => rfl

theorem Like.alike (like : Like P v v') : Alike P v v' := ⟨like.renamed, like.within⟩

end

namespace Value

variable (ρ : Renaming)

theorem operationKindRenamed (v : Value) : (v.rename ρ).operationKind = v.operationKind := by
  cases v <;> rfl

theorem kindOfRenamed (v : Value) : (v.rename ρ).kindOf = v.kindOf := by
  cases v with
  | attributes tag shared backing => cases shared <;> rfl
  | parameters m => obtain ⟨writable, r⟩ := m; cases writable <;> rfl
  | operation tag owner name => exact owner.operationKindRenamed ρ
  | converter c => cases c <;> rfl
  | _ => rfl

theorem isARenamed (v : Value) (k : Kind) : (v.rename ρ).isA k = v.isA k := by
  unfold isA
  rw [kindOfRenamed]

theorem isMappingRenamed (v : Value) : (v.rename ρ).isMapping = v.isMapping := by
  cases v <;> rfl

theorem isTextRenamed (v : Value) : (v.rename ρ).isText = v.isText := by cases v <;> rfl

theorem isUploadRenamed (v : Value) : (v.rename ρ).isUpload = v.isUpload := by cases v <;> rfl

theorem isNullRenamed (v : Value) : (v.rename ρ).isNull = v.isNull := by cases v <;> rfl

theorem numberRenamed (v : Value) : (v.rename ρ).number? = v.number? := by cases v <;> rfl

theorem rootRenamed : ∀ v : Value, (v.rename ρ).root = v.root.rename ρ
  | attributes _ _ backing => backing.rootRenamed
  | null | bool _ | int _ | float .. | text _ | bytes _ | tuple .. | upload .. | principal ..
  | parameters _ | list _ | dictionary _ | context _ | writer _ | stream _ | error .. | token _
  | lock _ | kind _ | converter _ | function _ | operation .. | facet .. | pending _ => rfl

theorem renameAllEmpty (vs : List Value) : (renameAll ρ vs).isEmpty = vs.isEmpty := by
  cases vs <;> rfl

theorem sameMapRenamed (m n : ParameterMap) :
    (Renames.rename ρ m == Renames.rename ρ n) = (m == n) := by
  obtain ⟨writable, r⟩ := m
  obtain ⟨writable', r'⟩ := n
  rw [Bool.eq_iff_iff]
  simp [Renames.rename]

theorem sameRenamed (v u : Value) : (v.rename ρ).same (u.rename ρ) = v.same u := by
  cases v <;> cases u <;>
    first
    | rfl
    | simp [rename, same, renameAllEmpty, sameMapRenamed]

mutual

theorem changeableRenamed : ∀ v : Value, (v.rename ρ).changeable? = v.changeable?
  | tuple _ vs => anyChangeableRenamed vs
  | upload _ n c o t => by
    simp only [rename, changeable?, n.changeableRenamed, c.changeableRenamed,
      o.changeableRenamed, t.changeableRenamed]
  | principal _ n => n.changeableRenamed
  | attributes tag shared backing => congrArg some (kindOfRenamed ρ (attributes tag shared backing))
  | parameters m => congrArg some (kindOfRenamed ρ (parameters m))
  | facet _ f _ => by cases f <;> rfl
  | null | bool _ | int _ | float .. | text _ | bytes _ | list _ | dictionary _ | context _
  | writer _ | stream _ | error .. | token _ | lock _ | kind _ | converter _ | function _
  | operation .. | pending _ => rfl

theorem anyChangeableRenamed : ∀ vs : List Value, anyChangeable? (renameAll ρ vs) = anyChangeable? vs
  | [] => rfl
  | v :: vs => by simp only [renameAll, anyChangeable?, v.changeableRenamed, anyChangeableRenamed vs]

end

theorem sameKeyOfAtom {v : Value} (atom : v.isAtom = true) (u : Value) :
    v.sameKey u = (v.same u || match v.number?, u.number? with
      | some a, some b => a.equal b
      | _, _ => false) := by
  cases v <;> first | contradiction | rfl

theorem atomRenamed {v : Value} (atom : v.isAtom = true) (u : Value) :
    (v.rename ρ).sameKey (u.rename ρ) = v.sameKey u := by
  have still : (v.rename ρ).isAtom = true := by cases v <;> first | contradiction | rfl
  rw [sameKeyOfAtom still, sameKeyOfAtom atom, sameRenamed, numberRenamed, numberRenamed]

mutual

theorem sameKeyRenamed : ∀ v u : Value, (v.rename ρ).sameKey (u.rename ρ) = v.sameKey u
  | tuple _ vs, u => by
    cases u with
    | tuple _ us => exact sameKeysRenamed vs us
    | _ => rfl
  | upload _ n c o t, u => by
    cases u with
    | upload _ n' c' o' t' =>
      simp only [rename, sameKey, n.sameKeyRenamed, c.sameKeyRenamed, o.sameKeyRenamed,
        t.sameKeyRenamed]
    | _ => rfl
  | principal _ n, u => by
    cases u with
    | principal _ n' => exact n.sameKeyRenamed n'
    | _ => rfl
  | operation _ owner name, u => by
    cases u with
    | operation _ owner' name' => simp only [rename, sameKey, sameRenamed]
    | _ => rfl
  | null, u | bool _, u | int _, u | float .., u | text _, u | bytes _, u | attributes .., u
  | parameters _, u | list _, u | dictionary _, u | context _, u | writer _, u | stream _, u
  | error .., u | token _, u | lock _, u | kind _, u | converter _, u | function _, u
  | facet .., u | pending _, u => atomRenamed ρ rfl u

theorem sameKeysRenamed :
    ∀ vs us : List Value, sameKeys (renameAll ρ vs) (renameAll ρ us) = sameKeys vs us
  | [], [] | [], _ :: _ | _ :: _, [] => rfl
  | v :: vs, u :: us => by
    simp only [renameAll, sameKeys, v.sameKeyRenamed, sameKeysRenamed vs us]

end

end Value

namespace Alike

variable {P : Pairing} {v v' u u' : Value}

theorem kindOf (alike : Alike P v v') : v'.kindOf = v.kindOf := by
  rw [alike.renamed]
  exact v.kindOfRenamed _

theorem isMapping (alike : Alike P v v') : v'.isMapping = v.isMapping := by
  rw [alike.renamed]
  exact v.isMappingRenamed _

theorem isUpload (alike : Alike P v v') : v'.isUpload = v.isUpload := by
  rw [alike.renamed]
  exact v.isUploadRenamed _

theorem isNull (alike : Alike P v v') : v'.isNull = v.isNull := by
  rw [alike.renamed]
  exact v.isNullRenamed _

theorem root (alike : Alike P v v') : Alike P v.root v'.root :=
  alike.map fun ρ a => a.rootRenamed ρ

theorem same (alike : Alike P v v') (other : Alike P u u') : v'.same u' = v.same u := by
  rw [alike.renamed, other.renamed]
  exact v.sameRenamed _ u

end Alike

end FlowDouble
