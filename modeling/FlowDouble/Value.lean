import FlowDouble.Kind
import FlowDouble.Number.Binary64
/-! Values a flow hands around. What never changes is written out in the value; what can
change is a reference into a store. Equal things made twice differ in their `tag`. -/
namespace FlowDouble

inductive Converter where
  | length
  | hexadecimal
  | discard
  | identity
  | refuseValue
  | refuseType
  | refuseKey
  | refuseState
  | refuseSilently
  | refuseField
  | refuseAttribute
  | missAttribute
  deriving DecidableEq, Repr

structure ParameterMap where
  writable : Bool
  ref : Nat
  deriving DecidableEq, Repr, Inhabited

inductive Facet where
  | keys
  | values
  | items
  deriving DecidableEq, Repr

def Facet.kind : Facet → Kind
  | keys => .keysView
  | values => .valuesView
  | items => .itemsView

inductive Value where
  | null
  | bool (b : Bool)
  | int (n : Int)
  | float (tag : Nat) (word : UInt64)
  | text (s : String)
  | bytes (bs : List UInt8)
  | tuple (tag : Nat) (items : List Value)
  | upload (tag : Nat) (name content originalName contentType : Value)
  | principal (tag : Nat) (name : Value)
  | attributes (tag : Nat) (shared : Bool) (backing : Value)
  | parameters (map : ParameterMap)
  | list (ref : Nat)
  | dictionary (ref : Nat)
  | context (ref : Nat)
  | writer (ref : Nat)
  | stream (ref : Nat)
  | error (kind : Kind) (ref : Nat)
  | token (tag : Nat)
  | lock (tag : Nat)
  | kind (k : Kind)
  | converter (c : Converter)
  | function (ref : Nat)
  | operation (tag : Nat) (owner : Value) (name : String)
  | facet (tag : Nat) (facet : Facet) (map : Value)
  | pending (tag : Nat)
  deriving Repr, Inhabited

namespace Value

def operationKind : Value → Kind
  | kind _ => .function
  | list _ | stream _ | writer _ => .builtin
  | _ => .method

def kindOf : Value → Kind
  | null => .null
  | bool _ => .bool
  | int _ => .int
  | float .. => .float
  | text _ => .text
  | bytes _ => .bytes
  | tuple .. => .tuple
  | upload .. => .upload
  | principal .. => .principal
  | attributes _ false _ => .attributes
  | attributes _ true _ => .sharedAttributes
  | parameters ⟨false, _⟩ => .parameters
  | parameters ⟨true, _⟩ => .writableParameters
  | list _ => .list
  | dictionary _ => .dictionary
  | context _ => .context
  | writer _ => .writer
  | stream _ => .stream
  | error k _ => k
  | token _ => .object
  | lock _ => .lock
  | kind k => k.kindOf
  | converter .length => .builtin
  | converter _ | function _ => .function
  | operation _ owner _ => owner.operationKind
  | facet _ f _ => f.kind
  | pending _ => .pendingCall

def isA (v : Value) (k : Kind) : Bool := v.kindOf.under k

def same : Value → Value → Bool
  | null, null => true
  | bool a, bool b => a == b
  | int a, int b => a == b
  | float a x, float b y => a == b && x == y
  | text a, text b => a == b
  | bytes a, bytes b => a == b
  | tuple a xs, tuple b ys => if xs.isEmpty then ys.isEmpty else !ys.isEmpty && a == b
  | upload a .., upload b .. => a == b
  | principal a _, principal b _ => a == b
  | attributes a .., attributes b .. => a == b
  | parameters a, parameters b => a == b
  | list a, list b => a == b
  | dictionary a, dictionary b => a == b
  | context a, context b => a == b
  | writer a, writer b => a == b
  | stream a, stream b => a == b
  | error _ a, error _ b => a == b
  | token a, token b => a == b
  | lock a, lock b => a == b
  | kind a, kind b => a == b
  | converter a, converter b => a == b
  | function a, function b => a == b
  | operation a .., operation b .. => a == b
  | facet a .., facet b .. => a == b
  | pending a, pending b => a == b
  | _, _ => false

theorem sameRefl (v : Value) : v.same v = true := by cases v <;> simp [same]

def number? : Value → Option Number
  | bool b => some (.ofInt (if b then 1 else 0))
  | int n => some (.ofInt n)
  | float _ w => some (Binary64.number w)
  | _ => none

mutual

def changeable? : Value → Option Kind
  | list r => some (list r).kindOf
  | dictionary r => some (dictionary r).kindOf
  | attributes t shared backing => some (attributes t shared backing).kindOf
  | parameters m => some (parameters m).kindOf
  | tuple _ items => anyChangeable? items
  | upload _ a b c d =>
    a.changeable?.or (b.changeable?.or (c.changeable?.or d.changeable?))
  | principal _ name => name.changeable?
  | facet _ .keys _ => some .keysView
  | facet _ .items _ => some .itemsView
  | _ => none

def anyChangeable? : List Value → Option Kind
  | [] => none
  | v :: vs => v.changeable?.or (anyChangeable? vs)

end

def hashable (v : Value) : Bool := v.changeable?.isNone

mutual

/-- Equality of keys. Numbers are equal by value, across their kinds, and operations when they are
the same one of the very same value; what is no number equals only itself. -/
def sameKey : Value → Value → Bool
  | tuple _ xs, tuple _ ys => sameKeys xs ys
  | upload _ n c o t, upload _ n' c' o' t' =>
    sameKey n n' && sameKey c c' && sameKey o o' && sameKey t t'
  | principal _ n, principal _ n' => sameKey n n'
  | operation _ owner name, operation _ owner' name' => owner.same owner' && name == name'
  | x, y =>
    x.same y || match x.number?, y.number? with
      | some a, some b => a.equal b
      | _, _ => false

def sameKeys : List Value → List Value → Bool
  | [], [] => true
  | x :: xs, y :: ys => sameKey x y && sameKeys xs ys
  | _, _ => false

end

mutual

theorem sameKeyRefl : ∀ v : Value, v.sameKey v = true
  | tuple _ xs => by simp [sameKey, sameKeysRefl xs]
  | upload _ n c o t => by
    simp [sameKey, n.sameKeyRefl, c.sameKeyRefl, o.sameKeyRefl, t.sameKeyRefl]
  | principal _ n => by simp [sameKey, n.sameKeyRefl]
  | operation _ owner _ => by simp [sameKey, owner.sameRefl]
  | null | bool _ | int _ | float .. | text _ | bytes _ | attributes .. | parameters _
  | list _ | dictionary _ | context _ | writer _ | stream _ | error .. | token _ | lock _
  | kind _ | converter _ | function _ | facet .. | pending _ => by simp [sameKey, same]

theorem sameKeysRefl : ∀ vs : List Value, sameKeys vs vs = true
  | [] => rfl
  | v :: vs => by simp [sameKeys, v.sameKeyRefl, sameKeysRefl vs]

end

def root : Value → Value
  | attributes _ _ backing => backing.root
  | v => v

def isText : Value → Bool
  | text _ => true
  | _ => false

def isUpload : Value → Bool
  | upload .. => true
  | _ => false

def isNull : Value → Bool
  | null => true
  | _ => false

end Value

end FlowDouble
