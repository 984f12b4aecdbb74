import FlowDouble.Text.Quoted
import FlowDouble.Value
/-! Ways to use a value that it does not allow, each with the kind of failure it is and its
words. -/
namespace FlowDouble

inductive CallFault where
  | givenTwice (name : String)
  | unexpected (name : String)
  | tooMany (least most given keywords : Nat)
  | missing (names : List String)
  | missingKeywords (names : List String)
  | takesNone (given : Nat)
  | takesOne (given : Nat)
  | atMostOne (given : Nat)
  | atMostTwo (given : Nat)
  | noneNamed
  | invalid (name : String)
  deriving DecidableEq, Repr

namespace CallFault

def listed : List String → String
  | [] => ""
  | [a] => a
  | [a, b] => a ++ " and " ++ b
  | names => ", ".intercalate names.dropLast ++ ", and " ++ names.getLastD ""

def plural (n : Nat) : String := if n = 1 then "" else "s"

def counted (least most : Nat) : String :=
  if least = most then toString most ++ " positional argument" ++ plural most
  else "from " ++ toString least ++ " to " ++ toString most ++ " positional arguments"

def besides (given keywords : Nat) : String :=
  if keywords = 0 then ""
  else " positional argument" ++ plural given ++ " (and " ++ toString keywords ++
    " keyword-only argument" ++ plural keywords ++ ")"

def lacks (sort : String) (names : List String) : String :=
  "() missing " ++ toString names.length ++ " required " ++ sort ++ " argument" ++
    plural names.length ++ ": " ++ listed (names.map Text.quote)

def text (operation : String) : CallFault → String
  | givenTwice name => operation ++ "() got multiple values for argument '" ++ name ++ "'"
  | unexpected name => operation ++ "() got an unexpected keyword argument '" ++ name ++ "'"
  | tooMany least most given keywords =>
    operation ++ "() takes " ++ counted least most ++ " but " ++ toString given ++
      besides given keywords ++ (if given = 1 ∧ keywords = 0 then " was" else " were") ++ " given"
  | missing names => operation ++ lacks "positional" names
  | missingKeywords names => operation ++ lacks "keyword-only" names
  | takesNone given => operation ++ "() takes no arguments (" ++ toString given ++ " given)"
  | takesOne given =>
    operation ++ "() takes exactly one argument (" ++ toString given ++ " given)"
  | atMostOne given => operation ++ " expected at most 1 argument, got " ++ toString given
  | atMostTwo given =>
    operation ++ "() takes at most 2 arguments (" ++ toString given ++ " given)"
  | noneNamed => operation ++ "() takes no keyword arguments"
  | invalid name => "'" ++ name ++ "' is an invalid keyword argument for " ++ operation ++ "()"

end CallFault

inductive Misuse where
  | unhashable (k : Kind)
  | notIterable (k : Kind)
  | notContainer (k : Kind)
  | noLength (k : Kind)
  | notCallable (k : Kind)
  | notSubscriptable (v : Value)
  | noItemAssignment (k : Kind)
  | noItemDeletion (k : Kind) (byPosition : Bool)
  | notPosition (holder key : Kind)
  | outside (holder : Kind)
  | outsideAssigned (holder : Kind)
  | hugePosition
  | unordered (a b : Kind)
  | nameless (k : Kind)
  | notKind
  | notTextPart (k : Kind)
  | notBytes (k : Kind)
  | notText (k : Kind)
  | notCount (k : Kind)
  | hugeCount
  | notByte
  | notPair (index : Nat)
  | pairSize (index size : Nat)
  | notUnpacked (k : Kind)
  | overfull
  | incomplete (size : Nat)
  | call (operation : String) (c : CallFault)
  | unbound (operation : String)
  | noMember (owner : Value) (name : String)
  | lacks (k : Kind) (name : String)
  | readOnly (k : Kind) (name : String)
  | frozen (name : String)
  | fixedKind (k : Kind) (name : String)
  | told (k : Kind) (words : String)
  deriving Repr, Inhabited

namespace Misuse

def kind : Misuse → Kind
  | outside _ | outsideAssigned _ | hugePosition => .badIndex
  | hugeCount => .tooLarge
  | notByte | pairSize .. | overfull | incomplete _ => .wrongValue
  | noMember .. | lacks .. | readOnly .. => .missingMember
  | frozen _ => .frozenMember
  | told k _ => k
  | _ => .wrongType

def quotedName (name : String) : String := "'" ++ name ++ "'"

def rowName : Kind → String
  | .text => "string"
  | k => k.name

def text : Misuse → String
  | unhashable k => "unhashable type: " ++ quotedName k.fullName
  | notIterable k => quotedName k.fullName ++ " object is not iterable"
  | notContainer k => "argument of type " ++ quotedName k.fullName ++ " is not iterable"
  | noLength k => "object of type " ++ quotedName k.fullName ++ " has no len()"
  | notCallable k => quotedName k.fullName ++ " object is not callable"
  | notSubscriptable (.kind k) => "type " ++ quotedName k.fullName ++ " is not subscriptable"
  | notSubscriptable v => quotedName v.kindOf.fullName ++ " object is not subscriptable"
  | noItemAssignment k => quotedName k.fullName ++ " object does not support item assignment"
  | noItemDeletion k byPosition =>
    quotedName k.fullName ++ " object " ++ (if byPosition then "doesn't" else "does not") ++
      " support item deletion"
  | notPosition .text key => "string indices must be integers, not " ++ quotedName key.fullName
  | notPosition .bytes key => "byte indices must be integers or slices, not " ++ key.fullName
  | notPosition holder key =>
    holder.name ++ " indices must be integers or slices, not " ++ key.fullName
  | outside .bytes => "index out of range"
  | outside holder => rowName holder ++ " index out of range"
  | outsideAssigned holder => holder.name ++ " assignment index out of range"
  | hugePosition | hugeCount => "cannot fit 'int' into an index-sized integer"
  | unordered a b =>
    "'<' not supported between instances of " ++ quotedName a.fullName ++ " and " ++
      quotedName b.fullName
  | nameless k => "__str__ returned non-string (type " ++ k.fullName ++ ")"
  | notKind => "isinstance() arg 2 must be a type, a tuple of types, or a union"
  | notTextPart k => "'in <string>' requires string as left operand, not " ++ k.fullName
  | notBytes k => "a bytes-like object is required, not " ++ quotedName k.fullName
  | notText k => "string argument expected, got " ++ quotedName k.fullName
  | notCount k => "argument should be integer or None, not " ++ quotedName k.fullName
  | notByte => "byte must be in range(0, 256)"
  | notPair index =>
    "cannot convert dictionary update sequence element #" ++ toString index ++ " to a sequence"
  | pairSize index size =>
    "dictionary update sequence element #" ++ toString index ++ " has length " ++
      toString size ++ "; 2 is required"
  | notUnpacked k => "cannot unpack non-iterable " ++ k.fullName ++ " object"
  | overfull => "too many values to unpack (expected 2)"
  | incomplete size => "not enough values to unpack (expected 2, got " ++ toString size ++ ")"
  | call operation c => c.text operation
  | unbound operation => "unbound method " ++ operation ++ "() needs an argument"
  | noMember (.kind k) name => "type object " ++ quotedName k.name ++ " has no attribute " ++
      quotedName name
  | noMember owner name =>
    quotedName owner.kindOf.fullName ++ " object has no attribute " ++ quotedName name
  | lacks k name => quotedName k.fullName ++ " object has no attribute " ++ quotedName name
  | readOnly k name =>
    "property " ++ quotedName name ++ " of " ++ quotedName k.name ++ " object has no setter"
  | frozen name => "cannot assign to field " ++ Text.quote name
  | fixedKind k name =>
    "cannot set " ++ quotedName name ++ " attribute of immutable type " ++ quotedName k.name
  | told _ words => words

def ofKind (k : Kind) (name : String) : Misuse :=
  if k = .dictionary then .unbound (k.name ++ "." ++ name)
  else if k.under .mapping then .call (Kind.mapping.name ++ "." ++ name) (.missing ["self"])
  else .noMember (.kind k) name

end Misuse

end FlowDouble
