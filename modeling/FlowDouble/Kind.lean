/-! Kinds of values and errors, their names, and which kind falls under which. -/
namespace FlowDouble

inductive Kind where
  | null | bool | int | float | text | bytes | list | tuple | dictionary | object
  | attributes | sharedAttributes | parameters | writableParameters
  | upload | principal | context | contract | writer | stream | lock
  | flowError | illegalState | redirectNotRequested | responseNotAllowed
  | configuration | attributeNotFound | attributeType
  | exception | lookup | missingKey | badIndex | wrongType | wrongValue | wrongState
  | missingMember | frozenMember | tooLarge
  | mapping | mutableMapping | sequence
  | tooDeep | plainKind | abstractKind | function | builtin | method | pendingCall
  | keysView | valuesView | itemsView
  deriving DecidableEq, Repr

namespace Kind

def name : Kind → String
  | null => "NoneType"
  | bool => "bool"
  | int => "int"
  | float => "float"
  | text => "str"
  | bytes => "bytes"
  | list => "list"
  | tuple => "tuple"
  | dictionary => "dict"
  | object => "object"
  | attributes => "AttributeMap"
  | sharedAttributes => "SharedAttributeMap"
  | parameters => "ParameterMap"
  | writableParameters => "MockParameterMap"
  | upload => "MockMultipartFile"
  | principal => "MockPrincipal"
  | context => "MockExternalContext"
  | contract => "ExternalContext"
  | writer => "StringIO"
  | stream => "BytesIO"
  | lock => "RLock"
  | flowError => "FlowTestError"
  | illegalState => "IllegalContextStateError"
  | redirectNotRequested => "RedirectNotRequestedError"
  | responseNotAllowed => "ResponseNotAllowedError"
  | configuration => "ConfigurationError"
  | attributeNotFound => "AttributeNotFoundError"
  | attributeType => "AttributeTypeError"
  | exception => "Exception"
  | lookup => "LookupError"
  | missingKey => "KeyError"
  | badIndex => "IndexError"
  | wrongType => "TypeError"
  | wrongValue => "ValueError"
  | wrongState => "RuntimeError"
  | missingMember => "AttributeError"
  | frozenMember => "FrozenInstanceError"
  | tooLarge => "OverflowError"
  | tooDeep => "RecursionError"
  | mapping => "Mapping"
  | mutableMapping => "MutableMapping"
  | sequence => "Sequence"
  | plainKind => "type"
  | abstractKind => "ABCMeta"
  | function => "function"
  | builtin => "builtin_function_or_method"
  | method => "method"
  | pendingCall => "coroutine"
  | keysView => "KeysView"
  | valuesView => "ValuesView"
  | itemsView => "ItemsView"

def fullName : Kind → String
  | writer => "_io." ++ writer.name
  | stream => "_io." ++ stream.name
  | lock => "_thread." ++ lock.name
  | k => k.name

def nameable : List Kind :=
  [null, bool, int, float, text, bytes, list, tuple, dictionary, object,
   attributes, sharedAttributes, parameters, writableParameters, upload, principal, context,
   contract, flowError, illegalState, redirectNotRequested, responseNotAllowed, configuration,
   attributeNotFound, attributeType, exception, lookup, missingKey, wrongType, wrongValue,
   wrongState, missingMember, mapping, mutableMapping, sequence]

def named? (s : String) : Option Kind := nameable.find? (·.name == s)

def parents : Kind → List Kind
  | bool => [int]
  | text | bytes | list | tuple => [sequence]
  | dictionary | attributes => [mutableMapping]
  | sharedAttributes => [attributes]
  | mutableMapping | parameters => [mapping]
  | writableParameters => [parameters]
  | context => [contract]
  | flowError | lookup | wrongType | wrongValue | wrongState | missingMember => [exception]
  | illegalState => [flowError, wrongState]
  | redirectNotRequested | responseNotAllowed => [illegalState]
  | configuration | attributeType => [flowError, wrongType]
  | attributeNotFound => [flowError, missingKey]
  | missingKey | badIndex => [lookup]
  | frozenMember => [missingMember]
  | tooLarge => [exception]
  | tooDeep => [wrongState]
  | abstractKind => [plainKind]
  | _ => []

def reaches : Nat → Kind → Kind → Bool
  | 0, k, above => k == above
  | n + 1, k, above => k == above || k.parents.any (reaches n · above)

-- Everything is an object besides, and no chain upward is longer than four.
def under (k above : Kind) : Bool := above == object || reaches 4 k above

def home : Kind → String
  | attributes | sharedAttributes | parameters | writableParameters | upload =>
    "flowtest.attributes."
  | principal | context => "flowtest.mock."
  | contract => "flowtest.context."
  | flowError | illegalState | redirectNotRequested | responseNotAllowed | configuration
  | attributeNotFound | attributeType => "flowtest.errors."
  | mapping | mutableMapping | sequence | keysView | valuesView | itemsView => "collections.abc."
  | _ => ""

def fixed (k : Kind) : Bool := k.home.isEmpty

def rowLike : Kind → Bool
  | text | bytes | tuple | lock | abstractKind | parameters | writableParameters | upload
  | principal | context | contract | flowError | illegalState | redirectNotRequested
  | responseNotAllowed | configuration | attributeNotFound | attributeType | frozenMember
  | keysView | valuesView | itemsView => true
  | _ => false

def shown (k : Kind) : String := "<class '" ++ k.home ++ k.name ++ "'>"

def kindOf : Kind → Kind
  | attributes | sharedAttributes | parameters | writableParameters | context | contract
  | mapping | mutableMapping | sequence | keysView | valuesView | itemsView => abstractKind
  | _ => plainKind

end Kind

end FlowDouble
