import FlowDouble.Attributes
import FlowDouble.Signature
/-! All that can be asked of an attribute map by name. -/
namespace FlowDouble

structure Method (α : Type) where
  signature : Signature
  operation : Frame → α

def Method.request {α : Type} (m : Method α) (a : Arguments) : Except Fault α :=
  (m.signature.bind a).map m.operation

def facetMethod? {α : Type} (name : String) (ask : Facet → α) : Option (Method α) :=
  let method (f : Facet) : Method α := ⟨.of .mapping name [], fun _ => ask f⟩
  match name with
  | "keys" => some (method .keys)
  | "values" => some (method .values)
  | "items" => some (method .items)
  | _ => none

namespace Attributes

open FlowDouble.Action

inductive Operation where
  | get (key default : Value)
  | put (key value : Value)
  | putAll (source : Value)
  | remove (key : Value)
  | getRequired (key expected : Value)
  | toDictionary
  | union (other : Value)
  | pop (key : Value) (default : Option Value)
  | popFirst
  | clear
  | update (source : Option Value) (named : Entries)
  | getOrPut (key default : Value)
  | facet (f : Facet)
  deriving Repr

def method? : String → Option (Method Operation)
  | "get" =>
    some ⟨.of .mapping "get" [.required "key", .optional "default" (some .null)],
      fun f => .get (f.value "key") (f.value "default")⟩
  | "put" =>
    some ⟨.of .attributes "put" [.required "key", .required "value"],
      fun f => .put (f.value "key") (f.value "value")⟩
  | "put_all" =>
    some ⟨.of .attributes "put_all" [.required "attributes"],
      fun f => .putAll (f.value "attributes")⟩
  | "remove" => some ⟨.of .attributes "remove" [.required "key"], fun f => .remove (f.value "key")⟩
  | "get_required" =>
    some ⟨.of .attributes "get_required"
        [.required "key", .optional "expected_type" (some .null)],
      fun f => .getRequired (f.value "key") (f.value "expected_type")⟩
  | "as_dict" => some ⟨.of .attributes "as_dict" [], fun _ => .toDictionary⟩
  | "union" =>
    some ⟨.of .attributes "union" [.required "other"], fun f => .union (f.value "other")⟩
  | "pop" =>
    some ⟨.of .mutableMapping "pop" [.required "key", .optional "default" none],
      fun f => .pop (f.value "key") (f.value? "default")⟩
  | "popitem" => some ⟨.of .mutableMapping "popitem" [], fun _ => .popFirst⟩
  | "clear" => some ⟨.of .mutableMapping "clear" [], fun _ => .clear⟩
  | "update" =>
    some ⟨{ Signature.of .mutableMapping "update" [.optional "" none, .named "values"] with
        receiver := .unnamed },
      fun f => .update (f.value? "") (namedEntries f.named)⟩
  | "setdefault" =>
    some ⟨.of .mutableMapping "setdefault"
        [.required "key", .optional "default" (some .null)],
      fun f => .getOrPut (f.value "key") (f.value "default")⟩
  | name => facetMethod? name fun f => .facet f

def perform [Calls] (map backing : Value) : Operation → Action Value
  | .get key default => Attributes.get map key default
  | .put key value => put backing key value
  | .putAll source => do putAll backing source; return map
  | .remove key => remove backing key
  | .getRequired key expected => getRequired backing key expected
  | .toDictionary => backing.copied
  | .union other => union map other
  | .pop key default => pop map key default
  | .popFirst => popFirst map
  | .clear => do clear map; return .null
  | .update source named => do update map source named; return .null
  | .getOrPut key default => getOrPut map key default
  | .facet f => return .facet (← newTag) f map

end Attributes

end FlowDouble
