import FlowDouble.Attributes.Operation
import FlowDouble.Parameters.Conversion
/-! All that can be asked of a parameter map by name. -/
namespace FlowDouble.ParameterMap

open FlowDouble.Action

inductive Operation where
  | get (name default : Value)
  | getRequired (name : Value)
  | getArray (name : Value)
  | getUpload (name : Value)
  | getRequiredUpload (name : Value)
  | getNumber (name converter default : Value)
  | getBoolean (name default : Value)
  | toDictionary
  | put (name value : Value)
  | facet (f : Facet)
  deriving Repr

def method? (writable : Bool) : String → Option (Method Operation)
  | "get" =>
    some ⟨.of .parameters "get" [.required "name", .optional "default" (some .null)],
      fun f => .get (f.value "name") (f.value "default")⟩
  | "get_required" =>
    some ⟨.of .parameters "get_required" [.required "name"], fun f => .getRequired (f.value "name")⟩
  | "get_array" =>
    some ⟨.of .parameters "get_array" [.required "name"], fun f => .getArray (f.value "name")⟩
  | "get_multipart_file" =>
    some ⟨.of .parameters "get_multipart_file" [.required "name"],
      fun f => .getUpload (f.value "name")⟩
  | "get_required_multipart_file" =>
    some ⟨.of .parameters "get_required_multipart_file" [.required "name"],
      fun f => .getRequiredUpload (f.value "name")⟩
  | "get_number" =>
    some ⟨.of .parameters "get_number"
        [.required "name", .optional "converter" (some (.kind .int)),
          .optional "default" (some .null)],
      fun f => .getNumber (f.value "name") (f.value "converter") (f.value "default")⟩
  | "get_boolean" =>
    some ⟨.of .parameters "get_boolean" [.required "name", .optional "default" (some .null)],
      fun f => .getBoolean (f.value "name") (f.value "default")⟩
  | "as_dict" => some ⟨.of .parameters "as_dict" [], fun _ => .toDictionary⟩
  | "put" =>
    if writable then
      some ⟨.of .writableParameters "put" [.required "name", .required "value"],
        fun f => .put (f.value "name") (f.value "value")⟩
    else none
  | name => facetMethod? name fun f => .facet f

def perform [Calls] (m : ParameterMap) : Operation → Action Value
  | .get name default => m.get name default
  | .getRequired name => m.getRequired name
  | .getArray name => m.getArray name
  | .getUpload name => m.getUpload name
  | .getRequiredUpload name => m.getRequiredUpload name
  | .getNumber name converter default => m.getNumber name converter default
  | .getBoolean name default => m.getBoolean name default
  | .toDictionary => m.toDictionary
  | .put name value => do m.put name value; return .parameters m
  | .facet f => return .facet (← newTag) f (.parameters m)

end FlowDouble.ParameterMap
