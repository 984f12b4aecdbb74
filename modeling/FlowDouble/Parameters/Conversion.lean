import FlowDouble.Cast
/-! Reading a parameter as a number, or as whatever a converter makes of it. -/
namespace FlowDouble

open FlowDouble.Action

variable [Calls]

namespace Converter

def apply (c : Converter) (v : Value) : Action Value := do
  match c with
  | .length => return .int (← Action.length v)
  | .hexadecimal => return .int (← ofExcept (Cast.wholeIn (.int 16) v))
  | .discard => return .null
  | .identity => return v
  | .refuseValue => throw (.told .wrongValue "bad value")
  | .refuseType => throw (.told .wrongType "bad type")
  | .refuseKey => throw (.missingKey (some (.text "bad key")))
  | .refuseState => throw (.told .wrongState "bad state")
  | .refuseSilently => throw (.told .wrongValue "")
  | .refuseField => refuseWith (Report.configuration (← world) (.text "bad field") v [])
  | .refuseAttribute => Action.refuseType "inner" (.text "k") (.kind .int) v
  | .missAttribute => refuseMissing "inner" (.text "k") []

end Converter

def Value.applyPlain (v : Value) (a : Arguments) : Action Value :=
  match v, a with
  | .kind k, a => k.cast a
  | .converter c, ⟨[x], []⟩ => c.apply x
  | .converter .length, ⟨vs, _⟩ => misuse (.call "len" (.takesOne vs.length))
  | .converter _, _ => misuse (.told .wrongType "")
  | v, _ => misuse (.notCallable v.kindOf)

def Fault.declines (f : Fault) : Bool := f.kind.under .wrongType || f.kind.under .wrongValue

namespace ParameterMap

def declined (name value : Value) (f : Fault) : Action Value := do
  let shownName ← shown name
  let why ← ofExcept ((← world).snapshotFault f).display
  let report ← ofExcept (Report.attributeType (← world)
    (.text ("Request parameter '" ++ shownName ++ "' could not be converted: " ++ why))
    name .null value [])
  refuse { report with cause := some f }

def getNumber (m : ParameterMap) (name converter default : Value) : Action Value := do
  let value ← m.askFor name
  if value.isNull then return default
  else
    tryCatch (Calls.apply converter ⟨[value], []⟩) fun f =>
      if f.declines then declined name value f else throw f

end ParameterMap

end FlowDouble
