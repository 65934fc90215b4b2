import GcpMonitor.Library.OrderedDict
import GcpMonitor.Metrics.Service
import GcpMonitor.Python.Json

namespace GcpMonitor.Entities

open Python Metrics

abbrev ExtractPropertyFunc := Json → Except PyError Json

abbrev LabelToApiRspMapping := OrderedDict Text ExtractPropertyFunc

/-- What the extractors take from the language: `word` tells the characters that `\w` matches, and
`str` writes a value. `createMmh3Hash` hashes components that `str` has written. -/
structure ExtractorRuntime where
  word : Char → Bool
  str : Json → Text
  str_str : ∀ s, str (.str s) = s
  createMmh3Hash : List Text → Text

def extractorRuntime : ExtractorRuntime where
  word := Char.isAlphanum
  str := fun value => match value with
    | .str s => s
    | _ => []
  str_str := fun _ => rfl
  createMmh3Hash := List.flatten

variable (R : ExtractorRuntime)

def entityIdComponent (labelToApiResponseMapping : LabelToApiRspMapping) (rsp : Json)
    (quasiLabel : Dimension) : Except PyError (Option Text) :=
  match labelToApiResponseMapping.get quasiLabel.keyForGetFuncCreateEntityId with
  | none => return none
  | some extractProperty => do
    let component ← extractProperty rsp
    return if component.truthy then some (R.str component) else none

def getFuncCreateEntityId (mapping : LabelToApiRspMapping) (rsp : Json) (svcDef : GCPService) :
    Except PyError Text := do
  let components ← svcDef.dimensions.mapM (entityIdComponent R mapping rsp)
  return R.createMmh3Hash (svcDef.name :: components.reduceOption)

end GcpMonitor.Entities
