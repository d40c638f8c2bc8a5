import InterfaceSchema.Json.Basic
import InterfaceSchema.Problem

/-!
Reports: the problems found in one run, in the order in which they were found, each an error or a
warning. A report fails as soon as it holds one error.
-/

namespace InterfaceSchema

set_option autoImplicit false

inductive Severity where
  | warning
  | error
  deriving DecidableEq, Repr

namespace Severity

def text : Severity → String
  | warning => "warning"
  | error => "error"

end Severity

structure Diagnostic where
  severity : Severity
  problem : Problem
  deriving DecidableEq, Repr

namespace Diagnostic

def error (problem : Problem) : Diagnostic := ⟨.error, problem⟩

def warning (problem : Problem) : Diagnostic := ⟨.warning, problem⟩

def isError (diagnostic : Diagnostic) : Bool := diagnostic.severity == .error

end Diagnostic

structure Report where
  diagnostics : List Diagnostic := []
  deriving DecidableEq, Repr

namespace Report

def isEmpty (report : Report) : Bool := report.diagnostics.isEmpty

def errors (report : Report) : List Problem :=
  (report.diagnostics.filter Diagnostic.isError).map Diagnostic.problem

def warnings (report : Report) : List Problem :=
  (report.diagnostics.filter fun diagnostic => !diagnostic.isError).map Diagnostic.problem

def errorCount (report : Report) : Nat := report.diagnostics.countP Diagnostic.isError

def warningCount (report : Report) : Nat := report.diagnostics.length - report.errorCount

def hasErrors (report : Report) : Bool := 0 < report.errorCount

def kinds (report : Report) : List ProblemKind :=
  report.diagnostics.map fun diagnostic => diagnostic.problem.kind

def record (report : Report) (diagnostic : Diagnostic) : Report :=
  ⟨report.diagnostics ++ [diagnostic]⟩

def summary (report : Report) : String :=
  "schema validation failed with " ++ toString report.errorCount ++ " error(s)"

end Report

/-- The JSON form of a problem: the name of what went wrong, then its details. -/
def Problem.toJson (problem : Problem) : Json :=
  let (tag, details) : String × List (String × Json) := match problem with
    | duplicateName kind name =>
        ("duplicate_name", [("kind", .string kind.tag), ("name", .string name)])
    | nameCollision name first second =>
        ("name_collision", [("name", .string name), ("first", .string first.text),
          ("second", .string second.text)])
    | shadowsPrimitive kind name =>
        ("shadows_primitive", [("kind", .string kind.tag), ("name", .string name)])
    | unknownTypeReference name site =>
        ("unknown_type_reference", [("name", .string name), ("referenced_from", .string site)])
    | typeKindMismatch name site expected found =>
        ("type_kind_mismatch", [("name", .string name), ("referenced_from", .string site),
          ("expected", .string expected.text), ("found", .string found.text)])
    | misplacedQualifier site type qualifier =>
        ("misplaced_qualifier", [("referenced_from", .string site), ("type_name", .string type),
          ("qualifier", .string qualifier)])
    | invalidTypedef name target =>
        ("invalid_typedef", [("name", .string name), ("target", .string target)])
    | incompatibleChainDirection extension extensionRole base baseRole =>
        ("incompatible_chain_direction", [("extension", .string extension),
          ("extension_type", .string extensionRole.text), ("base", .string base),
          ("base_type", .string baseRole.text)])
    | unknownBaseStruct extension base =>
        ("unknown_base_struct", [("extension", .string extension), ("base", .string base)])
    | missingExtends name role =>
        ("missing_extends", [("name", .string name), ("struct_type", .string role.text)])
    | unexpectedExtends name role =>
        ("unexpected_extends", [("name", .string name), ("struct_type", .string role.text)])
    | cyclicBitflagCombination bitflag path =>
        ("cyclic_bitflag_combination", [("bitflag", .string bitflag),
          ("cycle_path", Json.ofTexts path)])
    | duplicateBitflagValue bitflag first second value =>
        ("duplicate_bitflag_value", [("bitflag", .string bitflag), ("first", .string first),
          ("second", .string second), ("value", .integer value.toNat)])
    | unknownCombinationEntry bitflag entry missing =>
        ("unknown_combination_entry", [("bitflag", .string bitflag), ("entry", .string entry),
          ("missing", .string missing)])
    | malformedBitflagEntry bitflag entry =>
        ("malformed_bitflag_entry", [("bitflag", .string bitflag), ("entry", .string entry)])
    | duplicateEnumValue name first second value =>
        ("duplicate_enum_value", [("name", .string name), ("first", .string first),
          ("second", .string second), ("value", .integer value.toNat)])
    | invalidValue owner value reason =>
        ("invalid_value", [("owner", .string owner), ("value", .string value),
          ("reason", .string reason)])
    | invalidEnumBlock document block =>
        ("invalid_enum_prefix", [("schema", .string document), ("prefix", .string block)])
    | mergeOrder kind name fault =>
        ("merge_order", [("kind", .string kind.text), ("name", .string name),
          ("problem", .string fault.tag)])
  .object (("error", .string tag) :: details)

namespace Diagnostic

def toJson (diagnostic : Diagnostic) : Json :=
  .object [("severity", .string diagnostic.severity.text), ("error", diagnostic.problem.toJson)]

/-- The flat form: class, severity, names and message. -/
def recordToJson (diagnostic : Diagnostic) : Json :=
  .object [("kind", .string diagnostic.problem.kind.text),
    ("severity", .string diagnostic.severity.text),
    ("names", Json.ofTexts diagnostic.problem.names),
    ("message", .string diagnostic.problem.message)]

end Diagnostic

def Report.toJson (report : Report) : Json :=
  .object [("diagnostics", .array (report.diagnostics.map Diagnostic.toJson))]

end InterfaceSchema
