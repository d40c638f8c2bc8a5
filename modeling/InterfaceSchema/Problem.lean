import InterfaceSchema.Kind
import InterfaceSchema.StructRole

/-!
The ways in which a set of documents can be inconsistent, each with the names that it is about, a
class and a message.
-/

namespace InterfaceSchema

set_option autoImplicit false

/-- Why an extended declaration cannot be merged cleanly. -/
inductive MergeFault where
  | missingBase
  | extendedBeforeBase
  | duplicateBase
  deriving DecidableEq, Repr

namespace MergeFault

def all : List MergeFault := [missingBase, extendedBeforeBase, duplicateBase]

def tag : MergeFault → String
  | missingBase => "missing_base"
  | extendedBeforeBase => "extended_before_base"
  | duplicateBase => "duplicate_base"

def text : MergeFault → String
  | missingBase => "is extended but never declared as a base"
  | extendedBeforeBase => "is extended before its base declaration"
  | duplicateBase => "has more than one base declaration"

end MergeFault

inductive ProblemKind where
  | duplicateName
  | unknownTypeReference
  | typeKindMismatch
  | misplacedQualifier
  | invalidTypedef
  | incompatibleChainDirection
  | unknownBaseStruct
  | misplacedExtends
  | cyclicBitflagCombination
  | duplicateBitflagValue
  | unknownCombinationEntry
  | malformedBitflagEntry
  | duplicateEnumValue
  | invalidValue
  | invalidEnumBlock
  | mergeOrder
  deriving DecidableEq, Repr

namespace ProblemKind

def text : ProblemKind → String
  | duplicateName => "DuplicateName"
  | unknownTypeReference => "UnknownTypeReference"
  | typeKindMismatch => "TypeKindMismatch"
  | misplacedQualifier => "MisplacedQualifier"
  | invalidTypedef => "InvalidTypedef"
  | incompatibleChainDirection => "IncompatibleChainDirection"
  | unknownBaseStruct => "UnknownBaseStruct"
  | misplacedExtends => "MisplacedExtends"
  | cyclicBitflagCombination => "CyclicBitflagCombination"
  | duplicateBitflagValue => "DuplicateBitflagValue"
  | unknownCombinationEntry => "UnknownCombinationEntry"
  | malformedBitflagEntry => "MalformedBitflagEntry"
  | duplicateEnumValue => "DuplicateEnumValue"
  | invalidValue => "InvalidValue"
  | invalidEnumBlock => "InvalidEnumPrefix"
  | mergeOrder => "MergeOrder"

end ProblemKind

inductive Problem where
  | duplicateName (kind : NameKind) (name : String)
  | nameCollision (name : String) (first second : TypeKind)
  | shadowsPrimitive (kind : NameKind) (name : String)
  | unknownTypeReference (name site : String)
  /-- A reference leads to a declaration of another kind than it has to. -/
  | typeKindMismatch (name site : String) (expected found : TypeKind)
  | misplacedQualifier (site type qualifier : String)
  | invalidTypedef (name target : String)
  | incompatibleChainDirection (extension : String) (extensionRole : StructRole) (base : String)
      (baseRole : StructRole)
  | unknownBaseStruct (extension base : String)
  | missingExtends (name : String) (role : StructRole)
  | unexpectedExtends (name : String) (role : StructRole)
  /-- The path lists the entries of the cycle and ends where it starts. -/
  | cyclicBitflagCombination (bitflag : String) (path : List String)
  | duplicateBitflagValue (bitflag first second : String) (value : UInt64)
  | unknownCombinationEntry (bitflag entry missing : String)
  /-- An entry has not exactly one source of its mask. -/
  | malformedBitflagEntry (bitflag entry : String)
  | duplicateEnumValue (name first second : String) (value : UInt32)
  | invalidValue (owner value reason : String)
  | invalidEnumBlock (document block : String)
  | mergeOrder (kind : TypeKind) (name : String) (fault : MergeFault)
  deriving DecidableEq, Repr

namespace Problem

def kind : Problem → ProblemKind
  | duplicateName .. => .duplicateName
  | nameCollision .. => .duplicateName
  | shadowsPrimitive .. => .duplicateName
  | unknownTypeReference .. => .unknownTypeReference
  | typeKindMismatch .. => .typeKindMismatch
  | misplacedQualifier .. => .misplacedQualifier
  | invalidTypedef .. => .invalidTypedef
  | incompatibleChainDirection .. => .incompatibleChainDirection
  | unknownBaseStruct .. => .unknownBaseStruct
  | missingExtends .. => .misplacedExtends
  | unexpectedExtends .. => .misplacedExtends
  | cyclicBitflagCombination .. => .cyclicBitflagCombination
  | duplicateBitflagValue .. => .duplicateBitflagValue
  | unknownCombinationEntry .. => .unknownCombinationEntry
  | malformedBitflagEntry .. => .malformedBitflagEntry
  | duplicateEnumValue .. => .duplicateEnumValue
  | invalidValue .. => .invalidValue
  | invalidEnumBlock .. => .invalidEnumBlock
  | mergeOrder .. => .mergeOrder

/-- The names that a problem is about, the most specific one first. -/
def names : Problem → List String
  | duplicateName _ name => [name]
  | nameCollision name _ _ => [name]
  | shadowsPrimitive _ name => [name]
  | unknownTypeReference name site => [name, site]
  | typeKindMismatch name site _ _ => [name, site]
  | misplacedQualifier site type _ => [site, type]
  | invalidTypedef name target => [name, target]
  | incompatibleChainDirection extension _ base _ => [extension, base]
  | unknownBaseStruct extension base => [extension, base]
  | missingExtends name _ => [name]
  | unexpectedExtends name _ => [name]
  | cyclicBitflagCombination bitflag path => bitflag :: path
  | duplicateBitflagValue bitflag first second _ => [bitflag, first, second]
  | unknownCombinationEntry bitflag entry missing => [bitflag, entry, missing]
  | malformedBitflagEntry bitflag entry => [bitflag, entry]
  | duplicateEnumValue name first second _ => [name, first, second]
  | invalidValue owner _ _ => [owner]
  | invalidEnumBlock document _ => [document]
  | mergeOrder _ name _ => [name]

/-- A number in hexadecimal, filled with zeros to the given count of digits. -/
def hexadecimal (digits number : Nat) : String :=
  let written := Nat.toDigits 16 number
  "0x" ++ String.ofList (List.replicate (digits - written.length) '0' ++ written)

def single (name : String) : String := "'" ++ name ++ "'"

def withRole (name : String) (role : StructRole) : String :=
  single name ++ " (" ++ role.text ++ ")"

def entryOf (bitflag entry : String) : String :=
  "bitflag " ++ single bitflag ++ " entry " ++ single entry

def message : Problem → String
  | duplicateName kind name => "duplicate " ++ kind.text ++ " name: " ++ name
  | nameCollision name first second =>
      "name " ++ single name ++ " is declared both as " ++ first.text ++ " and as " ++ second.text
  | shadowsPrimitive kind name =>
      kind.text ++ " " ++ single name ++ " shadows the primitive type of the same name"
  | unknownTypeReference name site => "unknown type " ++ single name ++ " referenced from " ++ site
  | typeKindMismatch name site expected found =>
      single name ++ " referenced from " ++ site ++ " is " ++ found.text ++ ", expected " ++
        expected.text
  | misplacedQualifier site type qualifier =>
      qualifier ++ " is not meaningful on scalar type " ++ single type ++ " at " ++ site
  | invalidTypedef name target =>
      "typedef " ++ single name ++ " must alias a primitive type, found " ++ single target
  | incompatibleChainDirection extension extensionRole base baseRole =>
      "struct " ++ withRole extension extensionRole ++ " cannot extend " ++ withRole base baseRole
  | unknownBaseStruct extension base =>
      "struct " ++ single extension ++ " extends unknown struct " ++ single base
  | missingExtends name role =>
      "extension struct " ++ withRole name role ++ " must name at least one base in `extends`"
  | unexpectedExtends name role =>
      "struct " ++ withRole name role ++ " cannot declare `extends`"
  | cyclicBitflagCombination bitflag path =>
      "bitflag " ++ single bitflag ++ " has a cyclic value_combination: " ++
        " -> ".intercalate path
  | duplicateBitflagValue bitflag first second value =>
      "bitflag " ++ single bitflag ++ " entries " ++ single first ++ " and " ++ single second ++
        " both resolve to " ++ hexadecimal 1 value.toNat
  | unknownCombinationEntry bitflag entry missing =>
      entryOf bitflag entry ++ " combines unknown entry " ++ single missing
  | malformedBitflagEntry bitflag entry =>
      entryOf bitflag entry ++ " must set exactly one of value or value_combination"
  | duplicateEnumValue name first second value =>
      "enum " ++ single name ++ " entries " ++ single first ++ " and " ++ single second ++
        " both resolve to " ++ hexadecimal 8 value.toNat
  | invalidValue owner value reason =>
      "invalid value " ++ value ++ " for " ++ owner ++ ": " ++ reason
  | invalidEnumBlock document block =>
      "schema " ++ single document ++ " has invalid enum_prefix " ++ single block
  | mergeOrder kind name fault => kind.text ++ " " ++ single name ++ " " ++ fault.text

end Problem

end InterfaceSchema
