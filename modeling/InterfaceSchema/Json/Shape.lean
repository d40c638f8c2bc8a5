import InterfaceSchema.Decimal.Shortest
import InterfaceSchema.Json.Basic
import InterfaceSchema.Text.Quoted

/-!
Reading typed data out of JSON values, and the ways in which a value can have the wrong shape. A
record may be written as an object or as the list of its fields in their fixed order; an
enumeration as the name of a variant or as an object with that name as its only key.
-/

namespace InterfaceSchema

set_option autoImplicit false

inductive ShapeError where
  | wrongType (found : Json) (wanted : String)
  | outOfRange (found : Int) (wanted : String)
  | missingField (field : String)
  | unknownVariant (found : String) (known : List String)
  | severalVariants
  | listTooShort (length : Nat) (record : String) (fields : Nat)
  | listTooLong (length : Nat)
  | notLiteral
  deriving Repr

namespace ShapeError

def describe : Json → String
  | .null => "null"
  | .bool true => "boolean `true`"
  | .bool false => "boolean `false`"
  | .integer value => "integer `" ++ toString value ++ "`"
  | .decimal value => "floating point `" ++ value.shortestText ++ "`"
  | .string value => "string " ++ Text.quoted value
  | .array _ => "sequence"
  | .object _ => "map"

def ticked (name : String) : String := "`" ++ name ++ "`"

/-- The variants that a message offers instead of an unknown one. -/
def offer : List String → String
  | [only] => ticked only
  | [first, second] => ticked first ++ " or " ++ ticked second
  | known => "one of " ++ ", ".intercalate (known.map ticked)

def message : ShapeError → String
  | wrongType found wanted => "invalid type: " ++ describe found ++ ", expected " ++ wanted
  | outOfRange found wanted =>
      "invalid value: integer `" ++ toString found ++ "`, expected " ++ wanted
  | missingField field => "missing field " ++ ticked field
  | unknownVariant found known => "unknown variant " ++ ticked found ++ ", expected " ++ offer known
  | severalVariants => "invalid value: map, expected map with a single key"
  | listTooShort length record fields =>
      "invalid length " ++ toString length ++ ", expected struct " ++ record ++ " with " ++
        toString fields ++ " elements"
  | listTooLong length =>
      "invalid length " ++ toString length ++ ", expected fewer elements in array"
  | notLiteral => "data did not match any variant of untagged enum Value64"

end ShapeError

namespace Json

def readText : Json → Except ShapeError String
  | string value => .ok value
  | other => .error (.wrongType other "a string")

def readBool : Json → Except ShapeError Bool
  | bool value => .ok value
  | other => .error (.wrongType other "a boolean")

def readInt64 : Json → Except ShapeError Int64
  | integer value =>
      if Int64.minValue.toInt ≤ value ∧ value ≤ Int64.maxValue.toInt then
        .ok (Int64.ofInt value)
      else .error (.outOfRange value "i64")
  | other => .error (.wrongType other "i64")

def readUInt32 : Json → Except ShapeError UInt32
  | integer value =>
      if 0 ≤ value ∧ value < UInt32.size then .ok (UInt32.ofNat value.toNat)
      else .error (.outOfRange value "u32")
  | other => .error (.wrongType other "u32")

def readOption {α : Type} (read : Json → Except ShapeError α) : Json → Except ShapeError (Option α)
  | null => .ok none
  | value => (read value).map some

/-- The elements are read in order, up to the first that fails. -/
def readList {α : Type} (read : Json → Except ShapeError α) : Json → Except ShapeError (List α)
  | array elements => elements.mapM read
  | other => .error (.wrongType other "a sequence")

def variant {α : Type} (all : List α) (text : α → String) (found : String) :
    Except ShapeError α :=
  match all.find? (fun candidate => text candidate == found) with
  | some candidate => .ok candidate
  | none => .error (.unknownVariant found (all.map text))

/-- An enumeration is written as the name of a variant, or as an object whose only key is that
name and holds null. -/
def readVariant {α : Type} (all : List α) (text : α → String) : Json → Except ShapeError α
  | string found => variant all text found
  | object [(found, payload)] => do
      let candidate ← variant all text found
      match payload with
      | null => .ok candidate
      | other => .error (.wrongType other "unit")
  | object _ => .error .severalVariants
  | other => .error (.wrongType other "string or map")

end Json

structure WrittenRecord where
  record : String
  fields : List String
  /-- The values in the order of the fields, for a record written as a list. -/
  listed : Option (List Json)
  values : List (String × Json)

namespace WrittenRecord

/-- Takes a value apart as a record with the given fields in their fixed order. -/
def ofJson (record : String) (fields : List String) : Json → Except ShapeError WrittenRecord
  | .object members => .ok ⟨record, fields, none, members⟩
  | .array elements => .ok ⟨record, fields, some elements, fields.zip elements⟩
  | other => .error (.wrongType other ("struct " ++ record))

def field {α : Type} (written : WrittenRecord) (name : String)
    (read : Json → Except ShapeError α) : Except ShapeError (Option α) :=
  match written.values.lookup name with
  | some value => (read value).map some
  | none => .ok none

def problem {α : Type} : Except ShapeError α → Option ShapeError
  | .ok _ => none
  | .error error => some error

/-- Of the problems in an object the one under the least key comes first, in a list the one of
the earliest field. A list with more elements than fields is refused after its elements. -/
def check (written : WrittenRecord) (problems : List (String × Option ShapeError)) :
    Except ShapeError Unit :=
  let found := problems.filterMap fun (name, problem) => problem.map fun error => (name, error)
  match written.listed with
  | none =>
      let least := found.foldl (fun least next => match least with
        | some (name, error) => if next.1 < name then some next else some (name, error)
        | none => some next) (none : Option (String × ShapeError))
      match least with
      | some (_, error) => .error error
      | none => .ok ()
  | some elements =>
      match found with
      | (_, error) :: _ => .error error
      | [] =>
          if written.fields.length < elements.length then .error (.listTooLong elements.length)
          else .ok ()

def lack (written : WrittenRecord) (name : String) : ShapeError :=
  match written.listed with
  | none => .missingField name
  | some _ => .listTooShort (written.fields.idxOf name) written.record written.fields.length

def require {α : Type} (written : WrittenRecord) (name : String)
    (value : Except ShapeError (Option α)) : Except ShapeError α := do
  match ← value with
  | some value => .ok value
  | none => .error (written.lack name)

end WrittenRecord

end InterfaceSchema
