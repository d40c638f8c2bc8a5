import InterfaceSchema.Json.Shape

/-!
Settings of a resolution run, each with a default, and the pointer widths that a target may have.
-/

namespace InterfaceSchema

set_option autoImplicit false

/-- What becomes of entries of one bit mask set that stand for the same mask. -/
inductive AliasPolicy where
  | allow
  | warn
  | deny
  deriving DecidableEq, Repr

namespace AliasPolicy

def all : List AliasPolicy := [allow, warn, deny]

def text : AliasPolicy → String
  | allow => "allow"
  | warn => "warn"
  | deny => "deny"

def ofJson : Json → Except ShapeError AliasPolicy := Json.readVariant all text

end AliasPolicy

structure Config where
  pointerWidth : UInt32 := 64
  aliases : AliasPolicy := .warn
  /-- Whether references may name a kind or an array of declared items. -/
  qualified : Bool := true
  deriving DecidableEq, Repr

inductive ConfigError where
  | unreadable
  | unsupportedPointerWidth (width : UInt32)
  deriving DecidableEq, Repr

namespace ConfigError

/-- An unreadable text has no message of its own. -/
def message? : ConfigError → Option String
  | unreadable => none
  | unsupportedPointerWidth width =>
      some ("unsupported pointer width: " ++ toString width.toNat ++ " (expected 32 or 64)")

end ConfigError

namespace Config

def validate (config : Config) : Except ConfigError Unit :=
  if config.pointerWidth = 32 ∨ config.pointerWidth = 64 then .ok ()
  else .error (.unsupportedPointerWidth config.pointerWidth)

def toJson (config : Config) : Json :=
  .object [("pointer_width", .integer config.pointerWidth.toNat),
    ("bitflag_aliases", .string config.aliases.text),
    ("allow_qualified_references", .bool config.qualified)]

open WrittenRecord (problem)

def ofJson (json : Json) : Except ShapeError Config := do
  let written ← WrittenRecord.ofJson "ResolverConfig"
    ["pointer_width", "bitflag_aliases", "allow_qualified_references"] json
  let pointerWidth := written.field "pointer_width" Json.readUInt32
  let aliases := written.field "bitflag_aliases" AliasPolicy.ofJson
  let qualified := written.field "allow_qualified_references" Json.readBool
  written.check [("pointer_width", problem pointerWidth), ("bitflag_aliases", problem aliases),
    ("allow_qualified_references", problem qualified)]
  return {
    pointerWidth := (← pointerWidth).getD 64
    aliases := (← aliases).getD .warn
    qualified := (← qualified).getD true }

end Config

end InterfaceSchema
