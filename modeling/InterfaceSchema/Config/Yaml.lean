import InterfaceSchema.Config.Basic
import InterfaceSchema.Yaml.Node

/-!
Settings read from a YAML text. A text without content leaves every setting at its default.
-/

namespace InterfaceSchema

set_option autoImplicit false

namespace Yaml

def digitsNumber? (base : Nat) (digits : List Char) : Option Nat :=
  if digits.isEmpty then none
  else
    digits.foldl (fun number character =>
      match number, Text.hexDigit? character with
      | some number, some digit => if digit < base then some (number * base + digit) else none
      | _, _ => none) (some 0)

/-- The natural number that a plain scalar writes: decimal without leading zeros, or in the base
that a letter after a zero names, behind an optional plus sign. -/
def natural? (text : String) : Option Nat :=
  let unsigned := match text.toList with
    | '+' :: rest => rest
    | rest => rest
  match unsigned with
  | '0' :: 'x' :: digits => digitsNumber? 16 digits
  | '0' :: 'o' :: digits => digitsNumber? 8 digits
  | '0' :: 'b' :: digits => digitsNumber? 2 digits
  | ['0'] => some 0
  | '0' :: _ => none
  | digits => digitsNumber? 10 digits

def boolean? (text : String) : Option Bool :=
  if ["true", "True", "TRUE"].contains text then some true
  else if ["false", "False", "FALSE"].contains text then some false
  else none

end Yaml

namespace Config

open Yaml (Node)

/-- The text of a scalar that may stand for something else than text: a plain one, or a literal
block under the tag of what it stands for. -/
def wordOfNode? (kind : String) : Node → Option String
  | .scalar scalar =>
      let tagged := scalar.tag == some ("tag:yaml.org,2002:" ++ kind)
      if scalar.style = .plain ∨ scalar.style = .literal ∧ tagged then some scalar.text else none
  | _ => none

def pointerWidthOfNode? (node : Node) : Option UInt32 :=
  match (wordOfNode? "int" node).bind Yaml.natural? with
  | some number => if number < UInt32.size then some (UInt32.ofNat number) else none
  | none => none

def isNothing (scalar : Yaml.Scalar) : Bool :=
  scalar.style == .plain && ["", "~", "null", "Null", "NULL"].contains scalar.text

/-- The policy of a scalar. It may be written as a tag of nothing. -/
def policyText? (scalar : Yaml.Scalar) : Option String :=
  match scalar.tag.map String.toList with
  | some ('!' :: name) => if isNothing scalar then some (String.ofList name) else none
  | _ => some scalar.text

def aliasesOfNode? : Node → Option AliasPolicy
  | .scalar scalar =>
      (policyText? scalar).bind fun text => AliasPolicy.all.find? fun policy => policy.text == text
  | _ => none

def qualifiedOfNode? (node : Node) : Option Bool :=
  (wordOfNode? "bool" node).bind Yaml.boolean?

def valuesOf (key : String) (entries : List (String × Node)) : List Node :=
  (entries.filter fun entry => entry.1 == key).map Prod.snd

def setting? {α : Type} (default : α) (read : Node → Option α) : List Node → Option α
  | [] => some default
  | [node] => read node
  | _ => none

def namedEntries? (document : Yaml.Document) (entries : List (Node × Node)) :
    Option (List (String × Node)) :=
  entries.mapM fun (key, value) =>
    match document.follow key with
    | .scalar scalar => some (scalar.text, document.follow value)
    | _ => none

/-- Settings from a mapping; unknown keys do not matter. -/
def ofEntries? (entries : List (String × Node)) : Option Config := do
  let standard : Config := {}
  let pointerWidth ← setting? standard.pointerWidth pointerWidthOfNode?
    (valuesOf "pointer_width" entries)
  let aliases ← setting? standard.aliases aliasesOfNode? (valuesOf "bitflag_aliases" entries)
  let qualified ← setting? standard.qualified qualifiedOfNode?
    (valuesOf "allow_qualified_references" entries)
  return ⟨pointerWidth, aliases, qualified⟩

def ofDocument? (document : Yaml.Document) : Option Config :=
  match document.root with
  | .scalar scalar => if scalar.style = .plain ∧ scalar.text = "" then some {} else none
  | .mapping entries => (namedEntries? document entries).bind ofEntries?
  | _ => none

def ofYaml (text : String) : Except ConfigError Config :=
  let config? :=
    if text.toList.all Yaml.isWhiteSpace then some {}
    else (Yaml.Document.ofText? text).bind ofDocument?
  match config? with
  | none => .error .unreadable
  | some config =>
      match config.validate with
      | .ok () => .ok config
      | .error error => .error error

end Config

end InterfaceSchema
