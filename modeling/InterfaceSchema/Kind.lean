/-!
Kinds of declarations that a type string may name, and the scopes in which names are unique.
-/

namespace InterfaceSchema

set_option autoImplicit false

inductive TypeKind where
  | typedef
  | enum
  | bitflag
  | callback
  | struct
  | object
  deriving DecidableEq, Repr

namespace TypeKind

def all : List TypeKind := [typedef, enum, bitflag, callback, struct, object]

/-- The kind's word, which also stands before the dot of a qualified reference. -/
def text : TypeKind → String
  | typedef => "typedef"
  | enum => "enum"
  | bitflag => "bitflag"
  | callback => "callback"
  | struct => "struct"
  | object => "object"

def ofText? (word : String) : Option TypeKind :=
  all.find? (fun kind => kind.text == word)

end TypeKind

inductive NameKind where
  | constant
  | typedef
  | enum
  | bitflag
  | callback
  | struct
  | function
  | object
  | enumEntry
  | bitflagEntry
  | member
  | argument
  | method
  | base
  deriving DecidableEq, Repr

namespace NameKind

def all : List NameKind :=
  [constant, typedef, enum, bitflag, callback, struct, function, object, enumEntry, bitflagEntry,
    member, argument, method, base]

def text : NameKind → String
  | constant => "constant"
  | typedef => "typedef"
  | enum => "enum"
  | bitflag => "bitflag"
  | callback => "callback"
  | struct => "struct"
  | function => "function"
  | object => "object"
  | enumEntry => "enum entry"
  | bitflagEntry => "bitflag entry"
  | member => "struct member"
  | argument => "argument"
  | method => "method"
  | base => "extends entry"

def tag : NameKind → String
  | enumEntry => "enum_entry"
  | bitflagEntry => "bitflag_entry"
  | member => "member"
  | base => "extends"
  | other => other.text

def ofTag? (word : String) : Option NameKind :=
  all.find? (fun kind => kind.tag == word)

/-- The scope in which declarations of a kind get their names. -/
def ofType : TypeKind → NameKind
  | .typedef => typedef
  | .enum => enum
  | .bitflag => bitflag
  | .callback => callback
  | .struct => struct
  | .object => object

end NameKind

end InterfaceSchema
