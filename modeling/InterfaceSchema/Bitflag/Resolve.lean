import InterfaceSchema.Bitflag.Cycle
import InterfaceSchema.Config.Basic
import InterfaceSchema.Group
import InterfaceSchema.Report
import InterfaceSchema.Uniqueness

/-!
Bit mask sets with their masks. Entries of all declarations of a name count as one list; what is
wrong with them is told by entry, then by cycle, then by mask held twice.
-/

namespace InterfaceSchema

set_option autoImplicit false

structure ResolvedMask where
  name : String
  doc : String
  value : Option UInt64
  /-- The parts that were written; nothing for a literal. -/
  combination : List String
  deriving DecidableEq, Repr

structure ResolvedBitflag where
  name : String
  doc : String
  masks : List ResolvedMask
  deriving DecidableEq, Repr

namespace ResolvedBitflag

def mask? (bitflag : ResolvedBitflag) (name : String) : Option ResolvedMask :=
  bitflag.masks.find? fun mask => mask.name == name

def valueOf? (bitflag : ResolvedBitflag) (name : String) : Option UInt64 :=
  (bitflag.mask? name).bind ResolvedMask.value

/-- The entries that hold the mask of an earlier one, each told with the first holder. -/
def duplicates (bitflag : String) (seen : List (UInt64 × String)) :
    List (String × Option UInt64) → List Problem
  | [] => []
  | (_, none) :: rest => duplicates bitflag seen rest
  | (name, some value) :: rest =>
      match seen.lookup value with
      | some first =>
          .duplicateBitflagValue bitflag first name value :: duplicates bitflag seen rest
      | none => duplicates bitflag ((value, name) :: seen) rest

def aliasDiagnostics (policy : AliasPolicy) (problems : List Problem) : List Diagnostic :=
  match policy with
  | .allow => []
  | .warn => problems.map .warning
  | .deny => problems.map .error

end ResolvedBitflag

namespace BitflagDecl

def mergedEntries (group : Group BitflagDecl) : List BitflagEntry :=
  group.parts.flatMap fun part => part.decl.entries

def resolveMask (entry : BitflagEntry) (value : Option UInt64) : ResolvedMask :=
  { name := entry.name
    doc := entry.doc
    value := value
    combination := entry.combination.getD [] }

def resolve (config : Config) (group : Group BitflagDecl) : ResolvedBitflag × List Diagnostic :=
  let entries := mergedEntries group
  let names := entries.map BitflagEntry.name
  let nodes := MaskNode.graph entries config.pointerWidth
  let progress := MaskProgress.evaluate nodes
  let problems :=
    Uniqueness.problems .bitflagEntry (some group.name) names ++
      entries.flatMap (MaskNode.problems group.name entries config.pointerWidth) ++
      MaskCycle.problems group.name entries nodes progress
  let duplicates := ResolvedBitflag.duplicates group.name [] (names.zip progress.masks)
  (⟨group.name, group.first.decl.doc, List.zipWith resolveMask entries progress.masks⟩,
    problems.map .error ++ ResolvedBitflag.aliasDiagnostics config.aliases duplicates)

end BitflagDecl

end InterfaceSchema
