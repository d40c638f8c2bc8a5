import InterfaceSchema.EnumBlock
import InterfaceSchema.Group
import InterfaceSchema.Uniqueness

/-!
Numbers of enum slots. Within one enum every block counts for itself: a slot takes the written
number or the next one of its block, and moves the counter past itself, gaps included. The
qualified value puts the block before the sixteen bits of the number.
-/

namespace InterfaceSchema

set_option autoImplicit false

structure ResolvedSlot where
  name : Option String
  doc : String
  value : Option UInt16
  qualified : Option UInt32
  deriving DecidableEq, Repr

namespace ResolvedSlot

def isGap (slot : ResolvedSlot) : Bool := slot.name.isNone

def label (slot : ResolvedSlot) : String := slot.name.getD "<reserved>"

end ResolvedSlot

structure ResolvedEnum where
  name : String
  doc : String
  slots : List ResolvedSlot
  deriving DecidableEq, Repr

namespace ResolvedEnum

def entry? (enum : ResolvedEnum) (name : String) : Option ResolvedSlot :=
  enum.slots.find? fun slot => slot.name == some name

def named (enum : ResolvedEnum) : List ResolvedSlot :=
  enum.slots.filter fun slot => !slot.isGap

end ResolvedEnum

namespace Numbering

/-- A slot and the block of the document that holds it, if that block is valid. -/
structure PlacedSlot where
  block : Option UInt16
  entry : Option EnumEntry
  deriving DecidableEq, Repr

def placedSlots (blocks : List (Option UInt16)) (group : Group EnumDecl) : List PlacedSlot :=
  group.parts.flatMap fun part =>
    part.decl.slots.map fun entry => ⟨(blocks[part.fragment]?).join, entry⟩

/-- For each block that was met, the number that comes next. -/
abbrev Counters := List (Option UInt16 × Int)

/-- The greatest number that can be written; a counter stays there. -/
def greatestNumber : Int := Int64.maxValue.toInt

def nextNumber (counters : Counters) (block : Option UInt16) : Int :=
  (counters.lookup block).getD 0

def numbers (counters : Counters) : List PlacedSlot → List Int
  | [] => []
  | slot :: rest =>
      let number := match slot.entry.bind EnumEntry.value with
        | some written => written.toInt
        | none => nextNumber counters slot.block
      number :: numbers ((slot.block, min (number + 1) greatestNumber) :: counters) rest

def value? (number : Int) : Option UInt16 :=
  if 0 ≤ number ∧ number < UInt16.size then some (UInt16.ofNat number.toNat) else none

def qualify (block value : UInt16) : UInt32 :=
  UInt32.ofNat (block.toNat * UInt16.size + value.toNat)

def resolveSlot (slot : PlacedSlot) (number : Int) : ResolvedSlot :=
  { name := slot.entry.map EnumEntry.name
    doc := (slot.entry.map EnumEntry.doc).getD ""
    value := value? number
    qualified := match slot.block, value? number with
      | some block, some value => some (qualify block value)
      | _, _ => none }

def owner (enum : String) (slot : ResolvedSlot) : String :=
  match slot.name with
  | some name => "enum " ++ enum ++ " entry " ++ name
  | none => "enum " ++ enum ++ " reserved slot"

/-- A number out of range, or a qualified value that an earlier slot holds, is told slot by slot;
the first holder of each value is kept. -/
def problems (enum : String) (taken : List (UInt32 × String)) :
    List (ResolvedSlot × Int) → List Problem
  | [] => []
  | (slot, number) :: rest =>
      match slot.value, slot.qualified with
      | none, _ =>
          .invalidValue (owner enum slot) (toString number)
              "enum values must lie in 0..=0xffff" ::
            problems enum taken rest
      | some _, none => problems enum taken rest
      | some _, some qualified =>
          match taken.lookup qualified with
          | some first =>
              .duplicateEnumValue enum first slot.label qualified :: problems enum taken rest
          | none => problems enum ((qualified, slot.label) :: taken) rest

/-- The names of a group's entries; gaps have none. -/
def entryNames (slots : List PlacedSlot) : List String :=
  slots.filterMap fun slot => slot.entry.map EnumEntry.name

def resolve (blocks : List (Option UInt16)) (group : Group EnumDecl) :
    ResolvedEnum × List Problem :=
  let placed := placedSlots blocks group
  let numbers := numbers [] placed
  let slots := List.zipWith resolveSlot placed numbers
  (⟨group.name, group.first.decl.doc, slots⟩,
    Uniqueness.problems .enumEntry (some group.name) (entryNames placed) ++
      problems group.name [] (slots.zip numbers))

end Numbering

end InterfaceSchema
