import InterfaceSchema.Proofs.Recorder.Declarations
import InterfaceSchema.Proofs.Resolution.Aliases

/-!
The stages of values as computations that record: bit mask sets with their cycles and aliases, enums
with the counters of their blocks, and constants.
-/

namespace InterfaceSchema

set_option autoImplicit false

namespace Recorder

section Masks

def node (bitflag : String) (entries : List BitflagEntry) (pointerWidth : UInt32)
    (entry : BitflagEntry) : Recorder MaskNode :=
  match entry.value, entry.combination with
  | some value, none =>
      match value.resolve pointerWidth with
      | .ok mask => return .literal (some mask)
      | .error negative => do
          error (.invalidValue ("bitflag " ++ bitflag ++ " entry " ++ entry.name)
            (toString negative.toInt) "bitflag values must be non-negative")
          return .literal none
  | none, some (part :: rest) => do
      let missing := MaskNode.missingParts entries (part :: rest)
      errors (missing.map (.unknownCombinationEntry bitflag entry.name))
      return if missing.isEmpty then
          .combination ((part :: rest).filterMap (MaskNode.indexOf? entries))
        else .unresolvable
  | _, _ => do
      error (.malformedBitflagEntry bitflag entry.name)
      return .unresolvable

theorem records_node (bitflag : String) (entries : List BitflagEntry) (pointerWidth : UInt32)
    (entry : BitflagEntry) :
    Records (node bitflag entries pointerWidth entry)
      (MaskNode.ofEntry entries pointerWidth entry)
      ((MaskNode.problems bitflag entries pointerWidth entry).map .error) := by
  rcases entry with ⟨name, doc, value, combination⟩
  cases value with
  | some value =>
      cases combination with
      | none =>
          simp only [node, MaskNode.ofEntry, MaskNode.problems]
          cases value.resolve pointerWidth with
          | ok mask => exact records_pure _
          | error negative => exact records_error_then _ (records_pure _)
      | some written => exact records_error_then _ (records_pure _)
  | none =>
      cases combination with
      | none => exact records_error_then _ (records_pure _)
      | some written =>
          cases written with
          | nil => exact records_error_then _ (records_pure _)
          | cons part rest => exact (records_errors _).giving _

/-- Walks from every unfinished entry that no earlier walk has met. -/
def cycles (bitflag : String) (entries : List BitflagEntry) (nodes : List MaskNode)
    (progress : MaskProgress) (visited : List Nat) : List Nat → Recorder Unit
  | [] => return
  | start :: rest =>
      if progress.isFinished start || visited.contains start then
        cycles bitflag entries nodes progress visited rest
      else do
        let walked := MaskCycle.walk nodes progress (nodes.length + 1) visited [] start
        errors (walked.cycle.toList.map fun cycle =>
          .cyclicBitflagCombination bitflag (MaskCycle.names entries cycle))
        cycles bitflag entries nodes progress walked.visited rest

theorem records_cycles_from (bitflag : String) (entries : List BitflagEntry)
    (nodes : List MaskNode) (progress : MaskProgress) (visited starts : List Nat) :
    Records (cycles bitflag entries nodes progress visited starts) ()
      ((MaskCycle.cyclesFrom nodes progress visited starts).map fun cycle =>
        .error (.cyclicBitflagCombination bitflag (MaskCycle.names entries cycle))) := by
  induction starts generalizing visited with
  | nil => exact records_pure ()
  | cons start rest ih =>
      unfold cycles MaskCycle.cyclesFrom
      split
      · exact ih visited
      · rw [List.map_append]
        have closed := records_errors
          ((MaskCycle.walk nodes progress (nodes.length + 1) visited [] start).cycle.toList.map
            fun cycle => .cyclicBitflagCombination bitflag (MaskCycle.names entries cycle))
        rw [List.map_map] at closed
        exact closed.after (ih _)

def judge (policy : AliasPolicy) (problem : Problem) : Recorder Unit :=
  match policy with
  | .allow => return
  | .warn => warning problem
  | .deny => error problem

theorem records_judge (policy : AliasPolicy) (problem : Problem) :
    Records (judge policy problem) ()
      (ResolvedBitflag.aliasDiagnostics policy [problem]) := by
  cases policy with
  | allow => exact records_pure ()
  | warn | deny => exact records_tell _

def aliases (policy : AliasPolicy) (bitflag : String) (seen : List (UInt64 × String)) :
    List (String × Option UInt64) → Recorder Unit
  | [] => return
  | (_, none) :: rest => aliases policy bitflag seen rest
  | (name, some value) :: rest =>
      match seen.lookup value with
      | some first => do
          judge policy (.duplicateBitflagValue bitflag first name value)
          aliases policy bitflag seen rest
      | none => aliases policy bitflag ((value, name) :: seen) rest

theorem alias_diagnostics_cons (policy : AliasPolicy) (problem : Problem)
    (rest : List Problem) :
    ResolvedBitflag.aliasDiagnostics policy (problem :: rest) =
      ResolvedBitflag.aliasDiagnostics policy [problem] ++
        ResolvedBitflag.aliasDiagnostics policy rest := by
  cases policy <;> rfl

theorem records_aliases (policy : AliasPolicy) (bitflag : String)
    (seen : List (UInt64 × String)) (held : List (String × Option UInt64)) :
    Records (aliases policy bitflag seen held) ()
      (ResolvedBitflag.aliasDiagnostics policy (ResolvedBitflag.duplicates bitflag seen held)) := by
  induction held generalizing seen with
  | nil =>
      cases policy with
      | allow | warn | deny => exact records_pure ()
  | cons entry rest ih =>
      rcases entry with ⟨name, _ | value⟩
      · exact ih seen
      · unfold aliases ResolvedBitflag.duplicates
        cases seen.lookup value with
        | some first =>
            rw [alias_diagnostics_cons]
            exact (records_judge policy _).after (ih seen)
        | none => exact ih _

def evaluate (config : Config) (group : Group BitflagDecl) (nodes : List MaskNode) :
    Recorder ResolvedBitflag := do
  let entries := BitflagDecl.mergedEntries group
  let progress := MaskProgress.evaluate nodes
  cycles group.name entries nodes progress [] (List.range nodes.length)
  aliases config.aliases group.name [] ((entries.map BitflagEntry.name).zip progress.masks)
  return ⟨group.name, group.first.decl.doc,
    List.zipWith BitflagDecl.resolveMask entries progress.masks⟩

/-- One bit mask set: its names, its nodes, its cycles and the masks that it holds twice. -/
def masks (config : Config) (group : Group BitflagDecl) : Recorder ResolvedBitflag := do
  let entries := BitflagDecl.mergedEntries group
  unique .bitflagEntry (some group.name) [] (entries.map BitflagEntry.name)
  let nodes ← entries.mapM (node group.name entries config.pointerWidth)
  evaluate config group nodes

theorem records_evaluate (config : Config) (group : Group BitflagDecl) :
    Records
      (evaluate config group
        (MaskNode.graph (BitflagDecl.mergedEntries group) config.pointerWidth))
      (BitflagDecl.resolve config group).1
      ((MaskCycle.problems group.name (BitflagDecl.mergedEntries group)
          (MaskNode.graph (BitflagDecl.mergedEntries group) config.pointerWidth)
          (MaskProgress.evaluate
            (MaskNode.graph (BitflagDecl.mergedEntries group) config.pointerWidth))).map .error ++
        ResolvedBitflag.aliasDiagnostics config.aliases
          (BitflagDecl.aliasProblems config group)) := by
  rw [MaskCycle.problems, MaskCycle.cycles, List.map_map]
  exact (records_cycles_from group.name _ _ _ [] _).after
    ((records_aliases config.aliases group.name [] _).giving _)

theorem records_masks (config : Config) (group : Group BitflagDecl) :
    Records (masks config group) (BitflagDecl.resolve config group).1
      (BitflagDecl.resolve config group).2 := by
  have visited := records_map fun entry (_ : entry ∈ BitflagDecl.mergedEntries group) =>
    records_node group.name (BitflagDecl.mergedEntries group) config.pointerWidth entry
  rw [← List.map_flatMap] at visited
  rw [BitflagDecl.resolve_diagnostics, BitflagDecl.ownProblems, List.map_append, List.map_append,
    List.append_assoc, List.append_assoc]
  exact (records_unique .bitflagEntry (some group.name) _).after
    (visited.bind (records_evaluate config group))

end Masks

section Numbers

/-- Judges a slot and gives the holders of values after it. -/
def settle (enum : String) (taken : List (UInt32 × String)) (slot : ResolvedSlot) (number : Int) :
    Recorder (List (UInt32 × String)) :=
  match slot.value, slot.qualified with
  | none, _ => do
      error (.invalidValue (Numbering.owner enum slot) (toString number)
        "enum values must lie in 0..=0xffff")
      return taken
  | some _, none => return taken
  | some _, some qualified =>
      match taken.lookup qualified with
      | some first => do
          error (.duplicateEnumValue enum first slot.label qualified)
          return taken
      | none => return (qualified, slot.label) :: taken

def slots (enum : String) (counters : Numbering.Counters) (taken : List (UInt32 × String)) :
    List Numbering.PlacedSlot → Recorder (List ResolvedSlot)
  | [] => return []
  | slot :: rest => do
      let number := match slot.entry.bind EnumEntry.value with
        | some written => written.toInt
        | none => Numbering.nextNumber counters slot.block
      let moved := (slot.block, min (number + 1) Numbering.greatestNumber) :: counters
      let resolved := Numbering.resolveSlot slot number
      let holders ← settle enum taken resolved number
      return resolved :: (← slots enum moved holders rest)

/-- What is told after a slot depends on the holders that it leaves, and nothing else does. -/
theorem records_settle_then {Result : Type} (enum : String) (taken : List (UInt32 × String))
    (slot : ResolvedSlot) (number : Int) (rest : List (ResolvedSlot × Int))
    {next : List (UInt32 × String) → Recorder Result} {result : Result}
    (later : ∀ holders : List (UInt32 × String),
      Records (next holders) result ((Numbering.problems enum holders rest).map .error)) :
    Records (settle enum taken slot number >>= next) result
      ((Numbering.problems enum taken ((slot, number) :: rest)).map .error) := by
  rcases slot with ⟨name, doc, value, qualified⟩
  cases value with
  | none => exact records_error_then _ (later taken)
  | some value =>
      cases qualified with
      | none => exact later taken
      | some qualified =>
          simp only [settle, Numbering.problems]
          cases taken.lookup qualified with
          | some first => exact records_error_then _ (later taken)
          | none => exact later _

theorem records_slots (enum : String) (counters : Numbering.Counters)
    (taken : List (UInt32 × String)) (placed : List Numbering.PlacedSlot) :
    Records (slots enum counters taken placed)
      (List.zipWith Numbering.resolveSlot placed (Numbering.numbers counters placed))
      ((Numbering.problems enum taken
        ((List.zipWith Numbering.resolveSlot placed (Numbering.numbers counters placed)).zip
          (Numbering.numbers counters placed))).map .error) := by
  induction placed generalizing counters taken with
  | nil => exact records_pure []
  | cons slot rest ih =>
      apply records_settle_then
      intro holders
      exact (ih _ holders).map_value _

def numbers (blocks : List (Option UInt16)) (group : Group EnumDecl) : Recorder ResolvedEnum := do
  let placed := Numbering.placedSlots blocks group
  unique .enumEntry (some group.name) [] (Numbering.entryNames placed)
  return ⟨group.name, group.first.decl.doc, ← slots group.name [] [] placed⟩

theorem records_numbers (blocks : List (Option UInt16)) (group : Group EnumDecl) :
    Records (numbers blocks group) (Numbering.resolve blocks group).1
      ((Numbering.resolve blocks group).2.map .error) := by
  rw [Numbering.resolve, List.map_append]
  exact (records_unique .enumEntry (some group.name) _).after
    ((records_slots group.name [] [] _).map_value fun slots =>
      (⟨group.name, group.first.decl.doc, slots⟩ : ResolvedEnum))

end Numbers

def constant (pointerWidth : UInt32) (decl : ConstantDecl) : Recorder ResolvedConstant :=
  match decl.value.resolve pointerWidth with
  | .ok value => return ⟨decl.name, decl.doc, decl.value, some value⟩
  | .error negative => do
      error (.invalidValue ("constant " ++ decl.name) (toString negative.toInt)
        "constants must be non-negative")
      return ⟨decl.name, decl.doc, decl.value, none⟩

theorem records_constant (pointerWidth : UInt32) (decl : ConstantDecl) :
    Records (constant pointerWidth decl) (Resolver.resolveConstant pointerWidth decl)
      ((Resolver.constantProblems pointerWidth decl).map .error) := by
  unfold constant Resolver.resolveConstant Resolver.constantProblems
  cases decl.value.resolve pointerWidth with
  | ok value => exact records_pure _
  | error negative => exact records_error_then _ (records_pure _)

end Recorder

end InterfaceSchema
