import InterfaceSchema.Bitflag.Evaluation

/-!
Cycles among unfinished entries. From every unfinished entry that was not met before, the walk
goes to the first unfinished part again and again; it ends at an entry of its own path, which
closes a cycle, or at one that an earlier walk has met.
-/

namespace InterfaceSchema

set_option autoImplicit false

namespace MaskCycle

def next? (nodes : List MaskNode) (progress : MaskProgress) (index : Nat) : Option Nat :=
  match nodes[index]? with
  | some node => node.parts.find? fun part => !progress.isFinished part
  | none => none

structure Walk where
  visited : List Nat
  /-- The cycle that was closed, its first entry at both ends. -/
  cycle : Option (List Nat)
  deriving DecidableEq, Repr

/-- Walks on from an entry; the path holds the entries of this walk in order. -/
def walk (nodes : List MaskNode) (progress : MaskProgress) :
    Nat → List Nat → List Nat → Nat → Walk
  | 0, visited, _, _ => ⟨visited, none⟩
  | steps + 1, visited, path, current =>
      if current ∈ path then
        ⟨visited, some (path.dropWhile (fun index => index != current) ++ [current])⟩
      else if current ∈ visited then ⟨visited, none⟩
      else
        match next? nodes progress current with
        | some next => walk nodes progress steps (current :: visited) (path ++ [current]) next
        | none => ⟨current :: visited, none⟩

/-- The cycles closed by walks from the given entries. A walk meets no entry twice, so one step
more than there are entries is enough. -/
def cyclesFrom (nodes : List MaskNode) (progress : MaskProgress) (visited : List Nat) :
    List Nat → List (List Nat)
  | [] => []
  | start :: rest =>
      if progress.isFinished start || visited.contains start then
        cyclesFrom nodes progress visited rest
      else
        let walked := walk nodes progress (nodes.length + 1) visited [] start
        walked.cycle.toList ++ cyclesFrom nodes progress walked.visited rest

def cycles (nodes : List MaskNode) (progress : MaskProgress) : List (List Nat) :=
  cyclesFrom nodes progress [] (List.range nodes.length)

def names (entries : List BitflagEntry) (cycle : List Nat) : List String :=
  cycle.filterMap fun index => entries[index]?.map BitflagEntry.name

def problems (bitflag : String) (entries : List BitflagEntry) (nodes : List MaskNode)
    (progress : MaskProgress) : List Problem :=
  (cycles nodes progress).map fun cycle =>
    .cyclicBitflagCombination bitflag (names entries cycle)

end MaskCycle

end InterfaceSchema
