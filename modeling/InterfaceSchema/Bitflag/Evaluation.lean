import InterfaceSchema.Bitflag.Graph

/-!
Masks in the order of their dependencies. An entry counts the occurrences of parts that it still
waits for; it is queued when none is left, and then gets its mask from the masks of its parts. An
entry on a cycle, or one that waits for such an entry, is never queued and stays unfinished.
-/

namespace InterfaceSchema

set_option autoImplicit false

structure MaskProgress where
  /-- For each entry the occurrences of parts that it still waits for. -/
  waiting : List Nat
  queue : List Nat
  masks : List (Option UInt64)
  finished : List Bool
  deriving DecidableEq, Repr

namespace MaskProgress

/-- The entries that wait for an entry, once for each occurrence. -/
def dependents (nodes : List MaskNode) (index : Nat) : List Nat :=
  nodes.zipIdx.flatMap fun (node, dependent) =>
    (node.parts.filter fun part => part == index).map fun _ => dependent

def joined (masks : List (Option UInt64)) : List Nat → Option UInt64
  | [] => some 0
  | part :: rest =>
      match (masks[part]?).join, joined masks rest with
      | some mask, some others => some (mask ||| others)
      | _, _ => none

def maskOf (masks : List (Option UInt64)) : MaskNode → Option UInt64
  | .literal value => value
  | .combination parts => joined masks parts
  | .unresolvable => none

def start (nodes : List MaskNode) : MaskProgress :=
  { waiting := nodes.map fun node => node.parts.length
    queue := (List.range nodes.length).filter fun index =>
      ((nodes[index]?).map MaskNode.parts).getD [] == []
    masks := nodes.map fun _ => none
    finished := nodes.map fun _ => false }

def release (progress : MaskProgress) : List Nat → MaskProgress
  | [] => progress
  | dependent :: rest =>
      let left := (progress.waiting[dependent]?).getD 0 - 1
      let queue := if left = 0 then progress.queue ++ [dependent] else progress.queue
      release { progress with waiting := progress.waiting.set dependent left, queue := queue } rest

def finish (nodes : List MaskNode) (progress : MaskProgress) (index : Nat) : MaskProgress :=
  let mask := (nodes[index]?).bind (maskOf progress.masks)
  release
    { progress with
      masks := progress.masks.set index mask
      finished := progress.finished.set index true }
    (dependents nodes index)

/-- Takes entries from the queue, at most as many as there are steps. -/
def run (nodes : List MaskNode) : Nat → MaskProgress → MaskProgress
  | 0, progress => progress
  | steps + 1, progress =>
      match progress.queue with
      | [] => progress
      | index :: queue => run nodes steps (finish nodes { progress with queue := queue } index)

/-- The whole evaluation. No entry is queued twice, so one step for each entry is enough. -/
def evaluate (nodes : List MaskNode) : MaskProgress := run nodes nodes.length (start nodes)

def isFinished (progress : MaskProgress) (index : Nat) : Bool :=
  (progress.finished[index]?).getD false

end MaskProgress

end InterfaceSchema
