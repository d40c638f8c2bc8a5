import InterfaceSchema.Proofs.Bitflag.CycleWalk
import InterfaceSchema.Proofs.Bitflag.Dependency
import InterfaceSchema.Proofs.Bitflag.EvaluationSteps

/-!
A walk of the search for cycles step by step, without a limit to the steps. A step has to stand at a
combination of existing entries and needs an unfinished part to go to; without one there is no next
state. Among the entries that an evaluation leaves unfinished that never happens, so every walk goes
on until it comes to its own path or to an entry that was met before. As it meets no entry twice,
it takes at most one step for each entry.
-/

namespace InterfaceSchema

set_option autoImplicit false

open MaskNode MaskProgress MaskCycle Steps

structure Walker where
  /-- The entries met by this walk and the ones before it. -/
  visited : List Nat
  path : List Nat
  current : Nat
  deriving DecidableEq, Repr

namespace Walker

/-- The walk has come to an entry that it met before, or to one that an earlier walk met. -/
def Ended (walker : Walker) : Prop :=
  walker.current ∈ walker.path ∨ walker.current ∈ walker.visited

instance (walker : Walker) : Decidable walker.Ended := inferInstanceAs (Decidable (_ ∨ _))

/-- The next step. There is none where the walk has ended, and none at an entry that is not a
combination of existing entries or has no unfinished part. -/
def step? (nodes : List MaskNode) (progress : MaskProgress) (walker : Walker) : Option Walker :=
  if walker.Ended then none
  else
    match nodes[walker.current]? with
    | some (.combination parts) =>
        if ∀ part ∈ parts, part < progress.finished.length then
          (parts.find? fun part => !progress.isFinished part).map fun next =>
            { visited := walker.current :: walker.visited
              path := walker.path ++ [walker.current]
              current := next }
        else none
    | _ => none

def outcome (walker : Walker) : Walk :=
  { visited := walker.visited
    cycle :=
      if walker.current ∈ walker.path then
        some (walker.path.dropWhile (fun index => index != walker.current) ++ [walker.current])
      else none }

structure Sound (nodes : List MaskNode) (progress : MaskProgress) (met : List Nat) (start : Nat)
    (walker : Walker) : Prop where
  here : LeftOpen nodes progress walker.current
  walked : Trail nodes progress met walker.path walker.current
  visited_eq : walker.visited = walker.path.reverse ++ met
  /-- Going on with the steps that are left gives the walk that counts its steps. -/
  resumes : walk nodes progress (nodes.length + 1 - walker.path.length) walker.visited walker.path
    walker.current = walk nodes progress (nodes.length + 1) met [] start

section Step

variable {nodes : List MaskNode} {progress : MaskProgress} {walker next : Walker}

theorem combination_of_next {index target : Nat} (step : next? nodes progress index = some target) :
    ∃ parts, nodes[index]? = some (.combination parts) ∧
      (parts.find? fun part => !progress.isFinished part) = some target := by
  unfold next? at step
  cases found : nodes[index]? with
  | none => simp [found] at step
  | some node =>
      rw [found] at step
      cases node with
      | literal => cases step
      | unresolvable => cases step
      | combination parts => exact ⟨parts, rfl, step⟩

theorem step_cases (step : walker.step? nodes progress = some next) :
    ¬walker.Ended ∧ ∃ target, next? nodes progress walker.current = some target ∧
      next = ⟨walker.current :: walker.visited, walker.path ++ [walker.current], target⟩ := by
  unfold step? at step
  split at step
  · cases step
  · next going =>
      refine ⟨going, ?_⟩
      split at step
      · next parts found =>
          split at step
          · obtain ⟨target, first, rfl⟩ := Option.map_eq_some_iff.mp step
            exact ⟨target, by simpa [next?, found, MaskNode.parts] using first, rfl⟩
          · cases step
      · cases step

namespace Sound

variable {met : List Nat} {start : Nat}

theorem path_length (sound : Sound nodes progress met start walker) :
    walker.path.length ≤ nodes.length :=
  sound.walked.length_le

theorem step (sound : Sound nodes progress met start walker) (range : PartsInRange nodes)
    (step : walker.step? nodes progress = some next) : Sound nodes progress met start next := by
  obtain ⟨going, target, first, rfl⟩ := step_cases step
  obtain ⟨closed, unvisited⟩ := not_or.mp going
  obtain ⟨part, pending⟩ := part_of_follows first
  have unmet : walker.current ∉ met := by
    intro known
    apply unvisited
    rw [sound.visited_eq]
    exact List.mem_append_right _ known
  constructor
  case here =>
    exact ⟨range _ _ part, pending⟩
  case walked =>
    exact sound.walked.extend closed unmet first
  case visited_eq =>
    simp [sound.visited_eq]
  case resumes =>
    have short := sound.path_length
    have more : nodes.length + 1 - walker.path.length =
        nodes.length + 1 - (walker.path ++ [walker.current]).length + 1 := by
      rw [List.length_append, List.length_singleton]
      omega
    have before := sound.resumes
    rwa [more, walk, if_neg closed, if_neg unvisited, first] at before

theorem start_of_open (here : LeftOpen nodes progress start) :
    Sound nodes progress met start ⟨met, [], start⟩ where
  here := here
  walked := ⟨List.isChain_singleton start, List.nodup_nil, by simp⟩
  visited_eq := rfl
  resumes := rfl

theorem goes_on (sound : Sound nodes progress met start walker) (range : PartsInRange nodes)
    (continues : Continues nodes progress) (size : progress.finished.length = nodes.length) :
    walker.Ended ∨ ∃ next, walker.step? nodes progress = some next := by
  by_cases ended : walker.Ended
  · exact Or.inl ended
  · obtain ⟨target, first, _⟩ := continues walker.current sound.here
    obtain ⟨parts, found, pending⟩ := combination_of_next first
    have addressed : ∀ part ∈ parts, part < progress.finished.length := by
      intro part member
      have partOf : PartOf nodes part walker.current := by
        simpa [PartOf, partsAt, found, MaskNode.parts] using member
      rw [size]
      exact range walker.current part partOf
    have step : walker.step? nodes progress =
        some ⟨walker.current :: walker.visited, walker.path ++ [walker.current], target⟩ := by
      simp only [step?, if_neg ended, found, if_pos addressed, pending, Option.map_some]
    exact Or.inr ⟨_, step⟩

theorem outcome_of_ended (sound : Sound nodes progress met start walker) (ended : walker.Ended) :
    walker.outcome = walk nodes progress (nodes.length + 1) met [] start := by
  have short := sound.path_length
  have more : nodes.length + 1 - walker.path.length =
      nodes.length - walker.path.length + 1 := by omega
  rw [← sound.resumes, more, walk, outcome]
  by_cases closed : walker.current ∈ walker.path
  · rw [if_pos closed, if_pos closed]
  · rw [if_neg closed, if_neg closed, if_pos (ended.resolve_left closed)]

end Sound

end Step

variable {nodes : List MaskNode} {progress : MaskProgress}

theorem steps_after {walker start : Walker} (fresh : start.path = []) {count : Nat}
    (ran : after (step? nodes progress) start count = some walker) :
    walker.path.length = count := by
  refine holds_after (fun count walker => walker.path.length = count) ?_ ?_ ran
  · rw [fresh, List.length_nil]
  · intro count before next counted step
    obtain ⟨_, target, _, rfl⟩ := step_cases step
    rw [List.length_append, List.length_singleton, counted]

theorem walk_safe (range : PartsInRange nodes) (continues : Continues nodes progress)
    (size : progress.finished.length = nodes.length) (met : List Nat) {start : Nat}
    (here : LeftOpen nodes progress start) :
    (∀ count walker, after (step? nodes progress) ⟨met, [], start⟩ count = some walker →
      Sound nodes progress met start walker ∧
        (walker.Ended ∨ ∃ next, walker.step? nodes progress = some next)) ∧
      ∃ count ≤ nodes.length, ∃ last,
        after (step? nodes progress) ⟨met, [], start⟩ count = some last ∧ last.Ended ∧
          last.outcome = walk nodes progress (nodes.length + 1) met [] start := by
  have sound : ∀ count walker,
      after (step? nodes progress) ⟨met, [], start⟩ count = some walker →
        Sound nodes progress met start walker := fun count walker ran =>
    holds_after (fun _ walker => Sound nodes progress met start walker) (Sound.start_of_open here)
      (fun _ _ _ before step => before.step range step) ran
  have bounded : ∀ count walker,
      after (step? nodes progress) ⟨met, [], start⟩ count = some walker →
        count ≤ nodes.length := by
    intro count walker ran
    rw [← steps_after rfl ran]
    exact (sound count walker ran).path_length
  have goesOn : ∀ count walker,
      after (step? nodes progress) ⟨met, [], start⟩ count = some walker →
        walker.Ended ∨ ∃ next, walker.step? nodes progress = some next :=
    fun count walker ran => (sound count walker ran).goes_on range continues size
  constructor
  · intro count walker ran
    exact ⟨sound count walker ran, goesOn count walker ran⟩
  · obtain ⟨count, short, last, ran, ended⟩ := ends_of_bounded bounded goesOn
    exact ⟨count, short, last, ran, ended, (sound count last ran).outcome_of_ended ended⟩

end Walker

namespace MaskNode

theorem combination_of_open {nodes : List MaskNode} (range : PartsInRange nodes) {index : Nat}
    (here : LeftOpen nodes (evaluate nodes) index) :
    ∃ parts, nodes[index]? = some (.combination parts) ∧
      ∃ part ∈ parts, (evaluate nodes).isFinished part = false := by
  obtain ⟨target, first, _⟩ := evaluate_continues range index here
  obtain ⟨parts, found, pending⟩ := Walker.combination_of_next first
  exact ⟨parts, found, target, List.mem_of_find?_eq_some pending,
    (part_of_follows first).2⟩

/-- The evaluation of a bit mask set and the search for its cycles never fail and come to an end.
Every part stands for an entry. However many operations the loop of the evaluation has made, its
counters and its queue are sound, it has taken at most as many entries as there are, and it goes on
unless it has ended; and it ends with the evaluation. What is unfinished then is a combination with
an unfinished part. So a walk from there, whatever was met before it, goes on until it comes to an
entry that was met, which takes at most a step for each entry, and it gives what the search takes
from it. -/
theorem evaluation_and_search_safe (entries : List BitflagEntry) (pointerWidth : UInt32)
    {nodes : List MaskNode} (built : nodes = graph entries pointerWidth) :
    PartsInRange nodes ∧
      (∀ count loop,
        after (EvaluationLoop.step? nodes) (EvaluationLoop.start nodes) count = some loop →
          loop.Sound nodes ∧ loop.taken.length ≤ entries.length ∧
            (loop.Ended ∨ ∃ next, loop.step? nodes = some next)) ∧
      (∃ count last,
        after (EvaluationLoop.step? nodes) (EvaluationLoop.start nodes) count = some last ∧
          last.Ended ∧ last.progress = evaluate nodes) ∧
      (∀ index, LeftOpen nodes (evaluate nodes) index →
        ∃ parts, nodes[index]? = some (.combination parts) ∧
          ∃ part ∈ parts, (evaluate nodes).isFinished part = false) ∧
      ∀ met start, LeftOpen nodes (evaluate nodes) start →
        (∀ count walker,
          after (Walker.step? nodes (evaluate nodes)) ⟨met, [], start⟩ count = some walker →
            walker.Sound nodes (evaluate nodes) met start ∧
              (walker.Ended ∨ ∃ next, walker.step? nodes (evaluate nodes) = some next)) ∧
          ∃ count ≤ entries.length, ∃ last,
            after (Walker.step? nodes (evaluate nodes)) ⟨met, [], start⟩ count = some last ∧
              last.Ended ∧
                last.outcome = walk nodes (evaluate nodes) (nodes.length + 1) met [] start := by
  have range : PartsInRange nodes := built ▸ MaskDependency.graph_parts_in_range
  have size : entries.length = nodes.length := by simp [built, graph]
  rw [size]
  obtain ⟨loops, ends⟩ := EvaluationLoop.loop_safe nodes range
  refine ⟨range, loops, ends, fun _ => combination_of_open range, ?_⟩
  intro met start here
  exact Walker.walk_safe range (evaluate_continues range) (evaluate_invariant nodes).finished_length
    met here

def repeatingEntries : List BitflagEntry :=
  [{ name := "bit", value := some (.unsigned 1) },
   { name := "double", combination := some ["bit", "bit"] },
   { name := "self", combination := some ["double", "self"] },
   { name := "after", combination := some ["self"] }]

/-- After two operations the second entry has been told of one of its two occurrences of the first
one. The last entry is left unfinished, and the walk from there ends after two steps. -/
theorem repeating_entries_safe :
    (∃ loop, after (EvaluationLoop.step? (graph repeatingEntries 64))
        (EvaluationLoop.start (graph repeatingEntries 64)) 2 = some loop ∧
        loop.untold = [1] ∧ loop.Sound (graph repeatingEntries 64)) ∧
      (∃ last, last.Ended ∧ last.progress.finished = [true, true, false, false] ∧
        ∃ count, after (EvaluationLoop.step? (graph repeatingEntries 64))
          (EvaluationLoop.start (graph repeatingEntries 64)) count = some last) ∧
      LeftOpen (graph repeatingEntries 64) (evaluate (graph repeatingEntries 64)) 3 ∧
      ∃ walker, after (Walker.step? (graph repeatingEntries 64)
        (evaluate (graph repeatingEntries 64))) ⟨[], [], 3⟩ 2 = some walker ∧
        walker.path = [3, 2] ∧ walker.Ended ∧
        walker.Sound (graph repeatingEntries 64) (evaluate (graph repeatingEntries 64)) [] 3 := by
  obtain ⟨_, loops, ⟨count, last, ran, ended, same⟩, _, walks⟩ :=
    evaluation_and_search_safe repeatingEntries 64 rfl
  have here : LeftOpen (graph repeatingEntries 64) (evaluate (graph repeatingEntries 64)) 3 :=
    ⟨by decide, by decide⟩
  refine ⟨⟨_, rfl, by decide, (loops 2 _ rfl).1⟩, ⟨last, ended, ?_, count, ran⟩, here, ?_⟩
  · rw [same]
    decide
  · exact ⟨_, rfl, by decide, by decide, ((walks [] 3 here).1 2 _ rfl).1⟩

end MaskNode

end InterfaceSchema
