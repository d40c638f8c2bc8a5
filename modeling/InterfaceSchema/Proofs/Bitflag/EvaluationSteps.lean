import InterfaceSchema.Proofs.Bitflag.Progress
import InterfaceSchema.Proofs.Steps
import Mathlib.Data.List.Flatten
import Mathlib.Data.List.Perm.Subperm

/-!
An evaluation operation by operation, without a limit to the operations. An operation that would
address an entry that does not exist, or lower a counter that stands at zero, has no next state. No
state that is reached is such a one: a counter holds the unfinished occurrences of parts and those
that the entry taken last has still to tell of. No entry is queued twice, so the loop comes to an
end, and it ends with the evaluation that counts its steps.
-/

namespace InterfaceSchema

set_option autoImplicit false

open MaskNode MaskProgress Steps

structure EvaluationLoop where
  progress : MaskProgress
  /-- The entries that are still to be told of the entry taken last, once for each occurrence. -/
  untold : List Nat
  taken : List Nat
  queued : List Nat
  deriving DecidableEq, Repr

namespace EvaluationLoop

def start (nodes : List MaskNode) : EvaluationLoop :=
  { progress := MaskProgress.start nodes
    untold := []
    taken := []
    queued := (MaskProgress.start nodes).queue }

def ready (dependent left : Nat) : List Nat := if left = 0 then [dependent] else []

def tell (loop : EvaluationLoop) (dependent : Nat) (rest : List Nat) (left : Nat) :
    EvaluationLoop :=
  { loop with
    progress := { loop.progress with
      waiting := loop.progress.waiting.set dependent left
      queue := loop.progress.queue ++ ready dependent left }
    untold := rest
    queued := loop.queued ++ ready dependent left }

def take (nodes : List MaskNode) (loop : EvaluationLoop) (index : Nat) (rest : List Nat)
    (node : MaskNode) : EvaluationLoop :=
  { loop with
    progress := { loop.progress with
      queue := rest
      masks := loop.progress.masks.set index (maskOf loop.progress.masks node)
      finished := loop.progress.finished.set index true }
    untold := dependents nodes index
    taken := loop.taken ++ [index] }

def Addressable (progress : MaskProgress) (index : Nat) (node : MaskNode) : Prop :=
  index < progress.masks.length ∧ index < progress.finished.length ∧
    ∀ part ∈ node.parts, part < progress.masks.length

instance (progress : MaskProgress) (index : Nat) (node : MaskNode) :
    Decidable (Addressable progress index node) :=
  inferInstanceAs (Decidable (_ ∧ _ ∧ _))

/-- The next operation. There is none where the loop has ended, and none where the operation would
address what is not there or lower a counter below zero. -/
def step? (nodes : List MaskNode) (loop : EvaluationLoop) : Option EvaluationLoop :=
  match loop.untold, loop.progress.queue with
  | dependent :: rest, _ =>
      match loop.progress.waiting[dependent]? with
      | some (left + 1) => some (loop.tell dependent rest left)
      | _ => none
  | [], index :: rest =>
      match nodes[index]? with
      | some node =>
          if Addressable loop.progress index node then some (loop.take nodes index rest node)
          else none
      | none => none
  | [], [] => none

def Ended (loop : EvaluationLoop) : Prop := loop.untold = [] ∧ loop.progress.queue = []

structure Sound (nodes : List MaskNode) (loop : EvaluationLoop) : Prop where
  waiting_length : loop.progress.waiting.length = nodes.length
  masks_length : loop.progress.masks.length = nodes.length
  finished_length : loop.progress.finished.length = nodes.length
  /-- An entry waits for the occurrences of its parts that are unfinished, and for those that it
  has not been told of. -/
  counted : ∀ index, loop.progress.waitingFor index =
    ((partsAt nodes index).countP fun part => !loop.progress.isFinished part) +
      loop.untold.count index
  finished_iff : ∀ index, loop.progress.isFinished index = true ↔ index ∈ loop.taken
  queued_eq : loop.queued = loop.taken ++ loop.progress.queue
  queued_once : loop.queued.Nodup
  queued_ready : ∀ index ∈ loop.queued, index < nodes.length ∧ loop.progress.waitingFor index = 0
  /-- Going on in whole entries gives the evaluation. -/
  resumes : run nodes (nodes.length - loop.taken.length) (release loop.progress loop.untold) =
    evaluate nodes

section Step

variable {nodes : List MaskNode} {loop next : EvaluationLoop}

theorem step_cases (step : step? nodes loop = some next) :
    (∃ dependent rest left, loop.untold = dependent :: rest ∧
        loop.progress.waiting[dependent]? = some (left + 1) ∧
        next = loop.tell dependent rest left) ∨
      ∃ index rest node, loop.untold = [] ∧ loop.progress.queue = index :: rest ∧
        nodes[index]? = some node ∧ next = loop.take nodes index rest node := by
  rcases untold : loop.untold with _ | ⟨dependent, rest⟩
  · rcases queue : loop.progress.queue with _ | ⟨index, rest⟩
    · simp [step?, untold, queue] at step
    · simp only [step?, untold, queue] at step
      split at step
      · next node found =>
          split at step
          · cases step
            exact Or.inr ⟨index, rest, node, rfl, rfl, found, rfl⟩
          · cases step
      · cases step
  · simp only [step?, untold] at step
    split at step
    · next left counter =>
        cases step
        exact Or.inl ⟨dependent, rest, left, rfl, counter, rfl⟩
    · cases step

theorem counter_of_waiting {progress : MaskProgress} {index : Nat}
    (waits : 0 < progress.waitingFor index) :
    ∃ left, progress.waiting[index]? = some (left + 1) := by
  unfold waitingFor at waits
  rcases counter : progress.waiting[index]? with _ | (_ | left)
  · simp [counter] at waits
  · simp [counter] at waits
  · exact ⟨left, rfl⟩

theorem tell_progress {dependent left : Nat} (rest : List Nat)
    (counter : loop.progress.waiting[dependent]? = some (left + 1)) :
    (loop.tell dependent rest left).progress = release loop.progress [dependent] := by
  by_cases last : left = 0
  · simp [tell, ready, release, counter, last]
  · simp [tell, ready, release, counter, last]

theorem mem_ready_iff {dependent left index : Nat} :
    index ∈ ready dependent left ↔ left = 0 ∧ index = dependent := by
  by_cases last : left = 0
  · simp [ready, last]
  · simp [ready, last]

theorem ready_nodup (dependent left : Nat) : (ready dependent left).Nodup := by
  by_cases last : left = 0
  · simp [ready, last]
  · simp [ready, last]

theorem release_cons (progress : MaskProgress) (dependent : Nat) (rest : List Nat) :
    release progress (dependent :: rest) = release (release progress [dependent]) rest := rfl

namespace Sound

theorem unfinished_of_queued (sound : Sound nodes loop) {index : Nat}
    (queued : index ∈ loop.progress.queue) : loop.progress.isFinished index = false := by
  have once := sound.queued_once
  rw [sound.queued_eq, List.nodup_append] at once
  rw [← Bool.not_eq_true, sound.finished_iff]
  intro taken
  exact once.2.2 index taken index queued rfl

theorem inside_of_queued (sound : Sound nodes loop) {index : Nat}
    (queued : index ∈ loop.progress.queue) : index < nodes.length := by
  apply (sound.queued_ready index _).1
  rw [sound.queued_eq]
  exact List.mem_append_right _ queued

theorem queued_within (sound : Sound nodes loop) :
    loop.queued.Subperm (List.range nodes.length) := by
  apply List.subperm_of_subset sound.queued_once
  intro index queued
  exact List.mem_range.mpr (sound.queued_ready index queued).1

theorem queued_length (sound : Sound nodes loop) : loop.queued.length ≤ nodes.length := by
  simpa using sound.queued_within.length_le

theorem taken_within (sound : Sound nodes loop) :
    loop.taken.Subperm (List.range nodes.length) := by
  have within := sound.queued_within
  rw [sound.queued_eq] at within
  exact (List.sublist_append_left _ _).subperm.trans within

/-- An entry that is told waits for one occurrence less. With the last one it is queued, and it was
not queued before, as its counter was above zero. -/
theorem tell (sound : Sound nodes loop) {dependent left : Nat} {rest : List Nat}
    (untold : loop.untold = dependent :: rest)
    (counter : loop.progress.waiting[dependent]? = some (left + 1)) :
    Sound nodes (loop.tell dependent rest left) := by
  have told := tell_progress rest counter
  have counts : loop.progress.waitingFor dependent = left + 1 := by simp [waitingFor, counter]
  have waits : ∀ index, (loop.tell dependent rest left).progress.waitingFor index =
      loop.progress.waitingFor index - [dependent].count index := by
    intro index
    rw [told, release_waiting]
  have unqueued : dependent ∉ loop.queued := by
    intro queued
    have ready := (sound.queued_ready dependent queued).2
    omega
  constructor
  case waiting_length =>
    exact List.length_set.trans sound.waiting_length
  case masks_length =>
    exact sound.masks_length
  case finished_length =>
    exact sound.finished_length
  case counted =>
    intro index
    have before := sound.counted index
    rw [untold, List.count_cons] at before
    rw [waits, List.count_singleton, before]
    change _ = (partsAt nodes index).countP (fun part => !loop.progress.isFinished part) +
      rest.count index
    omega
  case finished_iff =>
    exact sound.finished_iff
  case queued_eq =>
    simp only [EvaluationLoop.tell, sound.queued_eq, List.append_assoc]
  case queued_once =>
    refine List.nodup_append.mpr ⟨sound.queued_once, ready_nodup dependent left, ?_⟩
    rintro index queued other now rfl
    exact unqueued ((mem_ready_iff.mp now).2 ▸ queued)
  case queued_ready =>
    intro index queued
    rw [waits]
    rcases List.mem_append.mp queued with before | now
    · obtain ⟨inside, ready⟩ := sound.queued_ready index before
      exact ⟨inside, by omega⟩
    · obtain ⟨last, rfl⟩ := mem_ready_iff.mp now
      rw [List.count_singleton_self, ← sound.waiting_length]
      exact ⟨(List.getElem?_eq_some_iff.mp counter).1, by omega⟩
  case resumes =>
    have before := sound.resumes
    rwa [untold, release_cons, ← told] at before

theorem take (sound : Sound nodes loop) {index : Nat} {rest : List Nat} {node : MaskNode}
    (untold : loop.untold = []) (queue : loop.progress.queue = index :: rest)
    (found : nodes[index]? = some node) : Sound nodes (loop.take nodes index rest node) := by
  have first : index ∈ loop.progress.queue := by simp [queue]
  have inside := sound.inside_of_queued first
  have unfinished := sound.unfinished_of_queued first
  have bound : index < loop.progress.finished.length := by rwa [sound.finished_length]
  have finished : ∀ other, (loop.take nodes index rest node).progress.isFinished other =
      if other = index then true else loop.progress.isFinished other :=
    is_finished_set loop.progress bound
  constructor
  case waiting_length =>
    exact sound.waiting_length
  case masks_length =>
    exact List.length_set.trans sound.masks_length
  case finished_length =>
    exact List.length_set.trans sound.finished_length
  case counted =>
    intro other
    have before := sound.counted other
    rw [untold, List.count_nil, Nat.add_zero, count_unfinished_split _ unfinished] at before
    simp only [finished]
    exact before.trans (congrArg _ (count_dependents nodes index other).symm)
  case finished_iff =>
    intro other
    rw [finished]
    have before := sound.finished_iff other
    by_cases same : other = index
    · simp [EvaluationLoop.take, same]
    · simp [EvaluationLoop.take, same, before]
  case queued_eq =>
    have before := sound.queued_eq
    rw [queue] at before
    simp [EvaluationLoop.take, before]
  case queued_once =>
    exact sound.queued_once
  case queued_ready =>
    exact sound.queued_ready
  case resumes =>
    have room := sound.queued_length
    rw [sound.queued_eq, queue, List.length_append, List.length_cons] at room
    have more : nodes.length - loop.taken.length =
        nodes.length - (loop.taken ++ [index]).length + 1 := by
      rw [List.length_append, List.length_singleton]
      omega
    have before := sound.resumes
    rw [untold, release, more, run, queue] at before
    simp only [finish, found, Option.bind_some] at before
    exact before

theorem step (sound : Sound nodes loop) (step : step? nodes loop = some next) :
    Sound nodes next := by
  rcases step_cases step with
    ⟨dependent, rest, left, untold, counter, rfl⟩ | ⟨index, rest, node, untold, queue, found, rfl⟩
  · exact sound.tell untold counter
  · exact sound.take untold queue found

theorem start (nodes : List MaskNode) : Sound nodes (EvaluationLoop.start nodes) := by
  have invariant := start_invariant nodes
  constructor
  case waiting_length =>
    simp [EvaluationLoop.start, MaskProgress.start]
  case masks_length =>
    exact invariant.masks_length
  case finished_length =>
    exact invariant.finished_length
  case counted =>
    exact invariant.waiting_count
  case finished_iff =>
    intro index
    simp [EvaluationLoop.start, start_unfinished]
  case queued_eq =>
    rfl
  case queued_once =>
    exact invariant.queue_nodup
  case queued_ready =>
    intro index queued
    obtain ⟨inside, _, ready⟩ := (invariant.mem_queue index).mp queued
    exact ⟨inside, ready⟩
  case resumes =>
    rfl

/-- No operation fails: what it addresses is there, and whoever is to be told counts for it. -/
theorem goes_on (sound : Sound nodes loop) (range : PartsInRange nodes) :
    loop.Ended ∨ ∃ next, step? nodes loop = some next := by
  rcases untold : loop.untold with _ | ⟨dependent, rest⟩
  · rcases queue : loop.progress.queue with _ | ⟨index, rest⟩
    · exact Or.inl ⟨untold, queue⟩
    · have first : index ∈ loop.progress.queue := by simp [queue]
      have inside := sound.inside_of_queued first
      have found := List.getElem?_eq_getElem inside
      have addressable : Addressable loop.progress index nodes[index] := by
        rw [Addressable, sound.masks_length, sound.finished_length]
        refine ⟨inside, inside, ?_⟩
        intro part member
        have partOf : PartOf nodes part index := by simpa [PartOf, partsAt, found] using member
        exact range index part partOf
      have step : step? nodes loop = some (loop.take nodes index rest nodes[index]) := by
        simp only [step?, untold, queue, found, if_pos addressable]
      exact Or.inr ⟨_, step⟩
  · have counted := sound.counted dependent
    rw [untold, List.count_cons_self] at counted
    have waits : 0 < loop.progress.waitingFor dependent := by omega
    obtain ⟨left, counter⟩ := counter_of_waiting waits
    have step : step? nodes loop = some (loop.tell dependent rest left) := by
      simp only [step?, untold, counter]
    exact Or.inr ⟨_, step⟩

theorem progress_of_ended (sound : Sound nodes loop) (ended : loop.Ended) :
    loop.progress = evaluate nodes := by
  obtain ⟨untold, queue⟩ := ended
  have resumes := sound.resumes
  rw [untold, release] at resumes
  rw [← resumes]
  cases nodes.length - loop.taken.length with
  | zero => rfl
  | succ steps => rw [run, queue]

end Sound

end Step

variable (nodes : List MaskNode)

theorem sound_after {count : Nat} {loop : EvaluationLoop}
    (ran : after (step? nodes) (start nodes) count = some loop) : Sound nodes loop :=
  holds_after (fun _ loop => Sound nodes loop) (Sound.start nodes)
    (fun _ _ _ sound step => sound.step step) ran

/-- An operation takes one entry or tells one occurrence. -/
theorem operations_after {count : Nat} {loop : EvaluationLoop}
    (ran : after (step? nodes) (start nodes) count = some loop) :
    count + loop.untold.length =
      loop.taken.length + (loop.taken.flatMap (dependents nodes)).length := by
  refine holds_after (fun count loop => count + loop.untold.length =
    loop.taken.length + (loop.taken.flatMap (dependents nodes)).length) rfl ?_ ran
  intro count before next counted step
  rcases step_cases step with
    ⟨dependent, rest, left, untold, _, rfl⟩ | ⟨index, rest, node, untold, _, _, rfl⟩
  · rw [untold, List.length_cons] at counted
    simp only [tell]
    omega
  · rw [untold, List.length_nil] at counted
    simp only [take, List.length_append, List.length_singleton, List.flatMap_append,
      List.flatMap_singleton]
    omega

theorem operations_bounded {count : Nat} {loop : EvaluationLoop}
    (ran : after (step? nodes) (start nodes) count = some loop) :
    count ≤ nodes.length + ((List.range nodes.length).flatMap (dependents nodes)).length := by
  have within := (sound_after nodes ran).taken_within
  have entries := within.length_le
  have occurrences : (loop.taken.flatMap (dependents nodes)).length ≤
      ((List.range nodes.length).flatMap (dependents nodes)).length := by
    obtain ⟨sorted, perm, sublist⟩ := within
    rw [← (perm.flatMap_right (dependents nodes)).length_eq]
    exact (sublist.flatMap (dependents nodes)).length_le
  rw [List.length_range] at entries
  have counted := operations_after nodes ran
  omega

/-- However far the loop has come, it goes on or has ended, with no entry queued twice. It ends, and
then it has the evaluation that counts its steps. -/
theorem loop_safe (range : PartsInRange nodes) :
    (∀ count loop, after (step? nodes) (start nodes) count = some loop →
      Sound nodes loop ∧ loop.taken.length ≤ nodes.length ∧
        (loop.Ended ∨ ∃ next, step? nodes loop = some next)) ∧
      ∃ count last, after (step? nodes) (start nodes) count = some last ∧ last.Ended ∧
        last.progress = evaluate nodes := by
  have goesOn : ∀ count loop, after (step? nodes) (start nodes) count = some loop →
      loop.Ended ∨ ∃ next, step? nodes loop = some next :=
    fun _ _ ran => (sound_after nodes ran).goes_on range
  constructor
  · intro count loop ran
    have sound := sound_after nodes ran
    exact ⟨sound, by simpa using sound.taken_within.length_le, goesOn count loop ran⟩
  · obtain ⟨count, _, last, ran, ended⟩ :=
      ends_of_bounded (fun _ _ ran => operations_bounded nodes ran) goesOn
    exact ⟨count, last, ran, ended, (sound_after nodes ran).progress_of_ended ended⟩

end EvaluationLoop

end InterfaceSchema
