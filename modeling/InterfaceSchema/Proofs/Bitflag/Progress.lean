import InterfaceSchema.Bitflag.Evaluation

/-!
What an evaluation keeps from step to step. An entry waits for exactly the occurrences of its
parts that are unfinished, the queue holds the unfinished entries that wait for nothing, each of
them once, and a finished entry has the mask that its finished parts give. At the end the queue is
empty, so that the finished entries are those from which no chain of parts goes on for ever.
-/

namespace InterfaceSchema

set_option autoImplicit false

namespace MaskNode

/-- The parts of the entry at an index; none where there is no entry. -/
def partsAt (nodes : List MaskNode) (index : Nat) : List Nat :=
  ((nodes[index]?).map parts).getD []

def PartOf (nodes : List MaskNode) (part whole : Nat) : Prop := part ∈ partsAt nodes whole

def PartsInRange (nodes : List MaskNode) : Prop :=
  ∀ whole part, PartOf nodes part whole → part < nodes.length

theorem lt_length_of_part {nodes : List MaskNode} {part whole : Nat}
    (member : PartOf nodes part whole) : whole < nodes.length := by
  rcases Nat.lt_or_ge whole nodes.length with inside | outside
  · exact inside
  · simp [PartOf, partsAt, outside] at member

end MaskNode

namespace MaskProgress

open MaskNode

def waitingFor (progress : MaskProgress) (index : Nat) : Nat :=
  (progress.waiting[index]?).getD 0

def maskAt (progress : MaskProgress) (index : Nat) : Option UInt64 := (progress.masks[index]?).join

theorem joined_congr {masks others : List (Option UInt64)} {parts : List Nat}
    (same : ∀ part ∈ parts, (masks[part]?).join = (others[part]?).join) :
    joined masks parts = joined others parts := by
  induction parts with
  | nil => rfl
  | cons part rest ih =>
      simp only [joined]
      rw [same part (by simp), ih (by intro other member; exact same other (by simp [member]))]

/-- The mask of an entry depends on the masks of its parts only. -/
theorem mask_of_congr {masks others : List (Option UInt64)} {node : MaskNode}
    (same : ∀ part ∈ node.parts, (masks[part]?).join = (others[part]?).join) :
    maskOf masks node = maskOf others node := by
  cases node with
  | literal value => rfl
  | combination parts => exact joined_congr same
  | unresolvable => rfl

theorem count_dependents_from (nodes : List MaskNode) (index dependent offset : Nat) :
    ((nodes.zipIdx offset).flatMap fun (node, whole) =>
        (node.parts.filter fun part => part == index).map fun _ => whole).count dependent =
      if offset ≤ dependent then (partsAt nodes (dependent - offset)).count index else 0 := by
  induction nodes generalizing offset with
  | nil => simp [partsAt]
  | cons node rest ih =>
      have occurrences : (node.parts.filter fun part => part == index).length =
          node.parts.count index := by
        rw [List.count, List.countP_eq_length_filter]
      rw [List.zipIdx_cons, List.flatMap_cons, List.count_append, ih (offset + 1)]
      simp only [List.map_const', List.count_replicate, occurrences]
      by_cases here : offset = dependent
      · subst here
        have notNext : ¬offset + 1 ≤ offset := by omega
        simp [notNext, partsAt]
      · by_cases later : offset ≤ dependent
        · have shift : dependent - offset = dependent - (offset + 1) + 1 := by omega
          have next : offset + 1 ≤ dependent := by omega
          simp [here, later, next, shift, partsAt]
        · have notNext : ¬offset + 1 ≤ dependent := by omega
          simp [here, later, notNext]

/-- An entry is told of a finished part once for each occurrence of that part in it. -/
theorem count_dependents (nodes : List MaskNode) (index dependent : Nat) :
    (dependents nodes index).count dependent = (partsAt nodes dependent).count index := by
  have counted := count_dependents_from nodes index dependent 0
  simpa [dependents] using counted

section Release

theorem release_masks (progress : MaskProgress) (told : List Nat) :
    (release progress told).masks = progress.masks := by
  induction told generalizing progress with
  | nil => rfl
  | cons dependent rest ih => simp only [release]; rw [ih]

theorem release_finished (progress : MaskProgress) (told : List Nat) :
    (release progress told).finished = progress.finished := by
  induction told generalizing progress with
  | nil => rfl
  | cons dependent rest ih => simp only [release]; rw [ih]

theorem waiting_for_set (progress : MaskProgress) (dependent index : Nat) (queue : List Nat) :
    waitingFor { progress with
      waiting := progress.waiting.set dependent (progress.waitingFor dependent - 1)
      queue := queue } index =
      if index = dependent then progress.waitingFor dependent - 1
      else progress.waitingFor index := by
  unfold waitingFor
  by_cases same : index = dependent
  · subst same
    by_cases inside : index < progress.waiting.length
    · simp [inside]
    · simp [inside]
  · simp [same, List.getElem?_set_ne (Ne.symm same)]

theorem release_waiting (progress : MaskProgress) (told : List Nat) (index : Nat) :
    (release progress told).waitingFor index = progress.waitingFor index - told.count index := by
  induction told generalizing progress with
  | nil => simp [release]
  | cons dependent rest ih =>
      simp only [release]
      rw [ih]
      change waitingFor { progress with
        waiting := progress.waiting.set dependent (progress.waitingFor dependent - 1)
        queue := _ } index - _ = _
      rw [waiting_for_set]
      by_cases same : index = dependent
      · subst same
        simp only [if_true, List.count_cons_self]
        omega
      · rw [if_neg same, List.count_cons_of_ne (Ne.symm same)]

/-- Where every entry waits for at least the occurrences that it is told of, it is queued by the
last one of them, and so at most once. -/
theorem release_queue (progress : MaskProgress) (told : List Nat)
    (enough : ∀ index, told.count index ≤ progress.waitingFor index) :
    ∃ added : List Nat, (release progress told).queue = progress.queue ++ added ∧ added.Nodup ∧
      ∀ index, index ∈ added ↔
        0 < told.count index ∧ progress.waitingFor index = told.count index := by
  induction told generalizing progress with
  | nil => exact ⟨[], by simp [release]⟩
  | cons dependent rest ih =>
      let left := progress.waitingFor dependent - 1
      let queue := if left = 0 then progress.queue ++ [dependent] else progress.queue
      let next : MaskProgress :=
        { progress with waiting := progress.waiting.set dependent left, queue := queue }
      have own := enough dependent
      rw [List.count_cons_self] at own
      have waits : ∀ index, next.waitingFor index =
          if index = dependent then progress.waitingFor dependent - 1
          else progress.waitingFor index :=
        fun index => waiting_for_set progress dependent index queue
      have nextEnough : ∀ index, rest.count index ≤ next.waitingFor index := by
        intro index
        rw [waits]
        by_cases same : index = dependent
        · subst same
          rw [if_pos rfl]
          omega
        · rw [if_neg same]
          have all := enough index
          rwa [List.count_cons_of_ne (Ne.symm same)] at all
      obtain ⟨added, queued, nodup, members⟩ := ih next nextEnough
      have others : ∀ index, index ≠ dependent →
          (index ∈ added ↔ 0 < (dependent :: rest).count index ∧
            progress.waitingFor index = (dependent :: rest).count index) := by
        intro index different
        rw [members, waits, if_neg different, List.count_cons_of_ne (Ne.symm different)]
      have ownMember : dependent ∈ added ↔
          0 < rest.count dependent ∧ left = rest.count dependent := by
        rw [members, waits, if_pos rfl]
      change ∃ added, (release next rest).queue = _ ∧ _
      -- The dependent is queued here only if it is not told again in the rest.
      by_cases last : left = 0
      · refine ⟨dependent :: added, ?_, ?_, ?_⟩
        · rw [queued]
          simp [next, queue, last]
        · refine List.nodup_cons.mpr ⟨?_, nodup⟩
          rw [ownMember]
          omega
        · intro index
          by_cases same : index = dependent
          · subst same
            simp only [List.mem_cons, true_or, List.count_cons_self, true_iff]
            omega
          · rw [List.mem_cons, or_iff_right same]
            exact others index same
      · refine ⟨added, ?_, nodup, ?_⟩
        · rw [queued]
          simp [next, queue, last]
        · intro index
          by_cases same : index = dependent
          · subst same
            rw [ownMember, List.count_cons_self]
            omega
          · exact others index same

end Release

structure Invariant (nodes : List MaskNode) (progress : MaskProgress) : Prop where
  masks_length : progress.masks.length = nodes.length
  finished_length : progress.finished.length = nodes.length
  waiting_count : ∀ index, progress.waitingFor index =
    (partsAt nodes index).countP fun part => !progress.isFinished part
  queue_nodup : progress.queue.Nodup
  mem_queue : ∀ index, index ∈ progress.queue ↔
    index < nodes.length ∧ progress.isFinished index = false ∧ progress.waitingFor index = 0
  finished_waiting : ∀ index, progress.isFinished index = true → progress.waitingFor index = 0
  finished_mask : ∀ index, progress.isFinished index = true →
    progress.maskAt index = (nodes[index]?).bind (maskOf progress.masks)
  unfinished_mask : ∀ index, progress.isFinished index = false → progress.maskAt index = none
  /-- No chain of parts goes on for ever from a finished entry. -/
  finished_accessible : ∀ index, progress.isFinished index = true → Acc (PartOf nodes) index

theorem start_unfinished (nodes : List MaskNode) (index : Nat) :
    (start nodes).isFinished index = false := by
  simp only [start, isFinished, List.getElem?_map]
  cases nodes[index]? <;> rfl

theorem start_invariant (nodes : List MaskNode) : Invariant nodes (start nodes) := by
  have unfinished := start_unfinished nodes
  have waits : ∀ index, (start nodes).waitingFor index = (partsAt nodes index).length := by
    intro index
    simp only [start, waitingFor, partsAt, List.getElem?_map]
    cases nodes[index]? <;> rfl
  constructor
  case masks_length =>
    simp [start]
  case finished_length =>
    simp [start]
  case waiting_count =>
    intro index
    rw [waits, List.countP_eq_length.mpr]
    intro part _
    simp [unfinished part]
  case queue_nodup =>
    exact List.nodup_range.filter _
  case mem_queue =>
    intro index
    rw [waits, List.length_eq_zero_iff, unfinished]
    simp [start, partsAt]
  case finished_waiting =>
    intro index finished
    simp [unfinished index] at finished
  case finished_mask =>
    intro index finished
    simp [unfinished index] at finished
  case unfinished_mask =>
    intro index _
    simp only [start, maskAt, List.getElem?_map]
    cases nodes[index]? <;> rfl
  case finished_accessible =>
    intro index finished
    simp [unfinished index] at finished

namespace Invariant

variable {nodes : List MaskNode} {progress : MaskProgress}

theorem finished_part (invariant : Invariant nodes progress) {index part : Nat}
    (ready : progress.waitingFor index = 0) (member : PartOf nodes part index) :
    progress.isFinished part = true := by
  rw [invariant.waiting_count, List.countP_eq_zero] at ready
  have settled := ready part member
  simpa using settled

theorem first_unfinished (invariant : Invariant nodes progress) {index : Nat} {rest : List Nat}
    (taken : progress.queue = index :: rest) :
    ∃ bound : index < progress.finished.length, progress.finished[index] = false := by
  obtain ⟨inside, unfinished, _⟩ := (invariant.mem_queue index).mp (by simp [taken])
  have bound : index < progress.finished.length := by rwa [invariant.finished_length]
  refine ⟨bound, ?_⟩
  simpa [isFinished, bound] using unfinished

theorem lt_length_of_finished (invariant : Invariant nodes progress) {index : Nat}
    (finished : progress.isFinished index = true) : index < nodes.length := by
  rw [← invariant.finished_length]
  rcases Nat.lt_or_ge index progress.finished.length with inside | outside
  · exact inside
  · simp [isFinished, outside] at finished

end Invariant

theorem count_unfinished_split (parts : List Nat) {index : Nat} {finished : Nat → Bool}
    (unfinished : finished index = false) :
    parts.countP (fun part => !finished part) =
      parts.countP (fun part => !(if part = index then true else finished part)) +
        parts.count index := by
  induction parts with
  | nil => rfl
  | cons part rest ih =>
      simp only [List.countP_cons, List.count_cons, ih]
      by_cases same : part = index
      · subst same
        simp [unfinished]
        omega
      · simp [same]
        omega

theorem count_finished_once {parts : List Nat} {index : Nat} {finished : Nat → Bool}
    (unfinished : finished index = false) :
    parts.countP (fun part => !(if part = index then true else finished part)) =
      parts.countP (fun part => !finished part) - parts.count index := by
  have split := count_unfinished_split parts unfinished
  omega

theorem is_finished_set (progress : MaskProgress) {index : Nat}
    (inside : index < progress.finished.length) (other : Nat) :
    ((progress.finished.set index true)[other]?).getD false =
      if other = index then true else progress.isFinished other := by
  by_cases same : other = index
  · subst same
    simp [inside]
  · simp [same, List.getElem?_set_ne (Ne.symm same), isFinished]

section Finish

variable {nodes : List MaskNode} {progress : MaskProgress} {index : Nat} {rest : List Nat}

def afterFirst (nodes : List MaskNode) (progress : MaskProgress) (index : Nat)
    (rest : List Nat) : MaskProgress :=
  finish nodes { progress with queue := rest } index

theorem after_first_waiting (other : Nat) :
    (afterFirst nodes progress index rest).waitingFor other =
      progress.waitingFor other - (partsAt nodes other).count index := by
  unfold afterFirst finish
  rw [release_waiting, count_dependents]
  rfl

theorem after_first_finished (rest : List Nat) (invariant : Invariant nodes progress)
    (inside : index < nodes.length) (other : Nat) :
    (afterFirst nodes progress index rest).isFinished other =
      if other = index then true else progress.isFinished other := by
  have bound : index < progress.finished.length := by rwa [invariant.finished_length]
  unfold afterFirst finish isFinished
  rw [release_finished]
  exact is_finished_set progress bound other

theorem after_first_mask_other {other : Nat} (different : other ≠ index) :
    ((afterFirst nodes progress index rest).masks[other]?).join = progress.maskAt other := by
  unfold afterFirst finish
  rw [release_masks]
  simp [List.getElem?_set_ne (Ne.symm different), maskAt]

theorem after_first_mask_own (invariant : Invariant nodes progress)
    (inside : index < nodes.length) :
    (afterFirst nodes progress index rest).maskAt index =
      (nodes[index]?).bind (maskOf progress.masks) := by
  have bound : index < progress.masks.length := by rwa [invariant.masks_length]
  unfold afterFirst finish maskAt
  rw [release_masks]
  simp [bound]

theorem occurrences_le_waiting (invariant : Invariant nodes progress)
    (unfinished : progress.isFinished index = false) (other : Nat) :
    (partsAt nodes other).count index ≤ progress.waitingFor other := by
  rw [invariant.waiting_count, List.count]
  apply List.countP_mono_left
  intro part _ same
  have equal : part = index := by simpa using same
  simp [equal, unfinished]

/-- The parts of an entry that waits for nothing are finished and hence none of them is the one
whose mask is written now. -/
theorem ready_mask_unchanged (invariant : Invariant nodes progress)
    (unfinished : progress.isFinished index = false) {other : Nat}
    (ready : progress.waitingFor other = 0) :
    (nodes[other]?).bind (maskOf progress.masks) =
      (nodes[other]?).bind (maskOf (afterFirst nodes progress index rest).masks) := by
  cases found : nodes[other]? with
  | none => rfl
  | some node =>
      apply mask_of_congr
      intro part member
      have partOf : PartOf nodes part other := by simpa [PartOf, partsAt, found] using member
      have settled := invariant.finished_part ready partOf
      have different : part ≠ index := by
        intro same
        rw [same, unfinished] at settled
        exact Bool.false_ne_true settled
      exact (after_first_mask_other different).symm

theorem mem_rest_iff (invariant : Invariant nodes progress)
    (taken : progress.queue = index :: rest) (other : Nat) :
    other ∈ rest ↔ other ≠ index ∧ other < nodes.length ∧
      progress.isFinished other = false ∧ progress.waitingFor other = 0 := by
  have nodup := invariant.queue_nodup
  rw [taken, List.nodup_cons] at nodup
  rw [← invariant.mem_queue, taken, List.mem_cons]
  constructor
  · intro member
    refine ⟨?_, Or.inr member⟩
    intro same
    exact nodup.1 (same ▸ member)
  · rintro ⟨different, same | member⟩
    · exact absurd same different
    · exact member

/-- The queue keeps its other entries and gets those that waited for the finished entry only. -/
theorem after_first_queue (rest : List Nat) (invariant : Invariant nodes progress)
    (unfinished : progress.isFinished index = false) :
    ∃ added : List Nat, (afterFirst nodes progress index rest).queue = rest ++ added ∧
      added.Nodup ∧ ∀ other, other ∈ added ↔ 0 < (partsAt nodes other).count index ∧
        progress.waitingFor other = (partsAt nodes other).count index := by
  have enough : ∀ other,
      (dependents nodes index).count other ≤ progress.waitingFor other := by
    intro other
    rw [count_dependents]
    exact occurrences_le_waiting invariant unfinished other
  obtain ⟨added, queue, nodup, members⟩ := release_queue
    { progress with
      queue := rest
      masks := progress.masks.set index ((nodes[index]?).bind (maskOf progress.masks))
      finished := progress.finished.set index true }
    (dependents nodes index) enough
  refine ⟨added, queue, nodup, ?_⟩
  intro other
  rw [members, count_dependents]
  rfl

theorem after_first_queue_nodup (invariant : Invariant nodes progress)
    (taken : progress.queue = index :: rest) (unfinished : progress.isFinished index = false) :
    (afterFirst nodes progress index rest).queue.Nodup := by
  obtain ⟨added, queue, addedNodup, added_iff⟩ := after_first_queue rest invariant unfinished
  have nodup := invariant.queue_nodup
  rw [taken, List.nodup_cons] at nodup
  rw [queue, List.nodup_append]
  refine ⟨nodup.2, addedNodup, ?_⟩
  intro other inRest later inAdded same
  subst same
  have waitsNone := ((mem_rest_iff invariant taken other).mp inRest).2.2.2
  have waitsSome := (added_iff other).mp inAdded
  omega

theorem mem_queue_after_first (invariant : Invariant nodes progress)
    (taken : progress.queue = index :: rest) (inside : index < nodes.length)
    (unfinished : progress.isFinished index = false) (ready : progress.waitingFor index = 0)
    (other : Nat) :
    other ∈ (afterFirst nodes progress index rest).queue ↔ other < nodes.length ∧
      (afterFirst nodes progress index rest).isFinished other = false ∧
      (afterFirst nodes progress index rest).waitingFor other = 0 := by
  obtain ⟨added, queue, _, added_iff⟩ := after_first_queue rest invariant unfinished
  have enough := occurrences_le_waiting invariant unfinished other
  rw [queue, List.mem_append, mem_rest_iff invariant taken, added_iff,
    after_first_finished rest invariant inside, after_first_waiting]
  by_cases same : other = index
  · subst same
    simp only [if_true, Bool.true_eq_false, false_and, and_false, ne_eq, not_true, false_or,
      iff_false]
    omega
  · rw [if_neg same]
    constructor
    · rintro (⟨_, bound, pending, none⟩ | ⟨some, all⟩)
      · exact ⟨bound, pending, by omega⟩
      · have bound : other < nodes.length := lt_length_of_part (List.count_pos_iff.mp some)
        have pending : progress.isFinished other = false := by
          cases settled : progress.isFinished other with
          | false => rfl
          | true =>
              have none := invariant.finished_waiting other settled
              omega
        exact ⟨bound, pending, by omega⟩
    · rintro ⟨bound, pending, all⟩
      rcases Nat.eq_zero_or_pos (progress.waitingFor other) with none | some
      · exact Or.inl ⟨same, bound, pending, none⟩
      · exact Or.inr ⟨by omega, by omega⟩

theorem after_first_invariant (invariant : Invariant nodes progress)
    (taken : progress.queue = index :: rest) :
    Invariant nodes (afterFirst nodes progress index rest) := by
  obtain ⟨inside, unfinished, ready⟩ := (invariant.mem_queue index).mp (by simp [taken])
  have finishedAfter := fun other => after_first_finished rest invariant inside other
  constructor
  case masks_length =>
    unfold afterFirst finish
    rw [release_masks, List.length_set, invariant.masks_length]
  case finished_length =>
    unfold afterFirst finish
    rw [release_finished, List.length_set, invariant.finished_length]
  case waiting_count =>
    intro other
    rw [after_first_waiting, invariant.waiting_count]
    simp only [finishedAfter]
    exact (count_finished_once unfinished).symm
  case queue_nodup =>
    exact after_first_queue_nodup invariant taken unfinished
  case mem_queue =>
    exact mem_queue_after_first invariant taken inside unfinished ready
  case finished_waiting =>
    intro other settled
    rw [finishedAfter] at settled
    rw [after_first_waiting]
    by_cases same : other = index
    · subst same
      omega
    · rw [if_neg same] at settled
      have none := invariant.finished_waiting other settled
      omega
  case finished_mask =>
    intro other settled
    rw [finishedAfter] at settled
    by_cases same : other = index
    · subst same
      rw [after_first_mask_own invariant inside, ready_mask_unchanged invariant unfinished ready]
    · rw [if_neg same] at settled
      rw [← ready_mask_unchanged invariant unfinished (invariant.finished_waiting other settled)]
      exact (after_first_mask_other same).trans (invariant.finished_mask other settled)
  case unfinished_mask =>
    intro other pending
    rw [finishedAfter] at pending
    by_cases same : other = index
    · simp [same] at pending
    · rw [if_neg same] at pending
      exact (after_first_mask_other same).trans (invariant.unfinished_mask other pending)
  case finished_accessible =>
    intro other settled
    rw [finishedAfter] at settled
    by_cases same : other = index
    · subst same
      constructor
      intro part member
      exact invariant.finished_accessible part (invariant.finished_part ready member)
    · rw [if_neg same] at settled
      exact invariant.finished_accessible other settled

end Finish

theorem run_invariant {nodes : List MaskNode} (steps : Nat) {progress : MaskProgress}
    (invariant : Invariant nodes progress) : Invariant nodes (run nodes steps progress) := by
  induction steps generalizing progress with
  | zero => exact invariant
  | succ steps ih =>
      cases taken : progress.queue with
      | nil => simpa [run, taken] using invariant
      | cons index rest =>
          simp only [run, taken]
          exact ih (after_first_invariant invariant taken)

theorem evaluate_invariant (nodes : List MaskNode) : Invariant nodes (evaluate nodes) :=
  run_invariant nodes.length (start_invariant nodes)

/-- Every step finishes one more entry, so the queue runs out within a step for each unfinished
entry. -/
theorem run_queue_empty {nodes : List MaskNode} (steps : Nat) {progress : MaskProgress}
    (invariant : Invariant nodes progress) (enough : progress.finished.count false ≤ steps) :
    (run nodes steps progress).queue = [] := by
  induction steps generalizing progress with
  | zero =>
      cases taken : progress.queue with
      | nil => exact taken
      | cons index rest =>
          obtain ⟨bound, entry⟩ := invariant.first_unfinished taken
          have present := List.count_pos_iff.mpr (entry ▸ List.getElem_mem bound)
          omega
  | succ steps ih =>
      cases taken : progress.queue with
      | nil => simp [run, taken]
      | cons index rest =>
          obtain ⟨bound, entry⟩ := invariant.first_unfinished taken
          simp only [run, taken]
          apply ih (after_first_invariant invariant taken)
          unfold afterFirst finish
          rw [release_finished, List.count_set bound, entry]
          simp
          omega

theorem evaluate_queue (nodes : List MaskNode) : (evaluate nodes).queue = [] := by
  apply run_queue_empty nodes.length (start_invariant nodes)
  have size := (start_invariant nodes).finished_length
  exact size ▸ List.count_le_length

/-- What is left unfinished waits for something unfinished. -/
theorem unfinished_part_of_unfinished (nodes : List MaskNode) {index : Nat}
    (inside : index < nodes.length) (unfinished : (evaluate nodes).isFinished index = false) :
    ∃ part, PartOf nodes part index ∧ (evaluate nodes).isFinished part = false := by
  have invariant := evaluate_invariant nodes
  have waits : (evaluate nodes).waitingFor index ≠ 0 := by
    intro none
    have queued := (invariant.mem_queue index).mpr ⟨inside, unfinished, none⟩
    simp [evaluate_queue] at queued
  rw [invariant.waiting_count] at waits
  have positive := List.countP_pos_iff.mp (Nat.pos_of_ne_zero waits)
  obtain ⟨part, member, pending⟩ := positive
  exact ⟨part, member, by simpa using pending⟩

/-- The finished entries are those from which no chain of parts goes on for ever. -/
theorem finished_iff_accessible {nodes : List MaskNode} (range : PartsInRange nodes) (index : Nat) :
    (evaluate nodes).isFinished index = true ↔
      index < nodes.length ∧ Acc (PartOf nodes) index := by
  have invariant := evaluate_invariant nodes
  constructor
  · intro finished
    exact ⟨invariant.lt_length_of_finished finished, invariant.finished_accessible index finished⟩
  · rintro ⟨inside, accessible⟩
    induction accessible with
    | intro whole _ ih =>
        cases settled : (evaluate nodes).isFinished whole with
        | true => rfl
        | false =>
            obtain ⟨part, member, pending⟩ := unfinished_part_of_unfinished nodes inside settled
            have finished := ih part member (range whole part member)
            rw [pending] at finished
            exact finished

end MaskProgress

end InterfaceSchema
