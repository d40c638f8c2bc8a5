import InterfaceSchema.Bitflag.Cycle
import InterfaceSchema.Proofs.Bitflag.Progress
import Mathlib.Data.List.Chain
import Mathlib.Data.List.Perm.Subperm
import Mathlib.Logic.Relation

/-!
Walks along unfinished parts. A walk never leaves the unfinished entries, and as there are only so
many of them it has to come back to its own trail, where it closes a ring, or to an entry that was
met before it. From each entry there is one way to go, so a walk that has come to a ring stays
on it.
-/

namespace InterfaceSchema

set_option autoImplicit false

theorem trans_gen_of_chain {Item : Type} {relation : Item → Item → Prop} {first last : Item}
    {between : List Item} (chain : (first :: (between ++ [last])).IsChain relation) :
    Relation.TransGen relation first last := by
  induction between generalizing first with
  | nil => exact .single (List.isChain_pair.mp chain)
  | cons next rest ih =>
      obtain ⟨step, onward⟩ := List.isChain_cons_cons.mp chain
      exact .head step (ih onward)

namespace MaskCycle

open MaskNode MaskProgress

variable {nodes : List MaskNode} {progress : MaskProgress}

/-- A walk goes from the one entry on to the other. -/
def Follows (nodes : List MaskNode) (progress : MaskProgress) (index next : Nat) : Prop :=
  next? nodes progress index = some next

theorem part_of_follows {index next : Nat} (step : Follows nodes progress index next) :
    PartOf nodes next index ∧ progress.isFinished next = false := by
  unfold Follows next? at step
  cases found : nodes[index]? with
  | none => simp [found] at step
  | some node =>
      rw [found] at step
      have pending := List.find?_some step
      exact ⟨by simpa [PartOf, partsAt, found] using List.mem_of_find?_eq_some step,
        by simpa using pending⟩

def LeftOpen (nodes : List MaskNode) (progress : MaskProgress) (index : Nat) : Prop :=
  index < nodes.length ∧ progress.isFinished index = false

/-- From every entry left open the walk can go on to another one. -/
def Continues (nodes : List MaskNode) (progress : MaskProgress) : Prop :=
  ∀ index, LeftOpen nodes progress index →
    ∃ next, next? nodes progress index = some next ∧ LeftOpen nodes progress next

theorem evaluate_continues (range : PartsInRange nodes) :
    Continues nodes (evaluate nodes) := by
  rintro index ⟨inside, unfinished⟩
  have found := List.getElem?_eq_getElem inside
  obtain ⟨part, member, pending⟩ := unfinished_part_of_unfinished nodes inside unfinished
  have among : part ∈ nodes[index].parts := by simpa [PartOf, partsAt, found] using member
  obtain ⟨next, first⟩ : ∃ next,
      (nodes[index].parts.find? fun part => !(evaluate nodes).isFinished part) = some next := by
    rw [← Option.isSome_iff_exists, List.find?_isSome]
    exact ⟨part, among, by simp [pending]⟩
  have step : next? nodes (evaluate nodes) index = some next := by simpa [next?, found] using first
  obtain ⟨nextOf, nextPending⟩ := part_of_follows step
  exact ⟨next, step, range index next nextOf, nextPending⟩

theorem length_le_of_nodup_below {path : List Nat} {bound : Nat} (nodup : path.Nodup)
    (below : ∀ index ∈ path, index < bound) : path.length ≤ bound := by
  have within : path ⊆ List.range bound := by
    intro index member
    exact List.mem_range.mpr (below index member)
  simpa using (List.subperm_of_subset nodup within).length_le

theorem follows_unique {index next other : Nat} (step : Follows nodes progress index next)
    (again : Follows nodes progress index other) : next = other :=
  Option.some.inj (step.symm.trans again)

/-- Entries that a walk met one after the other and nobody met before it. The walk stands at the
entry that follows the last of them. -/
structure Trail (nodes : List MaskNode) (progress : MaskProgress) (met trail : List Nat)
    (current : Nat) : Prop where
  chain : (trail ++ [current]).IsChain (Follows nodes progress)
  nodup : trail.Nodup
  fresh : ∀ index ∈ trail, index ∉ met

namespace Trail

variable {met trail : List Nat} {current : Nat}

theorem extend (walked : Trail nodes progress met trail current) {next : Nat}
    (new : current ∉ trail) (unmet : current ∉ met) (step : Follows nodes progress current next) :
    Trail nodes progress met (trail ++ [current]) next where
  chain := by
    rw [List.append_assoc, List.singleton_append, List.isChain_append_cons_cons]
    exact ⟨walked.chain, step, List.isChain_singleton next⟩
  nodup := by
    refine List.nodup_append.mpr ⟨walked.nodup, by simp, ?_⟩
    rintro index member other here rfl
    exact new (List.mem_singleton.mp here ▸ member)
  fresh := by
    intro index member
    rcases List.mem_append.mp member with before | here
    · exact walked.fresh index before
    · exact List.mem_singleton.mp here ▸ unmet

theorem of_append {before : List Nat}
    (walked : Trail nodes progress met (before ++ trail) current) :
    Trail nodes progress [] trail current where
  chain := by
    have chain := walked.chain
    rw [List.append_assoc] at chain
    exact chain.right_of_append
  nodup := (List.nodup_append.mp walked.nodup).2.1
  fresh := by simp

theorem leads (walked : Trail nodes progress met trail current) {index : Nat}
    (member : index ∈ trail) : Relation.TransGen (Follows nodes progress) index current := by
  obtain ⟨before, after, rfl⟩ := List.append_of_mem member
  have chain := walked.chain
  rw [List.append_assoc, List.cons_append, List.isChain_split] at chain
  exact trans_gen_of_chain chain.2

theorem follower (walked : Trail nodes progress met trail current) {index : Nat}
    (member : index ∈ trail) : ∃ next ∈ trail ++ [current], Follows nodes progress index next := by
  obtain ⟨before, after, rfl⟩ := List.append_of_mem member
  have chain := walked.chain
  rw [List.append_assoc, List.cons_append] at chain ⊢
  obtain ⟨next, rest, more⟩ := List.exists_cons_of_ne_nil (List.concat_ne_nil current after)
  rw [more] at chain ⊢
  exact ⟨next, by simp, (List.isChain_append_cons_cons.mp chain).2.1⟩

theorem length_le (walked : Trail nodes progress met trail current) :
    trail.length ≤ nodes.length := by
  apply length_le_of_nodup_below walked.nodup
  intro index member
  obtain ⟨next, _, step⟩ := walked.follower member
  exact lt_length_of_part (part_of_follows step).1

end Trail

/-- How a walk ends that had the given entries met before it: with the first entry of a ring at
both ends of it, or at one of the entries met before. -/
inductive Ends (nodes : List MaskNode) (progress : MaskProgress) (met : List Nat) :
    Walk → Prop where
  | closes (tail loop : List Nat) (first : Nat)
      (walked : Trail nodes progress met (tail ++ first :: loop) first) :
      Ends nodes progress met
        ⟨(tail ++ first :: loop).reverse ++ met, some (first :: loop ++ [first])⟩
  | meets (trail : List Nat) (known : Nat) (walked : Trail nodes progress met trail known)
      (before : known ∈ met) : Ends nodes progress met ⟨trail.reverse ++ met, none⟩

theorem walk_ends (continues : Continues nodes progress) (steps : Nat) {met path : List Nat}
    {current : Nat} (here : LeftOpen nodes progress current)
    (walked : Trail nodes progress met path current)
    (enough : nodes.length < path.length + steps) :
    Ends nodes progress met (walk nodes progress steps (path.reverse ++ met) path current) := by
  induction steps generalizing path current with
  | zero =>
      -- The steps outnumber the entries that are not on the path yet, so they never run out.
      have short := walked.length_le
      omega
  | succ steps ih =>
      by_cases closed : current ∈ path
      · obtain ⟨tail, loop, rfl, new⟩ := List.eq_append_cons_of_mem closed
        have cut : (tail ++ current :: loop).dropWhile (fun index => index != current) =
            current :: loop := by
          rw [List.dropWhile_append_of_pos, List.dropWhile_cons_of_neg (by simp)]
          intro index member
          simpa using fun same : index = current => new (same ▸ member)
        rw [walk, if_pos closed, cut]
        exact .closes tail loop current walked
      · by_cases known : current ∈ met
        · rw [walk, if_neg closed, if_pos (List.mem_append_right _ known)]
          exact .meets path current walked known
        · obtain ⟨next, step, there⟩ := continues current here
          have unvisited : current ∉ path.reverse ++ met := by simp [closed, known]
          have longer := ih there (walked.extend closed known step) (by simp; omega)
          rw [walk, if_neg closed, if_neg unvisited, step]
          simpa using longer

theorem walk_from_ends (continues : Continues nodes progress) {met : List Nat} {start : Nat}
    (here : LeftOpen nodes progress start) :
    Ends nodes progress met (walk nodes progress (nodes.length + 1) met [] start) :=
  walk_ends continues (nodes.length + 1) here
    ⟨List.isChain_singleton start, List.nodup_nil, by simp⟩ (by simp)

theorem visited_of_walk (steps : Nat) (visited path : List Nat) (current : Nat) :
    visited ⊆ (walk nodes progress steps visited path current).visited := by
  induction steps generalizing visited path current with
  | zero => exact List.Subset.refl visited
  | succ steps ih =>
      rw [walk]
      split
      · exact List.Subset.refl visited
      · split
        · exact List.Subset.refl visited
        · split
          · exact List.Subset.trans (List.subset_cons_self _ _) (ih _ _ _)
          · exact List.subset_cons_self _ _

theorem start_of_walk (steps : Nat) (visited : List Nat) (start : Nat) :
    start ∈ (walk nodes progress (steps + 1) visited [] start).visited := by
  rw [walk, if_neg List.not_mem_nil]
  split
  · assumption
  · split
    · exact visited_of_walk _ _ _ _ List.mem_cons_self
    · exact List.mem_cons_self

/-- A walk that comes back to its start without meeting another entry twice. -/
def Ring (nodes : List MaskNode) (progress : MaskProgress) (ring : List Nat) : Prop :=
  ∃ first loop, ring = first :: loop ++ [first] ∧ Trail nodes progress [] (first :: loop) first

theorem mem_ring_iff {first index : Nat} {loop : List Nat} :
    index ∈ first :: loop ++ [first] ↔ index ∈ first :: loop := by
  simp only [List.cons_append, List.mem_cons, List.mem_append, List.not_mem_nil, or_false]
  tauto

theorem Ends.ring {met : List Nat} {walked : Walk} (ends : Ends nodes progress met walked)
    {ring : List Nat} (closed : walked.cycle = some ring) :
    Ring nodes progress ring ∧ ∀ index ∈ ring, index ∉ met ∧ index ∈ walked.visited := by
  cases ends with
  | meets => cases closed
  | closes tail loop first trail =>
      cases closed
      refine ⟨⟨first, loop, rfl, trail.of_append⟩, ?_⟩
      intro index member
      have own : index ∈ tail ++ first :: loop := List.mem_append_right _ (mem_ring_iff.mp member)
      exact ⟨trail.fresh index own, List.mem_append_left _ (List.mem_reverse.mpr own)⟩

/-- A walk takes every entry that it meets to its ring, or to an entry met before it. -/
theorem Ends.leads {met : List Nat} {walked : Walk} (ends : Ends nodes progress met walked)
    {index : Nat} (member : index ∈ walked.visited) :
    ∃ reached, Relation.ReflTransGen (Follows nodes progress) index reached ∧
      (reached ∈ met ∨ ∃ ring ∈ walked.cycle, reached ∈ ring) := by
  cases ends with
  | closes tail loop first trail =>
      rcases List.mem_append.mp member with own | before
      · exact ⟨first, (trail.leads (List.mem_reverse.mp own)).to_reflTransGen,
          Or.inr ⟨_, rfl, by simp⟩⟩
      · exact ⟨index, .refl, Or.inl before⟩
  | meets path known trail before =>
      rcases List.mem_append.mp member with own | earlier
      · exact ⟨known, (trail.leads (List.mem_reverse.mp own)).to_reflTransGen, Or.inl before⟩
      · exact ⟨index, .refl, Or.inl earlier⟩

theorem Ring.ne_nil {ring : List Nat} (closed : Ring nodes progress ring) : ring ≠ [] := by
  obtain ⟨first, loop, rfl, _⟩ := closed
  exact List.cons_ne_nil _ _

theorem Ring.chain {ring : List Nat} (closed : Ring nodes progress ring) :
    ring.IsChain (Follows nodes progress) := by
  obtain ⟨first, loop, rfl, trail⟩ := closed
  exact trail.chain

theorem Ring.reaches {ring : List Nat} (closed : Ring nodes progress ring) {index other : Nat}
    (member : index ∈ ring) (among : other ∈ ring) :
    Relation.TransGen (Follows nodes progress) index other := by
  obtain ⟨first, loop, rfl, trail⟩ := closed
  have back := trail.leads (mem_ring_iff.mp member)
  rcases List.mem_cons.mp (mem_ring_iff.mp among) with same | between
  · exact same ▸ back
  · obtain ⟨before, after, rfl⟩ := List.append_of_mem between
    have chain := trail.chain
    rw [List.cons_append, List.append_assoc, List.cons_append, List.isChain_cons_split] at chain
    exact back.trans (trans_gen_of_chain chain.1)

/-- What follows an entry of a ring is an entry of the ring again. -/
theorem Ring.mem_of_follows {ring : List Nat} (closed : Ring nodes progress ring)
    {index next : Nat} (member : index ∈ ring) (step : Follows nodes progress index next) :
    next ∈ ring := by
  obtain ⟨first, loop, rfl, trail⟩ := closed
  obtain ⟨other, among, follows⟩ := trail.follower (mem_ring_iff.mp member)
  rwa [follows_unique step follows]

theorem Ring.mem_of_path {ring : List Nat} (closed : Ring nodes progress ring) {index reached : Nat}
    (path : Relation.ReflTransGen (Follows nodes progress) index reached) (member : index ∈ ring) :
    reached ∈ ring := by
  induction path with
  | refl => exact member
  | tail _ step ih => exact closed.mem_of_follows ih step

/-- A walk has one way to go, so that one which comes back to its start does so from everywhere. -/
theorem comes_back {index reached : Nat}
    (around : Relation.TransGen (Follows nodes progress) index index)
    (path : Relation.ReflTransGen (Follows nodes progress) index reached) :
    Relation.ReflTransGen (Follows nodes progress) reached index := by
  induction path with
  | refl => exact .refl
  | tail _ step ih =>
      have further : Relation.TransGen (Follows nodes progress) _ index := around.trans_right ih
      obtain ⟨next, first, onward⟩ := Relation.TransGen.head'_iff.mp further
      rwa [follows_unique step first]

end MaskCycle

end InterfaceSchema
