/-!
Systems that go from state to state until there is no next one. What a step keeps holds in every
state that is reached, and where the number of steps is bounded the system stops.
-/

namespace InterfaceSchema

set_option autoImplicit false

namespace Steps

variable {State : Type}

/-- The state after a number of steps, if so many can be taken. -/
def after (step? : State → Option State) (start : State) : Nat → Option State
  | 0 => some start
  | count + 1 => (after step? start count).bind step?

variable {step? : State → Option State} {start : State}

theorem after_succ {count : Nat} {reached : State}
    (ran : after step? start (count + 1) = some reached) :
    ∃ before, after step? start count = some before ∧ step? before = some reached :=
  Option.bind_eq_some_iff.mp ran

theorem holds_after (holds : Nat → State → Prop) (begins : holds 0 start)
    (kept : ∀ count before next, holds count before → step? before = some next →
      holds (count + 1) next) {count : Nat} {reached : State}
    (ran : after step? start count = some reached) : holds count reached := by
  induction count generalizing reached with
  | zero =>
      cases ran
      exact begins
  | succ count ih =>
      obtain ⟨before, ranBefore, step⟩ := after_succ ran
      exact kept count before reached (ih ranBefore) step

theorem goes_on_or_stops (step? : State → Option State) (start : State) (count : Nat) :
    (∃ reached, after step? start count = some reached) ∨
      ∃ earlier last, after step? start earlier = some last ∧ step? last = none := by
  induction count with
  | zero => exact Or.inl ⟨start, rfl⟩
  | succ count ih =>
      rcases ih with ⟨reached, ran⟩ | stopped
      · cases next : step? reached with
        | none => exact Or.inr ⟨count, reached, ran, next⟩
        | some following => exact Or.inl ⟨following, by rw [after, ran, Option.bind_some, next]⟩
      · exact Or.inr stopped

theorem ends_of_bounded {bound : Nat} {isEnd : State → Prop}
    (bounded : ∀ count reached, after step? start count = some reached → count ≤ bound)
    (goesOn : ∀ count reached, after step? start count = some reached →
      isEnd reached ∨ ∃ next, step? reached = some next) :
    ∃ count ≤ bound, ∃ last, after step? start count = some last ∧ isEnd last := by
  rcases goes_on_or_stops step? start (bound + 1) with ⟨reached, ran⟩ | ⟨count, last, ran, stopped⟩
  · have most := bounded (bound + 1) reached ran
    omega
  · rcases goesOn count last ran with ended | ⟨next, step⟩
    · exact ⟨count, bounded count last ran, last, ran, ended⟩
    · cases stopped.symm.trans step

end Steps

end InterfaceSchema
