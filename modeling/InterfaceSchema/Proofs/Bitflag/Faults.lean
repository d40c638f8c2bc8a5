import InterfaceSchema.Proofs.Bitflag.Dependency

/-!
What is wrong with the entries of a bit mask set as they are written: a negative number, a name of
no entry, or not exactly one source of a mask. It is read off an entry and the names of all entries,
without any evaluation, and it is nothing if and only if the entry has a source.
-/

namespace InterfaceSchema

set_option autoImplicit false

def Literal.negative? : Literal → Option Int64
  | signed number => if number < 0 then some number else none
  | _ => none

theorem Literal.resolve_outcome (pointerWidth : UInt32) (written : Literal) :
    (∃ word, written.resolve pointerWidth = .ok word ∧ written.negative? = none) ∨
      ∃ number, written.resolve pointerWidth = .error number ∧
        written.negative? = some number := by
  cases written with
  | unsigned word => exact Or.inl ⟨word, rfl, rfl⟩
  | symbol name => cases name <;> exact Or.inl ⟨_, rfl, rfl⟩
  | signed number =>
      by_cases below : number < 0
      · right
        exact ⟨number, if_neg (Int64.not_le.mpr below), if_pos below⟩
      · left
        exact ⟨number.toUInt64, if_pos (Int64.not_lt.mp below), if_neg below⟩

namespace BitflagEntry

def negative? (entry : BitflagEntry) : Option Int64 :=
  match entry.value, entry.combination with
  | some written, none => written.negative?
  | _, _ => none

/-- The names of no entry in an entry that writes nothing but a combination, with repetitions. -/
def unknownNames (known : List String) (entry : BitflagEntry) : List String :=
  match entry.value, entry.combination with
  | none, some names => names.filter fun name => name ∉ known
  | _, _ => []

/-- An entry writes both sources of a mask or neither of them, or an empty combination alone. -/
def Malformed (entry : BitflagEntry) : Prop :=
  (entry.value.isSome ↔ entry.combination.isSome) ∨
    entry.value = none ∧ entry.combination = some []

instance (entry : BitflagEntry) : Decidable entry.Malformed :=
  inferInstanceAs (Decidable (_ ∨ _))

def faults (bitflag : String) (known : List String) (entry : BitflagEntry) : List Problem :=
  (entry.negative?.toList.map fun number =>
      .invalidValue ("bitflag " ++ bitflag ++ " entry " ++ entry.name) (toString number.toInt)
        "bitflag values must be non-negative") ++
    ((entry.unknownNames known).map fun missing =>
      .unknownCombinationEntry bitflag entry.name missing) ++
    if entry.Malformed then [.malformedBitflagEntry bitflag entry.name] else []

end BitflagEntry

namespace MaskDependency

open MaskNode BitflagEntry

variable {entries : List BitflagEntry} {pointerWidth : UInt32}

theorem missing_parts_eq (names : List String) :
    missingParts entries names =
      names.filter fun name => name ∉ entries.map BitflagEntry.name := by
  apply List.filter_congr
  intro name _
  rw [Bool.eq_iff_iff, decide_eq_true_iff, ← exists_first_iff, not_exists,
    Option.isNone_iff_eq_none, Option.eq_none_iff_forall_ne_some]
  simp only [first_of_name_iff, ne_eq]

theorem node_problems_eq (bitflag : String) (entry : BitflagEntry) :
    MaskNode.problems bitflag entries pointerWidth entry =
      entry.faults bitflag (entries.map BitflagEntry.name) := by
  rcases entry with ⟨name, doc, value, combination⟩
  cases value with
  | some written =>
      cases combination with
      | some names => simp [MaskNode.problems, faults, negative?, unknownNames, Malformed]
      | none =>
          rcases written.resolve_outcome pointerWidth with
            ⟨word, resolved, own⟩ | ⟨number, resolved, own⟩
          · simp [MaskNode.problems, faults, negative?, unknownNames, Malformed, resolved, own]
          · simp [MaskNode.problems, faults, negative?, unknownNames, Malformed, resolved, own]
  | none =>
      rcases combination with _ | (_ | ⟨first, rest⟩)
      · simp [MaskNode.problems, faults, negative?, unknownNames, Malformed]
      · simp [MaskNode.problems, faults, negative?, unknownNames, Malformed]
      · simp [MaskNode.problems, faults, negative?, unknownNames, Malformed, missing_parts_eq]

/-- Nothing is wrong with an entry if and only if it has a source, whether or not its parts get
masks. -/
theorem faults_eq_nil_iff {bitflag : String} {index : Nat} {entry : BitflagEntry}
    (found : entries[index]? = some entry) :
    entry.faults bitflag (entries.map BitflagEntry.name) = [] ↔
      HasSource entries pointerWidth index := by
  rw [has_source_iff found]
  rcases entry with ⟨name, doc, value, combination⟩
  cases value with
  | some written =>
      cases combination with
      | some names =>
          simp [faults, negative?, unknownNames, Malformed, literal?, IsCombination]
      | none =>
          rcases written.resolve_outcome pointerWidth with
            ⟨word, resolved, own⟩ | ⟨number, resolved, own⟩
          · simp [faults, negative?, unknownNames, Malformed, literal?, resolved, own,
              Except.toOption]
          · simp [faults, negative?, unknownNames, Malformed, literal?, resolved, own,
              Except.toOption, IsCombination]
  | none =>
      rcases combination with _ | (_ | ⟨first, rest⟩)
      · simp [faults, negative?, unknownNames, Malformed, literal?, IsCombination]
      · simp [faults, negative?, unknownNames, Malformed, literal?, IsCombination]
      · simp [faults, negative?, unknownNames, Malformed, literal?, IsCombination]

end MaskDependency

end InterfaceSchema
