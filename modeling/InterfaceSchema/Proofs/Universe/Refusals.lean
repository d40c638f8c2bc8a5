import InterfaceSchema.Proofs.Universe
import Mathlib.Data.List.Induction
import Mathlib.Data.List.Nodup

/-!
Declarations that are refused a name. Which ones these are, and why, can be read off the sequence of
the declarations alone: the name is a primitive literal, or it occurs before. Every declaration
either enters the universe or is refused, once and in its turn.
-/

namespace InterfaceSchema

set_option autoImplicit false

namespace Universe

/-- Why a declaration is refused behind earlier ones: its name shadows a literal, or it is taken, by
a declaration of the same kind or of another one. -/
def refusal? (earlier : List (String × DeclRef)) (entry : String × DeclRef) : Option Problem :=
  if (Primitive.parse? entry.1).isSome then
    some (.shadowsPrimitive (.ofType entry.2.kind) entry.1)
  else
    (earlier.lookup entry.1).map fun first =>
      if first.kind = entry.2.kind then .duplicateName (.ofType entry.2.kind) entry.1
      else .nameCollision entry.1 first.kind entry.2.kind

def refusals (names : List (String × DeclRef)) : List Problem :=
  names.zipIdx.filterMap fun (entry, place) => refusal? (names.take place) entry

theorem refusals_concat (names : List (String × DeclRef)) (entry : String × DeclRef) :
    refusals (names ++ [entry]) = refusals names ++ (refusal? names entry).toList := by
  have earlier : ∀ placed ∈ names.zipIdx,
      refusal? ((names ++ [entry]).take placed.2) placed.1 =
        refusal? (names.take placed.2) placed.1 := by
    intro placed member
    rw [List.take_append_of_le_length (Nat.le_of_lt (List.snd_lt_of_mem_zipIdx member))]
  have last : ([entry].zipIdx names.length).filterMap (fun placed =>
      refusal? ((names ++ [entry]).take placed.2) placed.1) = (refusal? names entry).toList := by
    rw [List.zipIdx_singleton, List.filterMap_cons, List.filterMap_nil, List.take_left]
    cases refusal? names entry <;> rfl
  rw [refusals, List.zipIdx_append, Nat.zero_add, List.filterMap_append, last,
    List.filterMap_congr earlier]
  rfl

theorem register_concat (declared : Universe) (names : List (String × DeclRef))
    (entry : String × DeclRef) :
    declared.register (names ++ [entry]) =
      match (declared.register names).1.add entry.1 entry.2 with
      | .ok larger => (larger, (declared.register names).2)
      | .error problem =>
          ((declared.register names).1, (declared.register names).2 ++ [problem]) := by
  induction names generalizing declared with
  | nil =>
      cases added : declared.add entry.1 entry.2 <;> simp [register, added]
  | cons next rest ih =>
      rw [List.cons_append, register, register]
      cases declared.add next.1 next.2 with
      | ok larger => exact ih larger
      | error problem =>
          simp only [ih declared]
          cases (declared.register rest).1.add entry.1 entry.2 <;> rfl

/-- Whether a declaration is added depends on the sequence before it alone. -/
theorem add_eq (names : List (String × DeclRef)) (entry : String × DeclRef) :
    (({} : Universe).register names).1.add entry.1 entry.2 =
      match refusal? names entry with
      | some problem => .error problem
      | none => .ok ⟨insert entry.1 entry.2 (({} : Universe).register names).1.entries⟩ := by
  unfold add refusal?
  rw [get_after, firstDeclared]
  cases Primitive.parse? entry.1 with
  | some literal => rfl
  | none =>
      simp only [Option.isSome_none, Bool.false_eq_true, if_false]
      cases names.lookup entry.1 with
      | none => rfl
      | some first => by_cases same : first.kind = entry.2.kind <;> simp [same]

theorem register_problems (names : List (String × DeclRef)) :
    (({} : Universe).register names).2 = refusals names := by
  induction names using List.reverseRecOn with
  | nil => rfl
  | append_singleton names entry ih =>
      rw [register_concat, refusals_concat, add_eq, ← ih]
      cases refusal? names entry with
      | some problem => rfl
      | none => exact (List.append_nil _).symm

/-- Every declaration is either registered or refused. -/
theorem size_add_refusals (names : List (String × DeclRef)) :
    (({} : Universe).register names).1.size + (refusals names).length = names.length := by
  induction names using List.reverseRecOn with
  | nil => rfl
  | append_singleton names entry ih =>
      rw [register_concat, refusals_concat, add_eq, List.length_append, List.length_append, ← ih]
      cases refusal? names entry with
      | some problem => simp [Nat.add_assoc]
      | none =>
          have longer := (insert_perm entry.1 entry.2
            (({} : Universe).register names).1.entries).length_eq
          simp [size, longer, Nat.add_right_comm]

theorem cut_at {names : List (String × DeclRef)} {place : Nat} {entry : String × DeclRef}
    (found : names[place]? = some entry) :
    names = names.take place ++ entry :: names.drop (place + 1) := by
  obtain ⟨inside, here⟩ := List.getElem?_eq_some_iff.mp found
  rw [← here, List.getElem_cons_drop, List.take_append_drop]

theorem refused_of_other {names : List (String × DeclRef)} {name : String} {decl : DeclRef}
    (member : (name, decl) ∈ names)
    (other : (({} : Universe).register names).1.get? name ≠ some decl) :
    .shadowsPrimitive (.ofType decl.kind) name ∈ refusals names ∨
      ∃ first, (({} : Universe).register names).1.get? name = some first ∧
        (if first.kind = decl.kind then .duplicateName (.ofType decl.kind) name
          else .nameCollision name first.kind decl.kind) ∈ refusals names := by
  obtain ⟨place, found⟩ := List.mem_iff_getElem?.mp member
  have among : ((name, decl), place) ∈ names.zipIdx := List.mem_zipIdx_iff_getElem?.mpr found
  have refused (problem : Problem)
      (told : refusal? (names.take place) (name, decl) = some problem) :
      problem ∈ refusals names := List.mem_filterMap.mpr ⟨_, among, told⟩
  rw [get_after, firstDeclared] at other ⊢
  cases parsed : (Primitive.parse? name).isSome with
  | true => exact Or.inl (refused _ (by rw [refusal?, if_pos parsed]))
  | false =>
      simp only [parsed, Bool.false_eq_true, if_false] at other ⊢
      -- Whoever got the name stands before the declaration, which would have got it otherwise.
      have whole : names.lookup name = ((names.take place).lookup name).or (some decl) := by
        conv_lhs => rw [cut_at found]
        rw [List.lookup_append, List.lookup_cons_self]
      rw [whole] at other ⊢
      cases before : (names.take place).lookup name with
      | some first =>
          exact Or.inr ⟨first, rfl, refused _ (by simp [refusal?, parsed, before])⟩
      | none => simp [before] at other

theorem of_type_injective {kind other : TypeKind}
    (same : NameKind.ofType kind = NameKind.ofType other) : kind = other := by
  cases kind <;> cases other <;> first | rfl | cases same

theorem first_of_duplicate {earlier : List (String × DeclRef)} {entry : String × DeclRef}
    {kind : TypeKind} {name : String}
    (refused : refusal? earlier entry = some (.duplicateName (.ofType kind) name)) :
    entry.1 = name ∧ entry.2.kind = kind ∧
      ∃ first, (name, first) ∈ earlier ∧ first.kind = kind := by
  unfold refusal? at refused
  split at refused
  · simp at refused
  · obtain ⟨first, met, told⟩ := Option.map_eq_some_iff.mp refused
    split at told
    · rename_i alike
      simp only [Problem.duplicateName.injEq] at told
      obtain ⟨same, rfl⟩ := told
      have own := of_type_injective same
      exact ⟨rfl, own, first, mem_of_lookup met, alike.trans own⟩
    · cases told

theorem not_nodup_of_duplicate {names : List (String × DeclRef)} {kind : TypeKind} {name : String}
    (told : .duplicateName (.ofType kind) name ∈ refusals names) :
    ¬ ((names.filter fun entry => entry.2.kind = kind).map Prod.fst).Nodup := by
  obtain ⟨⟨entry, place⟩, among, refused⟩ := List.mem_filterMap.mp told
  obtain ⟨named, own, first, before, alike⟩ := first_of_duplicate refused
  have found : names[place]? = some entry := List.mem_zipIdx_iff_getElem?.mp among
  intro distinct
  -- The sequence is cut at the second declaration; the first one stands before the cut.
  rw [cut_at found, List.filter_append, List.filter_cons, if_pos (decide_eq_true own),
    List.map_append, List.map_cons, named, List.nodup_append] at distinct
  have earlier : name ∈ ((names.take place).filter fun entry => entry.2.kind = kind).map Prod.fst :=
    List.mem_map.mpr ⟨_, List.mem_filter.mpr ⟨before, decide_eq_true alike⟩, rfl⟩
  exact distinct.2.2 name earlier name List.mem_cons_self rfl

end Universe

end InterfaceSchema
