import InterfaceSchema.Proofs.Association
import InterfaceSchema.Universe

/-!
Registration of names. A name that is no primitive literal stands for its first declaration, and
where nothing is refused every name is registered for the one declaration that it has.
-/

namespace InterfaceSchema

set_option autoImplicit false

namespace Universe

/-- Every name of the smaller universe stands for the same declaration in the larger one. -/
def Within (smaller larger : Universe) : Prop :=
  ∀ name decl, smaller.get? name = some decl → larger.get? name = some decl

theorem lookup_insert {entries : List (String × DeclRef)} {name : String} (decl : DeclRef)
    (fresh : entries.lookup name = none) (query : String) :
    (insert name decl entries).lookup query =
      if query = name then some decl else entries.lookup query := by
  induction entries with
  | nil => exact lookup_cons_eq [] name decl query
  | cons entry rest ih =>
      rcases entry with ⟨other, otherDecl⟩
      have distinct : name ≠ other := by
        intro same
        simp [same] at fresh
      rw [lookup_cons_eq, if_neg distinct] at fresh
      simp only [insert]
      split
      · exact lookup_cons_eq _ name decl query
      · rw [lookup_cons_eq, lookup_cons_eq, ih fresh]
        by_cases here : query = other
        · simp [here, Ne.symm distinct]
        · simp [here]

theorem get_insert {declared : Universe} {name : String} (decl : DeclRef)
    (fresh : declared.get? name = none) (query : String) :
    get? ⟨insert name decl declared.entries⟩ query =
      if query = name then some decl else declared.get? query :=
  lookup_insert decl fresh query

theorem add_primitive (declared : Universe) {name : String} (decl : DeclRef)
    (primitive : (Primitive.parse? name).isSome = true) :
    declared.add name decl = .error (.shadowsPrimitive (.ofType decl.kind) name) := by
  obtain ⟨literal, parsed⟩ := Option.isSome_iff_exists.mp primitive
  simp [add, parsed]

theorem add_taken {declared : Universe} {name : String} {existing : DeclRef} (decl : DeclRef)
    (ordinary : Primitive.parse? name = none) (taken : declared.get? name = some existing) :
    ∃ problem, declared.add name decl = .error problem := by
  simp only [add, ordinary, taken]
  split
  · exact ⟨_, rfl⟩
  · exact ⟨_, rfl⟩

theorem add_fresh {declared : Universe} {name : String} (decl : DeclRef)
    (ordinary : Primitive.parse? name = none) (fresh : declared.get? name = none) :
    declared.add name decl = .ok ⟨insert name decl declared.entries⟩ := by
  simp [add, ordinary, fresh]

theorem add_eq_ok_iff {declared larger : Universe} {name : String} {decl : DeclRef} :
    declared.add name decl = .ok larger ↔
      Primitive.parse? name = none ∧ declared.get? name = none ∧
        larger = ⟨insert name decl declared.entries⟩ := by
  constructor
  · intro added
    cases parsed : Primitive.parse? name with
    | some literal => simp [add, parsed] at added
    | none =>
        cases taken : declared.get? name with
        | some existing =>
            obtain ⟨problem, refused⟩ := add_taken decl parsed taken
            simp [refused] at added
        | none =>
            rw [add_fresh decl parsed taken] at added
            cases added
            exact ⟨rfl, rfl, rfl⟩
  · rintro ⟨ordinary, fresh, rfl⟩
    exact add_fresh decl ordinary fresh

/-- What a name stands for among declarations that come one after the other. -/
def firstDeclared (names : List (String × DeclRef)) (name : String) : Option DeclRef :=
  if (Primitive.parse? name).isSome then none else names.lookup name

theorem get_register (declared : Universe) (names : List (String × DeclRef)) (name : String) :
    (declared.register names).1.get? name =
      (declared.get? name).or (firstDeclared names name) := by
  induction names generalizing declared with
  | nil => simp [register, firstDeclared]
  | cons entry rest ih =>
      rcases entry with ⟨next, decl⟩
      -- An entry of another name changes the answer on neither side.
      have skipped : next ≠ name → firstDeclared ((next, decl) :: rest) name =
          firstDeclared rest name := by
        intro different
        rw [firstDeclared, lookup_cons_eq, if_neg (Ne.symm different), firstDeclared]
      cases parsed : Primitive.parse? next with
      | some literal =>
          simp only [register, add_primitive declared decl
            (Option.isSome_iff_exists.mpr ⟨literal, parsed⟩), ih]
          by_cases same : next = name
          · simp [firstDeclared, ← same, parsed]
          · rw [skipped same]
      | none =>
          cases taken : declared.get? next with
          | some existing =>
              obtain ⟨problem, refused⟩ := add_taken decl parsed taken
              simp only [register, refused, ih]
              by_cases same : next = name
              · simp [← same, taken]
              · rw [skipped same]
          | none =>
              simp only [register, add_fresh decl parsed taken, ih, get_insert decl taken]
              by_cases same : next = name
              · simp [← same, taken, firstDeclared, parsed]
              · rw [if_neg (Ne.symm same), skipped same]

theorem get_after (names : List (String × DeclRef)) (name : String) :
    (({} : Universe).register names).1.get? name = firstDeclared names name := by
  rw [get_register]
  exact Option.none_or

/-- Nothing is refused only if all names are new, ordinary and different from each other. -/
theorem distinct_of_register {declared : Universe} {names : List (String × DeclRef)}
    (quiet : (declared.register names).2 = []) :
    (∀ entry ∈ names, Primitive.parse? entry.1 = none ∧ declared.get? entry.1 = none) ∧
      (names.map Prod.fst).Nodup := by
  induction names generalizing declared with
  | nil => simp
  | cons entry rest ih =>
      rcases entry with ⟨next, decl⟩
      cases added : declared.add next decl with
      | error problem => simp [register, added] at quiet
      | ok larger =>
          obtain ⟨ordinary, unmet, rfl⟩ := add_eq_ok_iff.mp added
          simp only [register, added] at quiet
          obtain ⟨new, nodup⟩ := ih quiet
          have others : ∀ entry ∈ rest, entry.1 ≠ next ∧ declared.get? entry.1 = none := by
            intro entry member
            have fresh := (new entry member).2
            rw [get_insert decl unmet] at fresh
            by_cases same : entry.1 = next
            · simp [same] at fresh
            · exact ⟨same, by simpa [same] using fresh⟩
          constructor
          · intro entry member
            rcases List.mem_cons.mp member with same | later
            · rw [same]
              exact ⟨ordinary, unmet⟩
            · exact ⟨(new entry later).1, (others entry later).2⟩
          · rw [List.map_cons, List.nodup_cons]
            refine ⟨?_, nodup⟩
            intro member
            obtain ⟨entry, later, same⟩ := List.mem_map.mp member
            exact (others entry later).1 same

theorem mem_of_get_register {names : List (String × DeclRef)} {name : String} {decl : DeclRef}
    (found : (({} : Universe).register names).1.get? name = some decl) : (name, decl) ∈ names := by
  rw [get_after, firstDeclared] at found
  split at found
  · cases found
  · exact mem_of_lookup found

theorem get_register_of_mem {names : List (String × DeclRef)} {name : String} {decl : DeclRef}
    (quiet : (({} : Universe).register names).2 = []) (member : (name, decl) ∈ names) :
    (({} : Universe).register names).1.get? name = some decl := by
  obtain ⟨new, distinct⟩ := distinct_of_register quiet
  rw [get_after, firstDeclared, (new _ member).1]
  exact (lookup_eq_some_iff_mem distinct).mpr member

theorem insert_perm (name : String) (decl : DeclRef) (entries : List (String × DeclRef)) :
    (insert name decl entries).Perm ((name, decl) :: entries) := by
  induction entries with
  | nil => exact List.Perm.refl _
  | cons entry rest ih =>
      rcases entry with ⟨other, otherDecl⟩
      simp only [insert]
      split
      · exact List.Perm.refl _
      · exact (ih.cons _).trans (List.Perm.swap _ _ _)

theorem register_nodup {declared : Universe} (names : List (String × DeclRef))
    (distinct : (declared.entries.map Prod.fst).Nodup) :
    ((declared.register names).1.entries.map Prod.fst).Nodup := by
  induction names generalizing declared with
  | nil => exact distinct
  | cons entry rest ih =>
      rcases entry with ⟨next, decl⟩
      cases added : declared.add next decl with
      | error problem =>
          simp only [register, added]
          exact ih distinct
      | ok larger =>
          simp only [register, added]
          obtain ⟨_, fresh, rfl⟩ := add_eq_ok_iff.mp added
          have moved := (insert_perm next decl declared.entries).map Prod.fst
          apply ih
          rw [moved.nodup_iff]
          exact List.nodup_cons.mpr ⟨lookup_eq_none_iff_not_mem.mp fresh, distinct⟩

theorem mem_entries_iff {names : List (String × DeclRef)} {name : String} {decl : DeclRef} :
    (name, decl) ∈ (({} : Universe).register names).1.entries ↔
      (({} : Universe).register names).1.get? name = some decl := by
  have distinct : ((({} : Universe).register names).1.entries.map Prod.fst).Nodup :=
    register_nodup names List.nodup_nil
  exact (lookup_eq_some_iff_mem distinct).symm

theorem get_register_eq_none_iff {names : List (String × DeclRef)} {name : String} :
    (({} : Universe).register names).1.get? name = none ↔
      (Primitive.parse? name).isSome = true ∨ name ∉ names.map Prod.fst := by
  rw [get_after, firstDeclared]
  cases parsed : Primitive.parse? name with
  | some literal => simp
  | none =>
      simp only [Option.isSome_none, Bool.false_eq_true, if_false, false_or,
        lookup_eq_none_iff_not_mem]

theorem ordinary_of_get_register {names : List (String × DeclRef)} {name : String}
    {decl : DeclRef} (found : (({} : Universe).register names).1.get? name = some decl) :
    Primitive.parse? name = none := by
  rw [← Option.not_isSome_iff_eq_none]
  intro primitive
  have unknown : (({} : Universe).register names).1.get? name = none :=
    get_register_eq_none_iff.mpr (Or.inl primitive)
  rw [found] at unknown
  cases unknown

theorem register_quiet {declared : Universe} {names : List (String × DeclRef)}
    (new : ∀ entry ∈ names, Primitive.parse? entry.1 = none ∧ declared.get? entry.1 = none)
    (distinct : (names.map Prod.fst).Nodup) : (declared.register names).2 = [] := by
  induction names generalizing declared with
  | nil => rfl
  | cons entry rest ih =>
      rcases entry with ⟨next, decl⟩
      obtain ⟨ordinary, fresh⟩ := new (next, decl) List.mem_cons_self
      rw [List.map_cons, List.nodup_cons] at distinct
      simp only [register, add_fresh decl ordinary fresh]
      apply ih
      · intro entry later
        obtain ⟨plain, unknown⟩ := new entry (List.mem_cons_of_mem _ later)
        refine ⟨plain, ?_⟩
        have different : entry.1 ≠ next := by
          intro same
          exact distinct.1 (List.mem_map.mpr ⟨entry, later, same⟩)
        rw [get_insert decl fresh, if_neg different]
        exact unknown
      · exact distinct.2

theorem register_quiet_iff {names : List (String × DeclRef)} :
    (({} : Universe).register names).2 = [] ↔
      (∀ name ∈ names.map Prod.fst, Primitive.parse? name = none) ∧
        (names.map Prod.fst).Nodup := by
  constructor
  · intro quiet
    obtain ⟨new, distinct⟩ := distinct_of_register quiet
    exact ⟨List.forall_mem_map.mpr fun entry member => (new entry member).1, distinct⟩
  · rintro ⟨ordinary, distinct⟩
    apply register_quiet _ distinct
    intro entry member
    exact ⟨ordinary _ (List.mem_map_of_mem member), rfl⟩

end Universe

end InterfaceSchema
