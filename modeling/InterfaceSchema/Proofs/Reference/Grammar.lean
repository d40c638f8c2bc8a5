import InterfaceSchema.Proofs.Reference.Forms

/-!
The grammar of type strings. A declared name is spelled as it is or behind its kind and a dot, and
an array is such a spelling between brackets. Where no registered name looks like one of these
forms, a type string is read by exactly this grammar: a literal comes first, each spelling has one
reading only, and what is told of a string that has no reading is the kind that is wrong, if a
declared name stands behind it.
-/

namespace InterfaceSchema

set_option autoImplicit false

namespace Classification

/-- Neither a kind and a dot at the start nor the brackets of an array. -/
def InNeitherForm (type : String) : Prop :=
  (∀ (kind : TypeKind) (name : String), type ≠ kind.text ++ "." ++ name) ∧
    ∀ item : String, type ≠ "array<" ++ item ++ ">"

theorem in_neither_form_iff {type : String} :
    InNeitherForm type ↔ splitKind? type = none ∧ arrayItem? type = none := by
  simp only [InNeitherForm, Option.eq_none_iff_forall_ne_some, Prod.forall, ne_eq,
    split_kind_eq_some_iff, array_item_eq_some_iff]

instance (type : String) : Decidable (InNeitherForm type) :=
  decidable_of_iff _ in_neither_form_iff.symm

/-- The spellings of a declaration: a name that is registered for it, alone or behind the kind of
the declaration and a dot. -/
def Spells (declared : Universe) (decl : DeclRef) (type : String) : Prop :=
  ∃ name, declared.get? name = some decl ∧ (type = name ∨ type = decl.kind.text ++ "." ++ name)

def Misnames (declared : Universe) (name : String) (expected found : TypeKind)
    (type : String) : Prop :=
  type = expected.text ++ "." ++ name ∧
    ∃ decl, declared.get? name = some decl ∧ decl.kind = found ∧ expected ≠ found

/-- A type string with a registered name in it, alone or behind any kind and a dot. -/
def Mentions (declared : Universe) (type : String) : Prop :=
  ∃ name decl, declared.get? name = some decl ∧
    (type = name ∨ ∃ kind : TypeKind, type = kind.text ++ "." ++ name)

def Distinguishable (declared : Universe) : Prop :=
  ∀ name decl, declared.get? name = some decl →
    Primitive.parse? name = none ∧ InNeitherForm name

theorem distinguishable_of_register {names : List (String × DeclRef)}
    (neither : ∀ entry ∈ names, InNeitherForm entry.1) :
    Distinguishable (({} : Universe).register names).1 := by
  intro name decl registered
  have member := Universe.mem_of_get_register registered
  exact ⟨Universe.ordinary_of_get_register registered, neither _ member⟩

section Written

theorem ordinary_of_dot {type : String} (dot : '.' ∈ type.toList) :
    Primitive.parse? type = none := by
  rw [Primitive.parse_eq_none_iff]
  intro literal written
  rw [written] at dot
  exact literal.no_dot dot

theorem dot_of_qualified (kind : TypeKind) (name : String) :
    '.' ∈ (kind.text ++ "." ++ name).toList := by
  simp

theorem unbracketed_of_qualified (kind : TypeKind) (name : String) :
    arrayItem? (kind.text ++ "." ++ name) = none := by
  rw [Option.eq_none_iff_forall_ne_some]
  intro item brackets
  have characters := congrArg String.toList (array_item_eq_some_iff.mp brackets)
  cases kind <;> simp [TypeKind.text] at characters

end Written

section Readings

variable {declared : Universe} {type item : String} {decl : DeclRef}

theorem Spells.ordinary (spells : Spells declared decl type)
    (apart : Distinguishable declared) : Primitive.parse? type = none := by
  obtain ⟨name, registered, rfl | rfl⟩ := spells
  · exact (apart type decl registered).1
  · exact ordinary_of_dot (dot_of_qualified decl.kind name)

theorem Spells.unbracketed (spells : Spells declared decl type)
    (apart : Distinguishable declared) : arrayItem? type = none := by
  obtain ⟨name, registered, rfl | rfl⟩ := spells
  · exact (in_neither_form_iff.mp (apart type decl registered).2).2
  · exact unbracketed_of_qualified decl.kind name

theorem names_iff_spells (apart : Distinguishable declared) :
    Names declared true type decl ↔ Spells declared decl type := by
  constructor
  · intro names
    cases names with
    | bare _ registered => exact ⟨type, registered, Or.inl rfl⟩
    | ofKind own split registered =>
        rw [if_pos rfl, split_kind_eq_some_iff] at split
        exact ⟨own, registered, Or.inr split⟩
  · rintro ⟨name, registered, rfl | rfl⟩
    · have plain := (in_neither_form_iff.mp (apart type decl registered).2).1
      exact .bare plain registered
    · exact .ofKind name (split_kind_eq_some_iff.mpr rfl) registered

theorem declared_iff_spells (apart : Distinguishable declared) :
    ofType declared true type = resolved (.declared decl) ↔ Spells declared decl type := by
  constructor
  · intro known
    cases means_of_type known with
    | declared _ _ names => exact (names_iff_spells apart).mp names
  · intro spells
    exact of_type_of_means (.declared (spells.ordinary apart) (spells.unbracketed apart)
      ((names_iff_spells apart).mpr spells))

theorem array_iff_spells (apart : Distinguishable declared) :
    ofType declared true type = resolved (.arrayOf decl) ↔
      Primitive.parse? type = none ∧
        ∃ item, type = "array<" ++ item ++ ">" ∧ Spells declared decl item := by
  constructor
  · intro known
    cases means_of_type known with
    | arrayOf item ordinary brackets names =>
        rw [if_pos rfl, array_item_eq_some_iff] at brackets
        exact ⟨ordinary, item, brackets, (names_iff_spells apart).mp names⟩
  · rintro ⟨ordinary, item, rfl, spells⟩
    exact of_type_of_means (.arrayOf item ordinary (array_item_eq_some_iff.mpr rfl)
      ((names_iff_spells apart).mpr spells))

theorem primitive_iff {qualified : Bool} {literal : Primitive} :
    ofType declared qualified type = resolved (.primitive literal) ↔ type = literal.text := by
  rw [← Primitive.parse_eq_some_iff]
  constructor
  · intro known
    cases means_of_type known with
    | primitive parsed => exact parsed
  · intro parsed
    exact of_type_of_means (.primitive parsed)

theorem name_mismatch_iff {name : String} {expected found : TypeKind} :
    ofName declared true type = kindMismatch name expected found ↔
      Misnames declared name expected found type := by
  rw [Misnames, ← split_kind_eq_some_iff]
  cases split : splitKind? type with
  | none => cases registered : declared.get? type <;> simp [ofName, split, registered]
  | some written =>
      rcases written with ⟨kind, bare⟩
      rw [Option.some.injEq, Prod.mk.injEq]
      cases registered : declared.get? bare with
      | none =>
          have unknown : ofName declared true type = unknown := by
            simp [ofName, split, registered]
          rw [unknown]
          constructor
          · intro told
            cases told
          · rintro ⟨⟨rfl, rfl⟩, decl, known, _⟩
            rw [registered] at known
            cases known
      | some decl =>
          have judged : ofName declared true type =
              if decl.kind = kind then resolved (.declared decl)
              else kindMismatch bare kind decl.kind := by
            simp [ofName, split, registered]
          rw [judged]
          constructor
          · intro told
            split at told
            · cases told
            · rename_i other
              cases told
              exact ⟨⟨rfl, rfl⟩, decl, registered, rfl, Ne.symm other⟩
          · rintro ⟨⟨rfl, rfl⟩, own, known, rfl, other⟩
            rw [registered, Option.some.injEq] at known
            subst known
            rw [if_neg (Ne.symm other)]

theorem Misnames.ordinary {name : String} {expected found : TypeKind}
    (misnames : Misnames declared name expected found type) :
    Primitive.parse? type = none ∧ arrayItem? type = none := by
  obtain ⟨rfl, _⟩ := misnames
  exact ⟨ordinary_of_dot (dot_of_qualified expected name), unbracketed_of_qualified expected name⟩

/-- What is told of an array is what is told of its item. -/
theorem mismatch_iff {name : String} {expected found : TypeKind} :
    ofType declared true type = kindMismatch name expected found ↔
      Misnames declared name expected found type ∨
        ∃ item, type = "array<" ++ item ++ ">" ∧
          Misnames declared name expected found item := by
  constructor
  · intro told
    unfold ofType at told
    split at told
    · cases told
    · split at told
      · rename_i item brackets
        rw [if_pos rfl, array_item_eq_some_iff] at brackets
        refine Or.inr ⟨item, brackets, name_mismatch_iff.mp ?_⟩
        cases named : ofName declared true item with
        | resolved target => cases target <;> simp [named] at told
        | unknown => simp [named] at told
        | kindMismatch own written other => simpa [named] using told
      · exact Or.inl (name_mismatch_iff.mp told)
  · rintro (misnames | ⟨item, rfl, misnames⟩)
    · obtain ⟨ordinary, plain⟩ := misnames.ordinary
      have told := name_mismatch_iff.mpr misnames
      simp [ofType, ordinary, plain, told]
    · have dot : '.' ∈ ("array<" ++ item ++ ">").toList := by
        obtain ⟨rfl, _⟩ := misnames
        simp
      have brackets : arrayItem? ("array<" ++ item ++ ">") = some item :=
        array_item_eq_some_iff.mpr rfl
      have told := name_mismatch_iff.mpr misnames
      simp [ofType, ordinary_of_dot dot, brackets, told]

theorem mentions_iff :
    Mentions declared type ↔
      (∃ decl, Spells declared decl type) ∨
        ∃ name expected found, Misnames declared name expected found type := by
  constructor
  · rintro ⟨name, decl, registered, same | ⟨kind, same⟩⟩
    · exact Or.inl ⟨decl, name, registered, Or.inl same⟩
    · by_cases own : kind = decl.kind
      · exact Or.inl ⟨decl, name, registered, Or.inr (own ▸ same)⟩
      · exact Or.inr ⟨name, kind, decl.kind, same, decl, registered, rfl, own⟩
  · rintro (⟨decl, name, registered, same | same⟩ | ⟨name, expected, _, same, decl, registered, _⟩)
    · exact ⟨name, decl, registered, Or.inl same⟩
    · exact ⟨name, decl, registered, Or.inr ⟨_, same⟩⟩
    · exact ⟨name, decl, registered, Or.inr ⟨expected, same⟩⟩

theorem bare_iff :
    ofType declared false type = resolved (.declared decl) ↔
      Primitive.parse? type = none ∧ declared.get? type = some decl := by
  constructor
  · intro known
    cases means_of_type known with
    | declared ordinary _ names =>
        cases names with
        | bare _ registered => exact ⟨ordinary, registered⟩
        | ofKind own split _ => simp at split
  · rintro ⟨ordinary, registered⟩
    exact of_type_of_means (.declared ordinary rfl (.bare rfl registered))

theorem unknown_iff (apart : Distinguishable declared) :
    ofType declared true type = unknown ↔
      Primitive.parse? type = none ∧ ¬ Mentions declared type ∧
        ∀ item, type = "array<" ++ item ++ ">" → ¬ Mentions declared item := by
  constructor
  · intro told
    have ordinary : Primitive.parse? type = none := by
      rw [Primitive.parse_eq_none_iff]
      intro literal same
      rw [primitive_iff.mpr same] at told
      cases told
    refine ⟨ordinary, ?_, ?_⟩
    · intro mentions
      rcases mentions_iff.mp mentions with ⟨decl, spells⟩ | ⟨name, expected, found, misnames⟩
      · rw [(declared_iff_spells apart).mpr spells] at told
        cases told
      · rw [mismatch_iff.mpr (Or.inl misnames)] at told
        cases told
    · intro item same mentions
      rcases mentions_iff.mp mentions with ⟨decl, spells⟩ | ⟨name, expected, found, misnames⟩
      · rw [(array_iff_spells apart).mpr ⟨ordinary, item, same, spells⟩] at told
        cases told
      · rw [mismatch_iff.mpr (Or.inr ⟨item, same, misnames⟩)] at told
        cases told
  · rintro ⟨ordinary, alone, inside⟩
    cases judged : ofType declared true type with
    | unknown => rfl
    | resolved target =>
        cases target with
        | primitive literal =>
            exact absurd (primitive_iff.mp judged) (Primitive.parse_eq_none_iff.mp ordinary literal)
        | declared decl =>
            have spells := (declared_iff_spells apart).mp judged
            exact absurd (mentions_iff.mpr (Or.inl ⟨decl, spells⟩)) alone
        | arrayOf decl =>
            obtain ⟨_, item, same, spells⟩ := (array_iff_spells apart).mp judged
            exact absurd (mentions_iff.mpr (Or.inl ⟨decl, spells⟩)) (inside item same)
    | kindMismatch name expected found =>
        rcases mismatch_iff.mp judged with misnames | ⟨item, same, misnames⟩
        · exact absurd (mentions_iff.mpr (Or.inr ⟨_, _, _, misnames⟩)) alone
        · exact absurd (mentions_iff.mpr (Or.inr ⟨_, _, _, misnames⟩)) (inside item same)

theorem bare_judged :
    (∀ decl, ofType declared false type ≠ resolved (.arrayOf decl)) ∧
      ∀ name expected found, ofType declared false type ≠ kindMismatch name expected found := by
  constructor
  · intro decl known
    cases means_of_type known with
    | arrayOf item _ brackets _ => simp at brackets
  · intro name expected found told
    simp only [ofType, ofName, Bool.false_eq_true, if_false] at told
    split at told
    · cases told
    · split at told <;> cases told

end Readings

structure ReadByGrammar (declared : Universe) (type : String) : Prop where
  literal : ∀ literal,
    (ofType declared true type).target? = some (.primitive literal) ↔ type = literal.text
  declaration : ∀ decl,
    (ofType declared true type).target? = some (.declared decl) ↔ Spells declared decl type
  /-- A literal with brackets is no array of a declaration. -/
  array : ∀ decl,
    (ofType declared true type).target? = some (.arrayOf decl) ↔
      (∀ literal : Primitive, type ≠ literal.text) ∧
        ∃ item, type = "array<" ++ item ++ ">" ∧ Spells declared decl item
  mismatch : ∀ name expected found,
    ofType declared true type = kindMismatch name expected found ↔
      Misnames declared name expected found type ∨
        ∃ item, type = "array<" ++ item ++ ">" ∧ Misnames declared name expected found item
  unknown : ofType declared true type = unknown ↔
    (∀ literal : Primitive, type ≠ literal.text) ∧ ¬ Mentions declared type ∧
      ∀ item, type = "array<" ++ item ++ ">" → ¬ Mentions declared item
  bareLiteral : ∀ literal,
    (ofType declared false type).target? = some (.primitive literal) ↔ type = literal.text
  bareDeclaration : ∀ decl,
    (ofType declared false type).target? = some (.declared decl) ↔ declared.get? type = some decl
  bareOnly : (∀ decl, (ofType declared false type).target? ≠ some (.arrayOf decl)) ∧
    ∀ name expected found, ofType declared false type ≠ kindMismatch name expected found

/-- Where no name that is registered starts with a kind and a dot or is written like an array,
every type string is read by the grammar. -/
theorem types_read_by_grammar {names : List (String × DeclRef)}
    (neither : ∀ entry ∈ names, InNeitherForm entry.1) (type : String) :
    ReadByGrammar (({} : Universe).register names).1 type := by
  have apart := distinguishable_of_register neither
  constructor
  · intro literal
    rw [target_eq_some_iff, primitive_iff]
  · intro decl
    rw [target_eq_some_iff, declared_iff_spells apart]
  · intro decl
    rw [target_eq_some_iff, array_iff_spells apart, Primitive.parse_eq_none_iff]
  · intro name expected found
    exact mismatch_iff
  · rw [unknown_iff apart, Primitive.parse_eq_none_iff]
  · intro literal
    rw [target_eq_some_iff, primitive_iff]
  · intro decl
    rw [target_eq_some_iff, bare_iff]
    exact and_iff_right_of_imp Universe.ordinary_of_get_register
  · refine ⟨?_, bare_judged.2⟩
    intro decl
    rw [ne_eq, target_eq_some_iff]
    exact bare_judged.1 decl

/-- Names that look odd and are told apart all the same: an empty one, one with a dot after no kind,
one whose array is a literal, and one with an open bracket. -/
def oddNames : List (String × DeclRef) :=
  [("", ⟨.enum, 0⟩), ("core.Done", ⟨.callback, 0⟩), ("string", ⟨.typedef, 0⟩),
    ("array<", ⟨.struct, 0⟩), ("Device", ⟨.object, 0⟩)]

theorem odd_names_read :
    ("", ⟨.enum, 0⟩) ∈ oddNames ∧ (∀ entry ∈ oddNames, InNeitherForm entry.1) ∧
      ofType (({} : Universe).register oddNames).1 true "array<struct.Device>" =
        kindMismatch "Device" .struct .object ∧
      (ofType (({} : Universe).register oddNames).1 true "array<enum.>").target? =
        some (.arrayOf ⟨.enum, 0⟩) ∧
      (ofType (({} : Universe).register oddNames).1 true "array<string>").target? =
        some (.primitive (.array .string)) := by
  have neither : ∀ entry ∈ oddNames, InNeitherForm entry.1 := by decide
  refine ⟨by decide, neither, ?_, ?_, ?_⟩
  · rw [(types_read_by_grammar neither _).mismatch]
    exact Or.inr ⟨"struct.Device", by decide, by decide, ⟨.object, 0⟩, by decide, rfl, by decide⟩
  · rw [(types_read_by_grammar neither _).array]
    refine ⟨?_, "enum.", by decide, "", by decide, Or.inr (by decide)⟩
    rw [← Primitive.parse_eq_none_iff]
    decide
  · rw [(types_read_by_grammar neither _).literal]
    rfl

end Classification

end InterfaceSchema
