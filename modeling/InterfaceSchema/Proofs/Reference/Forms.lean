import InterfaceSchema.Proofs.Reference.Meaning
import Mathlib.Data.List.Infix

/-!
Written forms of type strings. A qualified name is the word of a kind, a dot and a name; an array is
an item between brackets. Qualified forms bind wherever they are allowed, so a declared name that
looks like one of them is out of reach there, and every other name keeps its declaration.
-/

namespace InterfaceSchema

set_option autoImplicit false

theorem TypeKind.of_text (kind : TypeKind) : ofText? kind.text = some kind := by
  cases kind <;> decide

theorem TypeKind.text_of_found {word : String} {kind : TypeKind}
    (found : ofText? word = some kind) : kind.text = word := by
  have same := List.find?_some found
  simpa using same

theorem TypeKind.no_dot (kind : TypeKind) : '.' ∉ kind.text.toList := by
  cases kind <;> simp [text]

theorem Primitive.parse_text (literal : Primitive) : parse? literal.text = some literal := by
  cases literal with
  | array item => cases item <;> rfl
  | _ => rfl

theorem Primitive.parse_eq_some_iff {type : String} {literal : Primitive} :
    parse? type = some literal ↔ type = literal.text := by
  constructor
  · intro parsed
    have same := List.find?_some parsed
    exact (eq_of_beq same).symm
  · rintro rfl
    exact literal.parse_text

theorem Primitive.parse_eq_none_iff {type : String} :
    parse? type = none ↔ ∀ literal : Primitive, type ≠ literal.text := by
  simp only [Option.eq_none_iff_forall_ne_some, ne_eq, parse_eq_some_iff]

theorem Primitive.no_dot (literal : Primitive) : '.' ∉ literal.text.toList := by
  cases literal with
  | array item => cases item <;> simp [text, ArrayItem.text]
  | _ => simp [text]

namespace Classification

/-- The characters around the first dot. -/
theorem dot_splits {characters before after : List Char} (plain : '.' ∉ before) :
    (characters.takeWhile (fun character => character != '.') = before ∧
        characters.dropWhile (fun character => character != '.') = '.' :: after) ↔
      characters = before ++ '.' :: after := by
  constructor
  · rintro ⟨taken, dropped⟩
    rw [← taken, ← dropped, List.takeWhile_append_dropWhile]
  · rintro rfl
    have passed : ∀ character ∈ before, (character != '.') = true := by
      intro character member
      rw [bne_iff_ne]
      exact fun same => plain (same ▸ member)
    rw [List.takeWhile_append_of_pos passed, List.dropWhile_append_of_pos passed]
    simp

theorem split_kind_eq_some_iff {type name : String} {kind : TypeKind} :
    splitKind? type = some (kind, name) ↔ type = kind.text ++ "." ++ name := by
  have dot : ".".toList = ['.'] := rfl
  rw [← String.toList_inj, String.toList_append, String.toList_append, dot, List.append_assoc,
    List.singleton_append, ← dot_splits kind.no_dot]
  cases dropped : type.toList.dropWhile (fun character => character != '.') with
  | nil => simp [splitKind?, dropped]
  | cons first bare =>
      have stopped := List.head?_dropWhile_not (fun character => character != '.') type.toList
      rw [dropped] at stopped
      have isDot : first = '.' := by simpa using stopped
      simp only [splitKind?, dropped, Option.map_eq_some_iff, Prod.mk.injEq, List.cons.injEq]
      constructor
      · rintro ⟨found, known, rfl, rfl⟩
        have word := TypeKind.text_of_found known
        rw [word, String.toList_ofList, String.toList_ofList]
        exact ⟨rfl, isDot, rfl⟩
      · rintro ⟨taken, _, rest⟩
        refine ⟨kind, ?_, rfl, ?_⟩
        · rw [taken, String.ofList_toList]
          exact kind.of_text
        · rw [rest, String.ofList_toList]

theorem array_item_eq_some_iff {type item : String} :
    arrayItem? type = some item ↔ type = "array<" ++ item ++ ">" := by
  have bracket : ">".toList = ['>'] := rfl
  rw [← String.toList_inj, String.toList_append, String.toList_append, bracket,
    List.append_assoc]
  unfold arrayItem?
  cases opened : "array<".toList.isPrefixOf? type.toList with
  | none =>
      have other : ∀ rest, "array<".toList ++ rest ≠ type.toList := by
        intro rest same
        rw [List.isPrefixOf?_eq_some_iff_append_eq.mpr same] at opened
        cases opened
      simp only [reduceCtorEq, false_iff]
      exact fun same => other _ same.symm
  | some rest =>
      have whole := List.isPrefixOf?_eq_some_iff_append_eq.mp opened
      rw [← whole, List.append_cancel_left_eq, Option.map_eq_some_iff]
      constructor
      · rintro ⟨inner, closed, rfl⟩
        rw [String.toList_ofList]
        exact (List.isSuffixOf?_eq_some_iff_append_eq.mp closed).symm
      · intro same
        refine ⟨item.toList, ?_, String.ofList_toList⟩
        exact List.isSuffixOf?_eq_some_iff_append_eq.mpr same.symm

/-- Type strings that are taken for an array. -/
def Bracketed (qualified : Bool) (type : String) : Prop :=
  qualified = true ∧ ∃ item : String, type = "array<" ++ item ++ ">"

/-- Type strings that no qualified form takes over: literals, and strings in neither form. -/
def Plain (type : String) : Prop :=
  (Primitive.parse? type).isSome = true ∨
    (∀ (kind : TypeKind) (name : String), type ≠ kind.text ++ "." ++ name) ∧
      ∀ item : String, type ≠ "array<" ++ item ++ ">"

theorem plain_iff {type : String} :
    Plain type ↔
      (Primitive.parse? type).isSome = true ∨ splitKind? type = none ∧ arrayItem? type = none := by
  simp only [Plain, Option.eq_none_iff_forall_ne_some, Prod.forall, ne_eq, split_kind_eq_some_iff,
    array_item_eq_some_iff]

theorem bracketed_iff {qualified : Bool} {type : String} :
    Bracketed qualified type ↔ qualified = true ∧ (arrayItem? type).isSome = true := by
  simp only [Bracketed, Option.isSome_iff_exists, array_item_eq_some_iff]

instance (qualified : Bool) (type : String) : Decidable (Bracketed qualified type) :=
  decidable_of_iff _ bracketed_iff.symm

instance (type : String) : Decidable (Plain type) := decidable_of_iff _ plain_iff.symm

section Brackets

variable {declared : Universe} {qualified : Bool} {type : String} {decl : DeclRef}

theorem Means.unbracketed (means : Means declared qualified type (.declared decl)) :
    ¬ Bracketed qualified type := by
  rintro ⟨rfl, item, written⟩
  cases means with
  | declared _ plain _ =>
      rw [if_pos rfl, array_item_eq_some_iff.mpr written] at plain
      cases plain

theorem Means.bracketed (means : Means declared qualified type (.arrayOf decl)) :
    Bracketed qualified type := by
  cases means with
  | arrayOf item _ brackets _ =>
      cases qualified with
      | false => cases brackets
      | true => exact ⟨rfl, item, array_item_eq_some_iff.mp brackets⟩

end Brackets

section Settings

variable {declared : Universe} {type : String} {target : TypeTarget}

/-- What a plain type string means does not depend on whether qualified forms are allowed. -/
theorem Means.allowing (means : Means declared false type target) (plain : Plain type) :
    Means declared true type target := by
  cases means with
  | primitive parsed => exact .primitive parsed
  | declared ordinary _ names =>
      have literal : ¬ (Primitive.parse? type).isSome = true := by simp [ordinary]
      obtain ⟨split, brackets⟩ := (plain_iff.mp plain).resolve_left literal
      cases names with
      | bare _ registered =>
          have still : Names declared true type _ := .bare (by rw [if_pos rfl, split]) registered
          exact .declared ordinary (by rw [if_pos rfl, brackets]) still
      | ofKind own split _ => simp at split
  | arrayOf item _ brackets _ => simp at brackets

/-- Where every declaration has one name, only a plain type string keeps its meaning. -/
theorem Means.plain (refusing : Means declared false type target)
    (allowing : Means declared true type target)
    (named : ∀ name other decl, declared.get? name = some decl → declared.get? other = some decl →
      name = other) : Plain type := by
  rw [plain_iff]
  cases refusing with
  | primitive parsed => exact Or.inl (by simp [parsed])
  | arrayOf item _ brackets _ => simp at brackets
  | declared ordinary _ names =>
      cases names with
      | ofKind own split _ => simp at split
      | bare _ registered =>
          cases allowing with
          | declared _ brackets names =>
              cases names with
              | bare split _ => exact Or.inr ⟨by simpa using split, by simpa using brackets⟩
              | ofKind own split other =>
                  -- The name behind the dot would be the whole string.
                  rw [if_pos rfl, split_kind_eq_some_iff] at split
                  have same := named _ _ _ registered other
                  have length := congrArg String.length (split.symm.trans same)
                  simp only [String.length_append] at length
                  have dot : ".".length = 1 := rfl
                  omega

end Settings

end Classification

namespace TypeField

variable {scope other : TypeScope}

/-- Where nothing is told of any field, the references are the same only field by field. -/
theorem references_eq_iff {fields : List TypeField}
    (quiet : ∀ field ∈ fields, field.problems scope = [])
    (still : ∀ field ∈ fields, field.problems other = []) :
    fields.filterMap (reference? other) = fields.filterMap (reference? scope) ↔
      ∀ field ∈ fields, field.reference? other = field.reference? scope := by
  induction fields with
  | nil => simp
  | cons field rest ih =>
      obtain ⟨here, known, _⟩ := reference_of_no_problem (quiet field List.mem_cons_self)
      obtain ⟨there, found, _⟩ := reference_of_no_problem (still field List.mem_cons_self)
      have remaining := ih (fun later member => quiet later (List.mem_cons_of_mem _ member))
        fun later member => still later (List.mem_cons_of_mem _ member)
      rw [List.filterMap_cons_some known, List.filterMap_cons_some found, List.cons.injEq,
        remaining, List.forall_mem_cons, known, found, Option.some.injEq]

end TypeField

end InterfaceSchema
