import InterfaceSchema.Model.Encode
import InterfaceSchema.Proofs.Document.Text
import InterfaceSchema.Proofs.Reference.Forms
import Mathlib.Logic.Function.Basic

/-!
The snapshot of a model tells it from every other one. No two records of a model have the same JSON
form, and that form is read back from the text. The one field that is not written is whether
qualified forms were allowed.
-/

namespace InterfaceSchema

set_option autoImplicit false

open Function (Injective)

variable {α : Type}

namespace Json

/-- What is read back from its JSON form is told apart by it. -/
theorem injective_of_read {read : Json → Except ShapeError α} {encode : α → Json}
    (back : ∀ value : α, read (encode value) = .ok value) : Injective encode := by
  intro left right same
  have read := back left
  rw [same, back right] at read
  exact (Except.ok.inj read).symm

theorem of_list_injective {encode : α → Json} (apart : Injective encode) :
    Injective (ofList encode) := by
  intro left right same
  exact List.map_injective_iff.mpr apart (Json.array.inj same)

theorem of_texts_injective : Injective ofTexts := injective_of_read read_texts

theorem of_text_injective : Injective ofText? := by
  intro left right same
  cases left with
  | none =>
      cases right with
      | none => rfl
      | some => cases same
  | some value =>
      cases right with
      | none => cases same
      | some other => rw [Json.string.inj same]

theorem of_nat_injective : Injective ofNat? := by
  intro left right same
  cases left with
  | none =>
      cases right with
      | none => rfl
      | some => cases same
  | some value =>
      cases right with
      | none => cases same
      | some other => rw [Int.ofNat.inj (Json.integer.inj same)]

/-- A word that may be missing is told apart by its number. -/
theorem of_word_injective {number : α → Nat} (apart : Injective number) :
    Injective fun word : Option α => ofNat? (word.map number) :=
  of_nat_injective.comp (Option.map_injective apart)

end Json

section Texts

theorem TypeKind.text_injective : Injective text := by
  intro left right same
  cases left <;> cases right <;> simp_all [text]

theorem Primitive.text_injective : Injective text := by
  intro left right same
  have parsed := parse_text left
  rw [same, parse_text right] at parsed
  exact (Option.some.inj parsed).symm

end Texts

section Records

theorem DeclRef.to_json_injective : Injective toJson := by
  rintro ⟨kind, index⟩ ⟨other, place⟩ same
  simp only [toJson, Json.object.injEq, List.cons.injEq, Prod.mk.injEq, true_and, and_true,
    Json.string.injEq, Json.integer.injEq] at same
  obtain ⟨kinds, indices⟩ := same
  rw [TypeKind.text_injective kinds, Int.ofNat.inj indices]

theorem TypeTarget.to_json_injective : Injective toJson := by
  intro left right same
  cases left with
  | primitive literal =>
      cases right with
      | primitive other =>
          simp only [toJson, Json.object.injEq, List.cons.injEq, Prod.mk.injEq, true_and, and_true,
            Json.string.injEq] at same
          rw [Primitive.text_injective same]
      | declared | arrayOf => simp [toJson] at same
  | declared decl =>
      cases right with
      | declared other =>
          simp only [toJson, Json.object.injEq, List.cons.injEq, Prod.mk.injEq, true_and,
            and_true] at same
          rw [DeclRef.to_json_injective same]
      | primitive | arrayOf => simp [toJson] at same
  | arrayOf item =>
      cases right with
      | arrayOf other =>
          simp only [toJson, Json.object.injEq, List.cons.injEq, Prod.mk.injEq, true_and,
            and_true] at same
          rw [DeclRef.to_json_injective same]
      | primitive | declared => simp [toJson] at same

theorem Universe.to_json_injective : Injective toJson := by
  rintro ⟨entries⟩ ⟨others⟩ same
  simp only [toJson, Json.object.injEq, List.cons.injEq, Prod.mk.injEq, true_and, and_true] at same
  have apart : Injective fun entry : String × DeclRef => (entry.1, entry.2.toJson) := by
    rintro ⟨name, decl⟩ ⟨other, counterpart⟩ alike
    obtain ⟨names, decls⟩ := Prod.mk.inj alike
    exact Prod.ext names (DeclRef.to_json_injective decls)
  rw [List.map_injective_iff.mpr apart same]

theorem Literal.to_json_apart {left right : Literal} (canonicalLeft : left.Canonical)
    (canonicalRight : right.Canonical) (same : left.toJson = right.toJson) : left = right := by
  have read := of_json_to_json canonicalLeft
  rw [same, of_json_to_json canonicalRight] at read
  exact (Except.ok.inj read).symm

-- Held as a signed word, a number that is not negative is written like the unsigned one.
example : (Literal.signed 5).toJson = (Literal.unsigned 5).toJson := by rfl

theorem ResolvedConstant.to_json_apart {left right : ResolvedConstant}
    (canonicalLeft : left.value.Canonical) (canonicalRight : right.value.Canonical)
    (same : left.toJson = right.toJson) : left = right := by
  rcases left with ⟨name, doc, value, resolved⟩
  rcases right with ⟨otherName, otherDoc, otherValue, otherResolved⟩
  simp only [toJson, Json.object.injEq, List.cons.injEq, Prod.mk.injEq, true_and, and_true,
    Json.string.injEq] at same
  obtain ⟨rfl, rfl, values, resolutions⟩ := same
  have literals : value = otherValue := Literal.to_json_apart canonicalLeft canonicalRight values
  rw [literals, Json.of_word_injective (fun _ _ => UInt64.toNat_inj.mp) resolutions]

theorem ResolvedSlot.to_json_injective : Injective toJson := by
  rintro ⟨name, doc, value, qualified⟩ ⟨otherName, otherDoc, otherValue, otherQualified⟩ same
  simp only [toJson, Json.object.injEq, List.cons.injEq, Prod.mk.injEq, true_and, and_true,
    Json.string.injEq] at same
  obtain ⟨names, rfl, values, qualifieds⟩ := same
  rw [Json.of_text_injective names, Json.of_word_injective (fun _ _ => UInt16.toNat_inj.mp) values,
    Json.of_word_injective (fun _ _ => UInt32.toNat_inj.mp) qualifieds]

theorem ResolvedEnum.to_json_injective : Injective toJson := by
  rintro ⟨name, doc, slots⟩ ⟨otherName, otherDoc, otherSlots⟩ same
  simp only [toJson, Json.object.injEq, List.cons.injEq, Prod.mk.injEq, true_and, and_true,
    Json.string.injEq] at same
  obtain ⟨rfl, rfl, entries⟩ := same
  rw [Json.of_list_injective ResolvedSlot.to_json_injective entries]

theorem ResolvedMask.to_json_injective : Injective toJson := by
  rintro ⟨name, doc, value, parts⟩ ⟨otherName, otherDoc, otherValue, otherParts⟩ same
  simp only [toJson, Json.object.injEq, List.cons.injEq, Prod.mk.injEq, true_and, and_true,
    Json.string.injEq] at same
  obtain ⟨rfl, rfl, values, combinations⟩ := same
  rw [Json.of_word_injective (fun _ _ => UInt64.toNat_inj.mp) values,
    Json.of_texts_injective combinations]

theorem ResolvedBitflag.to_json_injective : Injective toJson := by
  rintro ⟨name, doc, masks⟩ ⟨otherName, otherDoc, otherMasks⟩ same
  simp only [toJson, Json.object.injEq, List.cons.injEq, Prod.mk.injEq, true_and, and_true,
    Json.string.injEq] at same
  obtain ⟨rfl, rfl, entries⟩ := same
  rw [Json.of_list_injective ResolvedMask.to_json_injective entries]

theorem Reference.to_json_injective : Injective toJson := by
  rintro ⟨site, type, target⟩ ⟨otherSite, otherType, otherTarget⟩ same
  simp only [toJson, Json.object.injEq, List.cons.injEq, Prod.mk.injEq, true_and, and_true,
    Json.string.injEq] at same
  obtain ⟨rfl, rfl, targets⟩ := same
  rw [TypeTarget.to_json_injective targets]

theorem Attachments.to_json_injective : Injective toJson := by
  rintro ⟨bases, extensions⟩ ⟨otherBases, otherExtensions⟩ same
  simp only [toJson, Json.object.injEq, List.cons.injEq, Prod.mk.injEq, true_and,
    and_true] at same
  have numbers : Injective Json.ofNat := fun left right alike =>
    Int.ofNat.inj (Json.integer.inj alike)
  have rows := Json.of_list_injective (Json.of_list_injective numbers)
  rw [rows same.1, rows same.2]

end Records

section Plain

open Json (Plain)

/-- Whether any integer may be written. -/
def Json.Unbounded (_ : Int) : Prop := True

theorem Json.Plain.unbounded {allowed : Int → Prop} {json : Json} (plain : Plain allowed json) :
    Plain Json.Unbounded json :=
  plain.weaken fun _ _ => trivial

@[simp]
theorem Json.unbounded (value : Int) : Json.Unbounded value := trivial

@[simp]
theorem Json.plain_nat (value : Option Nat) : Plain Json.Unbounded (Json.ofNat? value) := by
  cases value <;> simp [ofNat?]

@[simp]
theorem Json.plain_text (value : Option String) : Plain Json.Unbounded (Json.ofText? value) := by
  cases value <;> simp [ofText?]

@[simp]
theorem DeclRef.to_json_plain (decl : DeclRef) : Plain Json.Unbounded decl.toJson := by
  simp [toJson]

@[simp]
theorem TypeTarget.to_json_plain (target : TypeTarget) : Plain Json.Unbounded target.toJson := by
  cases target <;> simp [toJson]

/-- The names of a universe are the keys of an object, so they must differ. -/
theorem Universe.to_json_plain {declared : Universe}
    (distinct : (declared.entries.map Prod.fst).Nodup) :
    Plain Json.Unbounded declared.toJson := by
  have keys : (declared.entries.map fun entry => (entry.1, entry.2.toJson)).map Prod.fst =
      declared.entries.map Prod.fst := List.map_map
  have each : ∀ member ∈ declared.entries.map (fun entry => (entry.1, entry.2.toJson)),
      Plain Json.Unbounded member.2 := by
    rw [List.forall_mem_map]
    exact fun entry _ => entry.2.to_json_plain
  have names : Plain Json.Unbounded
      (.object (declared.entries.map fun entry => (entry.1, entry.2.toJson))) :=
    .object (keys ▸ distinct) each
  exact .object (by simp) (List.forall_mem_singleton.mpr names)

@[simp]
theorem ResolvedConstant.to_json_plain (constant : ResolvedConstant) :
    Plain Json.Unbounded constant.toJson := by
  simp [toJson, constant.value.to_json_plain.unbounded]

@[simp]
theorem ResolvedSlot.to_json_plain (slot : ResolvedSlot) : Plain Json.Unbounded slot.toJson := by
  simp [toJson]

@[simp]
theorem ResolvedEnum.to_json_plain (enum : ResolvedEnum) : Plain Json.Unbounded enum.toJson := by
  simp [toJson]

@[simp]
theorem ResolvedMask.to_json_plain (mask : ResolvedMask) : Plain Json.Unbounded mask.toJson := by
  simp [toJson]

@[simp]
theorem ResolvedBitflag.to_json_plain (bitflag : ResolvedBitflag) :
    Plain Json.Unbounded bitflag.toJson := by
  simp [toJson]

@[simp]
theorem Reference.to_json_plain (reference : Reference) :
    Plain Json.Unbounded reference.toJson := by
  simp [toJson]

@[simp]
theorem Attachments.to_json_plain (attachments : Attachments) :
    Plain Json.Unbounded attachments.toJson := by
  simp [toJson, Json.ofNat]

end Plain

namespace Model

open Json (of_list_injective injective_of_read list_eq_of_map)

/-- The constants are held as they are read, and no name is declared twice. -/
structure Written (model : Model) : Prop where
  literals : ∀ constant ∈ model.constants, constant.value.Canonical
  names : (model.declared.entries.map Prod.fst).Nodup

theorem to_json_plain {model : Model} (written : model.Written) :
    Json.Plain Json.Unbounded model.toJson := by
  have declared := Universe.to_json_plain written.names
  have typedefs (decl : TypedefDecl) := decl.to_json_plain.unbounded
  have callbacks (decl : CallbackDecl) := decl.to_json_plain.unbounded
  have structs (decl : StructDecl) := decl.to_json_plain.unbounded
  have functions (decl : FunctionDecl) := decl.to_json_plain.unbounded
  have objects (decl : ObjectDecl) := decl.to_json_plain.unbounded
  simp [toJson, declared, typedefs, callbacks, structs, functions, objects]

/-- Models with one JSON form agree in every field that is written. -/
theorem to_json_apart {left right : Model} (writtenLeft : left.Written)
    (writtenRight : right.Written) (same : left.toJson = right.toJson) :
    { left with qualified := right.qualified } = right := by
  rcases left with ⟨name, copyright, declared, constants, typedefs, enums, bitflags, callbacks,
    structs, functions, objects, references, attachments, qualified⟩
  rcases right with ⟨otherName, otherCopyright, otherDeclared, otherConstants, otherTypedefs,
    otherEnums, otherBitflags, otherCallbacks, otherStructs, otherFunctions, otherObjects,
    otherReferences, otherAttachments, otherQualified⟩
  simp only [toJson, Json.object.injEq, List.cons.injEq, Prod.mk.injEq, true_and, and_true,
    Json.string.injEq] at same
  obtain ⟨rfl, rfl, ofDeclared, ofConstants, ofTypedefs, ofEnums, ofBitflags, ofCallbacks,
    ofStructs, ofFunctions, ofObjects, ofReferences, ofAttachments⟩ := same
  have constantsSame := list_eq_of_map (fun constant member other among alike =>
    ResolvedConstant.to_json_apart (writtenLeft.literals constant member)
      (writtenRight.literals other among) alike) (Json.array.inj ofConstants)
  rw [Universe.to_json_injective ofDeclared, constantsSame,
    of_list_injective (injective_of_read TypedefDecl.of_json_to_json) ofTypedefs,
    of_list_injective ResolvedEnum.to_json_injective ofEnums,
    of_list_injective ResolvedBitflag.to_json_injective ofBitflags,
    of_list_injective (injective_of_read CallbackDecl.of_json_to_json) ofCallbacks,
    of_list_injective (injective_of_read StructDecl.of_json_to_json) ofStructs,
    of_list_injective (injective_of_read FunctionDecl.of_json_to_json) ofFunctions,
    of_list_injective (injective_of_read ObjectDecl.of_json_to_json) ofObjects,
    of_list_injective Reference.to_json_injective ofReferences,
    Attachments.to_json_injective ofAttachments]

/-- Models with one snapshot agree in every field that is written. -/
theorem snapshot_apart {left right : Model} (writtenLeft : left.Written)
    (writtenRight : right.Written) (same : left.snapshot = right.snapshot) :
    { left with qualified := right.qualified } = right :=
  to_json_apart writtenLeft writtenRight
    (Json.pretty_injective (to_json_plain writtenLeft) (to_json_plain writtenRight) same)

end Model

end InterfaceSchema
