import InterfaceSchema.Proofs.Document.RoundTrip
import InterfaceSchema.Proofs.Json.Printer

/-!
Documents as JSON texts. A document holds no decimals, no object of its JSON form repeats a key,
and its integers fit a word, so that its text is read back as the document.
-/

namespace InterfaceSchema

set_option autoImplicit false

namespace Json

variable {α : Type} {allowed : Int → Prop}

@[simp]
theorem plain_list_iff {encode : α → Json} {values : List α} :
    Plain allowed (ofList encode values) ↔ ∀ value ∈ values, Plain allowed (encode value) := by
  rw [ofList, plain_array_iff, List.forall_mem_map]

@[simp]
theorem plain_texts (values : List String) : Plain allowed (ofTexts values) :=
  plain_list_iff.mpr fun value _ => .string value

end Json

section Plain

open Json

theorem Json.fits_of_unsigned (value : UInt64) : FitsWord value.toNat := by
  have low : Int64.minValue.toInt ≤ 0 := by decide
  exact ⟨by omega, Int.ofNat_lt.mpr value.toNat_lt_size⟩

theorem Json.fits_of_signed (value : Int64) : FitsWord value.toInt := by
  have below : Int64.maxValue.toInt < UInt64.size := by decide
  exact ⟨value.minValue_le_toInt, Int.lt_of_le_of_lt value.toInt_le below⟩

@[simp]
theorem Literal.to_json_plain (literal : Literal) : Plain FitsWord literal.toJson := by
  cases literal with
  | unsigned value => exact .integer (fits_of_unsigned value)
  | signed value => exact .integer (fits_of_signed value)
  | symbol name => exact .string _

@[simp]
theorem ConstantDecl.to_json_plain (decl : ConstantDecl) : Plain FitsWord decl.toJson := by
  simp [toJson]

@[simp]
theorem TypedefDecl.to_json_plain (decl : TypedefDecl) : Plain FitsWord decl.toJson := by
  simp [toJson]

@[simp]
theorem EnumEntry.slot_to_json_plain (slot : Option EnumEntry) :
    Plain FitsWord (slotToJson slot) := by
  cases slot with
  | none => exact .null
  | some entry =>
      rcases entry with ⟨name, doc, value⟩
      cases value <;> simp [slotToJson, toJson, optionalMember, fits_of_signed]

@[simp]
theorem EnumDecl.to_json_plain (decl : EnumDecl) : Plain FitsWord decl.toJson := by
  simp [toJson]

@[simp]
theorem BitflagEntry.to_json_plain (entry : BitflagEntry) : Plain FitsWord entry.toJson := by
  rcases entry with ⟨name, doc, value, combination⟩
  cases value <;> cases combination <;> simp [toJson, optionalMember]

@[simp]
theorem BitflagDecl.to_json_plain (decl : BitflagDecl) : Plain FitsWord decl.toJson := by
  simp [toJson]

@[simp]
theorem Parameter.to_json_plain (parameter : Parameter) : Plain FitsWord parameter.toJson := by
  rcases parameter with ⟨name, doc, type, ownership, pointer, optional, space⟩
  cases ownership <;> cases pointer <;> cases space <;> simp [toJson, optionalMember]

@[simp]
theorem CallbackDecl.to_json_plain (decl : CallbackDecl) : Plain FitsWord decl.toJson := by
  simp [toJson]

@[simp]
theorem StructDecl.to_json_plain (decl : StructDecl) : Plain FitsWord decl.toJson := by
  simp [toJson]

@[simp]
theorem FunctionDecl.to_json_plain (decl : FunctionDecl) : Plain FitsWord decl.toJson := by
  rcases decl with ⟨name, doc, returns, completion, arguments⟩
  cases returns with
  | none => cases completion <;> simp [toJson, optionalMember]
  | some value =>
      have returned : Plain FitsWord value.toJson := by
        rcases value with ⟨doc, type, passesOwnership, pointer⟩
        cases passesOwnership <;> cases pointer <;> simp [ReturnValue.toJson, optionalMember]
      cases completion <;> simp [toJson, optionalMember, returned]

@[simp]
theorem ObjectDecl.to_json_plain (decl : ObjectDecl) : Plain FitsWord decl.toJson := by
  rcases decl with ⟨name, doc, extended, space, methods⟩
  cases space <;> simp [toJson, optionalMember]

theorem Document.to_json_plain (document : Document) : Plain FitsWord document.toJson := by
  simp [toJson]

end Plain

namespace Document

/-- The document that a text holds, if it is a text of JSON at all. -/
def read? (text : String) : Option (Except ShapeError Document) := (Json.parse? text).map ofJson

theorem read_compact (document : Document) :
    read? document.toJson.compact = some (ofJson document.toJson) := by
  have plain := document.to_json_plain
  rw [read?, Json.parse_compact plain, Json.as_read_of_fits plain, Option.map_some]

theorem read_pretty (document : Document) :
    read? document.toJson.pretty = some (ofJson document.toJson) := by
  have plain := document.to_json_plain
  rw [read?, Json.parse_pretty plain, Json.as_read_of_fits plain, Option.map_some]

/-- Documents whose literals are held as they are read come back from both of their texts. Whatever
is read is such a document, so that writing and reading it again gives the same. -/
theorem written_and_read (document : Document) :
    (document.Canonical →
      read? document.toJson.compact = some (.ok document) ∧
        read? document.toJson.pretty = some (.ok document)) ∧
    (∀ json : Json, ofJson json = .ok document →
      document.Canonical ∧ ofJson document.toJson = .ok document) ∧
    ∀ text : String, read? text = some (.ok document) →
      document.Canonical ∧ read? document.toJson.compact = read? text ∧
        read? document.toJson.pretty = read? text := by
  have back (canonical : document.Canonical) :
      read? document.toJson.compact = some (.ok document) ∧
        read? document.toJson.pretty = some (.ok document) := by
    rw [read_compact, read_pretty, of_json_to_json canonical]
    exact ⟨rfl, rfl⟩
  refine ⟨back, ?_, ?_⟩
  · intro json read
    have canonical := of_json_canonical read
    exact ⟨canonical, of_json_to_json canonical⟩
  · intro text read
    obtain ⟨json, _, given⟩ := Option.map_eq_some_iff.mp read
    have canonical := of_json_canonical given
    rw [read]
    exact ⟨canonical, back canonical⟩

/-- A document with declarations of every kind, optional fields written and left out, a gap, and
texts that have to be escaped. -/
def everyKind : Document :=
  { name := "every \"kind\"\n"
    block := "0x0001"
    constants := [⟨"lowest", .signed Int64.minValue, ""⟩, ⟨"word", .symbol .usizeMax, "a\\b"⟩]
    typedefs := [⟨"size", "", "uint64"⟩]
    enums := [⟨"status", "", true, [some ⟨"ready", "", some (-1)⟩, none, some ⟨"done", "", none⟩]⟩]
    bitflags :=
      [⟨"usage", "", false,
        [⟨"read", "", some (.unsigned 1), none⟩, ⟨"all", "", none, some ["read"]⟩]⟩]
    callbacks := [⟨"done", "", .immediate, [{ name := "status", type := "status" }]⟩]
    structs :=
      [⟨"desc", "", .extension .both, ["base"], true,
        [{ name := "label", type := "string", ownership := some .taken, pointer := some .mutable,
           optional := true, space := some "device" }]⟩]
    functions :=
      [⟨"create", "", some ⟨"", "device", some true, some .immutable⟩, some "done", []⟩]
    objects := [⟨"device", "", false, some "core", [⟨"poll", "\t", none, none, []⟩]⟩] }

/-- A document without most of its fields, and a constant written as a list. -/
def shortForm : Json :=
  .object [("name", .string "short"), ("enum_prefix", .string "0x0002"),
    ("constants", .array [.array [.string "below", .integer (-3)]])]

def shortDocument : Document :=
  { name := "short", block := "0x0002", constants := [⟨"below", .signed (-3), ""⟩] }

theorem documents_written_and_read :
    (everyKind.Canonical ∧ read? everyKind.toJson.compact = some (.ok everyKind) ∧
      read? everyKind.toJson.pretty = some (.ok everyKind)) ∧
    (ofJson shortForm = .ok shortDocument ∧ shortDocument.Canonical ∧
      ofJson shortDocument.toJson = .ok shortDocument) ∧
    read? everyKind.toJson.compact = read? everyKind.toJson.pretty := by
  have canonical : everyKind.Canonical := by decide
  have short : ofJson shortForm = .ok shortDocument := by rfl
  obtain ⟨compact, pretty⟩ := (written_and_read everyKind).1 canonical
  have again := (written_and_read shortDocument).2.1 shortForm short
  exact ⟨⟨canonical, compact, pretty⟩, ⟨short, again⟩,
    ((written_and_read everyKind).2.2 _ pretty).2.1⟩

end Document

end InterfaceSchema
