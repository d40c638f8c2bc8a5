import InterfaceSchema.Proofs.EnumBlock
import InterfaceSchema.Proofs.Resolution.Stages

/-!
Blocks of the documents. A document is told, once and in order, if its block is neither spelled by
the grammar nor such a spelling with a sign. So the grammar alone decides what is told if and only
if no document puts a sign before the digits of its block.
-/

namespace InterfaceSchema

set_option autoImplicit false

namespace EnumBlock

theorem read_by_grammar_iff (text : String) :
    (∀ block, parse? text = some block ↔ Spells text block) ↔ ¬ Signed text := by
  constructor
  · rintro grammar ⟨block, signed⟩
    have spells := (grammar block).mp (parse_eq_some_iff.mpr (Or.inr signed))
    exact spells.no_plus signed.plus
  · intro unsigned block
    rw [parse_eq_some_iff]
    exact or_iff_left fun signed => unsigned ⟨block, signed⟩

end EnumBlock

namespace Resolver

open EnumBlock

def blockProblem (document : Document) : Problem :=
  .invalidEnumBlock document.name document.block

/-- What the grammar lets expect: the documents whose block is not spelled by it, in order. -/
def unspelledBlocks (documents : List Document) : List Diagnostic :=
  (documents.filter fun document => ¬ Spelled document.block).map fun document =>
    .error (blockProblem document)

theorem blocks_of_kind (diagnostic : Diagnostic)
    (about : diagnostic.problem.kind = .invalidEnumBlock) : diagnostic.pass = .blocks := by
  rcases diagnostic with ⟨severity, problem⟩
  cases problem <;> simp_all [Problem.kind, Diagnostic.pass, Problem.stage, Stage.pass]

theorem told_blocks (config : Config) (documents : List Document) :
    (resolve config documents).report.diagnostics.filter
        (fun diagnostic => diagnostic.problem.kind == .invalidEnumBlock) =
      (documents.filter fun document =>
        ¬ Spelled document.block ∧ ¬ Signed document.block).map fun document =>
          .error (blockProblem document) := by
  have unread : ∀ document ∈ documents, (parse? document.block).isNone =
      decide (¬ Spelled document.block ∧ ¬ Signed document.block) := by
    intro document _
    rw [Bool.eq_iff_iff, Option.isNone_iff_eq_none, decide_eq_true_iff]
    exact parse_eq_none_iff
  have all : ∀ diagnostic ∈ passDiagnostics config documents .blocks,
      (diagnostic.problem.kind == .invalidEnumBlock) = true := by
    rw [passDiagnostics, blockProblems, List.map_map, List.forall_mem_map]
    exact fun _ _ => rfl
  rw [report_of_kind config documents blocks_of_kind, List.filter_eq_self.mpr all,
    passDiagnostics, blockProblems, List.map_map, List.filter_congr unread]
  rfl

theorem told_blocks_unspelled_iff (config : Config) (documents : List Document) :
    (resolve config documents).report.diagnostics.filter
        (fun diagnostic => diagnostic.problem.kind == .invalidEnumBlock) =
      unspelledBlocks documents ↔ ∀ document ∈ documents, ¬ Signed document.block := by
  rw [told_blocks]
  constructor
  · intro same document member signed
    have unspelled : ¬ Spelled document.block :=
      fun spelled => (spelled_iff.mp spelled).2 (signed_iff.mp signed).2
    -- The grammar would tell the block, and what is told is no block with a sign.
    have expected : Diagnostic.error (blockProblem document) ∈ unspelledBlocks documents :=
      List.mem_map_of_mem (List.mem_filter.mpr ⟨member, decide_eq_true unspelled⟩)
    rw [← same] at expected
    obtain ⟨other, told, alike⟩ := List.mem_map.mp expected
    have unread := of_decide_eq_true (List.mem_filter.mp told).2
    simp only [Diagnostic.error, blockProblem, Diagnostic.mk.injEq, true_and,
      Problem.invalidEnumBlock.injEq] at alike
    exact unread.2 (alike.2 ▸ signed)
  · intro unsigned
    refine congrArg (List.map _) (List.filter_congr ?_)
    intro document member
    rw [decide_eq_decide]
    exact and_iff_left (unsigned document member)

/-- Of the texts of blocks exactly the spellings of the grammar are read and, against the grammar,
those that have a sign between the mark and the digits; the documents with any other text are told,
once each and in order. So a text is read as the grammar says if and only if it has no sign, and
documents are told as the grammar says if and only if none of them has one. -/
theorem blocks_by_grammar_iff_unsigned (config : Config) (documents : List Document) :
    (∀ text block, parse? text = some block ↔ Spells text block ∨ SpellsSigned text block) ∧
      (∀ text, (∀ block, parse? text = some block ↔ Spells text block) ↔ ¬ Signed text) ∧
      (resolve config documents).report.diagnostics.filter
          (fun diagnostic => diagnostic.problem.kind == .invalidEnumBlock) =
        ((documents.filter fun document =>
          ¬ Spelled document.block ∧ ¬ Signed document.block).map fun document =>
            .error (blockProblem document)) ∧
      ((resolve config documents).report.diagnostics.filter
          (fun diagnostic => diagnostic.problem.kind == .invalidEnumBlock) =
        unspelledBlocks documents ↔ ∀ document ∈ documents, ¬ Signed document.block) :=
  ⟨fun _ _ => parse_eq_some_iff, read_by_grammar_iff, told_blocks config documents,
    told_blocks_unspelled_iff config documents⟩

def signedDocument : Document := { name := "core", block := "0x+FFFF" }

theorem signed_block_read :
    ¬ Spelled signedDocument.block ∧ parse? signedDocument.block = some 65535 ∧
      (resolve {} [signedDocument]).report.diagnostics.filter
          (fun diagnostic => diagnostic.problem.kind == .invalidEnumBlock) = [] ∧
      unspelledBlocks [signedDocument] = [.error (.invalidEnumBlock "core" "0x+FFFF")] := by
  decide

end Resolver

end InterfaceSchema
