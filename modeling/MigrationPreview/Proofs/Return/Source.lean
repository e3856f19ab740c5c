import MigrationPreview.Proofs.LineNumber
import MigrationPreview.Proofs.Return.Body
import MigrationPreview.Proofs.Return.Chain

/-!
# Migrations with carriage returns

Carriage returns in front of the line breaks of a migration change none of its operations. Its signatures
and braces are where they were and its lines are the same once they are trimmed. Only the chain of a
foreign key is read from several lines as they are written, and a name in it that is broken across lines
keeps the carriage return of its line.

## Main definitions

* `withCarriageReturns`: a source with a carriage return in front of every line break

## Main results

* `map_withoutReturns_operationsOfLines`: the walk over lines that end alike
* `Script.parse_withCarriageReturns`: the operations and the index by line are the same
-/

namespace MigrationPreview

open Text

variable {direction : Direction} {source source' : List Char} {lines lines' : List (List Char)}

/-- A line whose window ends alike asks for the same, up to carriage returns in what completes a foreign
key. -/
theorem Line.map_withoutReturns_drafts (text : List Char) (table : Option String)
    (h : List.Forall₂ EndsAlike lines lines') :
    (Line.drafts ⟨text, table, lines'⟩).map Draft.withoutReturns =
      (Line.drafts ⟨text, table, lines⟩).map Draft.withoutReturns := by
  cases table with
  | none => rfl
  | some table =>
    have hkey : (foreignKeyAdd? table text lines').toList.map Draft.withoutReturns =
        (foreignKeyAdd? table text lines).toList.map Draft.withoutReturns := by
      rw [← Option.toList_map, map_withoutReturns_foreignKeyAdd? table text h, Option.toList_map]
    simp only [Line.drafts, Line.draftsIn, List.map_append, hkey]

/-- The walk over lines that end alike gives the same operations, up to carriage returns in what completes a
foreign key. -/
theorem map_withoutReturns_operationsOfLines (h : List.Forall₂ EndsAlike lines lines')
    (table : Option String) (number : Nat) :
    (operationsOfLines direction table number lines').map Operation.withoutReturns =
      (operationsOfLines direction table number lines).map Operation.withoutReturns := by
  induction h generalizing table number with
  | nil => rfl
  | @cons raw raw' rest rest' hraw hrest ih =>
    have hopened : blockOpened? raw' = blockOpened? raw := by
      rw [blockOpened?, blockOpened?, hraw.trim_eq]
    have hoperations : ∀ drafts : List Draft,
        (drafts.map (·.toOperation direction number)).map Operation.withoutReturns =
          (drafts.map Draft.withoutReturns).map (·.toOperation direction number) := by
      intro drafts
      rw [List.map_map, List.map_map]
      rfl
    rw [operationsOfLines_cons, operationsOfLines_cons, hopened, hraw.trim_eq, List.map_append,
      List.map_append, ih, List.append_left_inj]
    split
    · rfl
    · rw [hoperations, hoperations, Line.map_withoutReturns_drafts _ _ (.cons hraw hrest)]

theorem map_withoutReturns_operationsIn (direction : Direction) (h : Returned '\n' source source') :
    (operationsIn direction source').map Operation.withoutReturns =
      (operationsIn direction source).map Operation.withoutReturns := by
  rw [operationsIn, operationsIn]
  rcases rel_cases (MethodBody.find?_returned direction h) with
    ⟨hbody, hbody'⟩ | ⟨body, body', hbody, hbody', htext, hline⟩
  · rw [hbody, hbody']
  · rw [hbody, hbody']
    dsimp only
    rw [MethodBody.operations, MethodBody.operations, hline,
      map_withoutReturns_operationsOfLines (forall₂_splitOn htext)]

namespace Script

/-- A source with a carriage return in front of every line break. -/
def withCarriageReturns (source : String) : String := String.ofList (withReturns source.toList)

/-- Carriage returns in front of the line breaks change neither the operations nor the index by line. A
name that completes a foreign key may be broken across lines and is compared without them. -/
theorem parse_withCarriageReturns (source : String) :
    (parse (withCarriageReturns source)).operations.map Operation.withoutReturns =
        (parse source).operations.map Operation.withoutReturns ∧
      (parse (withCarriageReturns source)).lineIndex = (parse source).lineIndex := by
  have hreturned : Returned '\n' source.toList (withCarriageReturns source).toList := by
    rw [withCarriageReturns, String.toList_ofList]
    exact returned_withReturns source.toList
  have hoperations : (parse (withCarriageReturns source)).operations.map Operation.withoutReturns =
      (parse source).operations.map Operation.withoutReturns := by
    rw [parse, parse, ofOperations, ofOperations, List.map_append, List.map_append,
      map_withoutReturns_operationsIn .up hreturned, map_withoutReturns_operationsIn .down hreturned]
  refine ⟨hoperations, ?_⟩
  have hindex : ∀ source, (parse source).lineIndex =
      indexByLine ((parse source).operations.map Operation.withoutReturns) :=
    fun source => (indexByLine_map (f := Operation.withoutReturns) (fun _ => rfl) (fun _ => rfl)
      (parse source).operations).symm
  rw [hindex, hindex, hoperations]

/-- A name that is broken across lines keeps the carriage return of its line. -/
example :
    let source := ['\n'].intercalate <| List.map String.toList
      ["public function up() \x7b Schema::table('posts', function ($t) \x7b",
        "$t->foreign('by')->references('id')->on('old", "users');", "\x7d); \x7d"]
    (operationsIn .up (withReturns source)).map (·.details.referencedTable) =
      [none, some "old\r users"] := by
  decide +kernel

end Script

end MigrationPreview
