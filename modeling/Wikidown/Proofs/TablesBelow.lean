import Wikidown.Proofs.Layout.Headed
import Wikidown.Proofs.Layout.ListsAbove
import Wikidown.Proofs.Normalize
import Wikidown.Proofs.Tables

/-!
# Conversion of a table below other text

What stands above a table without a header, with a blank line between them, does not change what
becomes of the table, as long as the search for tables leaves no row open there.
-/

namespace Wikidown

set_option autoImplicit false

open Layout Layout.Table

/-- The lines of a document in which tables are searched for. -/
def Document.headed (source : Text) : List Line :=
  lines (((rules false).take 3).foldl (fun current rule => rule current) (masked source).text)

/-- The rows that the search for tables leaves over, as no closed row below them ends a table. -/
def Document.openRows (source : Text) : List Line :=
  (shape.segments (headed source)).filterMap fun
    | .line line => if startsWith "|".toList line then some line else none
    | .block _ => none

variable {promote : Bool} {above text : Text} {table : HeaderlessTable}

namespace HeaderlessTable

theorem only_rows (table : HeaderlessTable) : OnlyRows (unlines table.source) where
  uniform := not_mem_unlines (by decide) table.source_uniform
  barred line member := by
    rw [lines_source] at member
    exact .inr (source_stage.closed table line member).head

/-- A table in Markdown, with the line endings that the options ask for. -/
def shown (options : Options) (table : HeaderlessTable) : Text :=
  withLineEndings options.crlf (unlines (table.rendered options.promoteFirstRow))

theorem document_singleton (table : HeaderlessTable) : document [table] = unlines table.source :=
  List.append_nil _

theorem page_singleton (promote : Bool) (table : HeaderlessTable) :
    page promote [table] = unlines (table.rendered promote) := List.append_nil _

end HeaderlessTable

theorem OnlyRows.nil : OnlyRows [] where
  uniform := List.not_mem_nil
  barred _ member := .inl (List.mem_singleton.mp member)

/-! ## The layout -/

theorem ended_of_no_open_rows {content : List Line} (headed : Document.headed text = framed content [[]] 2)
    (none : Document.openRows text = []) : Ended content := by
  have whole := @framed_whole [] content _ headed
  refine @ended_of_segments content (List.replicate 3 []) (fun line => List.eq_of_mem_replicate)
    (fun line member => whole line (by simp [framed, member])) fun line member begins => ?_
  have opens : startsWith "|".toList line = true := by
    obtain ⟨cells, rfl⟩ := List.head?_eq_some_iff.mp begins
    rfl
  have left : line ∈ Document.openRows text := by
    refine List.mem_filterMap.mpr ⟨.line line, ?_, if_pos opens⟩
    rw [headed]
    exact List.mem_cons_of_mem _ member
  rw [none] at left
  exact List.not_mem_nil left

theorem arranged_below (promote : Bool) (table : HeaderlessTable)
    (uncoded : ¬ Masked.codeShape.opening <:+: above) (unquoted : ¬ Masked.quoteShape.opening <:+: above)
    (none : Document.openRows (above ++ doubleFeed) = []) :
    ∃ shown, Document.arranged promote (above ++ (doubleFeed ++ unlines table.source)) =
      shown ++ '\n' :: (unlines (table.rendered promote) ++ doubleFeed) := by
  obtain ⟨content, headed⟩ := headed_above promote uncoded unquoted
  have ended := ended_of_no_open_rows (headed [] .nil) none
  have rows := headed _ table.only_rows
  rw [table.lines_source] at rows
  obtain ⟨shown, count, nonempty, same⟩ := convert_below promote ended rows
  obtain ⟨front, squeezed⟩ := squeeze_below count ((HeaderlessTable.rendered_stage promote).nonempty table)
    ((HeaderlessTable.rendered_stage promote).filled table) nonempty
  refine ⟨front, ?_⟩
  rw [Document.arranged, collapse_eq_squeeze]
  exact (congrArg squeeze same).trans squeezed

/-! ## The result -/

theorem rendered_below (promote : Bool) (table : HeaderlessTable)
    (uncoded : ¬ Masked.codeShape.opening <:+: above) (unquoted : ¬ Masked.quoteShape.opening <:+: above)
    (none : Document.openRows (above ++ doubleFeed) = []) {result : Text}
    (restored : Document.restored promote (above ++ (doubleFeed ++ unlines table.source)) = .ok result) :
    ∃ front, trim result = front ++ unlines (table.rendered promote) := by
  have bars : BarEnds (unlines (table.rendered promote)) :=
    .of_rows ((HeaderlessTable.rendered_stage promote).nonempty table)
      ((HeaderlessTable.rendered_stage promote).closed table)
  have lacks : Lacks true mark ('\n' :: (unlines (table.rendered promote) ++ doubleFeed)) := by
    have alone := @HeaderlessTable.arranged_lacks promote [table] (by simp)
    rw [HeaderlessTable.arranged_document (by simp), HeaderlessTable.page_singleton] at alone
    exact alone.of_inside .opening (List.suffix_cons '\n' _).isInfix
  obtain ⟨shown, arranged⟩ := arranged_below promote table uncoded unquoted none
  rw [Document.restored, arranged] at restored
  obtain ⟨front, rfl⟩ := restore_all_above lacks restored
  have trimmed := bars.trim_below (front ++ ['\n']) blank_double_feed
  exact ⟨trimStart (front ++ ['\n']), by rwa [List.append_assoc] at trimmed⟩

/-- A table without a header is converted in the same way below a blank line as on its own, whatever
stands above it, if no row there is left open and nothing there is masked over several lines. -/
theorem convert_table_below (options : Options) (above : Text) (table : HeaderlessTable)
    (uncoded : ¬ Masked.codeShape.opening <:+: above) (unquoted : ¬ Masked.quoteShape.opening <:+: above)
    (closed : Document.openRows (above ++ doubleFeed) = []) :
    convert options (unlines table.source) = .ok (table.shown options) ∧
      (∀ result, convert options (above ++ (doubleFeed ++ unlines table.source)) = .ok result →
        table.shown options <:+ result) ∧
      (¬ mark <:+: visible options.promoteFirstRow (above ++ (doubleFeed ++ unlines table.source)) →
        (∀ kind, (Document.masked (above ++ (doubleFeed ++ unlines table.source))).store.count kind ≤
          10 ^ digitLimit) →
        ∃ result, convert options (above ++ (doubleFeed ++ unlines table.source)) = .ok result) := by
  refine ⟨?_, ?_, ?_⟩
  · have restored := @HeaderlessTable.restored_document options.promoteFirstRow [table] (by simp)
    have trimmed := @HeaderlessTable.trim_page options.promoteFirstRow [table] (by simp)
    rw [HeaderlessTable.document_singleton] at restored
    rw [convert, restored, HeaderlessTable.shown, ← HeaderlessTable.page_singleton]
    exact congrArg (fun text => Except.ok (withLineEndings options.crlf text)) trimmed
  · intro result converted
    rw [convert] at converted
    cases restored : Document.restored options.promoteFirstRow
        (above ++ (doubleFeed ++ unlines table.source)) with
    | error long =>
        rw [restored] at converted
        exact absurd converted (by simp [Except.map])
    | ok text =>
        rw [restored] at converted
        have written : withLineEndings options.crlf (trim text) = result := Except.ok.inj converted
        obtain ⟨front, trimmed⟩ := rendered_below _ table uncoded unquoted closed restored
        rw [← written, trimmed, with_line_endings_append, HeaderlessTable.shown]
        exact List.suffix_append _ _
  · intro unmarked few
    obtain ⟨page, quotes, anatomy, _⟩ := exists_anatomy .opening unmarked (.inl rfl)
    exact ⟨_, anatomy.converted few options.crlf⟩

/-- A heading, a table that is closed below a blank line, an ordered list and a paragraph. -/
def mixedBlocks : Text := "* Top\n|x|y|h\n\n|open\n\n|c|\n+ item\ntext".toList

def smallTable : HeaderlessTable := { first := { cells := [{ text := "b".toList }] }, rest := [] }

theorem convert_table_below_mixed_blocks : Document.openRows (mixedBlocks ++ doubleFeed) = [] ∧
    smallTable.shown {} = "||\n|:--|\n|b|".toList ∧
    convert {} (unlines smallTable.source) = .ok (smallTable.shown {}) ∧
    ∃ result, convert {} (mixedBlocks ++ (doubleFeed ++ unlines smallTable.source)) = .ok result ∧
      smallTable.shown {} <:+ result := by
  have closed : Document.openRows (mixedBlocks ++ doubleFeed) = [] := by decide +kernel
  have few : ∀ kind, (Document.masked (mixedBlocks ++
      (doubleFeed ++ unlines smallTable.source))).store.count kind ≤ 10 ^ digitLimit :=
    fun kind => few_le_digit_limit (by cases kind <;> decide +kernel)
  obtain ⟨alone, ends, returns⟩ :=
    convert_table_below {} mixedBlocks smallTable (by decide) (by decide) closed
  obtain ⟨result, converted⟩ := returns (by decide +kernel) few
  exact ⟨closed, by decide +kernel, alone, result, converted, ends result converted⟩

/-- Below an open row the theorem fails: the row and the table become one table, and the alignment row
stands above the row. -/
theorem table_joined_to_open_row :
    Document.openRows ("|a".toList ++ doubleFeed) = ["|a".toList] ∧
    (∀ word ∈ [mark, "\x7bcode".toList, "\x7bquote".toList], ¬ word <:+: "|a".toList) ∧
    (convert {} (unlines smallTable.source)).toOption = some "||\n|:--|\n|b|".toList ∧
    (convert {} ("|a".toList ++ (doubleFeed ++ unlines smallTable.source))).toOption =
      some "|\n|a\n\n|b|".toList ∧
    ¬ "||\n|:--|\n|b|".toList <:+ "|\n|a\n\n|b|".toList :=
  ⟨by decide +kernel, by decide, by decide +kernel, by decide +kernel, by decide⟩

end Wikidown
