import Wikidown.Proofs.Layout.Tables
import Wikidown.Proofs.Placeholder.Bare

/-!
# Conversion of tables without headers

Tables that follow each other with a blank line between each two are converted one by one: each has a
header, an alignment row and its rows with their inline notation converted.
-/

namespace Wikidown

set_option autoImplicit false

open Layout Layout.Table

/-! ## Blank lines -/

section Squeeze

variable {Part : Type} {shown : Part → List Line} {above below : Nat}

/-- Parts with a blank line behind each. -/
def followed (shown : Part → List Line) (parts : List Part) : Text :=
  parts.flatMap fun part => unlines (shown part) ++ doubleFeed

/-- Lines with something on each of them are squeezed apart from what follows them. -/
theorem squeeze_filled {content : List Line} (nonempty : content ≠ [])
    (filled : ∀ line ∈ content, '\n' ∉ line ∧ line ≠ []) (rest : Text) :
    squeeze (unlines content ++ rest) = unlines content ++ squeeze rest := by
  have single : ¬ tripleFeed <:+: unlines content := by
    refine single_of_filled fun line member => ?_
    rw [lines_unlines nonempty fun line member => (filled line member).1] at member
    exact (filled line member).2
  exact squeeze_append single (Block.solid_of_filled nonempty filled).ends

/-- Of the blank lines below filled lines one is left. -/
theorem squeeze_ended (count : Nat) {content : List Line} (nonempty : content ≠ [])
    (filled : ∀ line ∈ content, '\n' ∉ line ∧ line ≠ []) :
    squeeze (unlines (content ++ List.replicate (count + 2) [])) = unlines content ++ doubleFeed := by
  have feeds : squeeze (List.replicate (count + 2) '\n') = doubleFeed := by
    have run := @squeeze_run (count + 2) [] (by simp)
    rwa [List.append_nil, Nat.min_eq_right (Nat.le_add_left 2 count)] at run
  have blanks := Block.unlines_blank_lines (count + 1) (List.cons_ne_nil ([] : Line) [])
  rw [← List.replicate_succ', unlines_singleton, List.append_nil] at blanks
  rw [unlines_append nonempty (by simp), blanks, ← List.replicate_succ, squeeze_filled nonempty filled, feeds]

theorem head_of_filled {content : List Line} (nonempty : content ≠ [])
    (filled : ∀ line ∈ content, '\n' ∉ line ∧ line ≠ []) (below : List Line) :
    (unlines (content ++ below)).head? ≠ some '\n' := by
  have solid := Block.solid_of_filled nonempty filled
  by_cases none : below = []
  · rw [none, List.append_nil]
    exact solid.begins
  · rw [unlines_append nonempty none, List.head?_append_of_ne_nil _ solid.nonempty]
    exact solid.begins

/-- Filled lines below others are left with the blank line below them. -/
theorem squeeze_below (count : Nat) {front content : List Line} (nonempty : content ≠ [])
    (filled : ∀ line ∈ content, '\n' ∉ line ∧ line ≠ []) (above : front ≠ []) :
    ∃ shown, squeeze (unlines (front ++ (content ++ List.replicate (count + 2) []))) =
      shown ++ '\n' :: (unlines content ++ doubleFeed) := by
  obtain ⟨shown, squeezed⟩ := squeeze_above (unlines front) (head_of_filled nonempty filled _)
  refine ⟨shown, ?_⟩
  rw [unlines_append above (by simp [nonempty]), squeezed, squeeze_ended count nonempty filled]

/-- Filled lines between blank lines are left with at most one above and one below them. -/
theorem squeeze_framed (above below : Nat) {content : List Line} (nonempty : content ≠ [])
    (filled : ∀ line ∈ content, '\n' ∉ line ∧ line ≠ []) :
    squeeze (unlines (List.replicate above [] ++ (content ++ List.replicate (below + 2) []))) =
      List.replicate (min above 2) '\n' ++ (unlines content ++ doubleFeed) := by
  rw [Block.unlines_blank_lines above (by simp [nonempty]),
    squeeze_run _ (head_of_filled nonempty filled _), squeeze_ended below nonempty filled]

/-- Of the blank lines between filled lines one is left. -/
theorem squeeze_apart (above between below : Nat) {top content : List Line} (someTop : top ≠ [])
    (nonempty : content ≠ []) (filledTop : ∀ line ∈ top, '\n' ∉ line ∧ line ≠ [])
    (filled : ∀ line ∈ content, '\n' ∉ line ∧ line ≠ []) :
    squeeze (unlines (List.replicate above [] ++
        (top ++ (List.replicate (between + 1) [] ++ (content ++ List.replicate (below + 2) []))))) =
      List.replicate (min above 2) '\n' ++ (unlines (top ++ [] :: content) ++ doubleFeed) := by
  have blank := Block.unlines_blank_lines (between + 1)
    (show content ++ List.replicate (below + 2) [] ≠ [] by simp [nonempty])
  have run := squeeze_run (between + 2) (head_of_filled nonempty filled (List.replicate (below + 2) []))
  have two : min (between + 2) 2 = 2 := Nat.min_eq_right (Nat.le_add_left 2 between)
  rw [two, squeeze_ended below nonempty filled] at run
  rw [Block.unlines_blank_lines above (by simp [someTop]), squeeze_run above (head_of_filled someTop filledTop _),
    unlines_append someTop (by simp), blank, squeeze_filled someTop filledTop,
    unlines_append someTop (List.cons_ne_nil _ _), unlines_cons nonempty, List.append_assoc (unlines top)]
  exact congrArg (fun text => List.replicate (min above 2) '\n' ++ (unlines top ++ text)) run

theorem squeeze_spread {parts : List Part} {count : Nat}
    (filled : ∀ part, shown part ≠ [] ∧ ∀ line ∈ shown part, '\n' ∉ line ∧ line ≠ [])
    (enough : 2 ≤ count + above) (last : parts = [] → 2 ≤ count) :
    squeeze (List.replicate count '\n' ++ unlines (spread shown above (below + 1) parts)) =
      doubleFeed ++ followed shown parts := by
  induction parts generalizing count with
  | nil =>
      have two : min count 2 = 2 := Nat.min_eq_right (last rfl)
      have run := @squeeze_run count [] (by simp)
      rw [two] at run
      exact run
  | cons part parts ih =>
      obtain ⟨nonempty, lines⟩ := filled part
      have solid := Block.solid_of_filled nonempty lines
      have split : unlines (spread shown above (below + 1) (part :: parts)) =
          List.replicate above '\n' ++ (unlines (shown part) ++
            (List.replicate (below + 2) '\n' ++ unlines (spread shown above (below + 1) parts))) := by
        rw [spread_cons, Block.unlines_blank_lines above (by simp [nonempty]),
          unlines_append nonempty (by simp), Block.unlines_blank_lines _ spread_ne_nil]
        rfl
      have begins : (unlines (shown part) ++ (List.replicate (below + 2) '\n' ++
          unlines (spread shown above (below + 1) parts))).head? ≠ some '\n' := by
        rw [List.head?_append_of_ne_nil _ solid.nonempty]
        exact solid.begins
      have two : min (count + above) 2 = 2 := Nat.min_eq_right enough
      rw [split, ← List.append_assoc, List.replicate_append_replicate, squeeze_run _ begins, two,
        squeeze_filled nonempty lines, ih (by omega) fun _ => by omega, followed, followed,
        List.flatMap_cons, List.append_assoc]
      rfl

theorem followed_eq {parts : List Part} (nonempty : parts ≠ []) : followed shown parts =
    doubleFeed.intercalate (parts.map fun part => unlines (shown part)) ++ doubleFeed := by
  induction parts with
  | nil => contradiction
  | cons part parts ih =>
      by_cases single : parts = []
      · subst single
        simp [followed]
      · rw [followed, List.flatMap_cons, ← followed, ih single, List.map_cons,
          List.intercalate_cons_of_ne_nil (by simpa using single)]
        simp only [List.append_assoc]

end Squeeze

/-! ## Bars at both ends -/

/-- A text that begins and ends with a bar. -/
structure BarEnds (text : Text) : Prop where
  begins : text.head? = some '|'
  ends : text.getLast? = some '|'

namespace BarEnds

/-- A text between bars stays at the end of what stands above it. -/
theorem trim_below {text back : Text} (bars : BarEnds text) (front : Text)
    (blank : ∀ c ∈ back, isBlank c = true) : trim (front ++ (text ++ back)) = trimStart front ++ text := by
  have visible : isBlank '|' = false := by decide
  obtain ⟨cells, first⟩ := List.head?_eq_some_iff.mp bars.begins
  obtain ⟨row, last⟩ := List.getLast?_eq_some_iff.mp bars.ends
  rw [trim, first, List.cons_append, trim_start_append_visible visible, ← List.cons_append, ← first,
    ← List.append_assoc, trim_end_append_of_blank _ blank, last, ← List.append_assoc,
    trim_end_concat_visible visible]

theorem of_run {rows : List Line} (run : Run rows) : BarEnds (unlines rows) where
  begins := by
    obtain ⟨first, more, rfl⟩ := List.exists_cons_of_ne_nil run.ne_nil
    obtain ⟨cells, rfl⟩ := List.head?_eq_some_iff.mp (run.barred first List.mem_cons_self)
    rw [unlines_cons_char]
    rfl
  ends := by
    obtain ⟨above, cells, rfl⟩ := run.ended
    rw [← List.cons_append, unlines_append_last, List.getLast?_concat]

theorem of_rows {rows : List Line} (nonempty : rows ≠ []) (closed : ∀ row ∈ rows, Closed row) :
    BarEnds (unlines rows) := .of_run (.of_closed nonempty closed)

protected theorem append {text later : Text} (bars : BarEnds text) (below : BarEnds later) (between : Text) :
    BarEnds (text ++ (between ++ later)) where
  begins := by rw [List.head?_append, bars.begins, Option.some_or]
  ends := by rw [List.getLast?_append, List.getLast?_append, below.ends, Option.some_or, Option.some_or]

theorem intercalate {texts : List Text} (nonempty : texts ≠ []) (bars : ∀ text ∈ texts, BarEnds text) :
    BarEnds (doubleFeed.intercalate texts) := by
  induction texts with
  | nil => contradiction
  | cons text texts ih =>
      rw [List.forall_mem_cons] at bars
      by_cases single : texts = []
      · subst single
        simpa using bars.1
      · rw [List.intercalate_cons_of_ne_nil single, List.append_assoc]
        exact bars.1.append (ih single bars.2) doubleFeed

end BarEnds

/-! ## Documents of rows -/

namespace OnlyRows

variable {source : Text}

theorem lines_normalize (rows : OnlyRows source) : lines (normalize source) = [] :: (lines source ++ [[], []]) := by
  rw [Wikidown.lines_normalize rows.uniform rows.undirected, List.cons_append]

/-- Masking hides nothing among rows. -/
theorem masked (rows : OnlyRows source) :
    Document.masked source = ⟨unlines ([] :: (lines source ++ [[], []])), .empty⟩ := by
  have content := rows.lines_normalize
  rw [← content, unlines_lines, Document.masked]
  refine Masked.of_text_structural fun line member => ?_
  rw [content, List.mem_cons, List.mem_append] at member
  rcases member with rfl | own | blank
  · exact BlankOrRow.structural (.inl rfl)
  · exact (rows.barred line own).structural
  · exact (blank_or_row_replicate 2 line blank).structural

/-- Where the result lacks the marks of placeholders, it is restored as it is. -/
theorem restored {promote : Bool} (rows : OnlyRows source) (lacks : Lacks true mark (Document.arranged promote source)) :
    Document.restored promote source = .ok (Document.arranged promote source) := by
  have store := congrArg Masked.store rows.masked
  rw [Document.restored, store, restore_all_empty lacks]

end OnlyRows

/-! ## Documents of tables -/

namespace HeaderlessTable

/-- The source of tables with a blank line between each two of them. -/
def document (tables : List HeaderlessTable) : Text :=
  doubleFeed.intercalate (tables.map fun table => unlines table.source)

/-- The tables in Markdown with a blank line between each two of them. -/
def page (promoteFirstRow : Bool) (tables : List HeaderlessTable) : Text :=
  doubleFeed.intercalate (tables.map fun table => unlines (table.rendered promoteFirstRow))

variable {promote : Bool} {tables : List HeaderlessTable}

theorem lines_source (table : HeaderlessTable) : lines (unlines table.source) = table.source :=
  lines_unlines (source_stage.nonempty table) fun row member => (source_stage.closed table row member).1

theorem lines_document (nonempty : tables ≠ []) :
    lines (document tables) ++ [[], []] = spread HeaderlessTable.source 0 1 tables :=
  lines_intercalate_unlines lines_source nonempty

theorem only_rows_document (nonempty : tables ≠ []) : OnlyRows (document tables) := by
  have member {line : Line} (inside : line ∈ lines (document tables)) :
      line = [] ∨ ∃ table : HeaderlessTable, line ∈ table.source := by
    have behind : line ∈ spread HeaderlessTable.source 0 1 tables := by
      rw [← lines_document nonempty]
      exact List.mem_append_left _ inside
    exact (mem_spread behind).imp_right fun ⟨table, _, here⟩ => ⟨table, here⟩
  constructor
  · refine not_mem_of_lines (by decide) fun line inside => ?_
    rcases member inside with rfl | ⟨table, own⟩
    · exact List.not_mem_nil
    · exact table.source_uniform line own
  · intro line inside
    exact (member inside).imp_right fun ⟨table, own⟩ => (source_stage.closed table line own).head

theorem masked_document (nonempty : tables ≠ []) : Document.masked (document tables) =
    ⟨unlines ([] :: spread HeaderlessTable.source 0 1 tables), .empty⟩ := by
  rw [(only_rows_document nonempty).masked, lines_document nonempty]

theorem arranged_document (nonempty : tables ≠ []) : Document.arranged promote (document tables) =
    doubleFeed ++ (page promote tables ++ doubleFeed) := by
  have filled (table : HeaderlessTable) : table.rendered promote ≠ [] ∧
      ∀ line ∈ table.rendered promote, '\n' ∉ line ∧ line ≠ [] :=
    ⟨(rendered_stage promote).nonempty table, (rendered_stage promote).filled table⟩
  have blank := Block.unlines_blank_lines 1
    (@spread_ne_nil _ (HeaderlessTable.rendered promote) 1 4 tables)
  rw [Document.arranged, masked_document nonempty, convert_spread, collapse_eq_squeeze, page,
    ← followed_eq nonempty]
  exact (congrArg squeeze blank).trans
    (squeeze_spread filled (by decide) fun none => absurd none nonempty)

theorem rendered_lacks (table : HeaderlessTable) :
    ∀ line ∈ table.rendered promote, Lacks true mark line := by
  have row (row : Row) : Lacks true mark row.rendered :=
    escape_lacks .opening (Inline.convert_lacks .opening row.source_lacks)
  have bars (count : Nat) : Lacks true mark (List.replicate count '|') :=
    .of_disjoint .opening fun c member => by
      rw [List.eq_of_mem_replicate member]
      decide
  have alignment := @alignment_row_lacks true mark .opening table.columns
  intro line member
  cases promote <;> simp only [rendered, if_true, Bool.false_eq_true, if_false, List.mem_cons,
    List.mem_map] at member
  · rcases member with rfl | rfl | ⟨one, _, rfl⟩
    · exact bars _
    · exact alignment
    · exact row one
  · rcases member with rfl | rfl | ⟨one, _, rfl⟩
    · exact row _
    · exact alignment
    · exact row one

theorem arranged_lacks (nonempty : tables ≠ []) :
    Lacks true mark (Document.arranged promote (document tables)) := by
  have quiet : Carries true mark bare
      ([] :: spread (HeaderlessTable.rendered promote) 1 4 tables) [] := by
    refine .of_quiet fun line member => ?_
    rcases List.mem_cons.mp member with rfl | behind
    · exact .nil .opening
    · rcases mem_spread behind with rfl | ⟨table, _, here⟩
      · exact .nil .opening
      · exact table.rendered_lacks line here
  rw [Document.arranged, masked_document nonempty, convert_spread]
  exact (collapse_carries .opening (quiet.lines_unlines .opening (by decide))).lacks_of_nil .opening

theorem restored_document (nonempty : tables ≠ []) : Document.restored promote (document tables) =
    .ok (doubleFeed ++ (page promote tables ++ doubleFeed)) := by
  rw [(only_rows_document nonempty).restored (arranged_lacks nonempty), arranged_document nonempty]

theorem page_bars (nonempty : tables ≠ []) : BarEnds (page promote tables) := by
  refine .intercalate (by simpa using nonempty) fun text member => ?_
  obtain ⟨table, _, rfl⟩ := List.mem_map.mp member
  exact .of_rows ((rendered_stage promote).nonempty table) ((rendered_stage promote).closed table)

theorem trim_page (nonempty : tables ≠ []) :
    trim (doubleFeed ++ (page promote tables ++ doubleFeed)) = page promote tables :=
  (page_bars nonempty).trim_below doubleFeed blank_double_feed

end HeaderlessTable

/-- Tables without headers are converted one by one, whatever their cells hold. -/
theorem convert_headerless_tables (options : Options) (tables : List HeaderlessTable)
    (nonempty : tables ≠ []) : convert options (HeaderlessTable.document tables) =
      .ok (withLineEndings options.crlf (HeaderlessTable.page options.promoteFirstRow tables)) := by
  have trimmed := @HeaderlessTable.trim_page options.promoteFirstRow tables nonempty
  rw [convert, HeaderlessTable.restored_document nonempty]
  exact congrArg (fun text => Except.ok (withLineEndings options.crlf text)) trimmed

/-- A table of one row, and one whose rows differ in length and have a span across two cells. -/
def unevenTables : List HeaderlessTable :=
  [ { first := { cells := [{ text := "\x27\x27a\x27\x27 & b".toList }, { text := "c&br;:".toList }] }
      rest := [] },
    { first := { cells := [{ text := "h".toList }] }
      rest := [{ cells := [{ text := "%%d".toList }, { text := "e%%".toList }, { text := "f".toList }] }] } ]

theorem convert_uneven_tables :
    HeaderlessTable.document unevenTables =
      "|\x27\x27a\x27\x27 & b|c&br;:|\n\n|h|\n|%%d|e%%|f|".toList ∧
    HeaderlessTable.page false unevenTables =
      "|||\n|:--|:--|\n| **a** &amp; b|c <br>:|\n\n||\n|:--|\n|h|\n| ~~d|e~~ |f|".toList ∧
    convert ⟨false, false⟩ (HeaderlessTable.document unevenTables) =
      .ok (HeaderlessTable.page false unevenTables) :=
  ⟨by decide, by decide +kernel, convert_headerless_tables ⟨false, false⟩ unevenTables (by simp [unevenTables])⟩

end Wikidown
