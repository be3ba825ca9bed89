import Wikidown.Proofs.CodeIndependence
import Wikidown.Proofs.Placeholder.Restored

/-!
# Code as it is written

A document that is one code block comes out as that block: its body between two fences, without the
blanks at its ends and otherwise as it was written. What stands in the way is the order of the stages.
Documents are normalised before their code is masked, so a line of the body that asks for the table of
contents becomes the directive.
-/

namespace Wikidown

set_option autoImplicit false

/-- A document with a code block and nothing else. -/
def onlyCode (body : Text) : Text := Masked.codeShape.opening ++ body ++ Masked.codeShape.closing

/-- The lines of a body below its first one, normalised. The closing stands on the last of them, so
that one asks for nothing. -/
def directedBelow : List Line → List Line
  | [] => []
  | [last] => [last]
  | line :: next :: rest => contentsDirective line ++ directedBelow (next :: rest)

/-- A body as normalising leaves it; the opening stands on its first line. -/
def directed (body : Text) : Text :=
  match lines body with
  | [] => []
  | first :: rest => unlines (first :: directedBelow rest)

/-- The lines of a body that stand on neither of the delimiters' lines. -/
def linesWithin (body : Text) : List Line := (lines body).tail.dropLast

variable {body : Text} {first : Line} {rest : List Line}

theorem directed_below_concat (inner : List Line) (last : Line) :
    directedBelow (inner ++ [last]) = inner.flatMap contentsDirective ++ [last] := by
  induction inner with
  | nil => rfl
  | cons line inner ih =>
      obtain ⟨next, more, shape⟩ := List.exists_cons_of_ne_nil
        (show inner ++ [last] ≠ [] by simp)
      rw [List.cons_append, shape, directedBelow, ← shape, ih, List.flatMap_cons, List.append_assoc]

theorem mem_directed_below {shown : Line} (member : shown ∈ directedBelow rest) :
    shown ∈ rest ∨ shown = "[toc]".toList ∨ shown = [] := by
  rcases List.eq_nil_or_concat rest with rfl | ⟨inner, last, rfl⟩
  · exact absurd member List.not_mem_nil
  · rw [List.concat_eq_append, directed_below_concat, List.mem_append] at member
    rcases member with above | final
    · obtain ⟨line, inside, written⟩ := List.mem_flatMap.mp above
      unfold contentsDirective at written
      split at written
      · exact .inr (List.mem_pair.mp written)
      · rw [List.mem_singleton.mp written]
        exact .inl (by simp [inside])
    · exact .inl (by simp [List.mem_singleton.mp final])

theorem lines_directed (shape : lines body = first :: rest) :
    lines (directed body) = first :: directedBelow rest := by
  have whole : ∀ line ∈ first :: rest, '\n' ∉ line := fun line member =>
    no_newline_of_mem_lines (shape ▸ member)
  rw [directed, shape]
  refine lines_unlines (by simp) fun line member => ?_
  rcases List.mem_cons.mp member with rfl | below
  · exact whole line (by simp)
  · rcases mem_directed_below below with inside | rfl | rfl
    · exact whole line (by simp [inside])
    · decide
    · decide

/-- The lines of a document around a body, from the lines of the body. -/
theorem lines_only_code {inner : List Line} {last : Line} (shape : lines body = inner ++ [last]) :
    ∃ first more, inner ++ [last ++ Masked.codeShape.closing] = first :: more ∧
      lines (onlyCode body) = (Masked.codeShape.opening ++ first) :: more := by
  obtain ⟨above, final, split, closed⟩ := @Masked.lines_append_closing Masked.codeShape.closing body
    (by decide)
  obtain ⟨rfl, rfl⟩ := List.append_singleton_inj.mp (shape.symm.trans split)
  obtain ⟨first, more, begins⟩ := List.exists_cons_of_ne_nil
    (show inner ++ [last ++ Masked.codeShape.closing] ≠ [] by simp)
  refine ⟨first, more, begins, ?_⟩
  rw [onlyCode, List.append_assoc]
  exact lines_append (by decide) (closed.trans begins)

/-- Normalising a document around a body is normalising the body. -/
theorem only_code_directed (body : Text) :
    (lines (onlyCode body)).flatMap contentsDirective = lines (onlyCode (directed body)) := by
  obtain ⟨inner, last, shape⟩ := exists_last_line body
  have opening (tail : Line) : contentsDirective (Masked.codeShape.opening ++ tail) =
      [Masked.codeShape.opening ++ tail] :=
    if_neg fun same => absurd (List.cons.inj same).1 (by decide)
  have closing : contentsDirective (last ++ Masked.codeShape.closing) =
      [last ++ Masked.codeShape.closing] := by
    refine if_neg fun same => ?_
    have ends := congrArg List.getLast? same
    rw [List.getLast?_append_of_ne_nil last (by decide)] at ends
    exact absurd ends (by decide)
  obtain ⟨first, more, begins, whole⟩ := lines_only_code shape
  rw [whole, List.flatMap_cons, opening]
  cases inner with
  | nil =>
      have same : lines (directed body) = [] ++ [last] := lines_directed shape
      obtain ⟨start, behind, starts, shown⟩ := lines_only_code same
      obtain ⟨rfl, rfl⟩ := List.cons.inj (begins.symm.trans starts)
      obtain rfl : more = [] := (List.cons.inj begins).2.symm
      rw [shown]
      rfl
  | cons line inner =>
      have below : lines (directed body) = (line :: inner.flatMap contentsDirective) ++ [last] := by
        rw [List.cons_append] at shape ⊢
        rw [lines_directed shape, directed_below_concat]
      obtain ⟨start, behind, starts, shown⟩ := lines_only_code below
      rw [List.cons_append] at begins starts
      obtain ⟨rfl, rfl⟩ := List.cons.inj begins
      obtain ⟨rfl, rfl⟩ := List.cons.inj starts
      rw [shown, List.flatMap_append, List.flatMap_singleton, closing, List.singleton_append]

/-- Directives bring no word into a body that they do not hold. -/
theorem infix_of_directed {word : Text} (feed : '\n' ∉ word) (nonempty : word ≠ [])
    (foreign : ¬ word <:+: "[toc]".toList) (inside : word <:+: directed body) : word <:+: body := by
  obtain ⟨first, rest, shape⟩ := List.exists_cons_of_ne_nil (lines_ne_nil body)
  obtain ⟨line, member, here⟩ := infix_of_unlines nonempty feed
    ((unlines_lines (directed body)).symm ▸ inside)
  rw [lines_directed shape, List.mem_cons] at member
  have known : line ∈ lines body ∨ line = "[toc]".toList ∨ line = [] := by
    rw [shape, List.mem_cons, or_assoc]
    exact member.imp_right mem_directed_below
  rcases known with own | rfl | rfl
  · exact here.trans (infix_of_mem_lines own)
  · exact absurd here foreign
  · exact absurd (List.infix_nil.mp here) nonempty

/-- The document with its body masked. -/
theorem masked_only_code (uniform : '\r' ∉ body) (unclosed : ¬ Masked.codeShape.closing <:+: body) :
    Document.masked (onlyCode body) =
      { text := '\n' :: token .code 0 ++ "\n\n".toList, store := { code := [directed body] } } := by
  have content : lines (normalize (onlyCode body)) =
      [] :: (lines (onlyCode (directed body)) ++ [[], []]) := by
    have returns : '\r' ∉ onlyCode body := by
      rw [onlyCode, List.mem_append, List.mem_append, not_or, not_or]
      exact ⟨⟨by decide, uniform⟩, by decide⟩
    have unified : (Substitution.literal "\r\n".toList "\n".toList).apply (onlyCode body) =
        onlyCode body :=
      Substitution.literal_apply_of_absent (by decide) fun inside => returns (inside.subset (by decide))
    have around : '\n' :: onlyCode body ++ "\n\n".toList =
        [] ++ '\n' :: (onlyCode body ++ '\n' :: ['\n']) := by
      simp
    rw [normalize, unified, lines_contents, around, lines_append_newline, lines_append_newline,
      List.flatMap_append, List.flatMap_append, only_code_directed]
    rfl
  have block : Masked.codeShape.segmentsFrom (lines (onlyCode (directed body)) ++ [[], []]) =
      .block (lines (directed body)) :: Masked.codeShape.segmentsFrom [[], []] :=
    Masked.segments_from_delimited (by decide) (by decide)
      (fun inside => unclosed (infix_of_directed (by decide) (by decide) (by decide) inside)) (by simp)
  have below : Masked.codeShape.segmentsFrom [[], []] = [.line [], .line []] :=
    BlockShape.segments_from_unopened (by decide)
  have code : Masked.hideBlocks .code 0 (Masked.codeShape.segments (lines (normalize (onlyCode body)))) =
      ([[], token .code 0, [], []], [directed body]) := by
    rw [content, BlockShape.segments, block, below]
    simp only [Masked.hideBlocks, unlines_lines]
  have quotes : Masked.hideBlocks .quote 0 (Masked.quoteShape.segments [[], token .code 0, [], []]) =
      ([[], token .code 0, [], []], []) := by
    decide +kernel
  simp only [Document.masked, Masked.ofText, code, quotes]
  rfl

/-- The page of the document, with the placeholder of its code. -/
def onlyCodePage : Woven := ⟨['\n'], [⟨.code, 0, "\n\n".toList⟩]⟩

theorem arranged_only_code (promote : Bool) (uniform : '\r' ∉ body)
    (unclosed : ¬ Masked.codeShape.closing <:+: body) :
    Document.arranged promote (onlyCode body) = onlyCodePage.text token := by
  rw [Document.arranged, masked_only_code uniform unclosed]
  change collapseBlankLines (Layout.convert promote ('\n' :: token .code 0 ++ "\n\n".toList)) = _
  cases promote <;> decide +kernel

theorem only_code_anatomy (promote : Bool) (uniform : '\r' ∉ body)
    (unclosed : ¬ Masked.codeShape.closing <:+: body) (unmarked : ¬ mark <:+: body) :
    Anatomy promote mark (onlyCode body) onlyCodePage [] := by
  have masked := masked_only_code uniform unclosed
  have feeds : Lacks true mark "\n\n".toList := .of_separates .opening (by decide)
  constructor
  case arranged => exact (arranged_only_code promote uniform unclosed).symm
  case strung =>
    exact .part .code 0 (.of_separates .opening (by decide)) ⟨[], by simp [itemized], .inr ⟨[], rfl⟩⟩
      (.inr ⟨['\n'], rfl⟩) (.last feeds)
  case quoted =>
    rw [masked]
    exact .nil
  case within => exact fun quote member => absurd member List.not_mem_nil
  case known =>
    intro key member
    obtain rfl : key = (.code, 0) := by simpa [onlyCodePage, Woven.keys] using member
    rw [masked]
    exact Nat.zero_lt_one
  case lacks =>
    intro part member
    rw [masked] at member
    obtain rfl : part = directed body := by simpa using member
    exact fun inside => unmarked (infix_of_directed (by decide) (by decide) (by decide) inside)

theorem trim_fenced (content : Text) : trim (fenced content) = fenced content := by
  obtain ⟨inner, shape⟩ := fenced_ends content
  rw [shape, List.cons_append, trim, trim_start_cons_visible (by decide), ← List.cons_append,
    trim_end_concat_visible (by decide)]

/-! ## The sharp signs of a body -/

theorem count_trim {c : Char} (shown : isBlank c = false) (text : Text) :
    (trim text).count c = text.count c := by
  obtain ⟨front, split, blank⟩ := trim_start_split text
  obtain ⟨back, splitToo, blankToo⟩ := trim_end_split (trimStart text)
  have none {blanks : Text} (blank : ∀ d ∈ blanks, isBlank d = true) : blanks.count c = 0 :=
    List.count_eq_zero.mpr fun member => by simp [blank c member] at shown
  have outer := congrArg (List.count c) split
  have inner := congrArg (List.count c) splitToo
  rw [List.count_append, none blank] at outer
  rw [List.count_append, none blankToo] at inner
  rw [outer, inner, trim, Nat.zero_add, Nat.add_zero]

theorem count_fenced (content : Text) : (fenced content).count '#' = content.count '#' := by
  have trimmed := count_trim (show isBlank '#' = false by decide) content
  by_cases blank : trim content = []
  · rw [fenced_of_blank blank, ← trimmed, blank]
    rfl
  · rw [fenced_of_visible blank, ← trimmed]
    simp [fence]

theorem count_unlines (content : List Line) : (unlines content).count '#' = content.flatten.count '#' := by
  induction content with
  | nil => rfl
  | cons line content ih =>
      by_cases single : content = []
      · rw [single, unlines_singleton, List.flatten_singleton]
      · rw [unlines_cons single, List.count_append, List.count_cons, ih, List.flatten_cons, List.count_append]
        rfl

/-- With each directive a sharp sign goes. -/
theorem count_directed_below (rest : List Line) :
    (directedBelow rest).flatten.count '#' + rest.dropLast.count "#contents".toList =
      rest.flatten.count '#' := by
  induction rest using directedBelow.induct with
  | case1 => rfl
  | case2 last => rfl
  | case3 line next rest ih =>
      have here : (contentsDirective line).flatten.count '#' +
          (if line = "#contents".toList then 1 else 0) = line.count '#' := by
        unfold contentsDirective
        split
        · next same => rw [same]; rfl
        · simp
      rw [directedBelow, List.flatten_append, List.count_append, List.dropLast_cons_cons, List.count_cons,
        List.flatten_cons, List.count_append, ← ih, ← here]
      simp only [beq_iff_eq]
      omega

theorem count_directed (body : Text) :
    (directed body).count '#' + (linesWithin body).count "#contents".toList = body.count '#' := by
  obtain ⟨first, rest, shape⟩ := List.exists_cons_of_ne_nil (lines_ne_nil body)
  have counted := count_directed_below rest
  have whole := count_unlines (lines body)
  rw [unlines_lines, shape, List.flatten_cons, List.count_append] at whole
  rw [directed, shape]
  dsimp only
  rw [count_unlines, List.flatten_cons, List.count_append, linesWithin, shape, List.tail_cons]
  omega

theorem directed_of_undirected (undirected : "#contents".toList ∉ linesWithin body) :
    directed body = body := by
  obtain ⟨first, rest, shape⟩ := List.exists_cons_of_ne_nil (lines_ne_nil body)
  rw [linesWithin, shape, List.tail_cons] at undirected
  have same : directedBelow rest = rest := by
    rcases List.eq_nil_or_concat rest with rfl | ⟨inner, last, rfl⟩
    · rfl
    · rw [List.concat_eq_append] at undirected ⊢
      rw [List.dropLast_concat] at undirected
      rw [directed_below_concat, contents_of_undirected undirected]
  have kept := lines_directed shape
  rw [same, ← shape] at kept
  rw [← unlines_lines (directed body), kept, unlines_lines]

/-- A document that is one code block is converted to the block: its body trimmed, between two fences.
The body is as it was written, unless one of its lines, on which neither delimiter stands, asks for the
table of contents. -/
theorem convert_only_code (options : Options) (body : Text) (uniform : '\r' ∉ body)
    (unclosed : ¬ Masked.codeShape.closing <:+: body) (unmarked : ¬ mark <:+: body) :
    convert options (onlyCode body) =
        .ok (withLineEndings options.crlf (fenced (directed body))) ∧
      (fenced (directed body) = fenced body ↔ "#contents".toList ∉ linesWithin body) := by
  have anatomy := only_code_anatomy options.promoteFirstRow uniform unclosed unmarked
  have small : ∀ kind, (Document.masked (onlyCode body)).store.count kind ≤ 10 ^ digitLimit := by
    intro kind
    have few : (Document.masked (onlyCode body)).store.count kind ≤ 1 := by
      rw [masked_only_code uniform unclosed]
      cases kind <;> exact Nat.le_of_ble_eq_true rfl
    exact few.trans (Nat.one_le_pow _ _ (by decide))
  have shown : codeShown (Document.masked (onlyCode body)).store 0 = fenced (directed body) := by
    rw [masked_only_code uniform unclosed]
    rfl
  constructor
  · have converted := anatomy.converted small options.crlf
    have page : (spacedPage onlyCodePage).text
        (partShown (Document.masked (onlyCode body)).store []) =
          "\n\n".toList ++ (fenced (directed body) ++ "\n\n".toList) := by
      rw [← shown]
      rfl
    have blank : ∀ c ∈ "\n\n".toList, isBlank c = true := List.all_iff_forall_prop.mp (by decide)
    rw [page, trim_between_blanks blank _ blank, trim_fenced] at converted
    exact converted
  · constructor
    · intro same asked
      have counted := count_directed body
      have equal := congrArg (List.count '#') same
      rw [count_fenced, count_fenced] at equal
      have some := List.count_pos_iff.mpr asked
      omega
    · intro undirected
      rw [directed_of_undirected undirected]

/-- A body with notation of every kind, blank lines and a directive on the line of its opening. -/
theorem convert_only_code_of_notation :
    convert ⟨true, true⟩ (onlyCode "#contents\n* a\n\n\n|b|\n\x7bquote\x7d\n&c; <d>\n".toList) =
        .ok (withLineEndings true
          (fenced "#contents\n* a\n\n\n|b|\n\x7bquote\x7d\n&c; <d>\n".toList)) := by
  have verbatim := convert_only_code ⟨true, true⟩
    "#contents\n* a\n\n\n|b|\n\x7bquote\x7d\n&c; <d>\n".toList (by decide) (by decide) (by decide)
  rw [verbatim.1, verbatim.2.mpr (by decide)]

/-- A body with a line that asks for the table of contents. -/
def contentsInCode : Text := "\n#contents\n".toList

/-- Such a line is not shown as it is written. -/
theorem contents_line_replaced_in_code :
    '\r' ∉ contentsInCode ∧ ¬ Masked.codeShape.closing <:+: contentsInCode ∧ ¬ mark <:+: contentsInCode ∧
      (convert {} (onlyCode contentsInCode)).toOption = some "\x60\x60\x60\n[toc]\n\x60\x60\x60".toList ∧
      fenced contentsInCode = "\x60\x60\x60\n#contents\n\x60\x60\x60".toList :=
  ⟨by decide, by decide, by decide, by decide +kernel, by decide +kernel⟩

end Wikidown
