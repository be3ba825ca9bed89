import Wikidown.Batch
import Wikidown.Proofs.BlankLines
import Wikidown.Proofs.Normalize
import Wikidown.Proofs.Page.Fences

/-!
# Code of a document in its page

A conversion writes code between fences, on the page or inside a quote; when links are updated, code
is found again by the fences alone. The two agree about a code block as long as the fences above it,
and those that its own content shows, come in pairs.
-/

namespace Wikidown

set_option autoImplicit false

/-! ## Lines of a page -/

/-- Lines, each with its end. -/
def closedLines (content : List Line) : Text := content.flatMap (· ++ ['\n'])

/-- The lines of a text that ends with one. -/
def linesAbove (text : Text) : List Line := (lines text).dropLast

/-- Lines as they are written to a page. -/
def pageText (crlf : Bool) (content : List Line) : Text := withLineEndings crlf (closedLines content)

theorem closed_lines_append (front back : List Line) :
    closedLines (front ++ back) = closedLines front ++ closedLines back := List.flatMap_append

theorem page_text_append (crlf : Bool) (front back : List Line) :
    pageText crlf (front ++ back) = pageText crlf front ++ pageText crlf back := by
  rw [pageText, closed_lines_append, with_line_endings_append]
  rfl

theorem closed_lines_of_unlines {content : List Line} (nonempty : content ≠ []) :
    closedLines content = unlines content ++ ['\n'] := by
  induction content with
  | nil => contradiction
  | cons line content ih =>
      by_cases single : content = []
      · subst single
        simp [closedLines, unlines_singleton]
      · rw [closedLines, List.flatMap_cons, ← closedLines, ih single, unlines_cons single]
        simp

theorem closed_lines (text : Text) : closedLines (lines text) = text ++ ['\n'] := by
  rw [closed_lines_of_unlines (lines_ne_nil text), unlines_lines]

theorem lines_append_whole {front : Text} (whole : Page.Whole front) (back : Text) :
    lines (front ++ back) = linesAbove front ++ lines back := by
  rcases whole with rfl | ends
  · rfl
  · obtain ⟨front, rfl⟩ := List.getLast?_eq_some_iff.mp ends
    rw [List.append_assoc, List.singleton_append, lines_append_newline, linesAbove, lines_append_newline,
      lines_nil, List.dropLast_concat]

/-- A block with whole lines around it. -/
theorem closed_around {above below : Text} (whole : Page.Whole above) (block : Text)
    (begins : below = [] ∨ ∃ rest, below = '\n' :: rest) :
    ∃ more, above ++ block ++ below ++ ['\n'] = closedLines (linesAbove above ++ lines block ++ more) := by
  have cut : ∃ more, lines (block ++ below) = lines block ++ more := by
    rcases begins with rfl | ⟨rest, rfl⟩
    · exact ⟨[], by simp⟩
    · exact ⟨lines rest, lines_append_newline block rest⟩
  obtain ⟨more, shape⟩ := cut
  refine ⟨more, ?_⟩
  rw [List.append_assoc above, ← closed_lines, lines_append_whole whole, shape, List.append_assoc]

theorem page_text_whole (crlf : Bool) (content : List Line) : Page.Whole (pageText crlf content) := by
  rcases List.eq_nil_or_concat content with rfl | ⟨front, last, rfl⟩
  · cases crlf
    · exact .inl rfl
    · exact .inl (Substitution.apply_nil _)
  · have feed : (withLineEndings crlf ['\n']).getLast? = some '\n' := by
      cases crlf <;> decide +kernel
    right
    rw [List.concat_eq_append, pageText, closed_lines_append, closedLines, closedLines,
      List.flatMap_singleton, ← List.append_assoc, with_line_endings_append, List.getLast?_append, feed]
    rfl

theorem closed_page (options : Options) (text : Text) :
    withLineEndings options.crlf text ++ Batch.lastLineEnd options =
      withLineEndings options.crlf (text ++ ['\n']) := by
  rw [with_line_endings_append]
  have last : ∀ crlf, (if crlf = true then "\r\n".toList else "\n".toList) = withLineEndings crlf ['\n'] := by
    decide +kernel
  exact congrArg (withLineEndings options.crlf text ++ ·) (last options.crlf)

/-! ## The places of code -/

/-- The lines between the fences of a code block. -/
def codeContent (code : Text) : List Line :=
  match trim code with
  | [] => []
  | body => lines body

/-- The lines of a code block behind a margin. -/
def blockLines (margin : Text) (content : List Line) : List Line :=
  (fence :: (content ++ [fence])).map (margin ++ ·)

/-- The places of code in the lines of a page: the lines above the block, what stands before each of its
lines, and the content. In a quote the mark of the quote stands there. -/
inductive Document.CodeAt (store : Store) (page : Woven) (quotes : List Woven) :
    (above : List Line) → (margin : Text) → (content : List Line) → Prop
  | onPage {front back : List Inset} {inset : Inset} (kind : inset.kind = .code)
      (place : (spacedPage page).insets = front ++ inset :: back) :
      CodeAt store page quotes
        (linesAbove (trimStart (Woven.text ⟨(spacedPage page).head, front⟩ (partShown store quotes))))
        [] (codeContent (store.code.getD inset.index []))
  | inQuote {front back inner outer : List Inset} {inset code : Inset} (kind : inset.kind = .quote)
      (place : (spacedPage page).insets = front ++ inset :: back)
      (inside : ((quotes.getD inset.index ⟨[], []⟩).spaced .code).insets = inner ++ code :: outer) :
      CodeAt store page quotes
        (linesAbove (trimStart (Woven.text ⟨(spacedPage page).head, front⟩ (partShown store quotes))) ++
          (linesAbove (Woven.text ⟨((quotes.getD inset.index ⟨[], []⟩).spaced .code).head, inner⟩
            fun _ => codeShown store)).map ("> ".toList ++ ·))
        "> ".toList (codeContent (store.code.getD code.index []))

theorem lines_fence : lines fence = [fence] := lines_of_no_newline (by decide)

theorem lines_fenced (code : Text) : lines (fenced code) = blockLines [] (codeContent code) := by
  unfold codeContent
  by_cases blank : trim code = []
  · rw [fenced_of_blank blank, blank, lines_append_newline, lines_fence]
    rfl
  · rw [fenced_of_visible blank, lines_append_newline, lines_append_newline, lines_fence]
    split
    · contradiction
    · simp [blockLines]

theorem margined_block (margin : Text) (content : List Line) :
    (blockLines [] content).map (margin ++ ·) = blockLines margin content := by
  simp [blockLines]

section Places

variable {promote : Bool} {word source : Text} {page : Woven} {quotes : List Woven}

/-- What stands above and below code in a quote. -/
theorem Woven.around_code {stretch : Text} {insets inner outer : List Inset} {code : Inset}
    {kind : Kind} (apart : kind ≠ .paragraph) (only : ∀ inset ∈ insets, inset.kind = kind)
    (shown : Kind → Nat → Text) (place : (spacedFrom kind stretch insets).insets = inner ++ code :: outer) :
    (text ⟨(spacedFrom kind stretch insets).head, inner⟩ shown).getLast? = some '\n' ∧
      ∃ more, code.after = '\n' :: more := by
  have ends (stretch : Text) : (ended kind stretch).getLast? = some '\n' := by
    by_cases feeds : doubleFeed <:+ stretch
    · obtain ⟨front, rfl⟩ := feeds
      rw [ended_of_feeds kind ⟨front, rfl⟩, List.getLast?_append]
      rfl
    · rw [ended_of_other apart feeds, List.getLast?_concat]
  have begins (stretch : Text) : ∃ more, begun kind stretch = '\n' :: more := by
    by_cases feeds : doubleFeed <+: stretch
    · obtain ⟨back, rfl⟩ := feeds
      exact ⟨'\n' :: back, begun_of_feeds kind ⟨back, rfl⟩⟩
    · exact ⟨stretch, begun_of_other apart feeds⟩
  induction insets generalizing stretch inner with
  | nil => simp [spacedFrom] at place
  | cons inset rest ih =>
      rw [List.forall_mem_cons] at only
      rw [spacedFrom] at place ⊢
      simp only [only.1, if_true] at place ⊢
      cases inner with
      | nil =>
          obtain ⟨rfl, _⟩ := List.cons.inj place
          refine ⟨?_, spaced_from_starts kind (begins inset.after)⟩
          rw [text, insetsText, List.append_nil]
          exact ends stretch
      | cons first inner =>
          obtain ⟨rfl, later⟩ := List.cons.inj place
          obtain ⟨last, below⟩ := ih only.2 later
          refine ⟨?_, below⟩
          rw [text] at last
          rw [text, insetsText, ← List.append_assoc, List.getLast?_append]
          dsimp only at last ⊢
          rw [last]
          rfl

theorem StandsApart.whole {whole above block below : Text} (apart : StandsApart whole above block below) :
    Page.Whole above := by
  rcases apart.above with rfl | ⟨front, rfl, _⟩ | ⟨front, _, rfl⟩
  · exact .inl rfl
  · exact .inr (by simp [doubleFeed])
  · exact .inr (by simp)

theorem StandsApart.begins {whole above block below : Text}
    (apart : StandsApart whole above block below) : below = [] ∨ ∃ rest, below = '\n' :: rest :=
  apart.below.imp_right fun ⟨rest, shape, _⟩ => ⟨'\n' :: rest, shape⟩

theorem trim_end_fenced (code : Text) : trimEnd (fenced code) = fenced code := by
  obtain ⟨inner, shape⟩ := fenced_ends code
  rw [shape, trim_end_concat_visible (by decide)]

/-- The lines of a quote, with or without the blanks at its end. -/
theorem lines_quote_around {above rest block : Text} (whole : Page.Whole above) (code : Text)
    (written : block = cited (above ++ fenced code ++ '\n' :: rest) ∨
      block = trimEnd (cited (above ++ fenced code ++ '\n' :: rest))) :
    ∃ more, lines block = (linesAbove above).map ("> ".toList ++ ·) ++
      blockLines "> ".toList (codeContent code) ++ more := by
  have cut : lines (above ++ fenced code ++ '\n' :: rest) =
      (linesAbove above ++ blockLines [] (codeContent code)) ++ lines rest := by
    rw [lines_append_newline, lines_append_whole whole, lines_fenced]
  have whole : ∀ line ∈ (linesAbove above ++ blockLines [] (codeContent code)).map ("> ".toList ++ ·),
      '\n' ∉ line := by
    intro line member
    obtain ⟨inner, inside, rfl⟩ := List.mem_map.mp member
    have known : inner ∈ lines (above ++ fenced code ++ '\n' :: rest) := cut ▸ List.mem_append_left _ inside
    simpa using no_newline_of_mem_lines known
  have nonempty : (linesAbove above ++ blockLines [] (codeContent code)).map ("> ".toList ++ ·) ≠ [] := by
    simp [blockLines]
  have nonemptyBelow : (lines rest).map ("> ".toList ++ ·) ≠ [] := by simp [lines_ne_nil]
  have quoted : cited (above ++ fenced code ++ '\n' :: rest) =
      unlines ((linesAbove above ++ blockLines [] (codeContent code)).map ("> ".toList ++ ·)) ++
        '\n' :: unlines ((lines rest).map ("> ".toList ++ ·)) := by
    rw [cited, cut, List.map_append, unlines_append nonempty nonemptyBelow]
  have shape : ∃ tail, block =
      unlines ((linesAbove above ++ blockLines [] (codeContent code)).map ("> ".toList ++ ·)) ++ '\n' :: tail := by
    rcases written with rfl | rfl
    · exact ⟨_, quoted⟩
    · obtain ⟨tail, begins⟩ := cited_begins rest
      refine ⟨trimEnd (cited rest), ?_⟩
      rw [quoted, ← cited, ← List.singleton_append, ← List.append_assoc, trim_end_append]
      · simp
      · exact ⟨'>', by simp [begins], by decide⟩
  obtain ⟨tail, rfl⟩ := shape
  refine ⟨lines tail, ?_⟩
  rw [lines_append_newline, lines_unlines nonempty whole, List.map_append, margined_block]

/-- A code block of a document stands at its place among the lines of the result. -/
theorem Anatomy.code_lines (anatomy : Anatomy promote word source page quotes) {above content : List Line}
    {margin : Text} (place : Document.CodeAt (Document.masked source).store page quotes above margin content) :
    ∃ below, trim ((spacedPage page).text (partShown (Document.masked source).store quotes)) ++ ['\n'] =
      closedLines (above ++ blockLines margin content ++ below) := by
  cases place with
  | @onPage front back inset kind place =>
      obtain ⟨above, block, below, apart, rfl, _, written⟩ :=
        anatomy.sets_apart rfl place (by simp [kind])
      have same : block = fenced ((Document.masked source).store.code.getD inset.index []) := by
        rcases written with shown | ⟨_, shown⟩
        · rw [shown, kind]
          rfl
        · rw [shown, kind]
          exact trim_end_fenced _
      obtain ⟨more, closed⟩ := closed_around apart.whole block apart.begins
      rw [same, lines_fenced, ← same, ← apart.place] at closed
      exact ⟨more, closed⟩
  | @inQuote front back inner outer inset code kind place inside =>
      obtain ⟨above, block, below, apart, rfl, _, written⟩ :=
        anatomy.sets_apart rfl place (by simp [kind])
      obtain ⟨more, closed⟩ := closed_around apart.whole block apart.begins
      have known : (inset.kind, inset.index) ∈ page.keys := by
        rw [← keys_spaced_page]
        exact Woven.mem_keys (place ▸ by simp)
      rw [kind] at known
      obtain ⟨_, quote, _, found, member, _⟩ := anatomy.quote_known (anatomy.key_known known)
      have stored : quotes.getD inset.index ⟨[], []⟩ = quote := by
        rw [List.getD_eq_getElem?_getD, found]
        rfl
      rw [stored] at inside ⊢
      have only : ∀ inset ∈ quote.insets, inset.kind = .code := fun inset member' =>
        anatomy.within quote member _ (Woven.mem_keys member')
      obtain ⟨last, rest, starts⟩ := Woven.around_code (by decide) only
        (fun _ => codeShown (Document.masked source).store) inside
      have body : quoteBody (Document.masked source).store quote =
          Woven.text ⟨(quote.spaced .code).head, inner⟩ (fun _ => codeShown (Document.masked source).store) ++
            fenced ((Document.masked source).store.code.getD code.index []) ++
              '\n' :: (rest ++ Woven.insetsText (fun _ => codeShown (Document.masked source).store) outer) := by
        rw [quoteBody, Woven.text, inside, Woven.insets_text_append, Woven.insetsText, starts]
        simp [Woven.text, codeShown]
      rw [kind, partShown, stored, body] at written
      obtain ⟨moreInside, shape⟩ := lines_quote_around (.inr last) _ (written.imp_right And.right)
      rw [shape, ← apart.place] at closed
      refine ⟨moreInside ++ more, ?_⟩
      simp only [List.append_assoc] at closed ⊢
      exact closed

theorem Document.CodeAt.margin_eq {store : Store} {above content : List Line} {margin : Text}
    (place : Document.CodeAt store page quotes above margin content) : margin = [] ∨ margin = "> ".toList := by
  cases place
  · exact .inl rfl
  · exact .inr rfl

end Places

/-! ## Code and the updating of links -/

/-- A code block in a page: where it stands, on what it depends whether it is found to be code, and that
it stays as it is if it is. -/
structure CodePlace (crlf : Bool) (page : Text) (above : List Line) (margin : Text) (content below : List Line) :
    Prop where
  place : page = pageText crlf (above ++ blockLines margin content ++ below)
  found : Page.InCode (pageText crlf above) (pageText crlf (blockLines margin content)) (pageText crlf below) ↔
    ∀ front line back, Page.wholeLines (pageText crlf (content.map (margin ++ ·))) = front ++ line :: back →
      Page.isFence line = false → Even (Page.fences (pageText crlf above) + front.countP Page.isFence)
  kept : Page.InCode (pageText crlf above) (pageText crlf (blockLines margin content)) (pageText crlf below) →
    ∀ slugOf index, ∃ ahead behind, Page.redirect (Page.resolve slugOf index) page =
      ahead ++ pageText crlf (blockLines margin content) ++ behind

theorem code_place (crlf : Bool) (above content below : List Line) {margin : Text}
    (known : margin = [] ∨ margin = "> ".toList) :
    CodePlace crlf (pageText crlf (above ++ blockLines margin content ++ below)) above margin content below := by
  have single : Page.wholeLines (pageText crlf [margin ++ fence]) = [pageText crlf [margin ++ fence]] ∧
      Page.isFence (pageText crlf [margin ++ fence]) = true := by
    rcases known with rfl | rfl <;> cases crlf <;> decide +kernel
  have block : pageText crlf (blockLines margin content) = pageText crlf [margin ++ fence] ++
      pageText crlf (content.map (margin ++ ·)) ++ pageText crlf [margin ++ fence] := by
    rw [← page_text_append, ← page_text_append]
    simp [blockLines]
  refine ⟨rfl, ?_, fun code slugOf index => ?_⟩
  · rw [block]
    exact Page.in_code_fenced_iff (page_text_whole crlf above) (page_text_whole crlf _)
      (page_text_whole crlf _) (page_text_whole crlf _) single.1 single.1 single.2 single.2 _
  · rw [page_text_append, page_text_append]
    exact Page.redirect_in_code code (Page.resolve slugOf index)

/-- The code blocks of a document stand in its page, on the page itself or in a quote. Which of them are
found to be code when links are updated depends on the fences above each and in its content alone, and
what is found to be code keeps its links. -/
theorem code_blocks_in_page (options : Options) (source : Text)
    (few : ∀ kind, (Document.masked source).store.count kind ≤ 10 ^ digitLimit)
    (unmarked : ¬ mark <:+: visible options.promoteFirstRow source) :
    ∃ page quotes result, Document.Assembles options.promoteFirstRow source page quotes ∧
      convert options source = .ok result ∧
      ∀ above margin content,
        Document.CodeAt (Document.masked source).store page quotes above margin content →
          ∃ below, CodePlace options.crlf (result ++ Batch.lastLineEnd options) above margin content below := by
  obtain ⟨page, quotes, anatomy, _⟩ := exists_anatomy .opening unmarked (.inl rfl)
  refine ⟨page, quotes, _, anatomy.assembles few, anatomy.converted few options.crlf, ?_⟩
  intro above margin content place
  obtain ⟨below, shape⟩ := anatomy.code_lines place
  refine ⟨below, ?_⟩
  rw [closed_page, shape]
  exact code_place options.crlf above content below place.margin_eq

/-- Code on the page and in a quote, both with links in them. -/
def linksInCode : Text :=
  "\x7bcode\x7d\n[b](b)\n\x7b/code\x7d\n\x7bquote\x7d\n\x7bcode\x7d\n[b](b)\n\x7b/code\x7d\n\x7b/quote\x7d".toList

theorem code_blocks_in_page_with_quote :
    ∃ page quotes result, Document.Assembles true linksInCode page quotes ∧
      convert ⟨true, true⟩ linksInCode = .ok result ∧
      ∀ above margin content,
        Document.CodeAt (Document.masked linksInCode).store page quotes above margin content →
          ∃ below, CodePlace true (result ++ Batch.lastLineEnd ⟨true, true⟩) above margin content below := by
  have few : ∀ kind, (Document.masked linksInCode).store.count kind ≤ 10 ^ digitLimit :=
    fun kind => few_le_digit_limit (by cases kind <;> decide +kernel)
  exact code_blocks_in_page ⟨true, true⟩ linksInCode few (by decide)

/-- Code with a line that looks like a fence, and code below such a line. -/
def fenceInCode : Text := "\x7bcode\x7d\n\x60\x60\x60\n[b](b)\n\x7b/code\x7d".toList
def fenceAboveCode : Text := "\x60\x60\x60\n\x7bcode\x7d\n[b](b)\n\x7b/code\x7d".toList

/-- A line that looks like a fence opens code to the updating of links. -/
theorem links_redirected_in_code :
    (¬ mark <:+: fenceInCode ∧
      (convert {} fenceInCode).toOption = some "\x60\x60\x60\n\x60\x60\x60\n[b](b)\n\x60\x60\x60".toList ∧
      Page.redirect (Page.resolve id [⟨"b".toList, "b".toList, "b".toList⟩])
          "\x60\x60\x60\n\x60\x60\x60\n[b](b)\n\x60\x60\x60\n".toList =
        "\x60\x60\x60\n\x60\x60\x60\n[b](b.md)\n\x60\x60\x60\n".toList) ∧
    (¬ mark <:+: fenceAboveCode ∧
      (convert {} fenceAboveCode).toOption = some "\x60\x60\x60\n\n\x60\x60\x60\n[b](b)\n\x60\x60\x60".toList ∧
      Page.redirect (Page.resolve id [⟨"b".toList, "b".toList, "b".toList⟩])
          "\x60\x60\x60\n\n\x60\x60\x60\n[b](b)\n\x60\x60\x60\n".toList =
        "\x60\x60\x60\n\n\x60\x60\x60\n[b](b.md)\n\x60\x60\x60\n".toList) :=
  ⟨⟨by decide, by decide +kernel, by decide +kernel⟩, by decide, by decide +kernel, by decide +kernel⟩

end Wikidown
