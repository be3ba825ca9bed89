import Wikidown.Proofs.Placeholder.Anatomy
import Wikidown.Proofs.Placeholder.Rendered

/-!
# Restored documents

Restoring all parts of a document leaves its page with the parts in it and blank lines around code
and quotes.
-/

namespace Wikidown

set_option autoImplicit false

variable {promote : Bool} {word source : Text} {page quote : Woven} {quotes : List Woven}
  {store : Store}

def codeShown (store : Store) (index : Nat) : Text := fenced (store.code.getD index [])

/-- A converted quote with its code restored. -/
def quoteBody (store : Store) (quote : Woven) : Text :=
  (quote.spaced .code).text fun _ => codeShown store

/-- What stands in a document for each of its parts. -/
def partShown (store : Store) (quotes : List Woven) : Kind → Nat → Text
  | .code, index => codeShown store index
  | .quote, index => cited (quoteBody store (quotes.getD index ⟨[], []⟩))
  | .paragraph, index => renderParagraph (store.paragraph.getD index [])

/-- A page with blank lines around its code and its quotes. -/
def spacedPage (page : Woven) : Woven := (page.spaced .code).spaced .quote

theorem keys_spaced_page (page : Woven) : (spacedPage page).keys = page.keys := by
  rw [spacedPage, Woven.keys_spaced, Woven.keys_spaced]

theorem opening_not_in_token {kind other : Kind} (apart : other ≠ kind) (index : Nat) :
    ¬ kind.opening <:+: token other index := by
  rintro ⟨front, back, shape⟩
  have braces : kind.opening.count '\x7b' = 2 := by cases kind <;> decide
  have counted := congrArg (List.count '\x7b') shape
  rw [count_brace_token, List.count_append, List.count_append, braces] at counted
  have noBrace : '\x7b' ∉ front := List.count_eq_zero.mp (by omega)
  have noFront : front = [] := by
    cases front with
    | nil => rfl
    | cons c front =>
        have first : c = '\x7b' := by
          obtain ⟨tail, begins⟩ := token_begins other index
          rw [begins] at shape
          exact (List.cons.inj shape).1
        exact absurd (by simp [first]) noBrace
  subst noFront
  -- the labels of two kinds differ in their first letter
  have long : ∀ kind : Kind, 14 ≤ kind.opening.length := by intro kind; cases kind <;> decide
  have same := congrArg (List.take 14) shape
  rw [List.nil_append, token, List.append_assoc, List.take_append_of_le_length (long kind),
    List.take_append_of_le_length (long other)] at same
  cases kind <;> cases other <;> first | exact apart rfl | exact absurd same (by decide)

theorem codes_stored {kind : Kind} (code : kind = .code) {index : Nat}
    (known : index < store.count kind) (small : store.count .code ≤ 10 ^ digitLimit) :
    Stored .code store.code (fun code => .ok (renderCode code)) (codeShown store) index := by
  subst code
  have bound : index < store.code.length := known
  refine ⟨Nat.lt_of_lt_of_le known small, store.code[index], List.getElem?_eq_getElem bound, ?_⟩
  rw [codeShown, List.getD_eq_getElem?_getD, List.getElem?_eq_getElem bound]
  exact congrArg Except.ok (render_code_eq _)

theorem token_solid (kind : Kind) (index : Nat) : Solid (token kind index) :=
  solid_of_whole (not_mem_token (by decide)) (token_ne_nil kind index)

theorem code_shown_lacks (traced : Traced word)
    (lacks : ∀ part ∈ store.code, Lacks true word part) (index : Nat) :
    Lacks true word (codeShown store index) := by
  refine fenced_lacks traced ?_
  rw [List.getD_eq_getElem?_getD]
  cases found : store.code[index]? with
  | none => exact .nil traced
  | some part => exact lacks part (List.mem_of_getElem? found)

theorem quote_body_lacks (traced : Traced word)
    (strung : Woven.Strung word quote.head quote.insets)
    (lacks : ∀ part ∈ store.code, Lacks true word part) :
    Lacks true word (quoteBody store quote) :=
  (strung.spaced_from traced .code).lacks_text traced fun _ _ =>
    code_shown_lacks traced lacks _

/-- Restoring the code of a converted quote. -/
theorem restore_quote (strung : Woven.Strung mark quote.head quote.insets)
    (within : ∀ key ∈ quote.keys, key.1 = .code)
    (known : ∀ key ∈ quote.keys, key.2 < store.count key.1)
    (small : store.count .code ≤ 10 ^ digitLimit) :
    restore .code store.code (fun code => .ok (renderCode code)) (quote.text token) =
      .ok (quoteBody store quote) := by
  have pass : restore .code store.code (fun code => .ok (renderCode code)) (quote.text token) =
      .ok ((quote.spaced .code).text (reveal .code (codeShown store) token)) :=
    Woven.restore_woven strung (fun key _ => token_solid key.1 key.2)
      (fun key member code => ⟨rfl, codes_stored (within key member) (known key member) small,
        fenced_solid _⟩)
      (fun key member other => absurd (within key member) other)
  rw [pass]
  refine congrArg Except.ok (Woven.text_congr fun key member => ?_)
  rw [Woven.keys_spaced] at member
  exact if_pos (within key member)

theorem render_quote_eq {part : Text} (shape : quote.text token = Inline.convert (trim part))
    (strung : Woven.Strung mark quote.head quote.insets)
    (within : ∀ key ∈ quote.keys, key.1 = .code)
    (known : ∀ key ∈ quote.keys, key.2 < store.count key.1)
    (small : store.count .code ≤ 10 ^ digitLimit) :
    renderQuote store part =
      .ok (Kind.quote.margin ++ cited (quoteBody store quote) ++ Kind.quote.margin) := by
  have body := restore_quote strung within known small
  rw [shape] at body
  exact render_quote_ok_iff.mpr ⟨_, body, rfl⟩

theorem paragraph_shown {index : Nat}
    (known : index < (Document.masked source).store.count .paragraph) :
    ∃ part ∈ (Document.masked source).store.paragraph,
      (Document.masked source).store.paragraph[index]? = some part ∧
        partShown (Document.masked source).store quotes .paragraph index = renderParagraph part := by
  have bound : index < (Document.masked source).store.paragraph.length := known
  refine ⟨_, List.getElem_mem bound, List.getElem?_eq_getElem bound, ?_⟩
  rw [partShown, List.getD_eq_getElem?_getD, List.getElem?_eq_getElem bound]
  rfl

section Anatomy

variable (anatomy : Anatomy promote word source page quotes)
include anatomy

theorem Anatomy.quote_known {index : Nat}
    (known : index < (Document.masked source).store.count .quote) :
    ∃ part quote, (Document.masked source).store.quote[index]? = some part ∧
      quotes[index]? = some quote ∧ quote ∈ quotes ∧
        quote.text token = Inline.convert (trim part) ∧ Woven.Strung word quote.head quote.insets := by
  have bound : index < (Document.masked source).store.quote.length := known
  have boundToo : index < quotes.length := anatomy.quoted.length_eq ▸ bound
  have both := anatomy.quoted.get bound boundToo
  exact ⟨_, _, List.getElem?_eq_getElem bound, List.getElem?_eq_getElem boundToo,
    List.getElem_mem boundToo, both⟩

theorem Anatomy.key_known {key : Kind × Nat} (member : key ∈ page.keys) :
    key.2 < (Document.masked source).store.count key.1 :=
  anatomy.known key (List.mem_append_left _ member)

theorem Anatomy.quote_key_known (member : quote ∈ quotes) {key : Kind × Nat}
    (place : key ∈ quote.keys) : key.2 < (Document.masked source).store.count key.1 :=
  anatomy.known key (List.mem_append_right _ (List.mem_flatMap.mpr ⟨quote, member, place⟩))

theorem Anatomy.lacks_code : ∀ part ∈ (Document.masked source).store.code, Lacks true word part :=
  fun part member => anatomy.lacks part (List.mem_append_left _ member)

theorem Anatomy.part_solid {key : Kind × Nat} (member : key ∈ page.keys) :
    Solid (partShown (Document.masked source).store quotes key.1 key.2) := by
  obtain ⟨kind, index⟩ := key
  cases kind with
  | code => exact fenced_solid _
  | quote => exact cited_solid _
  | paragraph =>
      obtain ⟨part, place, _, shown⟩ := paragraph_shown (anatomy.key_known member)
      obtain ⟨whole, paragraph⟩ := Masked.of_text_paragraph place
      have filled := render_paragraph_whole whole paragraph
      rw [shown]
      exact solid_of_whole filled.1 filled.2

theorem Anatomy.part_lacks (traced : Traced word) {key : Kind × Nat} (member : key ∈ page.keys) :
    Lacks true word (partShown (Document.masked source).store quotes key.1 key.2) := by
  obtain ⟨kind, index⟩ := key
  have known := anatomy.key_known member
  cases kind with
  | code => exact code_shown_lacks traced anatomy.lacks_code index
  | quote =>
      obtain ⟨_, quote, _, place, _, _, strung⟩ := anatomy.quote_known known
      rw [partShown, List.getD_eq_getElem?_getD, place]
      exact cited_lacks traced (quote_body_lacks traced strung anatomy.lacks_code)
  | paragraph =>
      obtain ⟨part, place, _, shown⟩ := paragraph_shown known
      have lacksPart := anatomy.lacks part (List.mem_append_right _ place)
      rw [shown]
      exact Inline.convert_lacks traced (lacksPart.of_inside traced (trim_inside part))

end Anatomy

section Restored

variable (anatomy : Anatomy promote mark source page quotes)
  (small : ∀ kind, (Document.masked source).store.count kind ≤ 10 ^ digitLimit)
include anatomy small

theorem Anatomy.quotes_stored {index : Nat}
    (known : index < (Document.masked source).store.count .quote) :
    Stored .quote (Document.masked source).store.quote (renderQuote (Document.masked source).store)
      (partShown (Document.masked source).store quotes .quote) index := by
  obtain ⟨part, quote, stored, place, member, shape, strung⟩ := anatomy.quote_known known
  refine ⟨Nat.lt_of_lt_of_le known (small .quote), part, stored, ?_⟩
  rw [render_quote_eq shape strung (anatomy.within quote member)
    (fun key place => anatomy.quote_key_known member place) (small .code), partShown,
    List.getD_eq_getElem?_getD, place]
  rfl

omit anatomy in
theorem paragraphs_stored {index : Nat}
    (known : index < (Document.masked source).store.count .paragraph) :
    Stored .paragraph (Document.masked source).store.paragraph
      (fun paragraph => .ok (renderParagraph paragraph))
      (partShown (Document.masked source).store quotes .paragraph) index := by
  obtain ⟨part, _, stored, shown⟩ := paragraph_shown known
  refine ⟨Nat.lt_of_lt_of_le known (small .paragraph), part, stored, ?_⟩
  rw [shown]
  simp [Kind.margin]

omit small in
/-- One pass over a page on which each part is either shown already or still a placeholder. -/
theorem Anatomy.restore_kind {kind : Kind} {parts : List Text}
    {render : Text → Except NumberTooLong Text} {woven : Woven} {shown : Kind → Nat → Text}
    (strung : Woven.Strung mark woven.head woven.insets) (same : woven.keys = page.keys)
    (partly : ∀ other index, shown other index = token other index ∨
      shown other index = partShown (Document.masked source).store quotes other index)
    (fresh : ∀ index, shown kind index = token kind index)
    (stored : ∀ index < (Document.masked source).store.count kind,
      Stored kind parts render (partShown (Document.masked source).store quotes kind) index) :
    restore kind parts render (woven.text shown) = .ok ((woven.spaced kind).text
      (reveal kind (partShown (Document.masked source).store quotes kind) shown)) := by
  refine Woven.restore_woven strung (fun key member => ?_) (fun key member own => ?_)
    fun key member other => ?_
  · rw [same] at member
    rcases partly key.1 key.2 with hidden | restored
    · rw [hidden]
      exact token_solid key.1 key.2
    · rw [restored]
      exact anatomy.part_solid member
  · rw [same] at member
    obtain ⟨_, index⟩ := key
    obtain rfl := own
    exact ⟨fresh index, stored index (anatomy.key_known member), anatomy.part_solid member⟩
  · rw [same] at member
    rcases partly key.1 key.2 with hidden | restored
    · rw [hidden]
      exact opening_not_in_token other key.2
    · rw [restored]
      exact not_opening_of_lacks (anatomy.part_lacks .opening member) kind

/-- The document with all parts restored. -/
theorem Anatomy.restored : Document.restored promote source =
    .ok ((spacedPage page).text (partShown (Document.masked source).store quotes)) := by
  have code := anatomy.restore_kind anatomy.strung rfl (fun _ _ => .inl rfl) (fun _ => rfl)
    fun index known => @codes_stored (Document.masked source).store .code rfl index known (small .code)
  generalize revealed : reveal .code _ token = codes at code
  have quote := @Anatomy.restore_kind promote source page quotes anatomy .quote _ _ _ codes
    (anatomy.strung.spaced .opening .code) (Woven.keys_spaced .code page)
    (fun other index => by cases other <;> simp [← revealed, reveal])
    (fun index => by rw [← revealed]; rfl) fun index known => anatomy.quotes_stored small known
  generalize revealedToo : reveal .quote _ codes = quoted at quote
  have paragraph := @Anatomy.restore_kind promote source page quotes anatomy .paragraph _ _ _ quoted
    ((anatomy.strung.spaced .opening .code).spaced .opening .quote) (keys_spaced_page page)
    (fun other index => by cases other <;> simp [← revealedToo, ← revealed, reveal])
    (fun index => by rw [← revealedToo, ← revealed]; rfl)
    fun index known => paragraphs_stored small known
  have all : reveal .paragraph (partShown (Document.masked source).store quotes .paragraph) quoted =
      partShown (Document.masked source).store quotes := by
    funext other index
    cases other <;> simp [← revealedToo, ← revealed, reveal]
  rw [all, Woven.spaced_paragraph] at paragraph
  rw [Document.restored, restoreAll, ← anatomy.arranged, code]
  change (do
    let withQuotes ← restore .quote _ _ ((page.spaced .code).text codes)
    restore .paragraph _ _ withQuotes) = _
  rw [quote]
  exact paragraph

theorem Anatomy.converted (crlf : Bool) :
    convert ⟨crlf, promote⟩ source = .ok (withLineEndings crlf
      (trim ((spacedPage page).text (partShown (Document.masked source).store quotes)))) := by
  rw [convert, anatomy.restored small]
  rfl

end Restored

/-- A document before and after its parts are restored: a page and quotes with placeholders and text
without their mark, and the result with the parts in the places of the placeholders. -/
structure Document.Assembles (promoteFirstRow : Bool) (source : Text) (page : Woven)
    (quotes : List Woven) : Prop where
  arranged : page.text token = arranged promoteFirstRow source
  quoted : quotes.map (·.text token) =
    (masked source).store.quote.map fun part => Inline.convert (trim part)
  unmarked : ∀ stretch ∈ page.stretches ++ quotes.flatMap Woven.stretches, ¬ mark <:+: stretch
  converted : ∀ crlf, convert ⟨crlf, promoteFirstRow⟩ source = .ok (withLineEndings crlf
    (trim ((spacedPage page).text (partShown (masked source).store quotes))))

theorem Anatomy.assembles (anatomy : Anatomy promote mark source page quotes)
    (small : ∀ kind, (Document.masked source).store.count kind ≤ 10 ^ digitLimit) :
    Document.Assembles promote source page quotes := by
  refine ⟨anatomy.arranged, ?_, ?_, anatomy.converted small⟩
  · rw [← List.forall₂_eq_eq_eq, List.forall₂_map_left_iff, List.forall₂_map_right_iff]
    exact anatomy.quoted.flip.imp fun _ _ both => both.1
  · intro stretch member
    rcases List.mem_append.mp member with onPage | inQuote
    · exact anatomy.strung.stretch_lacks stretch onPage
    · obtain ⟨quote, member, here⟩ := List.mem_flatMap.mp inQuote
      obtain ⟨_, _, both⟩ := Masked.exists_of_forall₂_mem anatomy.quoted.flip member
      exact both.2.stretch_lacks stretch here

theorem Anatomy.opening (anatomy : Anatomy promote word source page quotes)
    (reserved : Reserved word) : Anatomy promote mark source page quotes where
  arranged := anatomy.arranged
  strung := anatomy.strung.imp fun _ => .opening reserved
  quoted := anatomy.quoted.imp fun _ _ both => ⟨both.1, both.2.imp fun _ => .opening reserved⟩
  within := anatomy.within
  known := anatomy.known
  lacks part member := (anatomy.lacks part member).opening reserved

theorem line_endings_lack (traced : Traced word) (uniform : '\r' ∉ word) {text : Text}
    (lacks : Lacks true word text) (crlf : Bool) :
    Lacks true word (withLineEndings crlf (trim text)) := by
  have trimmed := lacks.of_inside traced (trim_inside text)
  unfold withLineEndings
  split
  · refine Substitution.apply_lacks traced (fun found lacks => ?_) [] (trim text) trimmed
    rw [Substitution.literal_step, Option.map_eq_some_iff] at found
    obtain ⟨tail, shape, same⟩ := found
    obtain ⟨rfl, rfl⟩ := Prod.mk.inj same
    rw [after_eq_some.mp shape] at lacks
    refine ⟨fun front back lacksFront lacksBack => ?_, lacks.right traced⟩
    rw [List.append_assoc]
    refine (Lacks.across_iff traced.ne_nil uniform (by decide) (by decide)).mpr ⟨lacksFront, ?_⟩
    exact (Lacks.cons_iff traced (by decide)).mpr lacksBack
  · exact trimmed

theorem Anatomy.converted_lacks (anatomy : Anatomy promote word source page quotes)
    (reserved : Reserved word) (crlf : Bool) :
    Lacks true word (withLineEndings crlf
      (trim ((spacedPage page).text (partShown (Document.masked source).store quotes)))) := by
  have traced := reserved.traced
  have uniform : '\r' ∉ word := by cases reserved <;> decide
  refine line_endings_lack traced uniform ?_ crlf
  refine ((anatomy.strung.spaced traced .code).spaced traced .quote).lacks_text traced ?_
  intro inset member
  have key : (inset.kind, inset.index) ∈ (spacedPage page).keys := Woven.mem_keys member
  rw [keys_spaced_page] at key
  exact anatomy.part_lacks traced key

end Wikidown
