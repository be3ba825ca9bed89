import Wikidown.Proofs.Collapse
import Wikidown.Proofs.Placeholder.Layout
import Wikidown.Proofs.Placeholder.Masking
import Wikidown.Proofs.Placeholder.Woven

/-!
# The anatomy of an arranged document

Before its parts are restored, a document is a page of placeholders with stretches of text between
them, and so is each quote after its inline notation is converted.
-/

namespace Wikidown

set_option autoImplicit false

/-- No colour notation takes a placeholder in. -/
def Document.SparesPlaceholders (promoteFirstRow : Bool) (source : Text) : Prop :=
  Layout.TablesSparePlaceholders promoteFirstRow (masked source).text ∧
    ∀ part ∈ (masked source).store.quote, Inline.SparesPlaceholders (trim part)

/-- A page and quotes with placeholders, as the stages of a conversion leave them. -/
structure Anatomy (promoteFirstRow : Bool) (word source : Text) (page : Woven)
    (quotes : List Woven) : Prop where
  arranged : page.text token = Document.arranged promoteFirstRow source
  strung : Woven.Strung word page.head page.insets
  quoted : List.Forall₂ (fun part quote => quote.text token = Inline.convert (trim part) ∧
    Woven.Strung word quote.head quote.insets) (Document.masked source).store.quote quotes
  within : ∀ quote ∈ quotes, ∀ key ∈ quote.keys, key.1 = .code
  known : ∀ key ∈ page.keys ++ quotes.flatMap Woven.keys,
    key.2 < (Document.masked source).store.count key.1
  lacks : ∀ part ∈ (Document.masked source).store.code ++ (Document.masked source).store.paragraph,
    Lacks true word part

/-- Each part has its placeholder once, and code comes in the order it is stored in. -/
structure Anatomy.Complete (source : Text) (page : Woven) (quotes : List Woven) : Prop where
  code : numbersOf .code (expand .quote (quotes.map Woven.keys) page.keys) =
    List.range ((Document.masked source).store.count .code)
  quote : numbersOf .quote page.keys = List.range ((Document.masked source).store.count .quote)
  paragraph : numbersOf .paragraph page.keys =
    List.range ((Document.masked source).store.count .paragraph)

section Arranged

variable {promote : Bool} {word text : Text} {fronts : List Text} {keys : List (Kind × Nat)}

theorem collapse_carries (traced : Traced word)
    (carries : Carries promote word fronts (lines text) keys) :
    Carries promote word fronts (lines (collapseBlankLines text)) keys := by
  rw [← Carries.filled_iff traced] at carries ⊢
  have same := filled_lines_collapse text
  unfold filledLines at same
  rwa [same]

theorem Woven.of_text_carries (traced : Traced word)
    (carries : Carries true word itemized (lines text) keys) :
    ∃ woven : Woven, woven.text token = text ∧ woven.keys = keys ∧
      Woven.Strung word woven.head woven.insets := by
  have whole := Woven.of_carries traced (lines_ne_nil text) carries
  rwa [unlines_lines] at whole

theorem mem_numbers_of {kind : Kind} {index : Nat} (member : (kind, index) ∈ keys) :
    index ∈ numbersOf kind keys :=
  List.mem_filterMap.mpr ⟨(kind, index), member, if_pos rfl⟩

end Arranged

namespace Masked

variable {promote : Bool} {word : Text} {masked : Masked} {keys : List (Kind × Nat)}
  {inner : List (List (Kind × Nat))}

theorem Numbered.page_known (numbered : Numbered promote word masked keys inner)
    {key : Kind × Nat} (member : key ∈ keys) : key.2 < masked.store.count key.1 := by
  obtain ⟨kind, index⟩ := key
  have place := mem_numbers_of member
  cases kind with
  | code =>
      have shown := mem_numbers_of (@mem_expand_of_other _ .quote inner _ member (by simp))
      rw [numbered.codes, List.mem_range] at shown
      exact shown
  | quote =>
      rw [numbered.quotes, List.mem_range] at place
      exact place
  | paragraph =>
      rw [numbered.paragraphs, List.mem_range] at place
      exact place

theorem Numbered.quote_known (numbered : Numbered promote word masked keys inner)
    {within : List (Kind × Nat)} (part : within ∈ inner) {key : Kind × Nat}
    (member : key ∈ within) : key.2 < masked.store.count key.1 := by
  obtain ⟨kind, index⟩ := key
  obtain rfl : kind = .code := numbered.within within part _ member
  have quotes : numbersOf .quote keys = List.range' 0 inner.length := by
    rw [numbered.quotes, numbered.quote.length_eq, List.range_eq_range']
  have shown := mem_numbers_of (mem_expand_of_inner quotes part member)
  rw [numbered.codes, List.mem_range] at shown
  exact shown

/-- Converted quotes keep some of the placeholders of the stored ones, and all of them where no colour
takes one in. -/
theorem quotes_woven (traced : Traced word) {parts : List Text}
    (carry : List.Forall₂ (fun part within => Carries promote word bare (lines part) within) parts
      inner)
    (allowed : word = mark ∨ ∀ part ∈ parts, Inline.SparesPlaceholders (trim part)) :
    ∃ quotes : List Woven,
      List.Forall₂ (fun part quote => quote.text token = Inline.convert (trim part) ∧
        Woven.Strung word quote.head quote.insets) parts quotes ∧
      List.Forall₂ (fun quote within => quote.keys.Sublist within) quotes inner ∧
      ((∀ part ∈ parts, Inline.SparesPlaceholders (trim part)) → quotes.map Woven.keys = inner) := by
  induction carry with
  | nil => exact ⟨[], .nil, .nil, fun _ => rfl⟩
  | @cons part within parts inner here _ ih =>
      obtain ⟨kept, sub, same, converted⟩ := Inline.convert_carries traced (here.trim traced)
        (allowed.imp_right fun spared => spared part (by simp))
      obtain ⟨quote, shape, shownKeys, strung⟩ := Woven.of_text_carries traced
        ((converted.promoted traced).mono (by simp [bare, itemized]))
      obtain ⟨quotes, texts, subs, equal⟩ := ih
        (allowed.imp_right fun spared other member => spared other (by simp [member]))
      refine ⟨quote :: quotes, .cons ⟨shape, strung⟩ texts, .cons (shownKeys ▸ sub) subs, ?_⟩
      intro spared
      rw [List.map_cons, shownKeys, same (spared part (by simp)),
        equal fun other member => spared other (by simp [member])]

end Masked

theorem exists_anatomy {promote : Bool} {word source : Text} (reserved : Reserved word)
    (lacks : Lacks promote word source)
    (allowed : word = mark ∨ Document.SparesPlaceholders promote source) :
    ∃ page quotes, Anatomy promote word source page quotes ∧
      (Document.SparesPlaceholders promote source → Anatomy.Complete source page quotes) := by
  have traced := reserved.traced
  obtain ⟨keys, inner, numbered⟩ :=
    Masked.of_text_numbered traced (normalize_lacks traced lacks)
  obtain ⟨kept, sub, same, converted⟩ :=
    Layout.convert_carries traced numbered.text (allowed.imp_right And.left)
  obtain ⟨page, arranged, pageKeys, strung⟩ :=
    Woven.of_text_carries traced (collapse_carries traced converted)
  obtain ⟨quotes, texts, subs, equal⟩ :=
    Masked.quotes_woven traced numbered.quote (allowed.imp_right And.right)
  have quoteKeys : ∀ quote ∈ quotes, ∃ within ∈ inner, quote.keys.Sublist within :=
    fun _ member => Masked.exists_of_forall₂_mem subs member
  refine ⟨page, quotes, ?_, ?_⟩
  · refine ⟨arranged, strung, texts, ?_, ?_, ?_⟩
    · intro quote member key place
      obtain ⟨within, part, sub⟩ := quoteKeys quote member
      exact numbered.within within part key (sub.subset place)
    · intro key member
      rcases List.mem_append.mp member with onPage | inQuote
      · rw [pageKeys] at onPage
        exact numbered.page_known (sub.subset onPage)
      · obtain ⟨quote, member, place⟩ := List.mem_flatMap.mp inQuote
        obtain ⟨within, part, sub⟩ := quoteKeys quote member
        exact numbered.quote_known part (sub.subset place)
    · exact fun part member => (numbered.lacks part member).promoted traced
  · intro spared
    refine ⟨?_, ?_, ?_⟩
    · rw [pageKeys, same spared.1, equal spared.2]
      exact numbered.codes
    · rw [pageKeys, same spared.1]
      exact numbered.quotes
    · rw [pageKeys, same spared.1]
      exact numbered.paragraphs

end Wikidown
