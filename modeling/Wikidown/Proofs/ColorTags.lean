import Wikidown.Proofs.InlineLines
import Wikidown.Proofs.Spans
import Wikidown.Proofs.Tags

/-!
# The tags of coloured spans

The name of a colour goes into its tag as it is read, with single spaces for pairs. No name holds a `<`, for the
rules above escape it; a quote or a `>` in a name comes from the text itself, and it goes into the tag.
-/

namespace Wikidown

set_option autoImplicit false

/-! ## What stands behind each opening angle -/

/-- What stands behind each `<` of a text. -/
def Angled (Holds : Text → Prop) : Text → Prop
  | [] => True
  | c :: text => (c = '<' → Holds text) ∧ Angled Holds text

section Angled

variable {Holds Holds' : Text → Prop} {front back text : Text}

theorem Angled.behind (angled : Angled Holds (front ++ '<' :: back)) : Holds back := by
  induction front with
  | nil => exact angled.1 rfl
  | cons c front ih => exact ih angled.2

theorem angled_append (absent : '<' ∉ front) (angled : Angled Holds back) : Angled Holds (front ++ back) := by
  induction front with
  | nil => exact angled
  | cons c front ih =>
      rw [List.mem_cons, not_or] at absent
      exact ⟨fun same => absurd same.symm absent.1, ih absent.2⟩

theorem Angled.imp (angled : Angled Holds text) (weaker : ∀ text, Holds text → Holds' text) :
    Angled Holds' text := by
  induction text with
  | nil => trivial
  | cons c text ih => exact ⟨fun same => weaker text (angled.1 same), ih angled.2⟩

theorem Angled.single_spaced (angled : Angled Holds text) (kept : ∀ text, Holds text → Holds' (singleSpaced text)) :
    Angled Holds' (singleSpaced text) := by
  fun_induction singleSpaced text with
  | case1 => trivial
  | case2 text ih => exact ⟨fun same => absurd same (by decide), ih angled.2.2⟩
  | case3 c text other ih => exact ⟨fun same => kept text (angled.1 same), ih angled.2⟩

end Angled

/-! ## Single spaces -/

theorem mem_of_single_spaced {c : Char} {text : Text} (member : c ∈ singleSpaced text) : c ∈ text := by
  fun_induction singleSpaced text with
  | case1 => exact member
  | case2 text ih =>
      rcases List.mem_cons.mp member with rfl | later
      · exact List.mem_cons_self
      · exact List.mem_cons_of_mem _ (List.mem_cons_of_mem _ (ih later))
  | case3 d text other ih =>
      rcases List.mem_cons.mp member with rfl | later
      · exact List.mem_cons_self
      · exact List.mem_cons_of_mem _ (ih later)

/-- What is no space ends a run of spaces. -/
theorem single_spaced_append {c : Char} (visible : c ≠ ' ') (front back : Text) :
    singleSpaced (front ++ c :: back) = singleSpaced front ++ c :: singleSpaced back := by
  have shown (text : Text) : singleSpaced (c :: text) = c :: singleSpaced text := by
    rw [singleSpaced]
    exact fun _ same => absurd same visible
  fun_induction singleSpaced front with
  | case1 => exact shown back
  | case2 front ih => rw [List.cons_append, List.cons_append, singleSpaced, ih, List.cons_append]
  | case3 d front other ih =>
      rw [List.cons_append, singleSpaced, ih, List.cons_append]
      intro text same shape
      cases front with
      | nil => exact visible (List.cons.inj shape).1
      | cons e front =>
          obtain ⟨rfl, rfl⟩ := List.cons.inj shape
          exact other front same rfl

theorem exists_single_spaced (text : Text) : ∃ inner, singleSpaced (' ' :: text) = ' ' :: inner := by
  rcases text with _ | ⟨c, text⟩
  · exact ⟨[], rfl⟩
  · by_cases space : c = ' '
    · exact ⟨singleSpaced text, by rw [space, singleSpaced]⟩
    · refine ⟨singleSpaced (c :: text), ?_⟩
      rw [singleSpaced]
      rintro more - same
      exact space (List.cons.inj same).1

namespace Inline

/-! ## Names of colours -/

variable {text name word : Text}

/-- The name of a coloured span that is read somewhere in a text. -/
def ReadsColor (text name : Text) : Prop :=
  ∃ front behind inner rest, text = front ++ behind ∧
    (afterAnyCase? "&color(".toList behind).bind colorSpan? = some (name, inner, rest)

theorem ReadsColor.of_back {back : Text} (front : Text) (reads : ReadsColor back name) :
    ReadsColor (front ++ back) name := by
  obtain ⟨ahead, behind, inner, rest, rfl, read⟩ := reads
  exact ⟨front ++ ahead, behind, inner, rest, (List.append_assoc front ahead behind).symm, read⟩

theorem ReadsColor.inside (reads : ReadsColor text name) : name <:+: text ∧ '\n' ∉ name := by
  obtain ⟨front, behind, inner, rest, rfl, read⟩ := reads
  obtain ⟨opening, blanks, rfl, _, whole, _⟩ := color_span_shape read
  exact ⟨⟨front ++ opening, [')'] ++ blanks ++ ('\x7b' :: inner ++ ['\x7d']) ++ rest, by simp⟩, whole⟩

/-- Behind each `<` that the colours write stands the rest of a tag. -/
def IsTag (text tag : Text) : Prop :=
  (∃ name rest, ReadsColor text name ∧ tag = "span style=\x22color: ".toList ++ name ++ ";\x22>".toList ++ rest) ∨
    ∃ rest, tag = "/span>".toList ++ rest

theorem IsTag.of_back {back tag : Text} (front : Text) (isTag : IsTag back tag) : IsTag (front ++ back) tag := by
  rcases isTag with ⟨name, rest, reads, shape⟩ | closing
  · exact .inl ⟨name, rest, reads.of_back front, shape⟩
  · exact .inr closing

/-- A coloured span, cut behind the angles of its tags. -/
theorem colored_append (name inner back : Text) : colored name inner ++ back =
    '<' :: (("span style=\x22color: ".toList ++ name ++ ";\x22>".toList ++ inner) ++
      '<' :: ("/span>".toList ++ back)) := by
  have opens : "<span style=\x22color: ".toList = '<' :: "span style=\x22color: ".toList := rfl
  have closes : "</span>".toList = '<' :: "/span>".toList := rfl
  unfold colored
  simp only [opens, closes, List.append_assoc, List.cons_append]

theorem angled_colors {text : Text} (plain : '<' ∉ text) : Angled (IsTag text) (colorRule.apply text) := by
  fun_induction colorRule.apply text with
  | case1 => trivial
  | case2 c text written rest found ih =>
      obtain ⟨name, inner, read, rfl⟩ := color_step_iff.mp found
      have reads : ReadsColor (c :: text) name := ⟨[], c :: text, inner, rest, rfl, read⟩
      obtain ⟨opening, blanks, shape, _⟩ := color_span_shape read
      obtain ⟨stretch, whole⟩ : ∃ stretch, c :: text = stretch ++ rest := ⟨_, shape⟩
      rw [shape] at plain
      simp only [List.mem_append, List.mem_cons, not_or] at plain
      have behind : Angled (IsTag (c :: text)) (colorRule.apply rest) :=
        (ih plain.2).imp fun tag isTag => whole ▸ isTag.of_back stretch
      have tag : '<' ∉ "span style=\x22color: ".toList ++ name ++ ";\x22>".toList ++ inner := by
        simp [plain.1.1.1.1.2, plain.1.2.1.2]
      rw [colored_append]
      have opened : IsTag (c :: text) ("span style=\x22color: ".toList ++ name ++ ";\x22>".toList ++
          (inner ++ '<' :: ("/span>".toList ++ colorRule.apply rest))) := .inl ⟨name, _, reads, rfl⟩
      rw [← List.append_assoc] at opened
      refine ⟨fun _ => opened, angled_append tag ⟨fun _ => .inr ⟨_, rfl⟩, ?_⟩⟩
      exact angled_append (by decide) behind
  | case3 c text nothing ih =>
      rw [List.mem_cons, not_or] at plain
      exact ⟨fun same => absurd same.symm plain.1, (ih plain.2).imp fun _ isTag => isTag.of_back [c]⟩

/-! ## Texts that embed no files -/

/-- What embedded files begin with. -/
def embeds : List Text := ["#image(".toList, "#thumbnail(".toList, "#attach(".toList]

theorem opener_of_embed (member : word ∈ embeds) : Opener word := by
  simp only [embeds, List.mem_cons, List.not_mem_nil, or_false] at member
  rcases member with rfl | rfl | rfl
  all_goals exact ⟨.inl rfl, rfl, List.all_iff_forall_prop.mp (by decide)⟩

/-- The colours put no word together that notation begins with. -/
theorem colors_make_no (opener : Opener word) : colorRule.MakesNo word := by
  intro front text written rest found inside
  obtain ⟨opening, name, blanks, inner, rfl, rfl, _⟩ := color_step_shape found
  have tag : Parts word "<span style=\x22color: ".toList :=
    @Opener.parts _ '<' opener [] "span style=\x22color: ".toList (by decide) (by decide) (by decide)
  have ended : Parts word ";\x22>".toList :=
    @Opener.parts _ ';' opener [] "\x22>".toList (by decide) (by decide) (by decide)
  have closed : Parts word "</span>".toList :=
    @Opener.parts _ '<' opener [] "/span>".toList (by decide) (by decide) (by decide)
  rcases Substitution.infix_of_parts tag ended closed inside with ahead | within | within | later
  · exact List.infix_append_of_infix_left ahead
  · exact within.trans ⟨front ++ opening, [')'] ++ blanks ++ ('\x7b' :: inner ++ ['\x7d']) ++ rest, by simp⟩
  · exact within.trans ⟨front ++ opening ++ name ++ [')'] ++ blanks ++ ['\x7b'], ['\x7d'] ++ rest, by simp⟩
  · exact later.trans
      ⟨front ++ opening ++ name ++ [')'] ++ blanks ++ ('\x7b' :: inner ++ ['\x7d']), [], by simp⟩

/-- Behind the colours nothing happens to a text that embeds no files, but for its spaces. -/
theorem convert_without_embeds (free : ∀ word ∈ embeds, ¬ word <:+: text) :
    convert text = singleSpaced (colorRule.apply (Substitution.applyAll beforeColors text)) := by
  have later : ∀ word ∈ embeds, ¬ word <:+: colorRule.apply (Substitution.applyAll beforeColors text) := by
    intro word member
    have opener := opener_of_embed member
    have above : ¬ word <:+: Substitution.applyAll beforeColors text :=
      @Substitution.apply_all_keeps _ (¬ word <:+: ·) _
        (fun rule known text absent inside =>
          absent ((before_colors_make_no opener rule known).apply [] text inside)) (free word member)
    exact fun inside => above ((colors_make_no opener).apply [] _ inside)
  have split : afterColors = afterColors.take 3 ++ [.literal "  ".toList " ".toList] := rfl
  have fixed : ∀ rule ∈ afterColors.take 3, rule.apply
      (colorRule.apply (Substitution.applyAll beforeColors text)) =
        colorRule.apply (Substitution.applyAll beforeColors text) := by
    intro rule member
    simp only [afterColors, rules, List.take, List.drop, List.mem_cons, List.not_mem_nil, or_false] at member
    rcases member with rfl | rfl | rfl
    · exact (Substitution.enclosed_opens _ _ _ _).apply_of_absent (later _ (by decide))
    · exact (Substitution.enclosed_opens _ _ _ _).apply_of_absent (later _ (by decide))
    · exact (Substitution.pair_opens _ _ _ _ _).apply_of_absent (later _ (by decide))
  have embedded := Substitution.apply_all_of_fixed fixed
  rw [Substitution.applyAll] at embedded
  rw [convert_stages, split, Substitution.applyAll, List.foldl_append, embedded]
  exact single_spaces_apply _

/-! ## Tags with single spaces -/

/-- Behind each `<` of the converted text stands the rest of a tag, with single spaces in the name. -/
def IsShownTag (text tag : Text) : Prop :=
  (∃ name color rest, ReadsColor text name ∧ ' ' :: color = singleSpaced (' ' :: name) ∧
    tag = "span style=\x22color: ".toList ++ color ++ ";\x22>".toList ++ rest) ∨
    ∃ rest, tag = "/span>".toList ++ rest

theorem IsTag.single_spaced {tag : Text} (isTag : IsTag text tag) : IsShownTag text (singleSpaced tag) := by
  rcases isTag with ⟨name, rest, reads, rfl⟩ | ⟨rest, rfl⟩
  · obtain ⟨color, named⟩ := exists_single_spaced name
    refine .inl ⟨name, color, singleSpaced rest, reads, named.symm, ?_⟩
    have cut : "span style=\x22color: ".toList ++ name ++ ";\x22>".toList ++ rest =
        "span style=\x22color".toList ++ ':' :: (' ' :: name ++ ';' :: (['\x22'] ++ '>' :: rest)) := by
      have opens : "span style=\x22color: ".toList = "span style=\x22color".toList ++ [':', ' '] := rfl
      have ends : ";\x22>".toList = [';', '\x22', '>'] := rfl
      simp [opens, ends]
    have single : singleSpaced "span style=\x22color".toList = "span style=\x22color".toList := by decide
    rw [cut, single_spaced_append (by decide), single_spaced_append (by decide), single_spaced_append (by decide),
      named, single]
    have opens : "span style=\x22color: ".toList = "span style=\x22color".toList ++ [':', ' '] := rfl
    have ends : ";\x22>".toList = [';', '\x22', '>'] := rfl
    simp [opens, ends, singleSpaced]
  · exact .inr ⟨singleSpaced rest, single_spaced_append (by decide) "/span".toList rest⟩

theorem mem_of_reads {c : Char} (plain : c ∉ "&lgt; *~[]()".toList)
    (reads : ReadsColor (Substitution.applyAll beforeColors text) name) (member : c ∈ name) : c ∈ text := by
  by_contra absent
  have above : c ∉ Substitution.applyAll beforeColors text :=
    @Substitution.apply_all_keeps _ (c ∉ ·) _
      (fun rule known text => (before_colors_keep_out plain rule known).apply) absent
  exact above (reads.inside.1.subset member)

end Inline

open Inline

/-- Every tag of a coloured span in the conversion of a text that embeds no files has the name that was read for
the colour, with single spaces for pairs. No `<` and no end of a line stands in it; a quote or a `>` stands in it
only if the text has one. -/
theorem color_tags {text front back : Text} (free : ∀ word ∈ embeds, ¬ word <:+: text)
    (found : Inline.convert text = front ++ "<span".toList ++ back) :
    ∃ name color rest, back = " style=\x22color: ".toList ++ color ++ ";\x22>".toList ++ rest ∧
      ReadsColor (Substitution.applyAll beforeColors text) name ∧ ' ' :: color = singleSpaced (' ' :: name) ∧
      '<' ∉ color ∧ '\n' ∉ color ∧ ('\x22' ∈ color → '\x22' ∈ text) ∧ ('>' ∈ color → '>' ∈ text) := by
  have untagged := before_colors_untagged text
  have angled : Angled (IsShownTag (Substitution.applyAll beforeColors text)) (Inline.convert text) := by
    rw [convert_without_embeds free]
    exact (angled_colors untagged).single_spaced fun _ => IsTag.single_spaced
  have split : front ++ "<span".toList ++ back = front ++ '<' :: ("span".toList ++ back) := by simp
  rw [found, split] at angled
  rcases angled.behind with ⟨name, color, rest, reads, single, shape⟩ | ⟨rest, shape⟩
  · have inside {c : Char} (visible : c ≠ ' ') (member : c ∈ color) : c ∈ name := by
      have among : c ∈ ' ' :: name := mem_of_single_spaced (single ▸ List.mem_cons_of_mem ' ' member)
      exact (List.mem_cons.mp among).resolve_left visible
    refine ⟨name, color, rest, ?_, reads, single, fun member => ?_, fun member => ?_, fun member => ?_, fun member => ?_⟩
    · have opens : "span style=\x22color: ".toList = "span".toList ++ " style=\x22color: ".toList := rfl
      rw [opens] at shape
      simp only [List.append_assoc] at shape ⊢
      exact List.append_cancel_left shape
    · exact untagged (reads.inside.1.subset (inside (by decide) member))
    · exact reads.inside.2 (inside (by decide) member)
    · exact mem_of_reads (by decide) reads (inside (by decide) member)
    · exact mem_of_reads (by decide) reads (inside (by decide) member)
  · exact absurd (List.cons.inj shape).1 (by decide)

theorem color_tag_of_spaced_name :
    let text := "<b> &Color( re  d )\n \x7bx\x7d #image \x22".toList
    let back := " style=\x22color: re d ;\x22>x</span> #image \x22".toList
    (∀ word ∈ embeds, ¬ word <:+: text) ∧
      Inline.convert text = "&lt;b&gt; ".toList ++ "<span".toList ++ back ∧
      ∃ name color rest, back = " style=\x22color: ".toList ++ color ++ ";\x22>".toList ++ rest ∧
        ReadsColor (Substitution.applyAll beforeColors text) name ∧ ' ' :: color = singleSpaced (' ' :: name) ∧
        '<' ∉ color ∧ '\n' ∉ color ∧ ('\x22' ∈ color → '\x22' ∈ text) ∧ ('>' ∈ color → '>' ∈ text) :=
  have free := by decide +kernel
  have found := by decide +kernel
  ⟨free, found, color_tags free found⟩

/-- A quote in the name of a colour ends the attribute of the tag, and a `>` behind it ends the tag. -/
theorem quote_in_color_tag :
    let text := "&color(red\x22 id=\x22a>b)\x7bt\x7d".toList
    (∀ word ∈ embeds, ¬ word <:+: text) ∧
      Inline.convert text = "<span style=\x22color: red\x22 id=\x22a>b;\x22>t</span>".toList ∧
      ¬ ∃ color rest, '\x22' ∉ color ∧ '>' ∉ color ∧
        Inline.convert text = "<span style=\x22color: ".toList ++ color ++ ";\x22>".toList ++ rest := by
  have converted : Inline.convert "&color(red\x22 id=\x22a>b)\x7bt\x7d".toList =
      "<span style=\x22color: ".toList ++ "red\x22 id=\x22a>b;\x22>t</span>".toList := by decide +kernel
  refine ⟨by decide +kernel, converted, ?_⟩
  rintro ⟨color, rest, unquoted, -, shape⟩
  rw [converted, List.append_assoc, List.append_assoc, List.append_cancel_left_eq] at shape
  -- the quote is the fourth character, and none of the first three is the end of a name
  rcases color with _ | ⟨r, _ | ⟨e, _ | ⟨d, _ | ⟨quote, color⟩⟩⟩⟩
  all_goals simp at shape unquoted
  exact unquoted.2.2.2.1 shape.2.2.2.1

end Wikidown
