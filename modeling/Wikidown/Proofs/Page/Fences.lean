import Mathlib.Algebra.Ring.Parity
import Wikidown.Proofs.Page.Lines

/-!
# Code in pages

A line of a page lies in code if it is a fence or an odd number of fences stand above it. The
stretches of a page are found from the lines alone, so whether a block lies in code depends on the
fences above it and in it, and what lies in code comes out of redirecting as it was.
-/

namespace Wikidown.Page

set_option autoImplicit false

/-- A text after which a line of a page begins, whatever stands there. -/
def Whole (text : Text) : Prop := text = [] ∨ text.getLast? = some '\n'

/-- The number of lines of a text that are fences. -/
def fences (text : Text) : Nat := (wholeLines text).countP isFence

/-- A block of a page, between what stands above and below it, lies in one stretch of code. -/
def InCode (above block below : Text) : Prop :=
  ∃ before stretch after left right, stretches (above ++ block ++ below) = before ++ stretch :: after ∧
    stretch.isCode = true ∧ stretch.text = left ++ block ++ right ∧
    above = before.flatMap Stretch.text ++ left

/-! ## Lines -/

theorem Whole.append {front back : Text} (first : Whole front) (second : Whole back) :
    Whole (front ++ back) := by
  rcases second with rfl | ends
  · rwa [List.append_nil]
  · refine .inr ?_
    rw [List.getLast?_append, ends]
    rfl

theorem Whole.broken {front : Text} (whole : Whole front) (back : Text) : Broken front back := by
  intro last ends
  rcases whole with rfl | feed
  · simp at ends
  · obtain rfl : '\n' = last := Option.some.inj (feed.symm.trans ends)
    exact ⟨by decide, by simp⟩

theorem whole_lines_append {front : Text} (whole : Whole front) (back : Text) :
    wholeLines (front ++ back) = wholeLines front ++ wholeLines back :=
  whole_lines_append_of_broken (whole.broken back)

/-! ## Classes of lines -/

/-- Whether lines leave code open below them. -/
def leavesOpen (content : List Text) : Bool := decide (Odd (content.countP isFence))

theorem leaves_open_cons (line : Text) (content : List Text) :
    leavesOpen (line :: content) = (isFence line != leavesOpen content) := by
  rw [leavesOpen, leavesOpen, List.countP_cons]
  cases isFence line with
  | false => simp
  | true =>
      by_cases odd : Odd (content.countP isFence)
      · simp [Nat.odd_add_one, odd]
      · simp [Nat.odd_add_one, odd]

theorem classify_append (inCode : Bool) (front back : List Text) :
    classify inCode (front ++ back) =
      classify inCode front ++ classify (inCode != leavesOpen front) back := by
  induction front generalizing inCode with
  | nil => simp [classify, leavesOpen]
  | cons line front ih =>
      rw [List.cons_append, classify, classify, ih, List.cons_append, leaves_open_cons, Bool.bne_assoc]

/-- Lines belong to code as a whole when each of them is a fence or has code open above it. -/
theorem classify_code_iff (inCode : Bool) (content : List Text) :
    (∀ one ∈ classify inCode content, one.1 = true) ↔
      ∀ front line back, content = front ++ line :: back → isFence line = false →
        (inCode != leavesOpen front) = true := by
  induction content generalizing inCode with
  | nil => simp [classify]
  | cons first content ih =>
      rw [classify, List.forall_mem_cons, ih]
      constructor
      · rintro ⟨here, later⟩ front line back shape other
        cases front with
        | nil =>
            obtain ⟨rfl, _⟩ := List.cons.inj shape
            simpa [leavesOpen, other] using here
        | cons _ front =>
            obtain ⟨rfl, rest⟩ := List.cons.inj shape
            rw [leaves_open_cons, ← Bool.bne_assoc]
            exact later front line back rest other
      · intro all
        refine ⟨?_, fun front line back shape other => ?_⟩
        · cases fence : isFence first with
          | true => simp
          | false => simpa [leavesOpen] using all [] first content rfl fence
        · rw [Bool.bne_assoc, ← leaves_open_cons]
          exact all (first :: front) line back (by rw [shape]; rfl) other

/-! ## Stretches -/

/-- For each character of classified lines whether it belongs to code. -/
def shadesOf (marked : List (Bool × Text)) : List Bool :=
  marked.flatMap fun one => List.replicate one.2.length one.1

/-- For each character of stretches whether it belongs to code. -/
def shades (content : List Stretch) : List Bool :=
  content.flatMap fun stretch => List.replicate stretch.text.length stretch.isCode

theorem shades_of_append (front back : List (Bool × Text)) :
    shadesOf (front ++ back) = shadesOf front ++ shadesOf back := List.flatMap_append

theorem shades_of_length (marked : List (Bool × Text)) :
    (shadesOf marked).length = (marked.map Prod.snd).flatten.length := by
  rw [shadesOf, List.length_flatMap, List.length_flatten, List.map_map]
  simp [Function.comp_def]

theorem shades_merge (marked : List (Bool × Text)) : shades (merge marked) = shadesOf marked := by
  induction marked with
  | nil => rfl
  | cons first rest ih =>
      obtain ⟨isCode, line⟩ := first
      rw [shadesOf, List.flatMap_cons, ← shadesOf, ← ih]
      simp only [merge]
      split
      · next empty => simp [empty, shades]
      · next next more shape =>
          rw [shape]
          split
          · next same => simp [shades, same, ← List.replicate_append_replicate]
          · simp [shades]

theorem shades_length (content : List Stretch) :
    (shades content).length = (content.flatMap Stretch.text).length := by
  rw [shades, List.length_flatMap, List.length_flatMap]
  simp

theorem merge_code_first {block : List (Bool × Text)} (nonempty : block ≠ [])
    (code : ∀ one ∈ block, one.1 = true) (back : List (Bool × Text)) :
    ∃ stretch after right, merge (block ++ back) = stretch :: after ∧ stretch.isCode = true ∧
      stretch.text = (block.map Prod.snd).flatten ++ right := by
  induction block with
  | nil => contradiction
  | cons first block ih =>
      obtain ⟨isCode, line⟩ := first
      rw [List.forall_mem_cons] at code
      obtain rfl : isCode = true := code.1
      by_cases single : block = []
      · rw [single, List.cons_append, List.nil_append, merge]
        split
        · exact ⟨_, [], [], rfl, rfl, by simp⟩
        · next next more shape =>
            split
            · exact ⟨_, more, next.text, rfl, rfl, by simp⟩
            · exact ⟨_, next :: more, [], rfl, rfl, by simp⟩
      · obtain ⟨stretch, after, right, shape, shade, text⟩ := ih single code.2
        rw [List.cons_append, merge, shape]
        dsimp only
        rw [if_pos shade]
        exact ⟨_, after, right, rfl, rfl, by simp [text]⟩

/-- Lines that all belong to code are part of one stretch. -/
theorem merge_code (front : List (Bool × Text)) {block : List (Bool × Text)} (nonempty : block ≠ [])
    (code : ∀ one ∈ block, one.1 = true) (back : List (Bool × Text)) :
    ∃ before stretch after left right, merge (front ++ (block ++ back)) = before ++ stretch :: after ∧
      stretch.isCode = true ∧ stretch.text = left ++ (block.map Prod.snd).flatten ++ right ∧
      (front.map Prod.snd).flatten = before.flatMap Stretch.text ++ left := by
  induction front with
  | nil =>
      obtain ⟨stretch, after, right, shape, shade, text⟩ := merge_code_first nonempty code back
      exact ⟨[], stretch, after, [], right, shape, shade, by simp [text], rfl⟩
  | cons first front ih =>
      obtain ⟨isCode, line⟩ := first
      obtain ⟨before, stretch, after, left, right, shape, shade, text, above⟩ := ih
      rw [List.cons_append, merge, shape]
      cases before with
      | nil =>
          rw [List.nil_append]
          dsimp only
          split
          · next same =>
              refine ⟨[], _, after, line ++ left, right, rfl, ?_, ?_, ?_⟩
              · rw [← same, shade]
              · simp [text]
              · simp [above]
          · exact ⟨[_], stretch, after, left, right, rfl, shade, text, by simp [above]⟩
      | cons next before =>
          rw [List.cons_append]
          dsimp only
          split
          · exact ⟨_ :: before, stretch, after, left, right, rfl, shade, text, by simp [above]⟩
          · exact ⟨_ :: next :: before, stretch, after, left, right, rfl, shade, text, by simp [above]⟩

/-- Only lines that belong to code are part of a stretch of code. -/
theorem code_of_merge {front block back : List (Bool × Text)} {before after : List Stretch}
    {stretch : Stretch} {left right : Text}
    (shape : merge (front ++ (block ++ back)) = before ++ stretch :: after) (shade : stretch.isCode = true)
    (text : stretch.text = left ++ (block.map Prod.snd).flatten ++ right)
    (split : (front.map Prod.snd).flatten = before.flatMap Stretch.text ++ left) {one : Bool × Text}
    (member : one ∈ block) (visible : one.2 ≠ []) : one.1 = true := by
  -- the characters of the block, by the stretches and by the lines
  have shaded : shades before ++ List.replicate left.length true ++
      (List.replicate (block.map Prod.snd).flatten.length true ++
        (List.replicate right.length true ++ shades after)) =
      shadesOf front ++ (shadesOf block ++ shadesOf back) := by
    rw [← shades_of_append, ← shades_of_append, ← shades_merge, shape]
    simp only [shades, List.flatMap_append, List.flatMap_cons, shade, text, List.length_append,
      ← List.replicate_append_replicate, List.append_assoc]
  have below := (List.append_inj shaded (by
    rw [List.length_append, shades_length, List.length_replicate, ← List.length_append, ← split,
      shades_of_length])).2
  have same := (List.append_inj below (by rw [List.length_replicate, shades_of_length])).1
  have inside : one.1 ∈ shadesOf block := List.mem_flatMap.mpr ⟨one, member,
    List.mem_replicate.mpr ⟨Nat.ne_of_gt (List.length_pos_iff.mpr visible), rfl⟩⟩
  rw [← same] at inside
  exact List.eq_of_mem_replicate inside

theorem open_below_iff (above : Text) (front : List Text) :
    (leavesOpen (wholeLines above) != leavesOpen front) = true ↔
      Odd (fences above + front.countP isFence) := by
  rw [fences, leavesOpen, leavesOpen, Nat.odd_add, ← Nat.not_odd_iff_even]
  by_cases first : Odd ((wholeLines above).countP isFence) <;>
    by_cases second : Odd (front.countP isFence) <;> simp [first, second]

/-- The exact condition for a block to lie in code: whatever is no fence in it has code open above it. -/
theorem in_code_iff {above block : Text} (wholeAbove : Whole above) (whole : Whole block)
    (nonempty : block ≠ []) (below : Text) :
    InCode above block below ↔ ∀ front line back, wholeLines block = front ++ line :: back →
      isFence line = false → Odd (fences above + front.countP isFence) := by
  have cut : classify false (wholeLines (above ++ block ++ below)) =
      classify false (wholeLines above) ++ (classify (leavesOpen (wholeLines above)) (wholeLines block) ++
        classify (leavesOpen (wholeLines above) != leavesOpen (wholeLines block)) (wholeLines below)) := by
    rw [List.append_assoc, whole_lines_append wholeAbove, whole_lines_append whole, classify_append,
      classify_append, Bool.false_bne]
  simp only [← open_below_iff]
  rw [← classify_code_iff]
  constructor
  · rintro ⟨before, stretch, after, left, right, shape, shade, text, split⟩ one member
    rw [stretches, cut] at shape
    have lines := classify_text (leavesOpen (wholeLines above)) (wholeLines block)
    have line : one.2 ∈ wholeLines block := by
      rw [← lines]
      exact List.mem_map_of_mem member
    rw [← whole_lines_flatten block, ← lines] at text
    rw [← whole_lines_flatten above, ← classify_text false (wholeLines above)] at split
    exact code_of_merge shape shade text split member (ne_nil_of_mem_whole_lines line)
  · intro code
    have some : classify (leavesOpen (wholeLines above)) (wholeLines block) ≠ [] := by
      intro none
      have same := classify_text (leavesOpen (wholeLines above)) (wholeLines block)
      rw [none] at same
      exact whole_lines_ne_nil nonempty same.symm
    obtain ⟨before, stretch, after, left, right, shape, shade, text, split⟩ :=
      merge_code (classify false (wholeLines above)) some code
        (classify (leavesOpen (wholeLines above) != leavesOpen (wholeLines block)) (wholeLines below))
    rw [classify_text, whole_lines_flatten] at text split
    exact ⟨before, stretch, after, left, right, by rw [stretches, cut, shape], shade, text, split⟩

theorem cut_before_last {content front back : List Text} {line last : Text}
    (shape : content ++ [last] = front ++ line :: back) (other : line ≠ last) :
    ∃ more, content = front ++ line :: more := by
  obtain rfl | ⟨back, final, rfl⟩ := List.eq_nil_or_concat back
  · exact absurd (List.append_inj_right' shape rfl) (by simpa using other.symm)
  · rw [List.concat_eq_append, ← List.cons_append, ← List.append_assoc] at shape
    exact ⟨back, List.append_inj_left' shape rfl⟩

/-- The exact condition for a block between two fences: what is no fence in its content has an even number
of fences above it, not counting the fence that opens the block. -/
theorem in_code_fenced_iff {above opening content closing : Text} (wholeAbove : Whole above)
    (whole : Whole opening) (wholeContent : Whole content) (wholeClosing : Whole closing)
    (opens : wholeLines opening = [opening]) (closes : wholeLines closing = [closing])
    (fence : isFence opening = true) (fenceToo : isFence closing = true) (below : Text) :
    InCode above (opening ++ content ++ closing) below ↔
      ∀ front line back, wholeLines content = front ++ line :: back → isFence line = false →
        Even (fences above + front.countP isFence) := by
  have block : wholeLines (opening ++ content ++ closing) =
      opening :: (wholeLines content ++ [closing]) := by
    rw [List.append_assoc, whole_lines_append whole, whole_lines_append wholeContent, opens, closes]
    rfl
  have nonempty : opening ++ content ++ closing ≠ [] := by
    intro none
    rw [none] at block
    exact absurd block (by simp [wholeLines])
  have parity (front : List Text) : Odd (fences above + (opening :: front).countP isFence) ↔
      Even (fences above + front.countP isFence) := by
    rw [List.countP_cons, if_pos fence, ← Nat.add_assoc, Nat.odd_add_one, Nat.not_odd_iff_even]
  rw [in_code_iff wholeAbove ((whole.append wholeContent).append wholeClosing) nonempty, block]
  constructor
  · intro code front line back shape other
    rw [← parity]
    exact code (opening :: front) line (back ++ [closing]) (by rw [shape]; simp) other
  · intro code front line back shape other
    cases front with
    | nil =>
        obtain ⟨rfl, _⟩ := List.cons.inj shape
        exact absurd fence (by simp [other])
    | cons first front =>
        obtain ⟨rfl, rest⟩ := List.cons.inj shape
        obtain ⟨more, within⟩ := cut_before_last rest fun same => by
          rw [same, fenceToo] at other
          exact absurd other (by simp)
        rw [parity]
        exact code front line more within other

/-- What stretches become when their links are redirected. -/
def redirectedText (resolve? : Text → Option Text) (content : List Stretch) : Text :=
  content.flatMap fun stretch => stretch.pieces.flatMap fun piece => (piece.redirect resolve?).text

theorem redirect_eq (resolve? : Text → Option Text) (content : Text) :
    redirect resolve? content = redirectedText resolve? (stretches content) := List.flatMap_assoc

/-- A block that lies in code stands in the redirected page as it was. -/
theorem redirect_in_code {above block below : Text} (inCode : InCode above block below)
    (resolve? : Text → Option Text) :
    ∃ ahead behind, redirect resolve? (above ++ block ++ below) = ahead ++ block ++ behind := by
  obtain ⟨before, stretch, after, left, right, shape, shade, text, _⟩ := inCode
  refine ⟨redirectedText resolve? before ++ left, right ++ redirectedText resolve? after, ?_⟩
  have kept : redirectedText resolve? [stretch] = left ++ block ++ right := by
    rw [← text]
    simp [redirectedText, Stretch.pieces, shade, Piece.redirect, Piece.text, List.flatMap_map]
  rw [redirect_eq, shape, ← List.singleton_append, redirectedText, List.flatMap_append, List.flatMap_append,
    ← redirectedText, ← redirectedText, ← redirectedText, kept]
  simp

/-! ## Pages of one line -/

theorem whole_lines_line {line ending : Text} (inside : ∀ c ∈ line, isLineEnd c = false)
    (ends : wholeLines ending = [ending]) : wholeLines (line ++ ending) = [line ++ ending] := by
  induction line with
  | nil => exact ends
  | cons c line ih =>
      rw [List.forall_mem_cons] at inside
      have apart : ¬ (c = '\r' ∧ (line ++ ending).head? = some '\n') := by
        rintro ⟨rfl, _⟩
        exact absurd inside.1 (by decide)
      rw [List.cons_append, whole_lines_cons apart, if_neg (by simp [inside.1]), ih inside.2]

/-- A page of one line that is no fence holds no code. -/
theorem page_pieces_line {line ending : Text} (inside : ∀ c ∈ line, isLineEnd c = false)
    (ends : wholeLines ending = [ending]) (text : isFence (line ++ ending) = false) :
    pagePieces (line ++ ending) = linkPieces (line ++ ending) := by
  have single : stretches (line ++ ending) = [⟨false, line ++ ending⟩] := by
    rw [stretches, whole_lines_line inside ends, classify, text]
    rfl
  rw [pagePieces, single]
  exact List.flatMap_singleton _ _

end Wikidown.Page
