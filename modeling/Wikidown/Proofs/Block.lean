import Wikidown.Block
import Wikidown.Proofs.Text.Lines

/-!
# How blocks are found

What a search for blocks does with lines that open none, and where the block that a line opens
ends.
-/

namespace Wikidown

set_option autoImplicit false


theorem not_suffix_of_last {closing text : Text} {c d : Char} (closes : closing.getLast? = some c)
    (last : text.getLast? = some d) (other : c ≠ d) : ¬ closing <:+ text := by
  rintro ⟨front, rfl⟩
  have nonempty : closing ≠ [] := by
    rintro rfl
    simp at closes
  rw [List.getLast?_append_of_ne_nil _ nonempty, closes] at last
  exact other (Option.some.inj last)

theorem before_eq_none_of_not_suffix {closing text : Text} (other : ¬ closing <:+ text) :
    before? closing text = none := by
  cases found : before? closing text with
  | none => rfl
  | some front => exact absurd ⟨front, (before_eq_some.mp found).symm⟩ other

theorem before_eq_none_of_absent {closing text : Text} (absent : ¬ closing <:+: text) :
    before? closing text = none := before_eq_none_of_not_suffix fun suffix => absent suffix.isInfix

theorem after_eq_none_of_not_prefix {opening text : Text} (other : ¬ opening <+: text) :
    after? opening text = none := by
  cases found : after? opening text with
  | none => rfl
  | some rest =>
      rw [after_eq_some] at found
      exact absurd ⟨rest, found.symm⟩ other

theorem after_append (opening text : Text) : after? opening (opening ++ text) = some text :=
  after_eq_some.mpr rfl

theorem before_append (closing text : Text) : before? closing (text ++ closing) = some text :=
  before_eq_some.mpr rfl

namespace BlockShape

variable {shape : BlockShape} {line last : Line} {inner rest : List Line}

theorem last_line_of_absent (rest : List Line) (absent : before? shape.closing line = none) :
    shape.lastLine? line rest = none := by
  unfold lastLine?
  split
  · exact absent
  · rfl

theorem last_line_eq_some : shape.lastLine? line rest = some last ↔
    shape.endsBefore rest = true ∧ line = last ++ shape.closing := by
  unfold lastLine?
  split
  · next ends => rw [before_eq_some, and_iff_right ends]
  · next continued => simp [continued]

theorem body_from_closed (shape : BlockShape) (ends : shape.endsBefore rest = true) :
    shape.bodyFrom? (last ++ shape.closing) rest = some ([last], rest) := by
  have found : shape.lastLine? (last ++ shape.closing) rest = some last :=
    last_line_eq_some.mpr ⟨ends, rfl⟩
  cases rest with
  | nil => simp [bodyFrom?, found]
  | cons next rest => simp [bodyFrom?, found]

/-- A block goes on through lines that do not end with the closing. -/
theorem body_from_reaches (shape : BlockShape) (ends : shape.endsBefore rest = true)
    (unclosed : ∀ content ∈ line :: inner, before? shape.closing content = none) :
    shape.bodyFrom? line (inner ++ (last ++ shape.closing) :: rest) =
      some (line :: inner ++ [last], rest) := by
  induction inner generalizing line with
  | nil =>
      have here := last_line_of_absent ((last ++ shape.closing) :: rest) (unclosed line (by simp))
      simp only [List.nil_append, bodyFrom?, here, body_from_closed shape ends]
      rfl
  | cons next inner ih =>
      have here := last_line_of_absent (next :: (inner ++ (last ++ shape.closing) :: rest))
        (unclosed line (by simp))
      have later := @ih next fun content member =>
        unclosed content (List.mem_cons_of_mem _ member)
      simp only [List.cons_append, bodyFrom?, here, later]
      rfl

theorem segments_from_nil : shape.segmentsFrom [] = [] := by rw [segmentsFrom]

theorem segments_from_of_none (nothing : shape.body? line rest = none) :
    shape.segmentsFrom (line :: rest) = .line line :: shape.segmentsFrom rest := by
  rw [segmentsFrom]
  split <;> simp_all

theorem segments_from_of_some {body remaining : List Line}
    (found : shape.body? line rest = some (body, remaining)) :
    shape.segmentsFrom (line :: rest) =
      .block body :: ((remaining.take (shape.inert remaining)).map .line ++
        shape.segmentsFrom (remaining.drop (shape.inert remaining))) := by
  rw [segmentsFrom]
  split <;> simp_all

theorem body_of_unopened (unopened : after? shape.opening line = none) : shape.body? line rest = none := by
  rw [body?, unopened, Option.bind_none]

/-- The body of a block is searched for behind its opening. -/
theorem body_of_after {front : Line} (opens : after? shape.opening line = some front) :
    shape.body? line rest = shape.bodyFrom? front rest := by
  rw [body?, opens, Option.bind_some]

/-- Lines that do not begin with the opening open no block. -/
theorem segments_from_of_unopened {content : List Line}
    (unopened : ∀ line ∈ content, after? shape.opening line = none) :
    shape.segmentsFrom (content ++ rest) = content.map .line ++ shape.segmentsFrom rest := by
  induction content with
  | nil => rfl
  | cons line content ih =>
      have nothing : shape.body? line (content ++ rest) = none :=
        body_of_unopened (unopened line List.mem_cons_self)
      rw [List.cons_append, segments_from_of_none nothing,
        ih fun other member => unopened other (List.mem_cons_of_mem _ member)]
      rfl

/-- The lines that a segment was cut from. -/
def source (shape : BlockShape) : Segment → List Line
  | .line content => [content]
  | .block body => shape.blockLines body

theorem block_lines_of_last (shape : BlockShape) (wholeOpening : '\n' ∉ shape.opening)
    (whole : ∀ content ∈ inner ++ [last ++ shape.closing], '\n' ∉ content) {first : Line}
    {more : List Line} (begins : inner ++ [last ++ shape.closing] = first :: more) :
    shape.blockLines (inner ++ [last]) = (shape.opening ++ first) :: more := by
  have wholeLast : '\n' ∉ last ++ shape.closing := whole _ (by simp)
  rw [List.mem_append, not_or] at wholeLast
  have body : lines (unlines (inner ++ [last])) = inner ++ [last] := by
    refine lines_unlines (by simp) fun content member => ?_
    rcases List.mem_append.mp member with earlier | final
    · exact whole content (List.mem_append_left _ earlier)
    · rw [List.mem_singleton.mp final]
      exact wholeLast.1
  rw [blockLines, List.append_assoc]
  refine lines_append wholeOpening ?_
  rw [lines_join body (lines_of_no_newline wholeLast.2), ← begins]

/-- A block that a search finds consists of the lines that it takes. -/
theorem body_from_source {body remaining : List Line}
    (found : shape.bodyFrom? line rest = some (body, remaining)) :
    ∃ inner last, body = inner ++ [last] ∧
      line :: rest = inner ++ (last ++ shape.closing) :: remaining := by
  induction rest generalizing line body with
  | nil =>
      simp only [bodyFrom?, Option.map_eq_some_iff, Prod.mk.injEq] at found
      obtain ⟨last, closed, rfl, rfl⟩ := found
      exact ⟨[], last, rfl, by rw [(last_line_eq_some.mp closed).2]; rfl⟩
  | cons next rest ih =>
      simp only [bodyFrom?] at found
      split at found
      · next last closed =>
          obtain ⟨rfl, rfl⟩ := Prod.mk.inj (Option.some.inj found)
          exact ⟨[], last, rfl, by rw [(last_line_eq_some.mp closed).2]; rfl⟩
      · simp only [Option.map_eq_some_iff, Prod.mk.injEq] at found
        obtain ⟨⟨more, tail⟩, later, rfl, rfl⟩ := found
        obtain ⟨inner, last, rfl, split⟩ := ih later
        exact ⟨line :: inner, last, rfl, by rw [split]; rfl⟩

/-- The lines below the first that a search takes. -/
theorem body_from_taken {body remaining : List Line}
    (found : shape.bodyFrom? line rest = some (body, remaining)) :
    ∃ taken, rest = taken ++ remaining ∧ unlines body ++ shape.closing = unlines (line :: taken) ∧
      ∃ inner last, line :: taken = inner ++ [last ++ shape.closing] := by
  obtain ⟨inner, last, rfl, split⟩ := body_from_source found
  obtain ⟨start, taken, begins⟩ := List.exists_cons_of_ne_nil
    (show inner ++ [last ++ shape.closing] ≠ [] by simp)
  have joined : line :: rest = (start :: taken) ++ remaining := by
    rw [split, ← begins]
    simp
  obtain ⟨rfl, shape⟩ := List.cons.inj joined
  refine ⟨taken, shape, ?_, inner, last, begins.symm⟩
  rw [← begins, unlines_append_last]

theorem body_from_ends {body remaining : List Line}
    (found : shape.bodyFrom? line rest = some (body, remaining)) :
    shape.endsBefore remaining = true := by
  induction rest generalizing line body with
  | nil =>
      simp only [bodyFrom?, Option.map_eq_some_iff, Prod.mk.injEq] at found
      obtain ⟨_, closed, _, rfl⟩ := found
      exact (last_line_eq_some.mp closed).1
  | cons next rest ih =>
      simp only [bodyFrom?] at found
      split at found
      · next last closed =>
          obtain ⟨_, rfl⟩ := Prod.mk.inj (Option.some.inj found)
          exact (last_line_eq_some.mp closed).1
      · simp only [Option.map_eq_some_iff, Prod.mk.injEq] at found
        obtain ⟨⟨_, tail⟩, later, _, rfl⟩ := found
        exact ih later

/-- A block does not end where no lines below let it. -/
theorem body_from_of_endless (endless : ∀ remaining, remaining <:+ rest → shape.endsBefore remaining = false) :
    shape.bodyFrom? line rest = none := by
  cases found : shape.bodyFrom? line rest with
  | none => rfl
  | some result =>
      obtain ⟨body, remaining⟩ := result
      obtain ⟨taken, split, _⟩ := body_from_taken found
      have ends := body_from_ends found
      rw [endless remaining ⟨taken, split.symm⟩] at ends
      exact absurd ends (by decide)

theorem segments_from_of_no_body {content : List Line}
    (nothing : ∀ line rest, line :: rest <:+ content → shape.body? line rest = none) :
    shape.segmentsFrom content = content.map .line := by
  induction content with
  | nil => exact segments_from_nil
  | cons line content ih =>
      rw [segments_from_of_none (nothing line content List.suffix_rfl),
        ih fun other rest below => nothing other rest (below.trans (List.suffix_cons line content))]
      rfl

theorem segments_from_unopened {content : List Line}
    (unopened : ∀ line ∈ content, after? shape.opening line = none) :
    shape.segmentsFrom content = content.map .line :=
  segments_from_of_no_body fun line _ below => body_of_unopened (unopened line (below.subset List.mem_cons_self))

/-- Where the next line decides whether a block ends, a block is found again above other lines. -/
theorem body_from_above {taken remaining other body : List Line}
    (near : ∀ next rest other, shape.endsBefore (next :: rest) = shape.endsBefore (next :: other))
    (found : shape.bodyFrom? line (taken ++ remaining) = some (body, remaining))
    (ends : shape.endsBefore other = true) :
    shape.bodyFrom? line (taken ++ other) = some (body, other) := by
  induction taken generalizing line body with
  | nil =>
      obtain ⟨inner, last, rfl, split⟩ := body_from_source found
      have alone : inner = [] := by
        have size := congrArg List.length split
        simp only [List.nil_append, List.length_cons, List.length_append] at size
        exact List.length_eq_zero_iff.mp (by omega)
      subst alone
      obtain ⟨rfl, _⟩ := List.cons.inj split
      exact body_from_closed shape ends
  | cons next taken ih =>
      have passed : shape.lastLine? line (next :: (taken ++ other)) =
          shape.lastLine? line (next :: (taken ++ remaining)) := by
        rw [lastLine?, lastLine?, near next (taken ++ other) (taken ++ remaining)]
      simp only [List.cons_append, bodyFrom?, passed] at found ⊢
      split at found
      · next last _ =>
          have size := congrArg List.length (Prod.mk.inj (Option.some.inj found)).2
          simp only [List.length_cons, List.length_append] at size
          omega
      · simp only [Option.map_eq_some_iff, Prod.mk.injEq] at found
        obtain ⟨⟨inner, tail⟩, later, rfl, rfl⟩ := found
        simp only [ih later, Option.map_some]

theorem body_source {body remaining : List Line} (wholeOpening : '\n' ∉ shape.opening)
    (whole : ∀ content ∈ line :: rest, '\n' ∉ content)
    (found : shape.body? line rest = some (body, remaining)) :
    shape.blockLines body ++ remaining = line :: rest := by
  obtain ⟨first, front, later⟩ := Option.bind_eq_some_iff.mp found
  obtain ⟨inner, last, rfl, split⟩ := body_from_source later
  rw [after_eq_some.mp front] at whole ⊢
  have wholeFirst : '\n' ∉ first := by
    have both := whole _ (List.mem_cons_self ..)
    rw [List.mem_append, not_or] at both
    exact both.2
  have wholeLines : ∀ content ∈ first :: rest, '\n' ∉ content := by
    intro content member
    rcases List.mem_cons.mp member with rfl | later
    · exact wholeFirst
    · exact whole content (List.mem_cons_of_mem _ later)
  obtain ⟨start, more, begins⟩ : ∃ start more, inner ++ [last ++ shape.closing] = start :: more :=
    List.exists_cons_of_ne_nil (by simp)
  have joined : first :: rest = (start :: more) ++ remaining := by
    rw [split, ← begins]
    simp
  obtain ⟨rfl, rfl⟩ := List.cons.inj joined
  rw [block_lines_of_last shape wholeOpening (fun content member => ?_) begins]
  · rfl
  · refine wholeLines content ?_
    rw [joined, ← begins]
    exact List.mem_append_left _ member

/-- Cutting a document into segments loses nothing. -/
theorem segments_from_source {content : List Line} (wholeOpening : '\n' ∉ shape.opening)
    (whole : ∀ line ∈ content, '\n' ∉ line) :
    (shape.segmentsFrom content).flatMap shape.source = content := by
  induction size : content.length using Nat.strong_induction_on generalizing content with
  | _ size ih =>
      cases content with
      | nil => rw [segments_from_nil, List.flatMap_nil]
      | cons line rest =>
          cases found : shape.body? line rest with
          | none =>
              rw [segments_from_of_none found, List.flatMap_cons,
                ih rest.length (by simp [← size]) (fun other member => whole other (by simp [member]))
                  rfl]
              rfl
          | some result =>
              obtain ⟨body, remaining⟩ := result
              have shorter := body_length found
              have split := body_source wholeOpening whole found
              have later := ih (remaining.drop (shape.inert remaining)).length
                (by simp only [List.length_cons, List.length_drop] at size ⊢; omega)
                (fun other member => whole other (by
                  rw [← split]
                  exact List.mem_append_right _ (List.mem_of_mem_drop member))) rfl
              rw [segments_from_of_some found, List.flatMap_cons, List.flatMap_append, later]
              have kept : ((remaining.take (shape.inert remaining)).map Segment.line).flatMap
                  shape.source = remaining.take (shape.inert remaining) := by
                rw [List.flatMap_map]
                exact List.flatMap_pure_eq_map id _ |>.trans (List.map_id _)
              rw [kept, List.take_append_drop]
              exact split

theorem segments_source {content : List Line} (wholeOpening : '\n' ∉ shape.opening)
    (whole : ∀ line ∈ content, '\n' ∉ line) :
    (shape.segments content).flatMap shape.source = content := by
  cases content with
  | nil => rfl
  | cons first rest =>
      rw [segments, List.flatMap_cons,
        segments_from_source wholeOpening fun other member => whole other (by simp [member])]
      rfl

theorem mem_of_segment_line {content : List Line} (wholeOpening : '\n' ∉ shape.opening)
    (whole : ∀ line ∈ content, '\n' ∉ line) (member : .line line ∈ shape.segments content) :
    line ∈ content := by
  rw [← segments_source wholeOpening whole]
  exact List.mem_flatMap.mpr ⟨_, member, List.mem_singleton.mpr rfl⟩

end BlockShape

end Wikidown
