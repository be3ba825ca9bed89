import Wikidown.Placeholder.Restore
import Wikidown.Proofs.Placeholder.Woven
import Wikidown.Proofs.Text.Rewrite

/-!
# Restoring parts

Restoring one kind of parts copies the stretches between the parts and the parts of other kinds, and
writes each part of the kind with blank lines around it, where there are none.
-/

namespace Wikidown

set_option autoImplicit false

variable {kind : Kind} {parts : List Text} {render : Text → Except NumberTooLong Text}
  {written text rest : Text}

theorem read_token_of_digits (kind : Kind) {digits : Text} (numeral : ∀ d ∈ digits, isDigit d = true)
    (nonempty : digits ≠ []) (rest : Text) :
    readToken? kind (kind.opening ++ digits ++ tokenClosing ++ rest) = some (digits, rest) := by
  have shape : kind.opening ++ digits ++ tokenClosing ++ rest =
      kind.opening ++ (digits ++ (tokenClosing ++ rest)) := by
    simp
  have brace : isDigit '\x7d' = false := by decide
  have front : (digits ++ (tokenClosing ++ rest)).takeWhile isDigit = digits := by
    rw [List.takeWhile_append_of_pos numeral]
    simp [tokenClosing, brace]
  have back : (digits ++ (tokenClosing ++ rest)).dropWhile isDigit = tokenClosing ++ rest := by
    rw [List.dropWhile_append_of_pos numeral]
    simp [tokenClosing, brace]
  have some : digits.isEmpty = false := by simp [nonempty]
  rw [readToken?, shape, after_eq_some.mpr rfl, Option.bind_some, front, back, some,
    after_eq_some.mpr rfl]
  rfl

theorem read_token_of_token (kind : Kind) (index : Nat) (rest : Text) :
    readToken? kind (token kind index ++ rest) = some (decimalText index, rest) :=
  read_token_of_digits kind (fun _ member => is_digit_of_ascii (decimal_is_digit member))
    (decimal_text_ne_nil index) rest

/-- What is read as a placeholder is written as one. -/
theorem read_token_shape {digits : Text} (read : readToken? kind text = some (digits, rest)) :
    text = kind.opening ++ digits ++ tokenClosing ++ rest ∧ ∀ d ∈ digits, isDigit d = true := by
  obtain ⟨tail, front, more⟩ := Option.bind_eq_some_iff.mp read
  split at more
  · simp at more
  · simp only [Option.map_eq_some_iff, Prod.mk.injEq] at more
    obtain ⟨_, closed, rfl, rfl⟩ := more
    refine ⟨?_, fun d member => List.mem_takeWhile_imp member⟩
    rw [after_eq_some.mp front, List.append_assoc, List.append_assoc, ← after_eq_some.mp closed,
      List.takeWhile_append_dropWhile]

theorem read_token_eq_none (other : ¬ kind.opening <+: text) : readToken? kind text = none := by
  cases found : after? kind.opening text with
  | none => rw [readToken?, found]; rfl
  | some rest => exact absurd ⟨rest, (after_eq_some.mp found).symm⟩ other

/-- No placeholder goes on behind a line feed. -/
theorem read_token_append_newline (kind : Kind) (text tail : Text) :
    readToken? kind (text ++ '\n' :: tail) =
      (readToken? kind text).map fun (digits, rest) => (digits, rest ++ '\n' :: tail) := by
  have feed : isDigit '\n' = false := by decide
  have opening : '\n' ∉ kind.opening := by cases kind <;> decide
  rw [readToken?, readToken?, after_append_tail opening]
  cases after? kind.opening text with
  | none => rfl
  | some rest =>
      simp only [Option.map_some, Option.bind_some, take_while_append_stop feed,
        drop_while_append_stop feed]
      rw [after_append_tail (by decide : '\n' ∉ tokenClosing)]
      split
      · rfl
      · cases after? tokenClosing (rest.dropWhile isDigit) <;> rfl

theorem read_token_cons_newline (kind : Kind) (text : Text) : readToken? kind ('\n' :: text) = none :=
  read_token_append_newline kind [] text

theorem restore_from_nil : restoreFrom kind parts render written [] = .ok written.reverse := by
  rw [restoreFrom]

theorem restore_from_unread {c : Char} (unread : readToken? kind (c :: text) = none) :
    restoreFrom kind parts render written (c :: text) =
      restoreFrom kind parts render (c :: written) text := by
  rw [restoreFrom]
  split
  · rfl
  · next found =>
      rw [unread] at found
      exact absurd found (by simp)

/-- What is written for a placeholder depends on the part with its number. -/
theorem restore_from_read_eq {c : Char} {digits : Text}
    (read : readToken? kind (c :: text) = some (digits, rest)) :
    restoreFrom kind parts render written (c :: text) = (do
      let index ← boundedNumber digits
      match parts[index]? with
      | none =>
          restoreFrom kind parts render
            ((kind.opening ++ digits ++ tokenClosing).reverse ++ written) rest
      | some part => do
          let rendered ← render part
          restoreFrom kind parts render
            ((withoutDoubledBlank written rest rendered).reverse ++ written) rest) := by
  rw [restoreFrom]
  split
  · next nothing =>
      rw [read] at nothing
      exact absurd nothing (by simp)
  · next here =>
      rw [read] at here
      obtain ⟨rfl, rfl⟩ := Prod.mk.inj (Option.some.inj here)
      rfl

theorem restore_from_cons {c : Char} (other : ¬ kind.opening <+: c :: text) :
    restoreFrom kind parts render written (c :: text) =
      restoreFrom kind parts render (c :: written) text :=
  restore_from_unread (read_token_eq_none other)

theorem restore_from_token {index : Nat} {part rendered : Text} (small : index < 10 ^ digitLimit)
    (known : parts[index]? = some part) (renders : render part = .ok rendered) :
    restoreFrom kind parts render written (token kind index ++ rest) =
      restoreFrom kind parts render
        ((withoutDoubledBlank written rest rendered).reverse ++ written) rest := by
  have found := read_token_of_token kind index rest
  obtain ⟨c, more, shape⟩ := List.exists_cons_of_ne_nil (token_ne_nil kind index)
  rw [shape, List.cons_append] at found ⊢
  rw [restore_from_read_eq found]
  simp [bounded_number_text small, known, renders, bind, Except.bind]

/-- No placeholder of a kind begins within a text that stands before another. -/
def Passes (kind : Kind) (text rest : Text) : Prop :=
  ∀ part, part ≠ [] → part <:+ text → ¬ kind.opening <+: part ++ rest

theorem restore_from_copy (passes : Passes kind text rest) :
    restoreFrom kind parts render written (text ++ rest) =
      restoreFrom kind parts render (text.reverse ++ written) rest := by
  induction text generalizing written with
  | nil => rfl
  | cons c text ih =>
      have other : ¬ kind.opening <+: c :: (text ++ rest) :=
        passes (c :: text) (by simp) (List.suffix_refl _)
      rw [List.cons_append, restore_from_cons other,
        ih fun part nonempty ends => passes part nonempty (ends.trans (List.suffix_cons c text))]
      simp

theorem passes_of_apart (absent : ¬ kind.opening <:+: text)
    (apart : ∀ last next, text.getLast? = some last → rest.head? = some next →
      last ∉ kind.opening ∨ next ∉ kind.opening) : Passes kind text rest := by
  intro part nonempty ends starts
  obtain ⟨tail, shape⟩ := starts
  rcases List.append_eq_append_iff.mp shape with ⟨more, inside, _⟩ | ⟨more, across, behind⟩
  · exact absent (List.IsInfix.trans ⟨[], more, by simp [inside]⟩ ends.isInfix)
  · cases more with
    | nil => exact absent (List.IsInfix.trans ⟨[], [], by simpa using across⟩ ends.isInfix)
    | cons next more =>
        obtain ⟨front, rfl⟩ := ends
        obtain ⟨init, last, rfl⟩ := List.eq_nil_or_concat part |>.resolve_left nonempty
        have lastOf : (front ++ init.concat last).getLast? = some last := by simp
        have nextOf : rest.head? = some next := by rw [behind]; rfl
        rcases apart last next lastOf nextOf with strange | strange
        · exact strange (by rw [across]; simp)
        · exact strange (by rw [across]; simp)

/-! ## One kind of parts -/

/-- What the rendering of a part has at both sides: code and quotes have a line feed there. -/
def Kind.margin : Kind → Text
  | .paragraph => []
  | _ => ['\n']

/-- A text with something else than a line feed at both ends. -/
structure Solid (text : Text) : Prop where
  begins : text.head? ≠ some '\n'
  ends : text.getLast? ≠ some '\n'
  nonempty : text ≠ []

theorem starts_with_feeds {front back : Text} (other : back.head? ≠ some '\n') :
    startsWith "\n\n".toList (front ++ back) = startsWith "\n\n".toList front := by
  match front, back with
  | [], [] => rfl
  | [], c :: back =>
      have strange : '\n' ≠ c := by simpa [eq_comm] using other
      simp [startsWith, after?, strange]
  | [_], [] => rfl
  | [c], d :: back =>
      have strange : '\n' ≠ d := by simpa [eq_comm] using other
      simp [startsWith, after?, strange]
  | c :: d :: front, back =>
      change (after? ['\n', '\n'] (c :: d :: (front ++ back))).isSome =
        (after? ['\n', '\n'] (c :: d :: front)).isSome
      simp only [after?]
      split_ifs <;> rfl

theorem ends_with_feeds (text : Text) :
    endsWith "\n\n".toList text = startsWith "\n\n".toList text.reverse := by
  rw [endsWith, before?, Option.isSome_map, startsWith]
  rfl

theorem after_feed_of_solid {text : Text} (solid : Solid text) :
    after? ['\n'] text = none := by
  cases found : after? ['\n'] text with
  | none => rfl
  | some rest => exact absurd (by rw [after_eq_some.mp found]; rfl) solid.begins

theorem before_feed_of_solid {text : Text} (solid : Solid text) :
    before? ['\n'] text = none := by
  cases found : before? ['\n'] text with
  | none => rfl
  | some rest => exact absurd (by rw [before_eq_some.mp found]; simp) solid.ends

/-- Behind what does not end with a line feed, a part is written with blank lines around it. -/
theorem fitted_part {kind : Kind} {core written stretch after rest : Text} (solid : Solid core)
    (edge : written.getLast? ≠ some '\n')
    (same : startsWith "\n\n".toList rest = startsWith "\n\n".toList after) :
    written ++ stretch ++
        (withoutDoubledBlank (written ++ stretch).reverse rest
          (kind.margin ++ core ++ kind.margin) ++ after) =
      written ++ Woven.ended kind stretch ++ core ++ Woven.begun kind after := by
  have before : startsWith "\n\n".toList (written ++ stretch).reverse =
      endsWith "\n\n".toList stretch := by
    rw [List.reverse_append, ends_with_feeds]
    exact starts_with_feeds (by rwa [List.head?_reverse])
  have opens (text : Text) : after? ['\n'] ('\n' :: text) = some text := after_eq_some.mpr rfl
  have closes (text : Text) : before? ['\n'] (text ++ ['\n']) = some text :=
    before_eq_some.mpr rfl
  have padded : ∀ other : Kind, other ≠ .paragraph → other.margin = ['\n'] := by
    intro other; cases other <;> simp [Kind.margin]
  unfold withoutDoubledBlank Woven.ended Woven.begun
  rw [before, same]
  by_cases paragraph : kind = .paragraph
  · subst paragraph
    simp [Kind.margin, after_feed_of_solid solid, before_feed_of_solid solid]
  · rw [padded kind paragraph]
    have closesBehind : before? ['\n'] ('\n' :: (core ++ ['\n'])) = some ('\n' :: core) :=
      closes ('\n' :: core)
    cases endsWith "\n\n".toList stretch <;> cases startsWith "\n\n".toList after <;>
      simp [paragraph, opens, closes, closesBehind]

/-- A part that is stored under its number and whose rendering is `core` between margins. -/
def Stored (kind : Kind) (parts : List Text) (render : Text → Except NumberTooLong Text)
    (core : Nat → Text) (index : Nat) : Prop :=
  index < 10 ^ digitLimit ∧ ∃ part, parts[index]? = some part ∧
    render part = .ok (kind.margin ++ core index ++ kind.margin)

/-- Parts as they are shown, but those of one kind as `core` says. -/
def reveal (kind : Kind) (core : Nat → Text) (shown : Kind → Nat → Text) : Kind → Nat → Text :=
  fun other index => if other = kind then core index else shown other index

theorem not_opening_of_lacks {text : Text} (lacks : Lacks true mark text) (kind : Kind) :
    ¬ kind.opening <:+: text := by
  have begins : mark <+: kind.opening := by cases kind <;> decide
  exact fun inside => lacks (begins.isInfix.trans inside)

namespace Woven

theorem head_insets_text {shown : Kind → Nat → Text} {insets : List Inset}
    (solid : ∀ inset ∈ insets, Solid (shown inset.kind inset.index)) :
    (insetsText shown insets).head? ≠ some '\n' := by
  cases insets with
  | nil => simp [insetsText]
  | cons inset rest =>
      have here := solid inset (by simp)
      obtain ⟨c, more, shape⟩ := List.exists_cons_of_ne_nil here.nonempty
      have other := here.begins
      rw [shape] at other
      simpa [insetsText, shape] using other

theorem last_of_meets {stretch : Text} (meets : Meets stretch) {kind : Kind} {last : Char}
    (ends : stretch.getLast? = some last) : last ∉ kind.opening := by
  obtain ⟨front, known, rfl | ⟨above, rfl⟩⟩ := meets
  · rcases List.mem_pair.mp known with rfl | rfl
    · simp at ends
    · obtain rfl := Option.some.inj ends
      cases kind <;> decide
  · rcases List.mem_pair.mp known with rfl | rfl
    · obtain rfl : '\n' = last := by simpa using ends
      cases kind <;> decide
    · obtain rfl : ' ' = last := by simpa using ends
      cases kind <;> decide

/-- A stretch is copied: it lacks the mark, and a part behind it completes none. -/
theorem passes_stretch {kind : Kind} {stretch : Text} {insets : List Inset} {rest : Text}
    (strung : Strung mark stretch insets) (last : insets = [] → rest = []) :
    Passes kind stretch rest := by
  cases strung with
  | last lacks =>
      refine passes_of_apart (not_opening_of_lacks lacks kind) fun _ next _ begins => ?_
      rw [last rfl] at begins
      exact absurd begins (by simp)
  | part _ _ lacks meets _ _ =>
      exact passes_of_apart (not_opening_of_lacks lacks kind) fun last _ ends _ =>
        .inl (last_of_meets meets ends)

theorem last_append_solid {front text : Text} (solid : Solid text) :
    (front ++ text).getLast? ≠ some '\n' := by
  rw [List.getLast?_append_of_ne_nil front solid.nonempty]
  exact solid.ends

/-- A part of the kind, and the stretch behind it. -/
theorem restore_from_own {core : Nat → Text} {stretch after : Text} {index : Nat}
    (stored : Stored kind parts render core index) (solid : Solid (core index))
    (edge : written.getLast? ≠ some '\n') (copied : Passes kind after rest)
    (behind : rest.head? ≠ some '\n') :
    restoreFrom kind parts render (written ++ stretch).reverse
        (token kind index ++ (after ++ rest)) =
      restoreFrom kind parts render
        (written ++ ended kind stretch ++ core index ++ begun kind after).reverse rest := by
  obtain ⟨small, part, known, renders⟩ := stored
  have fitted := congrArg List.reverse
    (@fitted_part kind _ written stretch after _ solid edge (@starts_with_feeds after rest behind))
  rw [List.reverse_append, List.reverse_append, List.append_assoc] at fitted
  rw [restore_from_token small known renders, restore_from_copy copied, fitted]

/-- A part of another kind is copied, and so is the stretch behind it. -/
theorem restore_from_other {stretch after shown : Text} (absent : ¬ kind.opening <:+: shown)
    (apart : (after ++ rest).head? = some '\n' ∨ after ++ rest = []) (copied : Passes kind after rest) :
    restoreFrom kind parts render (written ++ stretch).reverse (shown ++ (after ++ rest)) =
      restoreFrom kind parts render (written ++ stretch ++ shown ++ after).reverse rest := by
  have passes : Passes kind shown (after ++ rest) := by
    refine passes_of_apart absent fun _ next _ begins => .inr ?_
    rcases apart with feed | none
    · obtain rfl : '\n' = next := Option.some.inj (feed.symm.trans begins)
      cases kind <;> decide
    · simp [none] at begins
  have grouped : (written ++ stretch ++ shown ++ after).reverse =
      after.reverse ++ (shown.reverse ++ (written ++ stretch).reverse) := by
    simp
  rw [restore_from_copy passes, restore_from_copy copied, grouped]

/-- Restoring one kind of parts writes blank lines around them and leaves the rest as it is. -/
theorem restore_from_insets {core : Nat → Text} {shown : Kind → Nat → Text} {stretch : Text}
    {insets : List Inset} (strung : Strung mark stretch insets)
    (edge : written.getLast? ≠ some '\n')
    (solid : ∀ inset ∈ insets, Solid (shown inset.kind inset.index))
    (own : ∀ inset ∈ insets, inset.kind = kind → shown kind inset.index = token kind inset.index ∧
      Stored kind parts render core inset.index ∧ Solid (core inset.index))
    (others : ∀ inset ∈ insets, inset.kind ≠ kind →
      ¬ kind.opening <:+: shown inset.kind inset.index) :
    restoreFrom kind parts render (written ++ stretch).reverse (insetsText shown insets) =
      .ok (written ++ (spacedFrom kind stretch insets).text (reveal kind core shown)) := by
  induction insets generalizing written stretch with
  | nil =>
      rw [insetsText, restore_from_nil, List.reverse_reverse]
      simp [spacedFrom, text, insetsText]
  | cons inset rest ih =>
      rw [List.forall_mem_cons] at solid own others
      have later : (insetsText shown rest).head? ≠ some '\n' := head_insets_text solid.2
      cases strung with
      | @part _ after _ partKind index lacks meets starts behind =>
          have copied : Passes kind after (insetsText shown rest) :=
            passes_stretch behind fun empty => by rw [empty]; rfl
          by_cases same : partKind = kind
          · subst same
            obtain ⟨shows, stored, whole⟩ := own.1 rfl
            rw [insetsText, shows, restore_from_own stored whole edge copied later,
              ih (behind.begun .opening partKind) (last_append_solid whole) solid.2 own.2
                others.2]
            simp [spacedFrom, text, insetsText, reveal]
          · have apart : (after ++ insetsText shown rest).head? = some '\n' ∨
                after ++ insetsText shown rest = [] := by
              rcases starts with ⟨rfl, rfl⟩ | ⟨more, rfl⟩
              · exact .inr rfl
              · exact .inl rfl
            rw [insetsText, restore_from_other (others.1 same) apart copied,
              ih behind (last_append_solid solid.1) solid.2 own.2 others.2]
            simp [spacedFrom, text, insetsText, reveal, same]

theorem mem_keys {woven : Woven} {inset : Inset} (member : inset ∈ woven.insets) :
    (inset.kind, inset.index) ∈ woven.keys :=
  List.mem_map.mpr ⟨inset, member, rfl⟩

theorem restore_woven {core : Nat → Text} {shown : Kind → Nat → Text} {woven : Woven}
    (strung : Strung mark woven.head woven.insets)
    (solid : ∀ key ∈ woven.keys, Solid (shown key.1 key.2))
    (own : ∀ key ∈ woven.keys, key.1 = kind → shown kind key.2 = token kind key.2 ∧
      Stored kind parts render core key.2 ∧ Solid (core key.2))
    (others : ∀ key ∈ woven.keys, key.1 ≠ kind → ¬ kind.opening <:+: shown key.1 key.2) :
    restore kind parts render (woven.text shown) =
      .ok ((woven.spaced kind).text (reveal kind core shown)) := by
  have copied : Passes kind woven.head (insetsText shown woven.insets) :=
    passes_stretch strung fun empty => by rw [empty]; rfl
  have pass := @restore_from_insets kind parts render [] core shown woven.head woven.insets strung
    (by simp) (fun inset member => solid _ (mem_keys member))
    (fun inset member => own _ (mem_keys member)) fun inset member => others _ (mem_keys member)
  rw [restore, text, restore_from_copy copied, List.append_nil]
  exact pass

end Woven

/-! ## Lines below all placeholders -/

theorem bound_of_ok {First Second : Type} {first : Except NumberTooLong First}
    {next : First → Except NumberTooLong Second} {result : Second} (ok : first >>= next = .ok result) :
    ∃ value, first = .ok value ∧ next value = .ok result := by
  cases first with
  | error long => exact absurd (show Except.error long = .ok result from ok) (by simp)
  | ok value => exact ⟨value, rfl, ok⟩

/-- Where restoring gets past a placeholder, it goes on behind it. -/
theorem restore_from_read {c : Char} {digits result : Text}
    (read : readToken? kind (c :: text) = some (digits, rest))
    (restored : restoreFrom kind parts render written (c :: text) = .ok result) :
    ∃ shown, restoreFrom kind parts render shown rest = .ok result := by
  rw [restore_from_read_eq read] at restored
  obtain ⟨index, _, later⟩ := bound_of_ok restored
  cases known : parts[index]? with
  | none =>
      rw [known] at later
      exact ⟨_, later⟩
  | some part =>
      rw [known] at later
      obtain ⟨rendered, _, last⟩ := bound_of_ok later
      exact ⟨_, last⟩

/-- Lines below all placeholders stay as they are. -/
theorem restore_from_above {front below result : Text} (absent : ¬ kind.opening <:+: '\n' :: below)
    (restored : restoreFrom kind parts render written (front ++ '\n' :: below) = .ok result) :
    '\n' :: below <:+ result := by
  induction size : front.length using Nat.strong_induction_on generalizing front written with
  | _ size ih =>
      cases front with
      | nil =>
          have passes : Passes kind ('\n' :: below) [] :=
            passes_of_apart absent fun _ _ _ begins => absurd begins (by simp)
          have copied := @restore_from_copy kind parts render written ('\n' :: below) [] passes
          rw [List.append_nil, restore_from_nil, List.reverse_append, List.reverse_reverse] at copied
          exact ⟨written.reverse, Except.ok.inj (copied.symm.trans restored)⟩
      | cons c front =>
          -- what is read above does not depend on the lines below
          have across := read_token_append_newline kind (c :: front) below
          rw [List.cons_append] at across restored
          cases read : readToken? kind (c :: front) with
          | none =>
              rw [read] at across
              rw [restore_from_unread across] at restored
              exact ih front.length (by simp [← size]) restored rfl
          | some token =>
              obtain ⟨digits, rest⟩ := token
              have shorter := read_token_length read
              rw [read] at across
              obtain ⟨shown, later⟩ := restore_from_read across restored
              exact ih rest.length (size ▸ shorter) later rfl

/-- What stands below all placeholders stays as it is. -/
theorem restore_all_above {store : Store} {front below result : Text} (lacks : Lacks true mark ('\n' :: below))
    (restored : restoreAll store (front ++ '\n' :: below) = .ok result) : '\n' :: below <:+ result := by
  have absent (kind : Kind) := not_opening_of_lacks lacks kind
  obtain ⟨_, code, later⟩ := bound_of_ok restored
  obtain ⟨codes, rfl⟩ := restore_from_above (absent .code) code
  obtain ⟨_, quote, last⟩ := bound_of_ok later
  obtain ⟨quotes, rfl⟩ := restore_from_above (absent .quote) quote
  exact restore_from_above (absent .paragraph) last

end Wikidown
