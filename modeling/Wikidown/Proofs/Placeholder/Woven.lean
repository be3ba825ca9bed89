import Wikidown.Proofs.Placeholder.Carried

/-!
# Documents as texts with insets

A document with placeholders is its parts and the stretches of text between them. Restoring writes
something else for the parts and adds line feeds to the stretches; so the document before and the
document after are one `Woven` shown in two ways.
-/

namespace Wikidown

set_option autoImplicit false

/-- A part of a document and the text behind it, up to the next part. -/
structure Inset where
  kind : Kind
  index : Nat
  after : Text

/-- The text before the first part, and the parts. -/
structure Woven where
  head : Text
  insets : List Inset

namespace Woven

/-- The text of parts, each as it is shown and the stretch behind it. -/
def insetsText (shown : Kind → Nat → Text) : List Inset → Text
  | [] => []
  | inset :: rest => shown inset.kind inset.index ++ (inset.after ++ insetsText shown rest)

theorem insets_text_append (shown : Kind → Nat → Text) (front back : List Inset) :
    insetsText shown (front ++ back) = insetsText shown front ++ insetsText shown back := by
  induction front with
  | nil => rfl
  | cons inset front ih => simp [insetsText, ih]

def text (woven : Woven) (shown : Kind → Nat → Text) : Text :=
  woven.head ++ insetsText shown woven.insets

def keys (woven : Woven) : List (Kind × Nat) :=
  woven.insets.map fun inset => (inset.kind, inset.index)

/-- The text before the first part and the text behind each of them. -/
def stretches (woven : Woven) : List Text := woven.head :: woven.insets.map Inset.after

/-- The stretch behind a part of a kind, begun with a blank line. Paragraphs have none of their
own. -/
def begun (kind : Kind) (stretch : Text) : Text :=
  if kind = .paragraph || startsWith "\n\n".toList stretch then stretch else '\n' :: stretch

/-- The stretch before a part of a kind, ended with a blank line. -/
def ended (kind : Kind) (stretch : Text) : Text :=
  if kind = .paragraph || endsWith "\n\n".toList stretch then stretch else stretch ++ ['\n']

/-- Blank lines around the parts of one kind; `stretch` stands before the parts. -/
def spacedFrom (kind : Kind) (stretch : Text) : List Inset → Woven
  | [] => ⟨stretch, []⟩
  | inset :: rest =>
      let behind :=
        spacedFrom kind (if inset.kind = kind then begun kind inset.after else inset.after) rest
      { head := if inset.kind = kind then ended kind stretch else stretch
        insets := { inset with after := behind.head } :: behind.insets }

def spaced (kind : Kind) (woven : Woven) : Woven := spacedFrom kind woven.head woven.insets

theorem text_congr {woven : Woven} {shown other : Kind → Nat → Text}
    (same : ∀ key ∈ woven.keys, shown key.1 key.2 = other key.1 key.2) :
    woven.text shown = woven.text other := by
  obtain ⟨head, insets⟩ := woven
  refine congrArg (head ++ ·) ?_
  induction insets with
  | nil => rfl
  | cons inset rest ih =>
      rw [keys, List.map_cons, List.forall_mem_cons] at same
      have here : shown inset.kind inset.index = other inset.kind inset.index := same.1
      rw [insetsText, insetsText, here, ih same.2]

theorem keys_spaced_from (kind : Kind) (stretch : Text) (insets : List Inset) :
    (spacedFrom kind stretch insets).keys = Woven.keys ⟨stretch, insets⟩ := by
  induction insets generalizing stretch with
  | nil => rfl
  | cons inset rest ih =>
      rw [spacedFrom, keys, List.map_cons, ← keys, ih]
      rfl

theorem keys_spaced (kind : Kind) (woven : Woven) : (woven.spaced kind).keys = woven.keys :=
  keys_spaced_from kind woven.head woven.insets

theorem spaced_from_paragraph (stretch : Text) (insets : List Inset) :
    spacedFrom .paragraph stretch insets = ⟨stretch, insets⟩ := by
  induction insets generalizing stretch with
  | nil => rfl
  | cons inset rest ih => simp [spacedFrom, begun, ended, ih]

theorem spaced_paragraph (woven : Woven) : woven.spaced .paragraph = woven :=
  spaced_from_paragraph woven.head woven.insets

/-- What may stand before a part: the front of its line, and whole lines above that. -/
def Meets (stretch : Text) : Prop :=
  ∃ front ∈ itemized, stretch = front ∨ ∃ above, stretch = above ++ '\n' :: front

/-- Stretches without the word of placeholders. Each ends where a part may stand, and begins with a
line feed behind one. -/
inductive Strung (word : Text) : Text → List Inset → Prop
  | last {stretch : Text} (lacks : Lacks true word stretch) : Strung word stretch []
  | part {stretch after : Text} {rest : List Inset} (kind : Kind) (index : Nat)
      (lacks : Lacks true word stretch) (meets : Meets stretch)
      (starts : after = [] ∧ rest = [] ∨ ∃ more, after = '\n' :: more)
      (behind : Strung word after rest) : Strung word stretch (⟨kind, index, after⟩ :: rest)

section Strung

variable {word stretch : Text} {insets : List Inset} {content : List Line}
  {keys : List (Kind × Nat)}

theorem Strung.line_above (traced : Traced word) {line : Line} (lacks : Lacks true word line)
    (strung : Strung word stretch insets) : Strung word (line ++ '\n' :: stretch) insets := by
  cases strung with
  | last lacksStretch =>
      exact .last ((Lacks.between_iff traced (by decide)).mpr ⟨lacks, lacksStretch⟩)
  | part kind index lacksStretch meets starts behind =>
      refine .part kind index ((Lacks.between_iff traced (by decide)).mpr ⟨lacks, lacksStretch⟩) ?_
        starts behind
      obtain ⟨front, known, rfl | ⟨above, rfl⟩⟩ := meets
      · exact ⟨stretch, known, .inr ⟨line, rfl⟩⟩
      · exact ⟨front, known, .inr ⟨line ++ '\n' :: above, by simp⟩⟩

theorem Strung.begun (traced : Traced word) (kind : Kind) (strung : Strung word stretch insets) :
    Strung word (Woven.begun kind stretch) insets := by
  unfold Woven.begun
  split
  · exact strung
  · exact strung.line_above traced (.nil traced)

theorem lacks_ended (traced : Traced word) (kind : Kind) (lacks : Lacks true word stretch) :
    Lacks true word (ended kind stretch) := by
  unfold ended
  split
  · exact lacks
  · exact (Lacks.between_iff traced (by decide)).mpr ⟨lacks, .nil traced⟩

theorem meets_ended (kind : Kind) (meets : Meets stretch) : Meets (ended kind stretch) := by
  unfold ended
  split
  · exact meets
  · exact ⟨[], by simp [itemized], .inr ⟨stretch, rfl⟩⟩

theorem starts_ended (kind : Kind) {stretch : Text} (starts : ∃ more, stretch = '\n' :: more) :
    ∃ more, ended kind stretch = '\n' :: more := by
  obtain ⟨more, rfl⟩ := starts
  unfold ended
  split
  · exact ⟨more, rfl⟩
  · exact ⟨more ++ ['\n'], rfl⟩

theorem starts_begun (kind : Kind) {stretch : Text} (starts : ∃ more, stretch = '\n' :: more) :
    ∃ more, Woven.begun kind stretch = '\n' :: more := by
  unfold Woven.begun
  split
  · exact starts
  · exact ⟨stretch, rfl⟩

theorem spaced_from_starts (kind : Kind) (starts : ∃ more, stretch = '\n' :: more) :
    ∃ more, (spacedFrom kind stretch insets).head = '\n' :: more := by
  cases insets with
  | nil => exact starts
  | cons inset rest =>
      rw [spacedFrom]
      dsimp only
      split
      · exact starts_ended kind starts
      · exact starts

/-- Blank lines around parts leave the stretches such that parts may stand between them. -/
theorem Strung.spaced_from (traced : Traced word) (kind : Kind)
    (strung : Strung word stretch insets) :
    Strung word (spacedFrom kind stretch insets).head (spacedFrom kind stretch insets).insets := by
  induction insets generalizing stretch with
  | nil =>
      cases strung with
      | last lacks => exact .last lacks
  | cons inset rest ih =>
      cases strung with
      | @part _ after _ partKind index lacks meets starts behind =>
          by_cases same : partKind = kind
          · rw [spacedFrom, if_pos same, if_pos same]
            refine .part partKind index (lacks_ended traced kind lacks) (meets_ended kind meets) ?_
              (ih (behind.begun traced kind))
            rcases starts with ⟨rfl, rfl⟩ | feed
            · cases kind with
              | paragraph => exact .inl ⟨rfl, rfl⟩
              | code => exact .inr ⟨[], rfl⟩
              | quote => exact .inr ⟨[], rfl⟩
            · exact .inr (spaced_from_starts kind (starts_begun kind feed))
          · rw [spacedFrom, if_neg same, if_neg same]
            refine .part partKind index lacks meets ?_ (ih behind)
            rcases starts with ⟨rfl, rfl⟩ | feed
            · exact .inl ⟨rfl, rfl⟩
            · exact .inr (spaced_from_starts kind feed)

theorem Strung.spaced {woven : Woven} (traced : Traced word) (kind : Kind)
    (strung : Strung word woven.head woven.insets) :
    Strung word (woven.spaced kind).head (woven.spaced kind).insets :=
  strung.spaced_from traced kind

theorem Meets.ends {stretch : Text} (meets : Meets stretch) :
    stretch = [] ∨ ∃ front c, stretch = front ++ [c] ∧ separates c = true := by
  obtain ⟨front, known, rfl | ⟨above, rfl⟩⟩ := meets
  · rcases List.mem_pair.mp known with rfl | rfl
    · exact .inl rfl
    · exact .inr ⟨['1', '.'], ' ', rfl, by decide⟩
  · rcases List.mem_pair.mp known with rfl | rfl
    · exact .inr ⟨above, '\n', rfl, by decide⟩
    · exact .inr ⟨above ++ ['\n', '1', '.'], ' ', by simp, by decide⟩

/-- Parts without the word, with such stretches between them, make a text without it. -/
theorem Strung.lacks_text {shown : Kind → Nat → Text} (traced : Traced word)
    (strung : Strung word stretch insets)
    (lacks : ∀ inset ∈ insets, Lacks true word (shown inset.kind inset.index)) :
    Lacks true word (stretch ++ insetsText shown insets) := by
  induction strung with
  | last lacksStretch => simpa [insetsText] using lacksStretch
  | @part stretch after rest kind index lacksStretch meets starts _ ih =>
      rw [List.forall_mem_cons] at lacks
      have behind := ih lacks.2
      have part : Lacks true word (shown kind index ++ (after ++ insetsText shown rest)) := by
        rcases starts with ⟨rfl, rfl⟩ | ⟨more, rfl⟩
        · simpa [insetsText] using lacks.1
        · exact (Lacks.between_iff traced (by decide)).mpr
            ⟨lacks.1, (Lacks.cons_iff traced (by decide)).mp behind⟩
      rw [insetsText]
      rcases meets.ends with rfl | ⟨front, c, rfl, apart⟩
      · exact part
      · rw [List.append_assoc, List.singleton_append]
        exact (Lacks.between_iff traced apart).mpr ⟨lacksStretch.left, part⟩

theorem Strung.stretch_lacks (strung : Strung word stretch insets) :
    ∀ one ∈ stretches ⟨stretch, insets⟩, Lacks true word one := by
  induction strung with
  | last lacks => simpa [stretches] using lacks
  | part _ _ lacks _ _ _ ih =>
      rw [stretches, List.forall_mem_cons]
      exact ⟨lacks, ih⟩

theorem Strung.imp {other : Text} (weaker : ∀ text, Lacks true word text → Lacks true other text)
    (strung : Strung word stretch insets) : Strung other stretch insets := by
  induction strung with
  | last lacks => exact .last (weaker _ lacks)
  | part kind index lacks meets starts _ ih => exact .part kind index (weaker _ lacks) meets starts ih

/-- Lines that carry placeholders, as parts and the stretches between them. -/
theorem of_carries (traced : Traced word) (nonempty : content ≠ [])
    (carries : Carries true word itemized content keys) :
    ∃ woven : Woven, woven.text token = unlines content ∧ woven.keys = keys ∧
      Strung word woven.head woven.insets := by
  induction carries with
  | nil => contradiction
  | @quiet line content keys lacks rest ih =>
      by_cases single : content = []
      · subst single
        cases rest
        exact ⟨⟨line, []⟩, List.append_nil line, rfl, .last lacks⟩
      · obtain ⟨⟨head, insets⟩, shape, same, strung⟩ := ih single
        refine ⟨⟨line ++ '\n' :: head, insets⟩, ?_, same, strung.line_above traced lacks⟩
        rw [unlines_cons single, ← shape]
        simp [text]
  | @token front content keys known kind index rest ih =>
      have lacks : Lacks true word front := by
        rcases List.mem_pair.mp known with rfl | rfl
        · exact .nil traced
        · exact .of_disjoint traced (List.all_iff_forall_prop.mp (by decide))
      by_cases single : content = []
      · subst single
        cases rest
        refine ⟨⟨front, [⟨kind, index, []⟩]⟩, ?_, rfl, ?_⟩
        · simp [text, insetsText, unlines_singleton]
        · exact .part kind index lacks ⟨front, known, .inl rfl⟩ (.inl ⟨rfl, rfl⟩) (.last (.nil traced))
      · obtain ⟨⟨head, insets⟩, shape, same, strung⟩ := ih single
        refine ⟨⟨front, ⟨kind, index, '\n' :: head⟩ :: insets⟩, ?_, ?_, ?_⟩
        · rw [unlines_cons single, ← shape]
          simp [text, insetsText]
        · rw [Woven.keys, List.map_cons, ← same]
          rfl
        · exact .part kind index lacks ⟨front, known, .inl rfl⟩ (.inr ⟨head, rfl⟩)
            (strung.line_above traced (.nil traced))

end Strung

end Woven

end Wikidown
