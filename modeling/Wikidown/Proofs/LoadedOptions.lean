import Wikidown.Proofs.ReportedFailures
import Wikidown.Proofs.Text.Blank
import Wikidown.Proofs.Text.LowerCase

/-!
# Where the options come from

A flag is taken from the arguments, else from the environment, else from the configuration file, and is off where
none of them has it. Loading the options gives these flags, or fails. With a legible configuration file it fails with
wrong settings alone, exactly when the file is no object, or when one of the sources that is looked at has something
that is no flag.
-/

namespace Wikidown

set_option autoImplicit false

/-- What a computation gives, and when it fails: one of the two, whatever it is applied to. -/
structure Decides {ε α : Type} (result : Except ε α) (Gives : α → Prop) (Fails : Prop) : Prop where
  gives : ∀ value, Gives value → result = .ok value
  fails : Fails → ∃ error, result = .error error
  total : (∃ value, Gives value) ∨ Fails

namespace Decides

variable {ε α : Type} {result : Except ε α} {Gives : α → Prop} {Fails : Prop}

theorem ok_iff (decides : Decides result Gives Fails) (value : α) : result = .ok value ↔ Gives value := by
  refine ⟨fun done => ?_, decides.gives value⟩
  rcases decides.total with ⟨other, given⟩ | failed
  · have same := decides.gives other given
    rw [done] at same
    exact Except.ok.inj same ▸ given
  · obtain ⟨error, met⟩ := decides.fails failed
    rw [done] at met
    simp at met

theorem error_iff (decides : Decides result Gives Fails) : (∃ error, result = .error error) ↔ Fails := by
  refine ⟨fun ⟨error, met⟩ => ?_, decides.fails⟩
  rcases decides.total with ⟨value, given⟩ | failed
  · rw [decides.gives value given] at met
    simp at met
  · exact failed

theorem map_error {κ : Type} (decides : Decides result Gives Fails) (wrap : ε → κ) :
    Decides (result.mapError wrap) Gives Fails where
  gives value given := by rw [decides.gives value given]; rfl
  fails failed := by
    obtain ⟨error, met⟩ := decides.fails failed
    exact ⟨wrap error, by rw [met]; rfl⟩
  total := decides.total

/-- A computation after another one fails if the first one does, or on what that one gives. -/
theorem bind {β : Type} {next : α → Except ε β} {Then : α → β → Prop} {Stops : α → Prop}
    (decides : Decides result Gives Fails)
    (after : ∀ value, Gives value → Decides (next value) (Then value) (Stops value)) :
    Decides (result >>= next) (fun final => ∃ value, Gives value ∧ Then value final)
      (Fails ∨ ∃ value, Gives value ∧ Stops value) where
  gives final := by
    rintro ⟨value, given, done⟩
    rw [decides.gives value given]
    exact (after value given).gives final done
  fails := by
    rintro (failed | ⟨value, given, stopped⟩)
    · obtain ⟨error, met⟩ := decides.fails failed
      exact ⟨error, by rw [met]; rfl⟩
    · rw [decides.gives value given]
      exact (after value given).fails stopped
  total := by
    rcases decides.total with ⟨value, given⟩ | failed
    · rcases (after value given).total with ⟨final, done⟩ | stopped
      · exact .inl ⟨final, value, given, done⟩
      · exact .inr (.inr ⟨value, given, stopped⟩)
    · exact .inr (.inl failed)

theorem pure (value : α) : Decides (Except.ok value : Except ε α) (· = value) False where
  gives _ same := by rw [same]
  fails := False.elim
  total := .inl ⟨value, rfl⟩

theorem congr {Same : α → Prop} {Stops : Prop} (decides : Decides result Gives Fails)
    (gives : ∀ value, Gives value ↔ Same value) (fails : Fails ↔ Stops) : Decides result Same Stops where
  gives value same := decides.gives value ((gives value).mpr same)
  fails stopped := decides.fails (fails.mpr stopped)
  total := decides.total.imp (fun ⟨value, given⟩ => ⟨value, (gives value).mp given⟩) fails.mp

end Decides

namespace Settings

variable {environment : Environment} {tree : FileTree} {path : Text} {members : List (Text × JsonValue)}
  {given : Option Bool} {name key : Text}

/-! ## The variables -/

/-- A text is one of some words, in capital or small letters and between blanks. -/
def Spells (words : List Text) (value : Text) : Prop := (trim value).map Char.toLower ∈ words

/-- What the environment has for a flag: a variable that is not set or blank has nothing. -/
inductive InEnvironment (environment : Environment) (name : Text) : Option Bool → Prop where
  | unset (missing : environment.lookup name = none) : InEnvironment environment name none
  | blank {value : Text} (set : environment.lookup name = some value)
      (blank : ∀ c ∈ value, isBlank c = true) : InEnvironment environment name none
  | yes {value : Text} (set : environment.lookup name = some value) (word : Spells trueWords value) :
      InEnvironment environment name (some true)
  | no {value : Text} (set : environment.lookup name = some value) (word : Spells falseWords value) :
      InEnvironment environment name (some false)

/-- A variable that is not blank and says neither yes nor no. -/
def WrongVariable (environment : Environment) (name : Text) : Prop :=
  ∃ value, environment.lookup name = some value ∧ (∃ c ∈ value, isBlank c = false) ∧
    ¬ Spells trueWords value ∧ ¬ Spells falseWords value

theorem spells_iff {words : List Text} (ascii : ∀ word ∈ words, AsciiWord word) (value : Text) :
    Spells words value ↔ words.contains (lowerText (trim value)) = true := by
  rw [List.contains_iff_mem, Spells]
  constructor
  · intro member
    rwa [(lower_text_eq_iff (ascii _ member) (trim value)).mpr rfl]
  · intro member
    rwa [(lower_text_eq_iff (ascii _ member) (trim value)).mp rfl]

theorem spells_true_iff (value : Text) :
    Spells trueWords value ↔ trueWords.contains (lowerText (trim value)) = true :=
  spells_iff (by decide) value

theorem spells_false_iff (value : Text) :
    Spells falseWords value ↔ falseWords.contains (lowerText (trim value)) = true :=
  spells_iff (by decide) value

theorem small_is_empty_iff {value : Text} :
    (lowerText (trim value)).isEmpty = true ↔ ∀ c ∈ value, isBlank c = true := by
  rw [List.isEmpty_iff, lowerText, List.map_eq_nil_iff, trim_eq_nil_iff]

theorem words_apart : ∀ word ∈ trueWords ++ falseWords, word.isEmpty = false ∧
    (word ∈ falseWords → word ∉ trueWords) := by decide

theorem environment_flag_decides :
    Decides (environmentFlag environment name) (InEnvironment environment name)
      (WrongVariable environment name) := by
  refine ⟨fun said inside => ?_, ?_, ?_⟩
  · cases inside with
    | unset missing => rw [environmentFlag, missing]
    | blank set blank =>
        rw [environmentFlag, set]
        exact if_pos (small_is_empty_iff.mpr blank)
    | yes set word =>
        rw [spells_true_iff] at word
        obtain ⟨visible, _⟩ := words_apart _ (List.mem_append_left _ (List.contains_iff_mem.mp word))
        rw [environmentFlag, set]
        dsimp only
        rw [if_neg (by simp [visible]), if_pos word]
    | no set word =>
        rw [spells_false_iff] at word
        have member := List.contains_iff_mem.mp word
        obtain ⟨visible, apart⟩ := words_apart _ (List.mem_append_right _ member)
        rw [environmentFlag, set]
        dsimp only
        rw [if_neg (by simp [visible]), if_neg (by simpa using apart member), if_pos word]
  · rintro ⟨value, set, visible, notTrue, notFalse⟩
    have shown : (lowerText (trim value)).isEmpty ≠ true := by
      rw [ne_eq, small_is_empty_iff]
      simpa using visible
    rw [spells_true_iff] at notTrue
    rw [spells_false_iff] at notFalse
    rw [environmentFlag, set]
    dsimp only
    rw [if_neg shown, if_neg notTrue, if_neg notFalse]
    exact ⟨_, rfl⟩
  · cases set : environment.lookup name with
    | none => exact .inl ⟨none, .unset set⟩
    | some value =>
        by_cases blank : ∀ c ∈ value, isBlank c = true
        · exact .inl ⟨none, .blank set blank⟩
        · by_cases isTrue : Spells trueWords value
          · exact .inl ⟨some true, .yes set isTrue⟩
          · by_cases isFalse : Spells falseWords value
            · exact .inl ⟨some false, .no set isFalse⟩
            · exact .inr ⟨value, set, by simpa using blank, isTrue, isFalse⟩

/-! ## The members of the configuration file -/

/-- What the configuration file has for a flag: null is nothing. -/
inductive InFile (members : List (Text × JsonValue)) (key : Text) : Option Bool → Prop where
  | missing (missing : JsonValue.member? members key = none) : InFile members key none
  | null (empty : JsonValue.member? members key = some .null) : InFile members key none
  | flag {value : Bool} (set : JsonValue.member? members key = some (.bool value)) :
      InFile members key (some value)

/-- A member of the configuration file that is neither null nor a flag. -/
def WrongMember (members : List (Text × JsonValue)) (key : Text) : Prop :=
  ∃ value, JsonValue.member? members key = some value ∧ value ≠ .null ∧ ∀ flag, value ≠ .bool flag

theorem file_flag_decides : Decides (fileFlag members key) (InFile members key) (WrongMember members key) := by
  refine ⟨fun said inside => ?_, ?_, ?_⟩
  · cases inside with
    | missing none => rw [fileFlag, none]
    | null empty => rw [fileFlag, empty]
    | flag set => rw [fileFlag, set]
  · rintro ⟨value, set, notNull, notFlag⟩
    rw [fileFlag, set]
    cases value with
    | null => exact absurd rfl notNull
    | bool flag => exact absurd rfl (notFlag flag)
    | _ => exact ⟨_, rfl⟩
  · cases set : JsonValue.member? members key with
    | none => exact .inl ⟨none, .missing set⟩
    | some value =>
        cases value with
        | null => exact .inl ⟨none, .null set⟩
        | bool flag => exact .inl ⟨some flag, .flag set⟩
        | _ => exact .inr ⟨_, set, by simp, by simp⟩

/-! ## The flags -/

/-- The flag that is chosen: of the argument, else of the environment, else of the file, else off. -/
inductive Chosen (environment : Environment) (members : List (Text × JsonValue)) (given : Option Bool)
    (name key : Text) : Bool → Prop where
  | argument {value : Bool} (argued : given = some value) : Chosen environment members given name key value
  | environment {value : Bool} (unargued : given = none) (inside : InEnvironment environment name (some value)) :
      Chosen environment members given name key value
  | file {value : Bool} (unargued : given = none) (outside : InEnvironment environment name none)
      (inside : InFile members key (some value)) : Chosen environment members given name key value
  | off (unargued : given = none) (outside : InEnvironment environment name none)
      (missing : InFile members key none) : Chosen environment members given name key false

/-- A flag without an argument whose variable is wrong. -/
def WrongWord (environment : Environment) (given : Option Bool) (name : Text) : Prop :=
  given = none ∧ WrongVariable environment name

/-- A flag with neither an argument nor a variable whose member of the file is wrong. -/
def WrongValue (environment : Environment) (members : List (Text × JsonValue)) (given : Option Bool)
    (name key : Text) : Prop :=
  given = none ∧ InEnvironment environment name none ∧ WrongMember members key

theorem flag_decides : Decides (flag environment members given name key)
    (Chosen environment members given name key)
    (WrongWord environment given name ∨ WrongValue environment members given name key) := by
  have word := @environment_flag_decides environment name
  have member := @file_flag_decides members key
  refine ⟨fun value chosen => ?_, ?_, ?_⟩
  · cases chosen with
    | argument argued => rw [argued]; rfl
    | environment unargued inside => rw [unargued, flag, word.gives _ inside]; rfl
    | file unargued outside inside => rw [unargued, flag, word.gives _ outside, member.gives _ inside]; rfl
    | off unargued outside missing => rw [unargued, flag, word.gives _ outside, member.gives _ missing]; rfl
  · rintro (⟨unargued, wrong⟩ | ⟨unargued, outside, wrong⟩)
    · obtain ⟨error, met⟩ := word.fails wrong
      exact ⟨error, by rw [unargued, flag, met]; rfl⟩
    · obtain ⟨error, met⟩ := member.fails wrong
      exact ⟨error, by rw [unargued, flag, word.gives _ outside, met]; rfl⟩
  · cases given with
    | some value => exact .inl ⟨value, .argument rfl⟩
    | none =>
        rcases word.total with ⟨_ | value, inside⟩ | wrong
        · rcases member.total with ⟨_ | value, known⟩ | wrong
          · exact .inl ⟨false, .off rfl inside known⟩
          · exact .inl ⟨value, .file rfl inside known⟩
          · exact .inr (.inr ⟨rfl, inside, wrong⟩)
        · exact .inl ⟨value, .environment rfl inside⟩
        · exact .inr (.inl ⟨rfl, wrong⟩)

/-! ## The configuration file -/

/-- What the configuration file has: nothing if it is not there, else the members of the object it writes. -/
inductive Holds (tree : FileTree) (path : Text) : List (Text × JsonValue) → Prop where
  | absent {cause : FileCause} (missing : tree.lookup path = .error cause) (named : cause ≠ .nameTooLong) :
      Holds tree path []
  | object {content : Text} {members : List (Text × JsonValue)}
      (there : tree.lookup path = .ok (.file (.text content)))
      (parsed : JsonValue.parse (unifyLineEnds content) = .ok (.object members)) : Holds tree path members

/-- Something is there for the configuration file, and is no text that writes an object. -/
def NoObject (tree : FileTree) (path : Text) : Prop :=
  (∃ entry, tree.lookup path = .ok entry) ∧
    ∀ content members, tree.lookup path = .ok (.file (.text content)) →
      JsonValue.parse (unifyLineEnds content) ≠ .ok (.object members)

theorem file_members_decide (tree : FileTree) (file : Option Text) :
    Decides (fileMembers tree file) (Holds tree (filePath file))
      (NoObject tree (filePath file) ∨ tree.lookup (filePath file) = .error .nameTooLong) := by
  rw [fileMembers]
  generalize filePath file = path
  refine ⟨fun members held => ?_, ?_, ?_⟩
  · cases held with
    | absent missing named =>
        rcases FileTree.lookup_error missing with rfl | rfl | rfl | rfl
        · rw [missing]
        · rw [missing]
        · rw [missing]
        · contradiction
    | object there parsed =>
        rw [there]
        dsimp only
        rw [parsed]
  · rintro (⟨⟨entry, there⟩, other⟩ | long)
    · rw [there]
      cases entry with
      | directory => exact ⟨_, rfl⟩
      | file content =>
          cases content with
          | raw bytes => exact ⟨_, rfl⟩
          | text content =>
              dsimp only
              cases parsed : JsonValue.parse (unifyLineEnds content) with
              | error error => cases error <;> exact ⟨_, rfl⟩
              | ok value =>
                  cases value with
                  | object members => exact absurd parsed (other content members there)
                  | _ => exact ⟨_, rfl⟩
    · rw [long]
      exact ⟨_, rfl⟩
  · cases there : tree.lookup path with
    | error cause =>
        by_cases long : cause = .nameTooLong
        · exact .inr (.inr (congrArg _ long))
        · exact .inl ⟨[], .absent there long⟩
    | ok entry =>
        by_cases object : ∃ content members, entry = .file (.text content) ∧
            JsonValue.parse (unifyLineEnds content) = .ok (.object members)
        · obtain ⟨content, members, rfl, parsed⟩ := object
          exact .inl ⟨members, .object there parsed⟩
        · have other (content : Text) (members : List (Text × JsonValue))
              (same : (.ok entry : Except FileCause FileEntry) = .ok (.file (.text content))) :
              JsonValue.parse (unifyLineEnds content) ≠ .ok (.object members) :=
            fun parsed => object ⟨content, members, Except.ok.inj same, parsed⟩
          exact .inr (.inl ⟨⟨entry, there⟩, by rwa [there]⟩)

/-! ## The options -/

/-- The settings are wrong: the configuration file is no object, or a flag that has no argument has a wrong variable,
or no variable and a wrong value in the file. -/
inductive Misconfigured (environment : Environment) (tree : FileTree) (crlf promoteFirstRow : Option Bool)
    (path : Text) : Prop where
  | file (unusable : NoObject tree path)
  | word (wrong : WrongWord environment crlf crlfVariable ∨ WrongWord environment promoteFirstRow promoteVariable)
  | value {members : List (Text × JsonValue)} (held : Holds tree path members)
      (wrong : WrongValue environment members crlf crlfVariable "use_crlf".toList ∨
        WrongValue environment members promoteFirstRow promoteVariable "promote_first_row".toList)

/-- Options are chosen flag by flag. -/
structure ChosenOptions (environment : Environment) (members : List (Text × JsonValue))
    (crlf promoteFirstRow : Option Bool) (chosen : Options) : Prop where
  crlf : Chosen environment members crlf crlfVariable "use_crlf".toList chosen.crlf
  promoted : Chosen environment members promoteFirstRow promoteVariable "promote_first_row".toList
    chosen.promoteFirstRow

theorem options_decide (environment : Environment) (tree : FileTree) (crlf promoteFirstRow : Option Bool)
    (file : Option Text) :
    Decides (options environment tree crlf promoteFirstRow file)
      (fun chosen => ∃ members, Holds tree (filePath file) members ∧
        ChosenOptions environment members crlf promoteFirstRow chosen)
      (Misconfigured environment tree crlf promoteFirstRow (filePath file) ∨
        tree.lookup (filePath file) = .error .nameTooLong) := by
  have known := file_members_decide tree file
  have each (members : List (Text × JsonValue)) (given : Option Bool) (name key : Text) :=
    (@flag_decides environment members given name key).map_error Fault.settings
  have both := known.bind fun members _ => (each members crlf crlfVariable "use_crlf".toList).bind fun first _ =>
    (each members promoteFirstRow promoteVariable "promote_first_row".toList).bind fun second _ =>
      @Decides.pure Fault Options ⟨first, second⟩
  refine both.congr (fun chosen => ⟨?_, ?_⟩) ⟨?_, ?_⟩
  · rintro ⟨members, held, first, crlf, second, promoted, rfl⟩
    exact ⟨members, held, crlf, promoted⟩
  · rintro ⟨members, held, crlf, promoted⟩
    exact ⟨members, held, _, crlf, _, promoted, rfl⟩
  · rintro ((unusable | long) | ⟨members, held, (word | value) | ⟨first, -, (word | value) | ⟨_, -, no⟩⟩⟩)
    · exact .inl (.file unusable)
    · exact .inr long
    · exact .inl (.word (.inl word))
    · exact .inl (.value held (.inl value))
    · exact .inl (.word (.inr word))
    · exact .inl (.value held (.inr value))
    · exact no.elim
  · have flags {members : List (Text × JsonValue)} (held : Holds tree (filePath file) members) :=
      (each members crlf crlfVariable "use_crlf".toList).total
    rintro ((unusable | word | ⟨held, value⟩) | long)
    · exact .inl (.inl unusable)
    · rcases known.total with ⟨members, held⟩ | failed
      · refine .inr ⟨members, held, ?_⟩
        rcases word with word | word
        · exact .inl (.inl word)
        · rcases flags held with ⟨first, crlf⟩ | wrong
          · exact .inr ⟨first, crlf, .inl (.inl word)⟩
          · exact .inl wrong
      · exact .inl failed
    · refine .inr ⟨_, held, ?_⟩
      rcases value with value | value
      · exact .inl (.inr value)
      · rcases flags held with ⟨first, crlf⟩ | wrong
        · exact .inr ⟨first, crlf, .inl (.inr value)⟩
        · exact .inl wrong
    · exact .inl (.inr long)

/-- A variable that is no flag does not matter where there is an argument. -/
example : options [(crlfVariable, "maybe".toList)] {} (some true) none none = .ok { crlf := true } := by
  decide +kernel

end Settings

end Wikidown
