import Wikidown.Inline
import Wikidown.Proofs.Placeholder.Rewrite

/-!
# Placeholders under the inline notation

All rules of the inline notation but that of the colours stay within a line, and what they write may
stand anywhere.
-/

namespace Wikidown

set_option autoImplicit false

namespace Inline

/-- The rules that run before that of the colours. -/
def beforeColors : List Substitution := rules.take 6

/-- The rules that run after that of the colours. -/
def afterColors : List Substitution := rules.drop 7

theorem convert_stages (text : Text) :
    convert text = Substitution.applyAll afterColors
      (colorRule.apply (Substitution.applyAll beforeColors text)) := rfl

section Rules

variable {promote : Bool} {word inner : Text}

theorem marked_stands {shown : Text} (apart : shown.all separates = true)
    (traced : Traced word) (lacks : Lacks promote word inner) :
    Stands promote word (marked shown inner) := by
  have opens : Stands promote word (' ' :: shown) :=
    .of_separates traced (by simp) (by simp [apart, show separates ' ' = true by decide])
  have closes : Stands promote word (shown ++ [' ']) :=
    .of_separates traced (by simp) (by simp [apart, show separates ' ' = true by decide])
  have whole := opens.around closes (lacks.of_inside traced (trim_inside inner))
  simpa [marked] using whole

theorem link_stands {label target : Text} (traced : Traced word)
    (lacksLabel : Lacks promote word label) (lacksTarget : Lacks promote word target) :
    Stands promote word (link label target) := by
  have opens : Stands promote word "[".toList := .of_separates traced (by decide) (by decide)
  have middle : Stands promote word "](".toList := .of_separates traced (by decide) (by decide)
  have closes : Stands promote word ")".toList := .of_separates traced (by decide) (by decide)
  have first := opens.around middle (lacksLabel.of_inside traced (trim_inside label))
  have whole := first.around closes lacksTarget
  simpa [link] using whole

theorem image_stands (traced : Traced word) (lacks : Lacks promote word inner) :
    Stands promote word (image inner) := by
  have opens : Stands promote word "![".toList := .of_separates traced (by decide) (by decide)
  have closes : Stands promote word "]".toList := .of_separates traced (by decide) (by decide)
  exact opens.around closes lacks

theorem attachment_stands {label target : Text} (traced : Traced word)
    (lacksLabel : Lacks promote word label) (lacksTarget : Lacks promote word target) :
    Stands promote word (attachment label target) := by
  have opens : Stands promote word "[".toList := .of_separates traced (by decide) (by decide)
  have middle : Stands promote word "][".toList := .of_separates traced (by decide) (by decide)
  have closes : Stands promote word "]".toList := .of_separates traced (by decide) (by decide)
  have whole := (opens.around middle lacksLabel).around closes lacksTarget
  simpa [attachment] using whole

theorem colored_stands {color : Text} (traced : Traced word)
    (lacksColor : Lacks promote word color) (lacksInner : Lacks promote word inner) :
    Stands promote word (colored color inner) := by
  have tag : Stands promote word "<span style=\x22color".toList :=
    .of_separates traced (by decide) (by decide)
  have blank : Stands promote word " ".toList := .of_separates traced (by decide) (by decide)
  have colon : Lacks promote word ":".toList :=
    .of_disjoint traced (List.all_iff_forall_prop.mp (by decide))
  have middle : Stands promote word ";\x22>".toList :=
    .of_separates traced (by decide) (by decide)
  have closes : Stands promote word "</span>".toList :=
    .of_separates traced (by decide) (by decide)
  have opening : "<span style=\x22color: ".toList =
      "<span style=\x22color".toList ++ ":".toList ++ " ".toList := rfl
  have whole := ((tag.around blank colon).around middle lacksColor).around closes lacksInner
  rw [← opening] at whole
  unfold colored
  exact whole

theorem escaped_stands (traced : Traced word) (lacks : Lacks promote word inner) :
    Stands promote word ("&lt;".toList ++ inner ++ "&gt;".toList) := by
  have opens : Stands promote word "&lt;".toList := .of_separates traced (by decide) (by decide)
  have closes : Stands promote word "&gt;".toList := .of_separates traced (by decide) (by decide)
  exact opens.around closes lacks

end Rules

theorem rules_in_line : ∀ rule ∈ beforeColors ++ afterColors, ∃ c, rule.InLine c := by
  intro rule member
  simp only [beforeColors, afterColors, rules, List.take, List.drop, List.cons_append,
    List.nil_append, List.mem_cons, List.not_mem_nil, or_false] at member
  rcases member with rfl | rfl | rfl | rfl | rfl | rfl | rfl | rfl | rfl | rfl
  · exact ⟨'<', Substitution.enclosed_in_line rfl (by decide) (by decide) (by decide)
      fun traced lacks => escaped_stands traced lacks⟩
  · exact ⟨'<', Substitution.literal_in_line rfl (by decide) (by decide) (by decide) (by decide)⟩
  · exact ⟨'\x27', Substitution.enclosed_in_line rfl (by decide) (by decide) (by decide)
      fun traced lacks => marked_stands (by decide) traced lacks⟩
  · exact ⟨'\x27', Substitution.enclosed_in_line rfl (by decide) (by decide) (by decide)
      fun traced lacks => marked_stands (by decide) traced lacks⟩
  · exact ⟨'%', Substitution.enclosed_in_line rfl (by decide) (by decide) (by decide)
      fun traced lacks => marked_stands (by decide) traced lacks⟩
  · exact ⟨'[', Substitution.pair_in_line rfl (by decide) (by decide) (by decide) (by decide)
      fun traced lacksLabel lacksTarget => link_stands traced lacksLabel lacksTarget⟩
  · exact ⟨'#', Substitution.enclosed_in_line rfl (by decide) (by decide) (by decide)
      fun traced lacks => image_stands traced lacks⟩
  · exact ⟨'#', Substitution.enclosed_in_line rfl (by decide) (by decide) (by decide)
      fun traced lacks => image_stands traced lacks⟩
  · exact ⟨'#', Substitution.pair_in_line rfl (by decide) (by decide) (by decide) (by decide)
      fun traced lacksLabel lacksTarget => attachment_stands traced lacksLabel lacksTarget⟩
  · exact ⟨' ', Substitution.literal_in_line rfl (by decide) (by decide) (by decide) (by decide)⟩

end Inline

end Wikidown
