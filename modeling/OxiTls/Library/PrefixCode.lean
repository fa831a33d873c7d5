import Mathlib.Tactic.Common

/-!
# Prefix codes

An encoding none of whose words is a prefix of another one.  Its words can be read off the front of
any list, and so can those of a code followed by a code that depends on the first word.
-/

namespace PrefixCode

variable {α ι : Type*}

/-- No word of the encoding is a prefix of the word of another letter. -/
def IsPrefixCode (encode : ι → List α) : Prop :=
  ∀ left right, encode left <+: encode right → left = right

/-- A word can be told from whatever comes next. -/
theorem IsPrefixCode.append_inj {encode : ι → List α} (code : IsPrefixCode encode)
    (left right : ι) {leftRest rightRest : List α}
    (same : encode left ++ leftRest = encode right ++ rightRest) :
    left = right ∧ leftRest = rightRest := by
  have letters : left = right := by
    have leads : encode left <+: encode right ++ rightRest := ⟨leftRest, same⟩
    have follows : encode right <+: encode right ++ rightRest := List.prefix_append _ _
    rcases List.prefix_or_prefix_of_prefix leads follows with shorter | longer
    · exact code left right shorter
    · exact (code right left longer).symm
  subst letters
  exact ⟨rfl, List.append_cancel_left same⟩

/-- A code followed by a code that depends on its letter. -/
theorem IsPrefixCode.sigma {κ : ι → Type*} {first : ι → List α}
    {second : (letter : ι) → κ letter → List α} (code : IsPrefixCode first)
    (each : ∀ letter, IsPrefixCode (second letter)) :
    IsPrefixCode fun letters : (letter : ι) × κ letter =>
      first letters.1 ++ second letters.1 letters.2 := by
  rintro ⟨left, leftNext⟩ ⟨right, rightNext⟩ ⟨rest, same⟩
  rw [List.append_assoc] at same
  obtain ⟨rfl, following⟩ := code.append_inj left right same
  obtain rfl := each left leftNext rightNext ⟨rest, following⟩
  rfl

end PrefixCode
