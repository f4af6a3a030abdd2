import Meterboard.Text
import Mathlib.Tactic.Lemma

/-!
# Texts with white space around them

Trimming takes the longest runs of blanks away from the two ends of a text.

* `trim_eq_self` — a text without blanks is not trimmed.
* `trimChars_around` — what has no blanks is found again between blanks.
* `trimLeft_eq_trimChars_append`, `trimLeft_trimChars` — a trimmed text does not begin with a blank,
  and only blanks were taken away behind it.
-/

namespace Meterboard.Text

/-! ## Texts without blanks -/

lemma trimLeft_eq_self {s : List Char} (h : ∀ c ∈ s, isBlank c = false) : trimLeft s = s := by
  cases s with
  | nil => rfl
  | cons c s =>
      rw [trimLeft, List.dropWhile_cons, h c List.mem_cons_self, if_neg Bool.false_ne_true]

lemma trimChars_eq_self {s : List Char} (h : ∀ c ∈ s, isBlank c = false) : trimChars s = s := by
  have hreverse : ∀ c ∈ s.reverse, isBlank c = false := fun c hc => h c (List.mem_reverse.1 hc)
  rw [trimChars, trimLeft_eq_self h, trimLeft_eq_self hreverse, List.reverse_reverse]

/-- A text without blanks is not trimmed. -/
lemma trim_eq_self {s : String} (h : ∀ c ∈ s.toList, isBlank c = false) : trim s = s := by
  rw [trim, trimChars_eq_self h, String.ofList_toList]

/-! ## Blanks around a text -/

lemma trimLeft_append {before : List Char} (h : ∀ c ∈ before, isBlank c = true)
    (rest : List Char) : trimLeft (before ++ rest) = trimLeft rest :=
  List.dropWhile_append_of_pos h

/-- Trimming takes away the blanks around what has none. -/
lemma trimChars_around {before cs after : List Char} (hbefore : ∀ c ∈ before, isBlank c = true)
    (hafter : ∀ c ∈ after, isBlank c = true) (hcs : ∀ c ∈ cs, isBlank c = false) :
    trimChars (before ++ (cs ++ after)) = cs := by
  rw [trimChars, trimLeft_append hbefore]
  cases cs with
  | nil =>
      have hnil : trimLeft after = [] := by
        have hall := trimLeft_append hafter []
        rwa [List.append_nil] at hall
      rw [List.nil_append, hnil]
      rfl
  | cons c cs =>
      have hfirst : trimLeft (c :: cs ++ after) = c :: cs ++ after := by
        rw [List.cons_append, trimLeft, List.dropWhile_cons, hcs c List.mem_cons_self,
          if_neg Bool.false_ne_true]
      have hback : ∀ d ∈ after.reverse, isBlank d = true :=
        fun d hd => hafter d (List.mem_reverse.1 hd)
      have hreverse : ∀ d ∈ (c :: cs).reverse, isBlank d = false :=
        fun d hd => hcs d (List.mem_reverse.1 hd)
      rw [hfirst, List.reverse_append, trimLeft_append hback, trimLeft_eq_self hreverse,
        List.reverse_reverse]

/-! ## What trimming takes away -/

/-- Only blanks are taken away from the end. -/
lemma trimLeft_eq_trimChars_append (s : List Char) :
    ∃ after : List Char, (∀ c ∈ after, isBlank c = true) ∧ trimLeft s = trimChars s ++ after := by
  refine ⟨((trimLeft s).reverse.takeWhile isBlank).reverse, fun c hc => ?_, ?_⟩
  · exact List.all_eq_true.1 List.all_takeWhile c (List.mem_reverse.1 hc)
  · have hsplit : (trimLeft s).reverse.takeWhile isBlank ++ trimLeft (trimLeft s).reverse
        = (trimLeft s).reverse := List.takeWhile_append_dropWhile
    rw [trimChars, ← List.reverse_append, hsplit, List.reverse_reverse]

/-- A trimmed text does not begin with a blank. -/
lemma trimLeft_trimChars (s : List Char) : trimLeft (trimChars s) = trimChars s := by
  obtain ⟨after, -, hafter⟩ := trimLeft_eq_trimChars_append s
  cases htrimmed : trimChars s with
  | nil => rfl
  | cons c cs =>
      have hfirst : trimLeft s = c :: (cs ++ after) := by rw [hafter, htrimmed, List.cons_append]
      have hblank : isBlank c = false := by
        have hstop := List.head?_dropWhile_not isBlank s
        rwa [← trimLeft, hfirst] at hstop
      rw [trimLeft, List.dropWhile_cons, hblank, if_neg Bool.false_ne_true]

end Meterboard.Text
