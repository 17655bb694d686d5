import Mathlib.Data.List.DropRight
import AbiBindings.Text.Blank

/-!
# Trimming

What trimming leaves of a text begins and ends without a blank, and only blanks stand around it
(`exists_surrounded`). It is nothing exactly if the text is blank, and it stays the same if further
blanks are put around the text (`trimChars_surrounded`).
-/

set_option autoImplicit false

namespace AbiBindings.Text

/-- A text is trimmed by its characters. -/
theorem toList_trim (s : String) : (trim s).toList = trimChars s.toList := by
  rw [trim, String.toList_ofList]

/-- Blanks are dropped at the front, and then at the end. -/
theorem trimChars_eq_rdropWhile (cs : List Char) :
    trimChars cs = (cs.dropWhile isBlank).rdropWhile isBlank := rfl

/-- What remains without the blanks at its two ends does not begin with one. -/
theorem dropWhile_trimChars (cs : List Char) : (trimChars cs).dropWhile isBlank = trimChars cs := by
  rw [trimChars_eq_rdropWhile]
  generalize hfront : cs.dropWhile isBlank = front
  rw [List.dropWhile_eq_self_iff]
  intro hlength
  have hkept := List.rdropWhile_prefix isBlank (l := front)
  have hnonempty : 0 < front.length := Nat.lt_of_lt_of_le hlength hkept.length_le
  have hhead := List.dropWhile_get_zero_not isBlank cs (by simpa [hfront] using hnonempty)
  simpa [hfront, hkept.getElem hlength] using hhead

/-- Trimmed characters are trimmed. -/
theorem trimChars_trimChars (cs : List Char) : trimChars (trimChars cs) = trimChars cs := by
  rw [trimChars_eq_rdropWhile (trimChars cs), dropWhile_trimChars, trimChars_eq_rdropWhile,
    List.rdropWhile_idempotent]

/-- A trimmed text is trimmed. -/
theorem trim_trim (s : String) : trim (trim s) = trim s := by
  rw [trim, toList_trim, trimChars_trimChars, ← toList_trim, String.ofList_toList]

/-! ## What is left -/

/-- A trimmed text does not begin with a blank. -/
theorem not_isBlank_of_mem_head?_trimChars {cs : List Char} {c : Char}
    (h : c ∈ (trimChars cs).head?) : ¬ isBlank c := by
  have hself := List.head?_dropWhile_not isBlank (trimChars cs)
  rw [dropWhile_trimChars, Option.mem_def.1 h] at hself
  simpa using hself

/-- A trimmed text does not end with a blank. -/
theorem not_isBlank_of_mem_getLast?_trimChars {cs : List Char} {c : Char}
    (h : c ∈ (trimChars cs).getLast?) : ¬ isBlank c := by
  rw [trimChars, List.getLast?_reverse] at h
  have hself := List.head?_dropWhile_not isBlank (cs.dropWhile isBlank).reverse
  rw [Option.mem_def.1 h] at hself
  simpa using hself

/-- A text is what trimming leaves of it, with blanks around that. -/
theorem exists_surrounded (cs : List Char) : ∃ front back, (∀ c ∈ front, isBlank c) ∧
    (∀ c ∈ back, isBlank c) ∧ cs = front ++ trimChars cs ++ back := by
  let rest := cs.dropWhile isBlank
  refine ⟨cs.takeWhile isBlank, (rest.reverse.takeWhile isBlank).reverse, ?_, ?_, ?_⟩
  · exact fun c hc => List.mem_takeWhile_imp hc
  · exact fun c hc => List.mem_takeWhile_imp (List.mem_reverse.1 hc)
  · rw [List.append_assoc, trimChars, ← List.reverse_append, List.takeWhile_append_dropWhile,
      List.reverse_reverse, List.takeWhile_append_dropWhile]

/-! ## Blanks around a text -/

/-- Blanks around a text do not matter. -/
theorem trimChars_surrounded {front back : List Char} (hfront : ∀ c ∈ front, isBlank c)
    (hback : ∀ c ∈ back, isBlank c) (cs : List Char) :
    trimChars (front ++ cs ++ back) = trimChars cs := by
  have hnothing : back.dropWhile isBlank = [] := List.dropWhile_eq_nil_iff.2 hback
  have hreverse : ∀ c ∈ back.reverse, isBlank c := fun c hc => hback c (List.mem_reverse.1 hc)
  rw [trimChars, List.append_assoc, List.dropWhile_append_of_pos hfront, List.dropWhile_append]
  split
  · rename_i hblank
    rw [hnothing, trimChars, List.isEmpty_iff.1 hblank]
  · rw [List.reverse_append, List.dropWhile_append_of_pos hreverse, trimChars]

/-- Nothing is left of blanks alone. -/
theorem trimChars_eq_nil_iff {cs : List Char} : trimChars cs = [] ↔ ∀ c ∈ cs, isBlank c := by
  constructor
  · intro h
    obtain ⟨front, back, hfront, hback, hcs⟩ := exists_surrounded cs
    rw [h, List.append_nil] at hcs
    rw [hcs]
    exact List.forall_mem_append.2 ⟨hfront, hback⟩
  · intro h
    have hnothing := trimChars_surrounded h (List.forall_mem_nil _) []
    rwa [List.append_nil, List.append_nil] at hnothing

/-- A text that begins and ends without a blank is left as it is. -/
theorem trimChars_eq_self {cs : List Char} (hhead : ∀ c ∈ cs.head?, ¬ isBlank c)
    (hlast : ∀ c ∈ cs.getLast?, ¬ isBlank c) : trimChars cs = cs := by
  obtain ⟨front, back, hfront, hback, hcs⟩ := exists_surrounded cs
  cases front with
  | cons c front =>
    rw [List.append_assoc] at hcs
    exact absurd (hfront c List.mem_cons_self) (hhead c (by rw [hcs]; rfl))
  | nil =>
    rcases List.eq_nil_or_concat back with rfl | ⟨back, c, rfl⟩
    · rw [List.nil_append, List.append_nil] at hcs
      exact hcs.symm
    · refine absurd (hback c (by simp)) (hlast c ?_)
      rw [hcs]
      simp

/-! ## Texts without blanks -/

/-- Without blanks, nothing is dropped. -/
theorem dropWhile_isBlank_eq_self {cs : List Char} (h : cs.all (!isBlank ·)) :
    cs.dropWhile isBlank = cs := by
  cases cs with
  | nil => rfl
  | cons c cs =>
    rw [List.all_cons, Bool.and_eq_true, Bool.not_eq_true'] at h
    rw [List.dropWhile_cons_of_neg (by simp [h.1])]

/-- A text without blanks is left as it is. -/
theorem trim_eq_self {s : String} (h : s.toList.all (!isBlank ·)) : trim s = s := by
  have hreverse : s.toList.reverse.all (!isBlank ·) := by rwa [List.all_reverse]
  rw [trim, trimChars, dropWhile_isBlank_eq_self h, dropWhile_isBlank_eq_self hreverse,
    List.reverse_reverse, String.ofList_toList]

end AbiBindings.Text
