import Mathlib.Data.List.Basic
import Mathlib.Data.List.TakeWhile
import SelectQuery.Text.Blank

/-!
Texts without the blanks around them.

What is proved:
  1. `isBlank_iff`: the blanks are the 25 characters with the property White_Space.
  2. `trim_eq_iff`: trimming a text leaves what stands between the blanks at both of its ends, and all
     of it.
-/

namespace SelectQuery.Text

/-- The characters with the property White_Space. -/
def whiteSpace : List Char := [
  '\t', '\n', '\x0b', '\x0c', '\r', ' ', '\u0085', '\u00a0', '\u1680', '\u2000', '\u2001', '\u2002',
  '\u2003', '\u2004', '\u2005', '\u2006', '\u2007', '\u2008', '\u2009', '\u200a', '\u2028', '\u2029',
  '\u202f', '\u205f', '\u3000']

theorem isBlank_iff {c : Char} : isBlank c ↔ c ∈ whiteSpace := by
  have numbers : c ∈ whiteSpace ↔ c.toNat ∈ whiteSpace.map Char.toNat :=
    (List.mem_map_of_injective fun _ _ => Char.toNat_inj.1).symm
  rw [numbers]
  simp only [isBlank, Bool.or_eq_true, Bool.and_eq_true, decide_eq_true_eq, beq_iff_eq, whiteSpace,
    List.map_cons, Char.reduceToNat, List.map_nil, List.mem_cons, List.not_mem_nil, or_false]
  omega

theorem isBlank_eq_false_iff {c : Char} : isBlank c = false ↔ c ∉ whiteSpace := by
  rw [← isBlank_iff, Bool.not_eq_true]

section Spans

variable {p : Char → Bool} {cs : List Char}

theorem takeWhile_of_head (h : ∀ c ∈ cs.head?, p c = false) : cs.takeWhile p = [] := by
  cases cs with
  | nil => rfl
  | cons c cs => rw [List.takeWhile_cons_of_neg (by simp [h c rfl])]

theorem dropWhile_of_head (h : ∀ c ∈ cs.head?, p c = false) : cs.dropWhile p = cs := by
  cases cs with
  | nil => rfl
  | cons c cs => rw [List.dropWhile_cons_of_neg (by simp [h c rfl])]

theorem head_dropWhile : ∀ c ∈ (cs.dropWhile p).head?, p c = false := by
  intro c hc
  have stop := cs.head?_dropWhile_not p
  rwa [Option.mem_def.1 hc] at stop

end Spans

/-! ## Trimmed texts -/

/-- The text `core` is what is left of `cs` without the blanks at both ends. -/
structure Trimmed (cs core : List Char) : Prop where
  parts : ∃ before after, cs = before ++ core ++ after ∧ (∀ c ∈ before, c ∈ whiteSpace) ∧
    ∀ c ∈ after, c ∈ whiteSpace
  head : ∀ c ∈ core.head?, c ∉ whiteSpace
  last : ∀ c ∈ core.getLast?, c ∉ whiteSpace

variable {cs core before after : List Char}

theorem trimStart_append (blank : ∀ c ∈ before, isBlank c) :
    trimStart (before ++ cs) = trimStart cs :=
  List.dropWhile_append_of_pos blank

theorem trimEnd_append (blank : ∀ c ∈ after, isBlank c) : trimEnd (cs ++ after) = trimEnd cs := by
  have reversed : ∀ c ∈ after.reverse, isBlank c := fun c hc => blank c (List.mem_reverse.1 hc)
  rw [trimEnd, List.reverse_append, List.dropWhile_append_of_pos reversed, trimEnd]

theorem trimEnd_of_last (h : ∀ c ∈ cs.getLast?, isBlank c = false) : trimEnd cs = cs := by
  rw [trimEnd, dropWhile_of_head, List.reverse_reverse]
  rwa [List.head?_reverse]

theorem trim_append (front : ∀ c ∈ before, isBlank c) (back : ∀ c ∈ after, isBlank c)
    (head : ∀ c ∈ core.head?, isBlank c = false) (last : ∀ c ∈ core.getLast?, isBlank c = false) :
    trim (before ++ core ++ after) = core := by
  rw [trim, List.append_assoc, trimStart_append front]
  cases core with
  | nil =>
    have all : trimStart after = [] := List.dropWhile_eq_nil_iff.2 back
    rw [List.nil_append, all]
    rfl
  | cons c cs =>
    have start : trimStart (c :: cs ++ after) = c :: cs ++ after := dropWhile_of_head head
    rw [start, trimEnd_append back, trimEnd_of_last last]

theorem trimmed_trim (cs : List Char) : Trimmed cs (trim cs) := by
  have ends : trimStart cs = trim cs ++ ((trimStart cs).reverse.takeWhile isBlank).reverse := by
    rw [trim, trimEnd, ← List.reverse_append, List.takeWhile_append_dropWhile, List.reverse_reverse]
  refine ⟨⟨cs.takeWhile isBlank, ((trimStart cs).reverse.takeWhile isBlank).reverse, ?_, ?_, ?_⟩,
    ?_, ?_⟩
  · rw [List.append_assoc, ← ends, trimStart, List.takeWhile_append_dropWhile]
  · exact fun c hc => isBlank_iff.1 (List.mem_takeWhile_imp hc)
  · exact fun c hc => isBlank_iff.1 (List.mem_takeWhile_imp (List.mem_reverse.1 hc))
  · intro c hc
    have start : c ∈ (trimStart cs).head? := by
      rw [ends, List.head?_append, Option.mem_def.1 hc]
      rfl
    exact isBlank_eq_false_iff.1 (head_dropWhile c start)
  · intro c hc
    rw [trim, trimEnd, List.getLast?_reverse] at hc
    exact isBlank_eq_false_iff.1 (head_dropWhile c hc)

theorem trim_eq_iff : trim cs = core ↔ Trimmed cs core := by
  constructor
  · rintro rfl
    exact trimmed_trim cs
  · rintro ⟨⟨before, after, rfl, front, back⟩, head, last⟩
    exact trim_append (fun c hc => isBlank_iff.2 (front c hc))
      (fun c hc => isBlank_iff.2 (back c hc)) (fun c hc => isBlank_eq_false_iff.2 (head c hc))
      fun c hc => isBlank_eq_false_iff.2 (last c hc)

end SelectQuery.Text
