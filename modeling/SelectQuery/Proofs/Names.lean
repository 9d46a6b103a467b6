import SelectQuery.Scope

/-!
Names: those that stand in conditions, and paths, which are identifiers with dots between them.

What is proved:
  1. `isNameChar_of_mem`: a path holds letters, digits, underscores and dots alone.
  2. `stable_nameChar`: these are ASCII characters, and go with their upper and lower cases.
  3. `isQualifiedPath_qualified`: a path qualified with a path is a path with a dot.
-/

namespace SelectQuery

/-! ## The names in conditions -/

def Operand.names : Operand → List String
  | value _ => []
  | column path => [path]

def Test.names : Test → List String
  | compare column _ operand => column :: operand.names
  | oneOf column _ _ => [column]
  | between column _ _ _ => [column]
  | isNull column _ => [column]

namespace Condition

mutual

def names : Condition → List String
  | test _ t => t.names
  | group _ parts => allNames parts

def allNames : List Condition → List String
  | [] => []
  | c :: rest => c.names ++ allNames rest

end

end Condition

/-! ## Paths -/

/-- Whether the text is an identifier, or several with dots between them. -/
def isIdentifierPath (name : String) : Bool :=
  (Text.segments '.' name.toList).all Text.isIdentifier

/-- Whether `c` can stand in a path. -/
def isNameChar (c : Char) : Bool := Text.isIdentifierRest c || c == '.'

namespace Text

/-- Every character of a text is a separator or stands in a segment. -/
theorem mem_segments {sep c : Char} {cs : List Char} (h : c ∈ cs) :
    c = sep ∨ ∃ s ∈ segments sep cs, c ∈ s := by
  induction cs with
  | nil => exact absurd h List.not_mem_nil
  | cons d cs ih =>
    by_cases hd : d = sep
    · rcases List.mem_cons.1 h with rfl | h
      · exact .inl hd
      · refine (ih h).imp_right fun ⟨s, hs, hc⟩ => ⟨s, ?_, hc⟩
        simpa [segments, hd] using .inr hs
    -- Any other character is put in front of the first segment of the rest.
    · cases parts : segments sep cs with
      | nil =>
        have first : segments sep (d :: cs) = [[d]] := by simp [segments, hd, parts]
        rcases List.mem_cons.1 h with rfl | h
        · exact .inr ⟨[c], by simp [first], by simp⟩
        · exact (ih h).imp_right fun ⟨s, hs, _⟩ => absurd hs (by simp [parts])
      | cons p ps =>
        have first : segments sep (d :: cs) = (d :: p) :: ps := by simp [segments, hd, parts]
        rw [first]
        rcases List.mem_cons.1 h with rfl | h
        · exact .inr ⟨c :: p, List.mem_cons_self, List.mem_cons_self⟩
        · refine (ih h).imp_right fun ⟨s, hs, hc⟩ => ?_
          rw [parts] at hs
          rcases List.mem_cons.1 hs with rfl | hs
          · exact ⟨d :: s, List.mem_cons_self, List.mem_cons_of_mem d hc⟩
          · exact ⟨s, List.mem_cons_of_mem _ hs, hc⟩

theorem isIdentifierRest_of_start {c : Char} (h : isIdentifierStart c) : isIdentifierRest c := by
  simp only [isIdentifierStart, isIdentifierRest, Char.isAlphanum, Bool.or_eq_true] at h ⊢
  exact h.imp_left .inl

theorem isIdentifierRest_of_mem {cs : List Char} (h : isIdentifier cs) {c : Char} (hc : c ∈ cs) :
    isIdentifierRest c := by
  cases cs with
  | nil => exact absurd hc List.not_mem_nil
  | cons d cs =>
    rw [isIdentifier, Bool.and_eq_true] at h
    rcases List.mem_cons.1 hc with rfl | hc
    · exact isIdentifierRest_of_start h.1
    · exact List.all_eq_true.1 h.2 c hc

end Text

/-- A path holds no characters but those of identifiers and dots. -/
theorem isNameChar_of_mem {name : String} (h : isIdentifierPath name) {c : Char}
    (hc : c ∈ name.toList) : isNameChar c := by
  rw [isNameChar, Bool.or_eq_true, beq_iff_eq]
  rcases Text.mem_segments hc with dot | ⟨s, hs, hc⟩
  · exact .inr dot
  · exact .inl (Text.isIdentifierRest_of_mem (List.all_eq_true.1 h s hs) hc)

theorem isNameChar_of_isDigit {c : Char} (h : c.isDigit) : isNameChar c := by
  simp [isNameChar, Text.isIdentifierRest, Char.isAlphanum, h]

theorem isNameChar_of_rest {c : Char} (h : Text.isIdentifierRest c) : isNameChar c := by
  rw [isNameChar, h, Bool.true_or]

/-- Whether `c` stands in names, in keywords or between them. -/
def isTextChar (c : Char) : Bool := isNameChar c || c == ' '

namespace Text

/-- A text of characters that satisfy `p`. -/
def Only (p : Char → Bool) (cs : List Char) : Prop := ∀ c ∈ cs, p c

instance (p : Char → Bool) (cs : List Char) : Decidable (Only p cs) :=
  List.decidableBAll (fun c => p c = true) cs

namespace Only

variable {p q : Char → Bool} {a b cs : List Char} {c : Char}

theorem nil : Only p [] := fun _ hc => absurd hc List.not_mem_nil

theorem append (ha : Only p a) (hb : Only p b) : Only p (a ++ b) := by
  intro c hc
  rcases List.mem_append.1 hc with hc | hc
  · exact ha c hc
  · exact hb c hc

theorem cons (hc : p c) (h : Only p cs) : Only p (c :: cs) := by
  intro d hd
  rcases List.mem_cons.1 hd with rfl | hd
  · exact hc
  · exact h d hd

theorem tail (h : Only p (c :: cs)) : Only p cs := fun d hd => h d (List.mem_cons_of_mem c hd)

theorem head (h : Only p (c :: cs)) : p c := h c List.mem_cons_self

theorem text (h : Only isNameChar cs) : Only isTextChar cs := by
  intro c hc
  rw [isTextChar, h c hc, Bool.true_or]

end Only

end Text

theorem only_nameChar {name : String} (h : isIdentifierPath name) :
    Text.Only isNameChar name.toList := fun _ hc => isNameChar_of_mem h hc

/-! ## Letter case -/

/-- ASCII characters that go with their upper and lower cases. -/
structure Text.Stable (p : Char → Bool) : Prop where
  ascii : ∀ c, p c → c.toNat < 0x80
  lower : ∀ c, p c → p c.toLower
  upper : ∀ c, p c → p c.toUpper

/-- Of ASCII characters it is enough to look at each. -/
theorem Text.Stable.of_ascii {p : Char → Bool} (ascii : ∀ c, p c → c.toNat < 0x80)
    (each : ∀ n < 0x80, p (Char.ofNat n) →
      p (Char.ofNat n).toLower ∧ p (Char.ofNat n).toUpper) : Stable p := by
  have cases (c : Char) (h : p c) : p c.toLower ∧ p c.toUpper := by
    have same := each c.toNat (ascii c h)
    rw [Char.ofNat_toNat] at same
    exact same h
  exact ⟨ascii, fun c h => (cases c h).1, fun c h => (cases c h).2⟩

theorem toNat_of_nameChar {c : Char} (h : isNameChar c) : c.toNat < 0x80 := by
  simp only [isNameChar, Text.isIdentifierRest, Bool.or_eq_true, beq_iff_eq] at h
  rcases h with (h | rfl) | rfl
  · delta Char.isAlphanum Char.isAlpha Char.isUpper Char.isLower Char.isDigit at h
    simp only [Bool.or_eq_true, Bool.and_eq_true, decide_eq_true_eq, UInt32.le_iff_toNat_le,
      ge_iff_le] at h
    have code : c.toNat = c.val.toNat := rfl
    have upper : 'Z'.val.toNat = 90 := rfl
    have lower : 'z'.val.toNat = 122 := rfl
    have digit : '9'.val.toNat = 57 := rfl
    omega
  all_goals decide

theorem stable_nameChar : Text.Stable isNameChar :=
  .of_ascii (fun _ => toNat_of_nameChar) (by decide)

theorem stable_identifierRest : Text.Stable Text.isIdentifierRest :=
  .of_ascii (fun _ h => toNat_of_nameChar (isNameChar_of_rest h)) (by decide)

/-! ## Qualified paths -/

/-- Whether the text is a path of two or more identifiers. -/
def isQualifiedPath (name : String) : Bool := isIdentifierPath name && Column.isDotted name

/-- What a value names is a path with a dot. -/
theorem isQualifiedPath_namedColumn {oracle : Option Oracle} {v : Value} {path : String}
    (h : v.namedColumn? oracle = some path) : isQualifiedPath path := by
  have named : isPath path.toList := by
    unfold Value.namedColumn? at h
    grind
  rw [isPath, Bool.and_comm] at named
  exact named

theorem isIdentifierPath_of_qualified {name : String} (h : isQualifiedPath name) :
    isIdentifierPath name := by
  rw [isQualifiedPath, Bool.and_eq_true] at h
  exact h.1

namespace Text

theorem segments_ne_nil (sep : Char) (cs : List Char) : segments sep cs ≠ [] := by
  cases cs with
  | nil => simp [segments]
  | cons c cs =>
    rw [segments]
    split
    · simp
    · split <;> simp

/-- Texts with a separator between them have the segments of the one and of the other. -/
theorem segments_append (sep : Char) (a b : List Char) :
    segments sep (a ++ sep :: b) = segments sep a ++ segments sep b := by
  induction a with
  | nil => simp [segments]
  | cons c a ih =>
    by_cases hc : c = sep
    · simp [segments, hc, ih]
    · simp only [List.cons_append, segments, hc, if_false, ih]
      cases parts : segments sep a with
      | nil => exact absurd parts (segments_ne_nil sep a)
      | cons p ps => rfl

end Text

theorem isDotted_of_qualified {name : String} (h : isQualifiedPath name) :
    Column.isDotted name := by
  rw [isQualifiedPath, Bool.and_eq_true] at h
  exact h.2

theorem isDotted_qualified (name table : String) :
    Column.isDotted (Column.qualified name table) := by
  unfold Column.qualified
  split
  · assumption
  · simp [Column.isDotted]

theorem isQualifiedPath_qualified {name table : String} (hn : isIdentifierPath name)
    (ht : isIdentifierPath table) : isQualifiedPath (Column.qualified name table) := by
  rw [isQualifiedPath, Bool.and_eq_true]
  refine ⟨?_, isDotted_qualified name table⟩
  unfold Column.qualified
  split
  · exact hn
  · have chars : (table ++ "." ++ name).toList = table.toList ++ '.' :: name.toList := by
      simp
    rw [isIdentifierPath, chars, Text.segments_append, List.all_append, Bool.and_eq_true]
    exact ⟨ht, hn⟩

end SelectQuery
