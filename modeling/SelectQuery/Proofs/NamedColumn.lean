import SelectQuery.Proofs.Checks
import SelectQuery.Proofs.Draft
import SelectQuery.Proofs.Lookup

/-!
What a comparison writes for its value. Nearly always a placeholder, to which the value is bound.
But a text that reads like the path of a column is taken for the column and written itself, and this
is the one way by which text of a caller gets into a statement unquoted. So it matters exactly which
texts are taken for paths.

What is proved:
  1. `isIdentifier_iff`, `isPath_iff`: the paths are two or more ASCII words with dots between them.
  2. `namedColumn_eq_some_iff`: a value names a column exactly if it is a text that is a path and the
     oracle, if there is one, knows a column there.
  3. `contribution_of_operand`: what is written for a value is a placeholder, or it is the text of
     the value and has no characters but those of paths.
  4. `comparison_writes`: both, for every comparison, in place or not.
-/

namespace SelectQuery

/-! ## Paths -/

namespace Text

/-- An ASCII letter or an underscore. -/
def Letter (c : Char) : Prop := 'A' ≤ c ∧ c ≤ 'Z' ∨ 'a' ≤ c ∧ c ≤ 'z' ∨ c = '_'

def WordChar (c : Char) : Prop := Letter c ∨ '0' ≤ c ∧ c ≤ '9'

/-- A letter, and letters and digits behind it. -/
def Word (cs : List Char) : Prop :=
  ∃ first rest, cs = first :: rest ∧ Letter first ∧ ∀ c ∈ rest, WordChar c

/-- Two or more words with dots between them. -/
def Path (text : String) : Prop :=
  ∃ words : List String, 2 ≤ words.length ∧ (∀ w ∈ words, Word w.toList) ∧
    text = String.intercalate "." words

theorem between_iff {low high c : Char} :
    (decide (low.val ≤ c.val) && decide (c.val ≤ high.val)) = true ↔ low ≤ c ∧ c ≤ high := by
  rw [Bool.and_eq_true, decide_eq_true_eq, decide_eq_true_eq]
  rfl

theorem isIdentifierStart_iff {c : Char} : isIdentifierStart c ↔ Letter c := by
  have upper : c.isUpper ↔ 'A' ≤ c ∧ c ≤ 'Z' := decide_eq_true_iff
  have lower : c.isLower ↔ 'a' ≤ c ∧ c ≤ 'z' := between_iff
  show (c.isUpper || c.isLower || c == '_') = true ↔ _
  rw [Bool.or_eq_true, Bool.or_eq_true, upper, lower, beq_iff_eq, or_assoc, Letter]

theorem isIdentifierRest_iff {c : Char} : isIdentifierRest c ↔ WordChar c := by
  have digit : c.isDigit ↔ '0' ≤ c ∧ c ≤ '9' := between_iff
  rw [WordChar, ← isIdentifierStart_iff, ← digit]
  show (c.isAlpha || c.isDigit || c == '_') = true ↔ (c.isAlpha || c == '_') = true ∨ _
  rw [Bool.or_eq_true, Bool.or_eq_true, Bool.or_eq_true, or_right_comm]

theorem isIdentifier_iff {cs : List Char} : isIdentifier cs ↔ Word cs := by
  cases cs with
  | nil =>
    constructor
    · intro h
      cases h
    · rintro ⟨first, rest, empty, -⟩
      cases empty
  | cons c rest =>
    rw [isIdentifier, Bool.and_eq_true, isIdentifierStart_iff, List.all_eq_true]
    constructor
    · rintro ⟨start, later⟩
      exact ⟨c, rest, rfl, start, fun d hd => isIdentifierRest_iff.1 (later d hd)⟩
    · rintro ⟨_, _, cons, start, later⟩
      obtain ⟨rfl, rfl⟩ := List.cons_eq_cons.1 cons
      exact ⟨start, fun d hd => isIdentifierRest_iff.2 (later d hd)⟩

end Text

/-- A path in the sense of the checks is two or more words with dots between them. -/
theorem isPath_iff {text : String} : isPath text.toList ↔ Text.Path text := by
  rw [isPath, Bool.and_eq_true, List.contains_iff_mem, List.all_eq_true]
  constructor
  · rintro ⟨dot, identifiers⟩
    obtain ⟨first, second, rest, parts⟩ := Text.exists_segments dot
    rw [parts] at identifiers
    let words := (first :: second :: rest).map String.ofList
    have chars : words.map String.toList = first :: second :: rest := by
      simp [words, Function.comp_def]
    refine ⟨words, by simp [words], ?_, ?_⟩
    · intro w hw
      obtain ⟨s, hs, rfl⟩ := List.mem_map.1 hw
      rw [String.toList_ofList]
      exact Text.isIdentifier_iff.1 (identifiers s hs)
    · exact ((Text.segments_path (by simp [words])).1 (parts.trans chars.symm)).2
  · rintro ⟨words, more, each, made⟩
    obtain ⟨first, second, rest, rfl⟩ : ∃ first second rest, words = first :: second :: rest := by
      rcases words with _ | ⟨first, _ | ⟨second, rest⟩⟩
      · simp at more
      · simp at more
      · exact ⟨first, second, rest, rfl⟩
    have identifiers : ∀ w ∈ first :: second :: rest, Text.isIdentifier w.toList :=
      fun w hw => Text.isIdentifier_iff.2 (each w hw)
    -- A word holds no dot, so the dots of the text are those between the words.
    have free : ∀ w ∈ first :: second :: rest, '.' ∉ w.toList := by
      intro w hw dot
      exact absurd (Text.isIdentifierRest_of_mem (identifiers w hw) dot) (by decide)
    have parts := (Text.segments_path (List.cons_ne_nil _ _)).2 ⟨free, made⟩
    constructor
    · rw [made, String.intercalate_cons_cons]
      simp
    · rw [parts]
      intro s hs
      obtain ⟨w, hw, rfl⟩ := List.mem_map.1 hs
      exact identifiers w hw

/-- A path has letters, digits, underscores and dots alone. -/
theorem wordChar_of_path {text : String} (h : Text.Path text) {c : Char} (hc : c ∈ text.toList) :
    Text.WordChar c ∨ c = '.' := by
  have path : isIdentifierPath text := by
    have checked := isPath_iff.2 h
    rw [isPath, Bool.and_eq_true] at checked
    exact checked.2
  have plain := isNameChar_of_mem path hc
  rw [isNameChar, Bool.or_eq_true, Text.isIdentifierRest_iff, beq_iff_eq] at plain
  exact plain

/-! ## Values that name columns -/

/-- A value names a column exactly if it is a text, the text is a path, and an oracle knows it. -/
theorem namedColumn_eq_some_iff {oracle : Option Oracle} {v : Value} {path : String} :
    v.namedColumn? oracle = some path ↔
      v = .text path ∧ Text.Path path ∧ ∀ o ∈ oracle, (o.typeAt path).isSome := by
  cases v with
  | text content =>
    rw [← isPath_iff, Value.namedColumn?]
    cases oracle with
    | none =>
      simp only [Value.content?]
      grind
    | some o =>
      simp only [Value.content?]
      grind
  | _ => simp [Value.namedColumn?, Value.content?]

/-- What a comparison writes for a value, and the values that it binds: a placeholder for the value
itself, or, if the value names a column, its text for none. -/
inductive Contribution (oracle : Option Oracle) (v : Value) : String → List Value → Prop where
  | placeholder (free : v.namedColumn? oracle = none) : Contribution oracle v "?" [v]
  | path {text : String} (named : v.namedColumn? oracle = some text) (content : v = .text text)
    (plain : ∀ c ∈ text.toList, Text.WordChar c ∨ c = '.') : Contribution oracle v text []

namespace Scope

variable {s : Scope} {column path : String} {op : Operator} {v : Value}

theorem contribution_of_operand {o : Operand} (h : s.operand path v = .ok o) :
    Contribution s.oracle v (o.render Value.hidden) o.values := by
  rcases operand_eq_ok h with ⟨other, named, rfl⟩ | ⟨free, rfl⟩
  · obtain ⟨content, text, -⟩ := namedColumn_eq_some_iff.1 named
    exact .path named content fun c hc => wordChar_of_path text hc
  · exact .placeholder free

/-- A comparison is the qualified column, the operator and what is written for the value. -/
theorem contribution_of_valueTest {t : Test} (h : s.valueTest column op v = .ok t) :
    ∃ text, Contribution s.oracle v text t.values ∧
      t.render Value.hidden = Column.qualified column s.table ++ " " ++ op.text ++ " " ++ text := by
  simp only [valueTest, bind_eq_ok, pure_eq_ok] at h
  obtain ⟨path, found, operand, passed, rfl⟩ := h
  refine ⟨operand.render Value.hidden, contribution_of_operand passed, ?_⟩
  rw [Test.render, locate_eq_ok found]

end Scope

/-- A value names a column exactly if it is a text of two or more words with dots between them, the
words being of ASCII letters, digits and underscores and not starting with a digit, and an oracle, if
there is one, knows the column. So what a comparison writes behind its operator is a placeholder to
which its value is bound unchanged, or the content of the value, of the characters of paths alone,
with nothing bound. In place, a comparison that is refused writes nothing, and any other writes the
one fragment. This goes for the comparisons of WHERE, of ON and of joins with a value, which are all
made by `Scope.valueTest` and written by `Draft.compare`. -/
theorem comparison_writes :
    (∀ oracle (v : Value) path, v.namedColumn? oracle = some path ↔
      v = .text path ∧ Text.Path path ∧ ∀ o ∈ oracle, (o.typeAt path).isSome) ∧
    (∀ (s : Scope) column op v t, s.valueTest column op v = .ok t →
      ∃ text, Contribution s.oracle v text t.values ∧
        t.render Value.hidden =
          Column.qualified column s.table ++ " " ++ op.text ++ " " ++ text) ∧
    ∀ (d : Draft) link column op v,
      (∃ e, (Draft.compare link column op v).perform d = (.error e, d)) ∨
      ∃ text bound, Contribution d.scope.oracle v text bound ∧
        let sql := Column.qualified column d.scope.table ++ " " ++ op.text ++ " " ++ text
        (Draft.compare link column op v).perform d = (.ok (), { d with
          fragments := d.fragments ++ [if d.fragments.isEmpty then sql else link.text ++ " " ++ sql]
          bindings := d.bindings ++ bound }) := by
  refine ⟨fun _ _ _ => namedColumn_eq_some_iff, fun _ _ _ _ _ => Scope.contribution_of_valueTest, ?_⟩
  intro d link column op v
  simp only [Draft.compare, Edit.perform_bind, Edit.perform_get, Edit.perform_check]
  cases found : d.scope.locate column with
  | error e => exact .inl ⟨_, rfl⟩
  | ok path =>
    simp only [mapError_ok]
    cases passed : d.scope.operand path v with
    | error e => exact .inl ⟨_, rfl⟩
    | ok operand =>
      refine .inr ⟨_, _, Scope.contribution_of_operand passed, ?_⟩
      rw [← Scope.locate_eq_ok found]
      exact Draft.perform_push link _ _ d

/-- Look-alikes, empty words, leading digits and signs are bound; two words with a dot are written. -/
example : ["users.id", "users", "users..id", "users.1d", "users.idé", "users.id ", "users.id?"].map
    (fun s => (Value.text s).namedColumn? none) =
      [some "users.id", none, none, none, none, none, none] := by
  decide +kernel

end SelectQuery
