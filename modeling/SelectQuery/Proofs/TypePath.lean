import Mathlib.Data.List.Infix
import SelectQuery.Entity

/-!
The tables of types. A type is known by the path to it, which may be generic, and its table is named
after the type alone. The arguments of a generic type hold paths too, so it matters that they are cut
off before the last segment is looked for.

What is proved:
  1. `lastSegment_eq_iff`: what is found in a text is what stands behind its last pair of colons, or
     the whole text if it has none.
  2. `takeWhile_text`, `lastSegment_text`: of a path the arguments are cut off, whatever they are, and
     then the name of the type is found, whatever modules it is in.
  3. `ofType_path`: so the table is the plural of the name in lower case, and the types of one name
     share it.
-/

namespace SelectQuery

/-- A character of joined texts stands in one of them or in what joins them. -/
theorem Text.not_mem_intercalate {sep : String} {c : Char} (free : c ∉ sep.toList) {texts : List String}
    (each : ∀ s ∈ texts, c ∉ s.toList) : c ∉ (String.intercalate sep texts).toList := by
  induction texts with
  | nil => simp
  | cons s texts ih =>
    obtain ⟨first, later⟩ := List.forall_mem_cons.1 each
    by_cases alone : texts = []
    · rw [alone, String.intercalate_singleton]
      exact first
    · simp only [String.intercalate_cons_of_ne_nil alone, String.toList_append, List.mem_append,
        not_or]
      exact ⟨⟨first, free⟩, ih later⟩

namespace TableName

variable {a cs name path rest : List Char} {c : Char}

/-! ## Pairs of colons -/

/-- A text without a pair of colons. -/
def Unpaired (cs : List Char) : Prop := ¬ [':', ':'] <:+: cs

instance (cs : List Char) : Decidable (Unpaired cs) := inferInstanceAs (Decidable (¬ _))

theorem Unpaired.reverse (free : Unpaired cs) : Unpaired cs.reverse := by
  intro pair
  have turned : [':', ':'].reverse <:+: cs := List.reverse_infix.1 (by rwa [List.reverse_reverse])
  exact free turned

theorem unpaired_short (short : cs.length < 2) : Unpaired cs :=
  fun pair => absurd pair.length_le (Nat.not_le_of_lt short)

theorem unpaired_cons_iff : Unpaired (c :: cs) ↔ ¬ [':', ':'] <+: c :: cs ∧ Unpaired cs := by
  rw [Unpaired, List.infix_cons_iff, not_or]
  rfl

theorem unpaired_cons (head : cs.head? ≠ some ':') (free : Unpaired cs) : Unpaired (c :: cs) := by
  refine unpaired_cons_iff.2 ⟨fun pair => head ?_, free⟩
  obtain ⟨rest, same⟩ := pair
  rw [← (List.cons.inj same).2]
  rfl

theorem beforeColons_cons (c : Char) (cs : List Char) :
    beforeColons (c :: cs) = if [':', ':'] <+: c :: cs then [] else c :: beforeColons cs := by
  by_cases pair : [':', ':'] <+: c :: cs
  · obtain ⟨rest, same⟩ := pair
    rw [if_pos ⟨rest, same⟩, ← same]
    rfl
  · rw [if_neg pair, beforeColons]
    intro rest colon behind
    exact pair ⟨rest, by rw [colon, behind]; rfl⟩

/-- What stands before a pair of colons is found if no pair comes earlier. -/
theorem beforeColons_append (free : Unpaired (a ++ [':'])) :
    beforeColons (a ++ ':' :: ':' :: rest) = a := by
  induction a with
  | nil => rfl
  | cons c a ih =>
    obtain ⟨other, later⟩ := unpaired_cons_iff.1 free
    -- A pair at the front would end at the latest in the first of the two colons.
    have apart : ¬ [':', ':'] <+: c :: (a ++ ':' :: ':' :: rest) := by
      intro pair
      have front : c :: (a ++ [':']) <+: c :: (a ++ ':' :: ':' :: rest) := ⟨':' :: rest, by simp⟩
      exact other (List.prefix_of_prefix_length_le pair front (by simp))
    rw [List.cons_append, beforeColons_cons, if_neg apart, ih later]

/-- A text without a pair of colons is found as a whole. -/
theorem beforeColons_of_unpaired (free : Unpaired cs) : beforeColons cs = cs := by
  induction cs with
  | nil => rfl
  | cons c cs ih =>
    obtain ⟨other, later⟩ := unpaired_cons_iff.1 free
    rw [beforeColons_cons, if_neg other, ih later]

/-- There is no pair of colons, or there is a first one. -/
theorem beforeColons_cases (cs : List Char) :
    Unpaired cs ∨ ∃ a rest, cs = a ++ ':' :: ':' :: rest ∧ Unpaired (a ++ [':']) := by
  induction cs with
  | nil => exact .inl (unpaired_short (by decide))
  | cons c cs ih =>
    by_cases pair : [':', ':'] <+: c :: cs
    · obtain ⟨rest, same⟩ := pair
      exact .inr ⟨[], rest, same.symm, unpaired_short (by decide)⟩
    obtain free | ⟨a, rest, rfl, free⟩ := ih
    · exact .inl (unpaired_cons_iff.2 ⟨pair, free⟩)
    · refine .inr ⟨c :: a, rest, rfl, unpaired_cons_iff.2 ⟨fun start => pair ?_, free⟩⟩
      exact start.trans ⟨':' :: rest, by simp⟩

/-! ## The last segment -/

/-- The text behind the last pair of colons, or the whole text where there is none. -/
inductive Last : List Char → List Char → Prop where
  | whole {name : List Char} (free : Unpaired name) : Last name name
  | behind {front name : List Char} (free : Unpaired (':' :: name)) :
    Last (front ++ ':' :: ':' :: name) name

theorem lastSegment_of_last (last : Last path name) : lastSegment path = name := by
  cases last with
  | whole free => rw [lastSegment, beforeColons_of_unpaired free.reverse, List.reverse_reverse]
  | @behind front _ free =>
    have turned : (front ++ ':' :: ':' :: name).reverse =
        name.reverse ++ ':' :: ':' :: front.reverse := by
      simp
    have first : Unpaired (name.reverse ++ [':']) := by
      rw [← List.reverse_cons]
      exact free.reverse
    rw [lastSegment, turned, beforeColons_append first, List.reverse_reverse]

theorem exists_last (path : List Char) : ∃ name, Last path name := by
  obtain free | ⟨a, rest, turned, free⟩ := beforeColons_cases path.reverse
  · have same := free.reverse
    rw [List.reverse_reverse] at same
    exact ⟨path, .whole same⟩
  · have same : path = rest.reverse ++ ':' :: ':' :: a.reverse := by
      rw [← List.reverse_reverse path, turned]
      simp
    have behind := free.reverse
    rw [List.reverse_append] at behind
    rw [same]
    exact ⟨a.reverse, .behind behind⟩

/-- What is found is the text behind the last pair of colons. -/
theorem lastSegment_eq_iff : lastSegment path = name ↔ Last path name := by
  constructor
  · intro found
    obtain ⟨other, last⟩ := exists_last path
    rw [lastSegment_of_last last] at found
    exact found ▸ last
  · exact lastSegment_of_last

/-- In a path with arguments it is a part of these, so they have to be cut off before. -/
example : lastSegment "store::Cache<app::User>".toList = "User>".toList := by decide

/-! ## Paths -/

/-- A segment of a path: a text without a pair of colons, without a colon at its ends, and without the
sign that starts arguments. -/
structure Segment where
  text : String
  unpaired : Unpaired text.toList := by decide
  simple : '<' ∉ text.toList := by decide
  head : text.toList.head? ≠ some ':' := by decide
  last : text.toList.getLast? ≠ some ':' := by decide

/-- The path to a type: the modules that it is in, its name, and, if it is generic, all that stands
behind the sign that starts the arguments. -/
structure TypePath where
  modules : List Segment
  name : Segment
  arguments : Option String

namespace TypePath

variable (p : TypePath)

/-- The segments with pairs of colons between them. -/
def joined : String := String.intercalate "::" ((p.modules ++ [p.name]).map Segment.text)

/-- The arguments behind the sign that starts them. -/
def argumentsText : Option String → String
  | none => ""
  | some arguments => "<" ++ arguments

def text : String := p.joined ++ argumentsText p.arguments

theorem last_joined : Last p.joined.toList p.name.text.toList := by
  rw [joined, List.map_append, List.map_singleton]
  by_cases alone : p.modules.map Segment.text = []
  · rw [alone, List.nil_append, String.intercalate_singleton]
    exact .whole p.name.unpaired
  · have pair : "::".toList = [':', ':'] := by decide
    rw [String.intercalate_append_of_ne_nil alone (List.cons_ne_nil _ _),
      String.intercalate_singleton, String.toList_append, String.toList_append, pair,
      List.append_assoc]
    exact .behind (unpaired_cons p.name.head p.name.unpaired)

theorem simple_joined : '<' ∉ p.joined.toList := by
  apply Text.not_mem_intercalate (by decide)
  intro s hs
  obtain ⟨m, -, rfl⟩ := List.mem_map.1 hs
  exact m.simple

/-- The arguments are cut off, paths among them included. -/
theorem takeWhile_text : p.text.toList.takeWhile (· ≠ '<') = p.joined.toList := by
  have before : ∀ c ∈ p.joined.toList, decide (c ≠ '<') = true := by
    intro c hc
    apply decide_eq_true
    intro same
    exact p.simple_joined (same ▸ hc)
  rw [text, String.toList_append, List.takeWhile_append_of_pos before]
  cases p.arguments with
  | none => simp [argumentsText]
  | some arguments => simp [argumentsText]

theorem lastSegment_text :
    lastSegment (p.text.toList.takeWhile (· ≠ '<')) = p.name.text.toList := by
  rw [takeWhile_text, lastSegment_eq_iff]
  exact p.last_joined

/-- The table of a type is the plural of its name in lower case, whatever modules it is in and
whatever its arguments are, and however words are put into the plural. So the types of one name have
the same table, and queries over them start alike. -/
theorem ofType_path :
    (∀ plural : String → String,
      ofType plural p.text = plural (String.ofList (Text.lower p.name.text.toList))) ∧
    (Entity.ofType p.text).table =
      Inflection.plural (String.ofList (Text.lower p.name.text.toList)) ∧
    ∀ q : TypePath, q.name.text = p.name.text →
      (∀ plural, ofType plural q.text = ofType plural p.text) ∧
      Entity.ofType q.text = Entity.ofType p.text := by
  have named (r : TypePath) (plural : String → String) : ofType plural r.text =
      plural (String.ofList (Text.lower r.name.text.toList)) := by
    rw [ofType, r.lastSegment_text]
  refine ⟨named p, named p Inflection.plural, ?_⟩
  intro q same
  have shared (plural : String → String) : ofType plural q.text = ofType plural p.text := by
    rw [named q, named p, same]
  exact ⟨shared, by rw [Entity.ofType, Entity.ofType, shared]⟩

/-- A generic type whose argument is the path of another type, and a type of the same name. -/
theorem ofType_path_of_generic :
    let generic : TypePath := ⟨[{ text := "app" }, { text := "store" }], { text := "Cache" },
      some "app::models::BlogPost>"⟩
    let plain : TypePath := ⟨[{ text := "web" }], { text := "Cache" }, none⟩
    generic.text = "app::store::Cache<app::models::BlogPost>" ∧ plain.text = "web::Cache" ∧
    ofType Inflection.plural generic.text = "caches" ∧
    Entity.ofType plain.text = Entity.ofType generic.text := by
  intro generic plain
  have word : Inflection.plural (String.ofList (Text.lower "Cache".toList)) = "caches" := by
    decide +kernel
  refine ⟨by decide, by decide, ?_, ((ofType_path generic).2.2 plain rfl).2⟩
  rw [(ofType_path generic).1 Inflection.plural]
  exact word

end TypePath

end TableName

end SelectQuery
