import SelectQuery.Entries
import SelectQuery.Value

/-!
The types of columns: which values a column accepts and which columns can be compared. The fields
of an object are in ascending order in every normal type, and `normalize` makes any type normal.
-/

namespace SelectQuery

/-- The declared type of a column. -/
inductive ColumnType where
  | string
  | number
  | boolean
  | date
  | array
  | object (fields : List (String × ColumnType))
  | optional (inner : ColumnType)
  | union (alternatives : List ColumnType)
  deriving Inhabited

namespace ColumnType

/-- The type without one level of `optional`. -/
def stripOptional : ColumnType → ColumnType
  | optional inner => inner
  | t => t

mutual

def accepts : ColumnType → Value → Bool
  | optional _, .null => true
  | optional inner, v => inner.accepts v
  | union ts, v => anyAccepts ts v
  | string, .text _ => true
  | number, .int _ => true
  | number, .float _ => true
  | boolean, .bool _ => true
  | date, .date _ => true
  | array, .array _ => true
  | _, _ => false

def anyAccepts : List ColumnType → Value → Bool
  | [], _ => false
  | t :: ts, v => t.accepts v || anyAccepts ts v

end

mutual

def same : ColumnType → ColumnType → Bool
  | string, string => true
  | number, number => true
  | boolean, boolean => true
  | date, date => true
  | array, array => true
  | object fs, object gs => sameFields fs gs
  | optional s, optional t => s.same t
  | union ss, union ts => sameAll ss ts
  | _, _ => false

def sameFields : List (String × ColumnType) → List (String × ColumnType) → Bool
  | [], [] => true
  | (j, s) :: ss, (k, t) :: ts => j == k && s.same t && sameFields ss ts
  | _, _ => false

def sameAll : List ColumnType → List ColumnType → Bool
  | [], [] => true
  | s :: ss, t :: ts => s.same t && sameAll ss ts
  | _, _ => false

end

theorem sizeOf_stripOptional_le (t : ColumnType) : sizeOf t.stripOptional ≤ sizeOf t := by
  cases t <;> simp [stripOptional]

mutual

/-- Whether columns of two types can be compared. A union can be compared if one of its
alternatives can, two objects always can, and other types have to be the same; one level of
`optional` does not count. -/
def comparable (s t : ColumnType) : Bool :=
  match _hs : s.stripOptional, _ht : t.stripOptional with
  | union alternatives, other => anyComparable alternatives other
  | other, union alternatives => anyComparable alternatives other
  | object _, object _ => true
  | left, right => left.same right
termination_by sizeOf s + sizeOf t
decreasing_by
  all_goals
    have h₁ := sizeOf_stripOptional_le s
    have h₂ := sizeOf_stripOptional_le t
    rw [_hs] at h₁
    rw [_ht] at h₂
    simp only [union.sizeOf_spec] at h₁ h₂
    omega

/-- Whether columns of one of the types can be compared with columns of the other type. -/
def anyComparable : List ColumnType → ColumnType → Bool
  | [], _ => false
  | s :: ss, t => s.comparable t || anyComparable ss t
termination_by ss t => sizeOf ss + sizeOf t

end

mutual

/-- The type as errors show it. -/
def text : ColumnType → String
  | string => "string"
  | number => "number"
  | boolean => "boolean"
  | date => "date"
  | array => "array"
  | object _ => "object"
  | optional inner => "optional<" ++ inner.text ++ ">"
  | union ts => String.intercalate " | " (texts ts)

def texts : List ColumnType → List String
  | [] => []
  | t :: ts => t.text :: texts ts

end

mutual

/-- The fields of every object in the type are in order. -/
def Normal : ColumnType → Prop
  | object fields => Entries.Ascending fields ∧ NormalFields fields
  | optional inner => inner.Normal
  | union ts => NormalAll ts
  | _ => True

def NormalFields : List (String × ColumnType) → Prop
  | [] => True
  | (_, t) :: rest => t.Normal ∧ NormalFields rest

def NormalAll : List ColumnType → Prop
  | [] => True
  | t :: ts => t.Normal ∧ NormalAll ts

end

mutual

/-- The type with the fields of every object in order. Of two fields with the same name the later
one holds. -/
def normalize : ColumnType → ColumnType
  | object fields => object (Entries.ofList (normalizeFields fields))
  | optional inner => optional inner.normalize
  | union ts => union (normalizeAll ts)
  | t => t

def normalizeFields : List (String × ColumnType) → List (String × ColumnType)
  | [] => []
  | (k, t) :: rest => (k, t.normalize) :: normalizeFields rest

def normalizeAll : List ColumnType → List ColumnType
  | [] => []
  | t :: ts => t.normalize :: normalizeAll ts

end

theorem normalFields_iff {fields : List (String × ColumnType)} :
    NormalFields fields ↔ ∀ f ∈ fields, f.2.Normal := by
  induction fields with
  | nil => simp [NormalFields]
  | cons f rest ih => simp [NormalFields, ih]

theorem normalFields_ofList {fields : List (String × ColumnType)} (h : NormalFields fields) :
    NormalFields (Entries.ofList fields) :=
  normalFields_iff.2 fun _ hf => normalFields_iff.1 h _ (Entries.mem_of_mem_ofList hf)

mutual

theorem normal_normalize : (t : ColumnType) → t.normalize.Normal
  | object fields => by
    simp only [normalize, Normal]
    exact ⟨Entries.ascending_ofList _, normalFields_ofList (normalFields_normalizeFields fields)⟩
  | optional inner => by
    simp only [normalize, Normal]
    exact normal_normalize inner
  | union ts => by
    simp only [normalize, Normal]
    exact normalAll_normalizeAll ts
  | string | number | boolean | date | array => by simp [normalize, Normal]

theorem normalFields_normalizeFields :
    (fields : List (String × ColumnType)) → NormalFields (normalizeFields fields)
  | [] => by simp [normalizeFields, NormalFields]
  | (_, t) :: rest => by
    simp only [normalizeFields, NormalFields]
    exact ⟨normal_normalize t, normalFields_normalizeFields rest⟩

theorem normalAll_normalizeAll : (ts : List ColumnType) → NormalAll (normalizeAll ts)
  | [] => by simp [normalizeAll, NormalAll]
  | t :: ts => by
    simp only [normalizeAll, NormalAll]
    exact ⟨normal_normalize t, normalAll_normalizeAll ts⟩

end

end ColumnType

end SelectQuery
