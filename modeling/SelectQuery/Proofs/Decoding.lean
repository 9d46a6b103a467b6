import Mathlib.Data.List.Forall2
import SelectQuery.Session

/-!
Rows decoded to records. Rows can be taken as they are or decoded, all of them or the first one
only, and the ways to do so make different things of one answer. What they make of it is said here of
every answer, with whatever failure an executor comes up with.

What is proved:
  1. `decodeAll_eq_ok_iff`, `decodeAll_eq_error_iff`: rows are decoded all or not at all.
  2. `Answer.firstRecord_of_forall₂`, `Answer.allRecords_of_firstRecord`: the first record is the
     first of all records, and stands in their way if it does not decode.
  3. `decoded_consistently`: so records and rows of one answer agree, and failures go through as they
     are.
-/

namespace SelectQuery

/-! ## Lists decoded item by item -/

section Lists

variable {α β : Type} {f : α → Option β}

theorem mapM_eq_some_iff {xs : List α} {ys : List β} :
    xs.mapM f = some ys ↔ List.Forall₂ (fun x y => f x = some y) xs ys := by
  induction xs generalizing ys with
  | nil => simp [eq_comm]
  | cons x xs ih =>
    rw [List.mapM_cons, List.forall₂_cons_left_iff]
    constructor
    · intro decoded
      obtain ⟨y, first, decoded⟩ := Option.bind_eq_some_iff.1 decoded
      obtain ⟨ys', later, whole⟩ := Option.bind_eq_some_iff.1 decoded
      exact ⟨y, ys', first, ih.1 later, (Option.some.inj whole).symm⟩
    · rintro ⟨y, ys', first, later, rfl⟩
      rw [first, ih.2 later]
      rfl

theorem mapM_eq_none_iff {xs : List α} : xs.mapM f = none ↔ ∃ x ∈ xs, f x = none := by
  induction xs with
  | nil => simp
  | cons x xs ih =>
    rw [List.mapM_cons, List.exists_mem_cons_iff, ← ih]
    cases f x with
    | none => simp
    | some y => cases xs.mapM f <;> simp

end Lists

variable {α : Type} {decode : Row → Option α}

namespace ResultSet

variable {r : ResultSet} {row : Row} {rest : List Row} {xs : List α} {e : QueryFailure}

theorem decodeAll_eq_ok_iff : r.decodeAll decode = .ok xs ↔
    List.Forall₂ (fun row x => decode row = some x) r.results xs := by
  rw [← mapM_eq_some_iff, decodeAll]
  cases r.results.mapM decode <;> simp

theorem decodeAll_eq_error_iff : r.decodeAll decode = .error e ↔
    e = .decode ∧ ∃ row ∈ r.results, decode row = none := by
  rw [← mapM_eq_none_iff, decodeAll]
  cases r.results.mapM decode <;> simp [eq_comm]

theorem decodeFirst_of_nil (empty : r.results = []) : r.decodeFirst decode = .ok none := by
  rw [decodeFirst, first?, empty]
  rfl

theorem decodeFirst_of_cons (rows : r.results = row :: rest) :
    r.decodeFirst decode = match decode row with
      | some x => .ok (some x)
      | none => .error .decode := by
  rw [decodeFirst, first?, rows]
  rfl

end ResultSet

/-! ## What is made of an answer -/

/-- What a run of a query comes to: a result, or a failure of whatever kind. -/
abbrev Answer := Except QueryFailure ResultSet

namespace Answer

def firstRow (a : Answer) : Except QueryFailure (Option Row) := a.map ResultSet.first?

def allRows (a : Answer) : Except QueryFailure (List Row) := a.map ResultSet.results

def firstRecord (decode : Row → Option α) (a : Answer) : Except QueryFailure (Option α) :=
  a.bind fun r => r.decodeFirst decode

def allRecords (decode : Row → Option α) (a : Answer) : Except QueryFailure (List α) :=
  a.bind fun r => r.decodeAll decode

variable {a : Answer} {r : ResultSet} {xs : List α}

theorem allRecords_eq_ok_iff : a.allRecords decode = .ok xs ↔
    ∃ r, a = .ok r ∧ List.Forall₂ (fun row x => decode row = some x) r.results xs := by
  cases a with
  | error e => simp [allRecords, Except.bind]
  | ok r => simp [allRecords, Except.bind, ResultSet.decodeAll_eq_ok_iff]

/-- Where all rows are decoded, the first record is that of the first row. -/
theorem firstRecord_of_forall₂
    (decoded : List.Forall₂ (fun row x => decode row = some x) r.results xs) :
    firstRecord decode (.ok r) = .ok xs.head? := by
  show r.decodeFirst decode = _
  cases rows : r.results with
  | nil =>
    rw [rows, List.forall₂_nil_left_iff] at decoded
    rw [ResultSet.decodeFirst_of_nil rows, decoded]
    rfl
  | cons row rest =>
    rw [rows, List.forall₂_cons_left_iff] at decoded
    obtain ⟨x, xs', first, -, rfl⟩ := decoded
    rw [ResultSet.decodeFirst_of_cons rows, first]
    rfl

/-- A first row that does not decode is a row that does not. -/
theorem allRecords_of_firstRecord (failed : a.firstRecord decode = .error .decode) :
    a.allRecords decode = .error .decode := by
  cases a with
  | error e => exact congrArg _ (Except.error.inj failed)
  | ok r =>
    apply ResultSet.decodeAll_eq_error_iff.2
    cases rows : r.results with
    | nil =>
      have empty : r.decodeFirst decode = .error .decode := failed
      rw [ResultSet.decodeFirst_of_nil rows] at empty
      cases empty
    | cons row rest =>
      have first : r.decodeFirst decode = .error .decode := failed
      rw [ResultSet.decodeFirst_of_cons rows] at first
      cases undecoded : decode row with
      | none => exact ⟨rfl, row, List.mem_cons_self, undecoded⟩
      | some x =>
        rw [undecoded] at first
        cases first

end Answer

/-- A failed run fails in the same way whatever its answer was to be used for. -/
theorem Ask.reply_of_error {ρ : Type} {q : Query} {executor : Option Executor} {e : QueryFailure}
    (failed : q.run executor = .error e) (a : Ask ρ) : a.reply q executor = .error e := by
  cases a <;>
    simp only [reply, Query.firstRow, Query.allRows, Query.firstRecord, Query.allRecords, failed] <;>
    rfl

/-- Rows are decoded if each of them can be, to one record for each row in the order of the rows, and
otherwise the decoding fails. Each way to run a query makes of the answer what is said above: if all
records are found, then the first record is the first of them and the rows are those of the answer,
as they are; the first record needs no row but the first; and where it fails to decode, so do all
records. A run that fails, be it for want of an executor or because the executor refuses the query or
for any other reason, fails with that very failure in all of them. -/
theorem decoded_consistently (decode : Row → Option α) :
    (∀ (r : ResultSet) (xs : List α), r.decodeAll decode = .ok xs ↔
      List.Forall₂ (fun row x => decode row = some x) r.results xs) ∧
    (∀ (r : ResultSet) (e : QueryFailure), r.decodeAll decode = .error e ↔
      e = .decode ∧ ∃ row ∈ r.results, decode row = none) ∧
    (∀ (q : Query) (executor : Option Executor),
      q.firstRow executor = Answer.firstRow (q.run executor) ∧
      q.allRows executor = Answer.allRows (q.run executor) ∧
      q.firstRecord decode executor = Answer.firstRecord decode (q.run executor) ∧
      q.allRecords decode executor = Answer.allRecords decode (q.run executor)) ∧
    (∀ r : ResultSet,
      Answer.allRecords decode (.ok r) = r.decodeAll decode ∧
      (r.results = [] → Answer.firstRecord decode (.ok r) = .ok none) ∧
      ∀ row rest, r.results = row :: rest →
        (∀ x, Answer.firstRecord decode (.ok r) = .ok (some x) ↔ decode row = some x) ∧
        (Answer.firstRecord decode (.ok r) = .error .decode ↔ decode row = none)) ∧
    (∀ (a : Answer) (xs : List α), a.allRecords decode = .ok xs →
      a.firstRecord decode = .ok xs.head? ∧
      ∃ r, a = .ok r ∧ a.firstRow = .ok r.results.head? ∧ a.allRows = .ok r.results) ∧
    (∀ a : Answer, a.firstRecord decode = .error .decode → a.allRecords decode = .error .decode) ∧
    (∀ e : QueryFailure,
      Answer.firstRow (.error e) = .error e ∧ Answer.allRows (.error e) = .error e ∧
      Answer.firstRecord decode (.error e) = .error e ∧
      Answer.allRecords decode (.error e) = .error e) ∧
    ∀ (q : Query),
      q.run none = .error .noExecutor ∧
      (∀ answer : Executor, q.run (some answer) = answer q.statement) ∧
      ∀ (executor : Option Executor) (e : QueryFailure), q.run executor = .error e →
        ∀ (ρ : Type) (a : Ask ρ), a.reply q executor = .error e := by
  refine ⟨fun r xs => ResultSet.decodeAll_eq_ok_iff, fun r e => ResultSet.decodeAll_eq_error_iff,
    fun q executor => ⟨rfl, rfl, rfl, rfl⟩, fun r => ⟨rfl, ResultSet.decodeFirst_of_nil, ?_⟩, ?_,
    fun a => Answer.allRecords_of_firstRecord, fun e => ⟨rfl, rfl, rfl, rfl⟩,
    fun q => ⟨rfl, fun _ => rfl, fun executor e failed ρ a => a.reply_of_error failed⟩⟩
  · intro row rest rows
    have first : Answer.firstRecord decode (.ok r) = _ := ResultSet.decodeFirst_of_cons rows
    rw [first]
    cases decode row <;> simp
  · intro a xs decoded
    obtain ⟨r, rfl, each⟩ := Answer.allRecords_eq_ok_iff.1 decoded
    exact ⟨Answer.firstRecord_of_forall₂ each, r, rfl, rfl, rfl⟩

/-- A row behind the first one that does not decode stands in the way of all records, but not of the
first. -/
example :
    let shape : Shape := [("id", .integer)]
    let r : ResultSet := { results := [[("id", .int 1)], [("id", .string "two")]] }
    r.decodeFirst shape.decode = .ok (some [("id", .int 1)]) ∧
      r.decodeAll shape.decode = .error .decode :=
  ⟨rfl, rfl⟩

end SelectQuery
