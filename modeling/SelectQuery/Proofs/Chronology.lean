import Mathlib.Data.Prod.Lex
import SelectQuery.Proofs.Bytes
import SelectQuery.Proofs.Decimal
import SelectQuery.Value

/-!
The order of the texts of dates. A database keeps a date as its text and orders texts by their bytes,
so that a range of dates is found by its texts only if these are in the order of time.

What is proved:
  1. `text_lt_iff`, `text_inj`: texts are in the order of the six fields that they show.
  2. `date_chronological`: so comparing, choosing from a range and sorting by the bytes of the texts
     is the same as by time, down to the second.
-/

namespace SelectQuery

namespace Timestamp

/-- A point in time whose year is written with four digits and no sign. -/
structure Plain (t : Timestamp) : Prop where
  valid : t.Valid
  year : 0 ≤ t.year ∧ t.year ≤ 9999

instance (t : Timestamp) : Decidable t.Valid :=
  decidable_of_iff
    ((1 ≤ t.month ∧ t.month ≤ 12) ∧ (1 ≤ t.day ∧ t.day ≤ daysIn t.year t.month) ∧ t.hour < 24 ∧
      t.minute < 60 ∧ t.second < 60 ∧ t.nanosecond < 2 * 10 ^ 9 ∧
      (10 ^ 9 ≤ t.nanosecond → t.second = 59))
    ⟨fun ⟨month, day, hour, minute, second, nanosecond, leap⟩ =>
      ⟨month, day, hour, minute, second, nanosecond, leap⟩,
      fun ⟨month, day, hour, minute, second, nanosecond, leap⟩ =>
      ⟨month, day, hour, minute, second, nanosecond, leap⟩⟩

instance (t : Timestamp) : Decidable t.Plain :=
  decidable_of_iff (t.Valid ∧ 0 ≤ t.year ∧ t.year ≤ 9999)
    ⟨fun ⟨valid, year⟩ => ⟨valid, year⟩, fun ⟨valid, year⟩ => ⟨valid, year⟩⟩

/-- The fields down to the second, which is 60 in a leap second, with the order of tuples. -/
def shown (t : Timestamp) : ℤ ×ₗ ℕ ×ₗ ℕ ×ₗ ℕ ×ₗ ℕ ×ₗ ℕ :=
  toLex (t.year, toLex (t.month, toLex (t.day, toLex (t.hour, toLex (t.minute, t.shownSecond)))))

variable {a b t : Timestamp}

theorem daysIn_le (year : ℤ) (month : ℕ) : daysIn year month ≤ 31 := by
  rw [daysIn]
  split_ifs <;> decide

theorem Valid.shownSecond_le (h : t.Valid) : t.shownSecond ≤ 60 := by
  have second := h.second
  have nanosecond := h.nanosecond
  rw [shownSecond]
  omega

theorem Plain.yearText_eq (h : t.Plain) : yearText t.year = Number.padded 4 t.year.natAbs := by
  rw [yearText, if_neg h.year.1.not_gt, if_neg h.year.2.not_gt]

/-- Every field fits the digits that it has in the text. -/
theorem Plain.fields_lt (h : t.Plain) :
    t.year.natAbs < 10 ^ 4 ∧ t.month < 10 ^ 2 ∧ t.day < 10 ^ 2 ∧ t.hour < 10 ^ 2 ∧
      t.minute < 10 ^ 2 ∧ t.shownSecond < 10 ^ 2 := by
  have year := h.year
  have month := h.valid.month
  have day := h.valid.day.2.trans (daysIn_le _ _)
  have hour := h.valid.hour
  have minute := h.valid.minute
  have second := h.valid.shownSecond_le
  omega

/-- The first field that differs decides. -/
theorem text_lt_iff (ha : a.Plain) (hb : b.Plain) : a.text < b.text ↔ a.shown < b.shown := by
  obtain ⟨year, month, day, hour, minute, second⟩ := ha.fields_lt
  obtain ⟨year', month', day', hour', minute', second'⟩ := hb.fields_lt
  have positive := ha.year.1
  have positive' := hb.year.1
  have years : a.year.natAbs < b.year.natAbs ↔ a.year < b.year := by omega
  have sameYear : a.year.natAbs = b.year.natAbs ↔ a.year = b.year := by omega
  rw [String.lt_iff_toList_lt, text, text, String.toList_ofList, String.toList_ofList]
  simp only [dateText, timeText, ha.yearText_eq, hb.yearText_eq, List.append_assoc, List.cons_append]
  simp (disch := omega) only [Number.padded_append_lt_iff, Number.padded_lt_iff,
    List.cons_lt_cons_self]
  rw [years, sameYear]
  simp only [shown, Prod.Lex.toLex_lt_toLex]

/-- A fifth digit brings a sign with it, and a sign comes before all digits. -/
example : (midnight 10000 1 1).text < (midnight 9999 12 31).text := by decide +kernel

theorem text_inj (ha : a.Plain) (hb : b.Plain) : a.text = b.text ↔ a.shown = b.shown := by
  rw [le_antisymm_iff, ← not_lt, ← not_lt, text_lt_iff hb ha, text_lt_iff ha hb, not_lt, not_lt,
    ← le_antisymm_iff]

end Timestamp

namespace Value

open Timestamp

/-- The bytes by which a database orders a value that it keeps as text. -/
def key (v : Value) : List UInt8 := Text.bytes v.unquoted

variable {a b : Timestamp}

theorem key_date_lt_iff (ha : a.Plain) (hb : b.Plain) :
    (date a).key < (date b).key ↔ a.shown < b.shown :=
  Text.bytes_lt_iff.trans (text_lt_iff ha hb)

theorem key_date_inj (ha : a.Plain) (hb : b.Plain) :
    (date a).key = (date b).key ↔ a.shown = b.shown :=
  Text.bytes_inj.trans (text_inj ha hb)

theorem key_date_le_iff (ha : a.Plain) (hb : b.Plain) :
    (date a).key ≤ (date b).key ↔ a.shown ≤ b.shown := by
  rw [← List.not_lt, key_date_lt_iff hb ha, not_lt]

/-- The texts of dates with four digits for the year, which are also what stands between the quotes
of the literals, are in the order of the fields that they show, by their characters and by their
bytes, and the same only in the same second. So a range of texts is a range of time, and rows are
sorted by the texts, upwards or downwards, exactly if they are sorted by time. -/
theorem date_chronological {ts : List Timestamp} (plain : ∀ t ∈ ts, t.Plain) :
    (∀ t, (date t).literal = quote (date t).unquoted) ∧
    (∀ a ∈ ts, ∀ b ∈ ts,
      ((date a).unquoted < (date b).unquoted ↔ a.shown < b.shown) ∧
      ((date a).unquoted = (date b).unquoted ↔ a.shown = b.shown) ∧
      ((date a).key < (date b).key ↔ a.shown < b.shown) ∧
      ((date a).key = (date b).key ↔ a.shown = b.shown)) ∧
    (∀ low ∈ ts, ∀ t ∈ ts, ∀ high ∈ ts,
      ((date low).key ≤ (date t).key ∧ (date t).key ≤ (date high).key ↔
        low.shown ≤ t.shown ∧ t.shown ≤ high.shown)) ∧
    ((ts.map fun t => (date t).key).Pairwise (· ≤ ·) ↔ (ts.map shown).Pairwise (· ≤ ·)) ∧
    ((ts.map fun t => (date t).key).Pairwise (· ≥ ·) ↔ (ts.map shown).Pairwise (· ≥ ·)) := by
  refine ⟨fun _ => rfl, fun a ha b hb => ⟨?_, ?_, ?_, ?_⟩, fun low hl t ht high hh => ?_, ?_, ?_⟩
  · exact text_lt_iff (plain a ha) (plain b hb)
  · exact text_inj (plain a ha) (plain b hb)
  · exact key_date_lt_iff (plain a ha) (plain b hb)
  · exact key_date_inj (plain a ha) (plain b hb)
  · exact and_congr (key_date_le_iff (plain low hl) (plain t ht))
      (key_date_le_iff (plain t ht) (plain high hh))
  · rw [List.pairwise_map, List.pairwise_map]
    exact List.Pairwise.iff_of_mem fun ha hb => key_date_le_iff (plain _ ha) (plain _ hb)
  · rw [List.pairwise_map, List.pairwise_map]
    exact List.Pairwise.iff_of_mem fun ha hb => key_date_le_iff (plain _ hb) (plain _ ha)

/-- The last second of a year, the leap second behind it and the first second of the next year. -/
theorem leap_second_between :
    let before : Timestamp := ⟨2016, 12, 31, 23, 59, 59, 999999999⟩
    let leap : Timestamp := ⟨2016, 12, 31, 23, 59, 59, 1500000000⟩
    let after := midnight 2017 1 1
    (date before).key ≤ (date leap).key ∧ (date leap).key ≤ (date after).key ∧
      (date leap).unquoted = "2016-12-31 23:59:60" := by
  intro before leap after
  have plain : ∀ t ∈ [before, leap, after], t.Plain := by decide
  obtain ⟨-, -, between, -⟩ := date_chronological plain
  have inside : before.shown ≤ leap.shown ∧ leap.shown ≤ after.shown := by decide
  obtain ⟨low, high⟩ := (between before (by simp) leap (by simp) after (by simp)).2 inside
  exact ⟨low, high, by decide +kernel⟩

end Value

end SelectQuery
