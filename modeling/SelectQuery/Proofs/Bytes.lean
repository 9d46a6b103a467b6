import Mathlib.Data.String.Basic
import SelectQuery.Number.Digits

/-!
Texts as the bytes that encode them. A database orders texts by their bytes, and a text in memory is
cut at offsets that count bytes, so it matters where the bytes of a character begin and end.

What is proved:
  1. `bytes_lt_iff`: texts are in the same order by their bytes as by their characters.
  2. `head?_bytes_iff`: a first byte below 128 is the first character, and no part of another one.
  3. `cutAt_append`, `findOffset_eq`: the offset behind a whole number of characters is one at which
     the text can be cut, and so is the offset at which a character is found.
-/

namespace SelectQuery.Text

def bytes (s : String) : List UInt8 := s.toUTF8.data.toList

theorem bytes_eq (s : String) : bytes s = s.toList.flatMap String.utf8EncodeChar := by
  have encoded : s.toByteArray = s.toList.utf8Encode := by
    rw [← String.toByteArray_ofList, String.ofList_toList]
  show s.toByteArray.data.toList = _
  rw [encoded, List.utf8Encode, List.toList_data_toByteArray]

theorem bytes_inj {s t : String} : bytes s = bytes t ↔ s = t := by
  refine ⟨fun h => ?_, fun h => h ▸ rfl⟩
  exact String.toByteArray_inj.1 (ByteArray.ext (Array.toList_inj.1 h))

/-! ## The bytes of one character -/

theorem toNat_lt_top (c : Char) : c.toNat < 0x110000 := by
  rcases c.valid with low | ⟨-, high⟩
  · exact Nat.lt_trans low (by decide)
  · exact high

/-- A character has one to four bytes. The first one tells how many, and each of the others has six
bits of its number. -/
theorem encode_cases (c : Char) :
    (c.toNat < 0x80 ∧ String.utf8EncodeChar c = [.ofNat c.toNat]) ∨
    (0x80 ≤ c.toNat ∧ c.toNat < 0x800 ∧ String.utf8EncodeChar c =
      [.ofNat (c.toNat / 64 % 32 + 0xC0), .ofNat (c.toNat % 64 + 0x80)]) ∨
    (0x800 ≤ c.toNat ∧ c.toNat < 0x10000 ∧ String.utf8EncodeChar c =
      [.ofNat (c.toNat / 4096 % 16 + 0xE0), .ofNat (c.toNat / 64 % 64 + 0x80),
        .ofNat (c.toNat % 64 + 0x80)]) ∨
    (0x10000 ≤ c.toNat ∧ c.toNat < 0x110000 ∧ String.utf8EncodeChar c =
      [.ofNat (c.toNat / 262144 % 8 + 0xF0), .ofNat (c.toNat / 4096 % 64 + 0x80),
        .ofNat (c.toNat / 64 % 64 + 0x80), .ofNat (c.toNat % 64 + 0x80)]) := by
  fun_cases String.utf8EncodeChar c with
  | case1 v one => exact .inl ⟨Nat.lt_succ_of_le one, rfl⟩
  | case2 v more two => exact .inr (.inl ⟨Nat.lt_of_not_le more, Nat.lt_succ_of_le two, rfl⟩)
  | case3 v _ more three =>
    exact .inr (.inr (.inl ⟨Nat.lt_of_not_le more, Nat.lt_succ_of_le three, rfl⟩))
  | case4 v _ _ more =>
    exact .inr (.inr (.inr ⟨Nat.lt_of_not_le more, toNat_lt_top c, rfl⟩))

theorem ofNat_lt_ofNat {m n : ℕ} (hm : m < 256) (hn : n < 256) :
    UInt8.ofNat m < UInt8.ofNat n ↔ m < n := by
  rw [UInt8.lt_iff_toNat_lt, UInt8.toNat_ofNat_of_lt' hm, UInt8.toNat_ofNat_of_lt' hn]

theorem ofNat_eq_ofNat {m n : ℕ} (hm : m < 256) (hn : n < 256) :
    UInt8.ofNat m = UInt8.ofNat n ↔ m = n := by
  rw [← UInt8.toNat_inj, UInt8.toNat_ofNat_of_lt' hm, UInt8.toNat_ofNat_of_lt' hn]

/-- The bytes of the smaller of two characters come first, whatever comes behind them: it has fewer
bytes, and then a smaller first one, or as many, and then its number differs at some place. -/
theorem encode_lt {c d : Char} (h : c < d) (x y : List UInt8) :
    String.utf8EncodeChar c ++ x < String.utf8EncodeChar d ++ y := by
  have less : c.toNat < d.toNat := h
  -- The places of a number to the base 64, one after the other.
  have third (n : ℕ) : n / 4096 = n / 64 / 64 := (Nat.div_div_eq_div_mul n 64 64).symm
  have fourth (n : ℕ) : n / 262144 = n / 64 / 64 / 64 := by rw [← third, Nat.div_div_eq_div_mul]
  rcases encode_cases c with ⟨hc, ec⟩ | ⟨lc, hc, ec⟩ | ⟨lc, hc, ec⟩ | ⟨lc, hc, ec⟩ <;>
    rcases encode_cases d with ⟨hd, ed⟩ | ⟨ld, hd, ed⟩ | ⟨ld, hd, ed⟩ | ⟨ld, hd, ed⟩ <;>
    rw [ec, ed] <;>
    simp (disch := omega) only [List.cons_append, List.nil_append, List.cons_lt_cons_iff,
      ofNat_lt_ofNat, ofNat_eq_ofNat, third, fourth] <;>
    omega

/-! ## The order of texts -/

theorem flatMap_encode_lt {a b : List Char} (h : a < b) :
    a.flatMap String.utf8EncodeChar < b.flatMap String.utf8EncodeChar := by
  induction h with
  | nil =>
    rw [List.flatMap_cons, List.flatMap_nil]
    cases first : String.utf8EncodeChar _ with
    | nil => exact absurd first String.utf8EncodeChar_ne_nil
    | cons byte rest => exact List.nil_lt_cons byte _
  | rel less => exact encode_lt less _ _
  | cons _ ih => exact List.append_left_lt ih

theorem bytes_lt {s t : String} (h : s < t) : bytes s < bytes t := by
  rw [bytes_eq, bytes_eq]
  exact flatMap_encode_lt (String.lt_iff_toList_lt.1 h)

/-- Texts are in the same order by their bytes as by their characters. -/
theorem bytes_lt_iff {s t : String} : bytes s < bytes t ↔ s < t := by
  refine ⟨fun h => ?_, bytes_lt⟩
  rcases lt_trichotomy s t with less | same | more
  · exact less
  · exact absurd (same ▸ h) (List.lt_irrefl _)
  · exact absurd (bytes_lt more) (List.lt_asymm h)

/-! ## Offsets -/

/-- A byte below 128 is the first one of a text exactly if the text starts with the character of
this number: in a character of several bytes all of them are 128 or more. -/
theorem head?_bytes_iff {d : Char} (small : d.toNat < 0x80) (cs : List Char) :
    (bytes (String.ofList cs)).head? = some (.ofNat d.toNat) ↔ cs.head? = some d := by
  rw [bytes_eq, String.toList_ofList]
  cases cs with
  | nil => simp
  | cons c cs =>
    have same : c = d ↔ c.toNat = d.toNat := Char.toNat_inj.symm
    rw [List.flatMap_cons, List.head?_cons, Option.some_inj, same]
    rcases encode_cases c with ⟨hc, ec⟩ | ⟨lc, hc, ec⟩ | ⟨lc, hc, ec⟩ | ⟨lc, hc, ec⟩ <;>
      rw [ec, List.cons_append, List.head?_cons, Option.some_inj,
        ofNat_eq_ofNat (by omega) (by omega)] <;>
      omega

/-- The text up to a byte offset, and from it on. A text cannot be cut inside a character or behind
its end. -/
def cutAt? (s : String) (offset : ℕ) : Option (String × String) :=
  if h : (⟨offset⟩ : String.Pos.Raw).IsValid s then
    let p : s.Pos := ⟨⟨offset⟩, h⟩
    some ((s.sliceTo p).copy, (s.sliceFrom p).copy)
  else none

theorem cutAt_append (a b : String) : cutAt? (a ++ b) a.utf8ByteSize = some (a, b) := by
  have valid : (⟨a.utf8ByteSize⟩ : String.Pos.Raw).IsValid (a ++ b) :=
    String.Pos.Raw.isValid_iff_exists_append.2 ⟨a, b, rfl, rfl⟩
  let p : (a ++ b).Pos := ⟨⟨a.utf8ByteSize⟩, valid⟩
  have apart : p.Splits a b := ⟨rfl, rfl⟩
  rw [cutAt?, dif_pos valid]
  show some (((a ++ b).sliceTo p).copy, ((a ++ b).sliceFrom p).copy) = _
  rw [p.splits.eq_left apart, p.splits.eq_right apart]

/-- The byte offset of the first character that `p` holds of. -/
def findOffset? (p : Char → Bool) : List Char → Option ℕ
  | [] => none
  | c :: cs => if p c then some 0 else (findOffset? p cs).map (c.utf8Size + ·)

theorem utf8ByteSize_cons (c : Char) (cs : List Char) :
    (String.ofList (c :: cs)).utf8ByteSize = c.utf8Size + (String.ofList cs).utf8ByteSize := by
  rw [String.ofList_cons, String.utf8ByteSize_append, String.utf8ByteSize_singleton]

/-- What is found, or else the end, is behind the characters that were passed over. -/
theorem findOffset_eq (p : Char → Bool) (cs : List Char) :
    (findOffset? p cs).getD (String.ofList cs).utf8ByteSize =
      (String.ofList (cs.takeWhile fun c => !p c)).utf8ByteSize := by
  induction cs with
  | nil => rfl
  | cons c cs ih =>
    by_cases found : p c
    · simp [findOffset?, found]
    · rw [findOffset?, if_neg found, List.takeWhile_cons, if_pos (by simpa using found),
        utf8ByteSize_cons, utf8ByteSize_cons, ← ih]
      cases findOffset? p cs <;> rfl

end SelectQuery.Text
