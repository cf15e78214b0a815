import Mathlib.Data.List.Basic
import Mathlib.Data.String.Basic

/-!
# The order of names by their bytes

Names are compared character by character. Here this order is shown to be that of their UTF-8 bytes: the
bytes of a smaller character are smaller at the first place where they differ, and none of the two is a
start of the other.

* `encode_below`: this for two characters.
* `bytes_lt_iff`: a text is smaller than another exactly if its bytes are.
-/

namespace JavaNaming.Text

/-- The bytes of a text in UTF-8. -/
def bytes (text : String) : List UInt8 := text.toUTF8.data.toList

theorem bytes_eq (text : String) : bytes text = text.toList.flatMap String.utf8EncodeChar := by
  unfold bytes
  rw [String.toUTF8_eq_toByteArray, ← String.utf8Encode_toList]
  simp [List.utf8Encode]

/-- Bytes are smaller than others at a place where they differ. -/
def Below (a b : List UInt8) : Prop :=
  ∃ shared x y s t, a = shared ++ x :: s ∧ b = shared ++ y :: t ∧ x < y

theorem ofNat_lt {m n : Nat} (h : m < n) (hn : n < 256) : UInt8.ofNat m < UInt8.ofNat n := by
  rw [UInt8.lt_iff_toNat_lt, UInt8.toNat_ofNat', UInt8.toNat_ofNat', Nat.mod_eq_of_lt (by omega),
    Nat.mod_eq_of_lt (by omega)]
  exact h

/-- Bytes are smaller than others if the first one is, or if the first ones are equal and the rest is
smaller. -/
theorem below_cons {m n : Nat} {s t : List UInt8} (hn : n < 256)
    (h : m < n ∨ m = n ∧ Below s t) : Below (UInt8.ofNat m :: s) (UInt8.ofNat n :: t) := by
  rcases h with hlt | ⟨rfl, shared, x, y, s, t, rfl, rfl, hxy⟩
  · exact ⟨[], _, _, s, t, rfl, rfl, ofNat_lt hlt hn⟩
  · exact ⟨UInt8.ofNat m :: shared, x, y, s, t, rfl, rfl, hxy⟩

/-- A byte after the first one has six bits of the number of a character. -/
def continuation (v : Nat) : UInt8 := UInt8.ofNat (v % 64 + 128)

section

variable {v w : Nat}

theorem below_one (h : v % 64 < w % 64) : Below [continuation v] [continuation w] :=
  below_cons (by omega) (.inl (by omega))

theorem below_two (h : v % 4096 < w % 4096) :
    Below [continuation (v / 64), continuation v] [continuation (w / 64), continuation w] := by
  refine below_cons (by omega) ?_
  by_cases hfirst : v / 64 % 64 = w / 64 % 64
  · exact .inr ⟨by omega, below_one (by omega)⟩
  · exact .inl (by omega)

theorem below_three (h : v % 262144 < w % 262144) :
    Below [continuation (v / 4096), continuation (v / 64), continuation v]
      [continuation (w / 4096), continuation (w / 64), continuation w] := by
  refine below_cons (by omega) ?_
  by_cases hfirst : v / 4096 % 64 = w / 4096 % 64
  · exact .inr ⟨by omega, below_two (by omega)⟩
  · exact .inl (by omega)

end

/-- **The bytes of a smaller character** are smaller at a place where they differ. -/
theorem encode_below {c d : Char} (h : c < d) :
    Below (String.utf8EncodeChar c) (String.utf8EncodeChar d) := by
  have hlt : c.val.toNat < d.val.toNat := h
  have hd : d.val.toNat < 1114112 := by
    rcases d.valid with hd | ⟨-, hd⟩
    · exact Nat.lt_trans hd (by decide)
    · exact hd
  unfold String.utf8EncodeChar
  generalize c.val.toNat = v at hlt
  generalize d.val.toNat = w at hlt hd
  dsimp only
  split_ifs
  -- A smaller character has no more bytes, and with less bytes its first byte is smaller.
  all_goals try omega
  all_goals refine below_cons (by omega) ?_
  all_goals try exact .inl (by omega)
  · by_cases hfirst : v / 64 = w / 64
    · exact .inr ⟨by omega, below_one (by omega)⟩
    · exact .inl (by omega)
  · by_cases hfirst : v / 4096 = w / 4096
    · exact .inr ⟨by omega, below_two (by omega)⟩
    · exact .inl (by omega)
  · by_cases hfirst : v / 262144 = w / 262144
    · exact .inr ⟨by omega, below_three (by omega)⟩
    · exact .inl (by omega)

/-! ## Texts -/

theorem Below.append {a b : List UInt8} (h : Below a b) (s t : List UInt8) : a ++ s < b ++ t := by
  obtain ⟨shared, x, y, u, v, rfl, rfl, hxy⟩ := h
  rw [List.append_assoc, List.append_assoc]
  exact List.append_left_lt (.rel hxy)

theorem flatMap_encode_lt {a b : List Char} (h : a < b) :
    a.flatMap String.utf8EncodeChar < b.flatMap String.utf8EncodeChar := by
  induction h with
  | nil =>
    rename_i d b
    rw [List.flatMap_nil, List.flatMap_cons]
    obtain ⟨x, s, hd⟩ := List.exists_cons_of_ne_nil (String.utf8EncodeChar_ne_nil (c := d))
    rw [hd]
    exact .nil
  | cons h ih =>
    rw [List.flatMap_cons, List.flatMap_cons]
    exact List.append_left_lt ih
  | rel h =>
    rw [List.flatMap_cons, List.flatMap_cons]
    exact (encode_below h).append _ _

/-- **The order of texts** is that of their bytes. -/
theorem bytes_lt_iff {a b : String} : bytes a < bytes b ↔ a < b := by
  rw [bytes_eq, bytes_eq, String.lt_iff_toList_lt]
  constructor
  · intro h
    rcases lt_trichotomy a.toList b.toList with hlt | heq | hgt
    · exact hlt
    · rw [heq] at h
      exact absurd h (List.lt_irrefl _)
    · exact absurd (flatMap_encode_lt hgt) (List.lt_asymm h)
  · exact flatMap_encode_lt

end JavaNaming.Text
