import Mathlib.Tactic.IntervalCases
import SvelteTransform.Text.Utf8

/-! Decoding takes back what encoding wrote, and bytes cut off anywhere give the characters that
are complete, then one replacement mark if a character was cut. -/
namespace SvelteTransform.Text
namespace Utf8

theorem firstOfTwo (read : List Char) {a : Nat} (least : 2 ≤ a) (most : a < 32) :
    first read (UInt8.ofNat (a + 0xC0)) = ⟨read, .inside 0x80 0xBF 0 a⟩ := by
  interval_cases a <;> rfl

theorem firstOfThree (read : List Char) {a : Nat} (most : a < 16) :
    ∃ low high : UInt8, first read (UInt8.ofNat (a + 0xE0)) = ⟨read, .inside low high 1 a⟩ ∧
      low.toNat = (if a = 0 then 0xA0 else 0x80) ∧
      high.toNat = (if a = 13 then 0x9F else 0xBF) := by
  -- The range is narrow after the least first byte and before the surrogates.
  interval_cases a <;> exact ⟨_, _, rfl, rfl, rfl⟩

theorem firstOfFour (read : List Char) {a : Nat} (most : a ≤ 4) :
    ∃ low high : UInt8, first read (UInt8.ofNat (a + 0xF0)) = ⟨read, .inside low high 2 a⟩ ∧
      low.toNat = (if a = 0 then 0x90 else 0x80) ∧
      high.toNat = (if a = 4 then 0x8F else 0xBF) := by
  interval_cases a <;> exact ⟨_, _, rfl, rfl, rfl⟩

theorem tailValue {t : Nat} (small : t < 64) : (UInt8.ofNat (t + 0x80)).toNat = t + 0x80 := by
  rw [UInt8.toNat_ofNat']
  omega

theorem stepLast (read : List Char) (low high : UInt8) (bits : Nat) {t : Nat} (small : t < 64)
    (above : low.toNat ≤ t + 0x80) (below : t + 0x80 ≤ high.toNat) :
    step ⟨read, .inside low high 0 bits⟩ (UInt8.ofNat (t + 0x80)) =
      ⟨Char.ofNat (bits * 64 + t) :: read, .start⟩ := by
  simp only [step, UInt8.le_iff_toNat_le, tailValue small, above, below, and_self, if_true,
    Nat.add_sub_cancel]

theorem stepMore (read : List Char) (low high : UInt8) (more bits : Nat) {t : Nat} (small : t < 64)
    (above : low.toNat ≤ t + 0x80) (below : t + 0x80 ≤ high.toNat) :
    step ⟨read, .inside low high (more + 1) bits⟩ (UInt8.ofNat (t + 0x80)) =
      ⟨read, .inside 0x80 0xBF more (bits * 64 + t)⟩ := by
  simp only [step, UInt8.le_iff_toNat_le, tailValue small, above, below, and_self, if_true,
    Nat.add_sub_cancel]

structure Carries (read : List Char) (bytes : Bytes) (c : Char) : Prop where
  whole : bytes.foldl step ⟨read, .start⟩ = ⟨c :: read, .start⟩
  cut : ∀ k, 0 < k → k < bytes.length → ∃ low high more bits,
    (bytes.take k).foldl step ⟨read, .start⟩ = ⟨read, .inside low high more bits⟩

theorem carriesOne (read : List Char) {v : Nat} (most : v ≤ 0x7f) :
    Carries read [UInt8.ofNat v] (Char.ofNat v) := by
  have value : (UInt8.ofNat v).toNat = v := by
    rw [UInt8.toNat_ofNat']
    omega
  have small : UInt8.ofNat v < 0x80 := by
    rw [UInt8.lt_iff_toNat_lt, value]
    exact Nat.lt_succ_of_le most
  refine ⟨?_, fun k positive cut => ?_⟩
  · simp only [List.foldl_cons, List.foldl_nil, step, first, small, if_true, value]
  · simp only [List.length_singleton] at cut
    omega

theorem carriesTwo (read : List Char) {v : Nat} (least : 0x7f < v) (most : v ≤ 0x7ff) :
    Carries read [UInt8.ofNat (v / 64 % 0x20 + 0xc0), UInt8.ofNat (v % 0x40 + 0x80)]
      (Char.ofNat v) := by
  have one : step ⟨read, .start⟩ _ = _ :=
    firstOfTwo read (a := v / 64 % 0x20) (by omega) (by omega)
  have two := stepLast read 0x80 0xBF (v / 64 % 0x20)
    (t := v % 0x40) (by omega) (Nat.le_add_left _ _) (show _ ≤ 0xBF by omega)
  rw [show v / 64 % 0x20 * 64 + v % 0x40 = v by omega, ← one] at two
  refine ⟨two, fun k positive cut => ?_⟩
  simp only [List.length_cons, List.length_nil] at cut
  obtain rfl : k = 1 := by omega
  exact ⟨_, _, _, _, one⟩

theorem carriesThree (read : List Char) {v : Nat} (least : 0x7ff < v) (most : v ≤ 0xffff)
    (valid : v < 0xD800 ∨ 0xDFFF < v) :
    Carries read [UInt8.ofNat (v / 4096 % 0x10 + 0xe0), UInt8.ofNat (v / 64 % 0x40 + 0x80),
      UInt8.ofNat (v % 0x40 + 0x80)] (Char.ofNat v) := by
  obtain ⟨low, high, one, isLow, isHigh⟩ :=
    firstOfThree read (a := v / 4096 % 0x10) (by omega)
  replace one : step ⟨read, .start⟩ _ = _ := one
  have two := stepMore read low high 0 (v / 4096 % 0x10)
    (t := v / 64 % 0x40) (by omega) (by rw [isLow]; split <;> omega)
    (by rw [isHigh]; split <;> omega)
  have three := stepLast read 0x80 0xBF
    (v / 4096 % 0x10 * 64 + v / 64 % 0x40) (t := v % 0x40) (by omega)
    (Nat.le_add_left _ _) (show _ ≤ 0xBF by omega)
  rw [← one] at two
  rw [show (v / 4096 % 0x10 * 64 + v / 64 % 0x40) * 64 + v % 0x40 = v by omega, ← two] at three
  refine ⟨three, fun k positive cut => ?_⟩
  simp only [List.length_cons, List.length_nil] at cut
  obtain rfl | rfl : k = 1 ∨ k = 2 := by omega
  · exact ⟨_, _, _, _, one⟩
  · exact ⟨_, _, _, _, two⟩

theorem carriesFour (read : List Char) {v : Nat} (least : 0xffff < v) (most : v < 0x110000) :
    Carries read [UInt8.ofNat (v / 262144 % 0x08 + 0xf0), UInt8.ofNat (v / 4096 % 0x40 + 0x80),
      UInt8.ofNat (v / 64 % 0x40 + 0x80), UInt8.ofNat (v % 0x40 + 0x80)] (Char.ofNat v) := by
  obtain ⟨low, high, one, isLow, isHigh⟩ :=
    firstOfFour read (a := v / 262144 % 0x08) (by omega)
  replace one : step ⟨read, .start⟩ _ = _ := one
  have two := stepMore read low high 1 (v / 262144 % 0x08)
    (t := v / 4096 % 0x40) (by omega) (by rw [isLow]; split <;> omega)
    (by rw [isHigh]; split <;> omega)
  have three := stepMore read 0x80 0xBF 0
    (v / 262144 % 0x08 * 64 + v / 4096 % 0x40) (t := v / 64 % 0x40) (by omega)
    (Nat.le_add_left _ _) (show _ ≤ 0xBF by omega)
  have four := stepLast read 0x80 0xBF
    ((v / 262144 % 0x08 * 64 + v / 4096 % 0x40) * 64 + v / 64 % 0x40) (t := v % 0x40)
    (by omega) (Nat.le_add_left _ _) (show _ ≤ 0xBF by omega)
  rw [← one] at two
  rw [← two] at three
  rw [show ((v / 262144 % 0x08 * 64 + v / 4096 % 0x40) * 64 + v / 64 % 0x40) * 64 + v % 0x40 = v
    by omega, ← three] at four
  refine ⟨four, fun k positive cut => ?_⟩
  simp only [List.length_cons, List.length_nil] at cut
  obtain rfl | rfl | rfl : k = 1 ∨ k = 2 ∨ k = 3 := by omega
  · exact ⟨_, _, _, _, one⟩
  · exact ⟨_, _, _, _, two⟩
  · exact ⟨_, _, _, _, three⟩

theorem characterCarried (c : Char) (read : List Char) :
    Carries read (String.utf8EncodeChar c) c := by
  have valid : c.val.toNat < 0xD800 ∨ (0xDFFF < c.val.toNat ∧ c.val.toNat < 0x110000) := c.valid
  have carried : Carries read (String.utf8EncodeChar c) (Char.ofNat c.val.toNat) := by
    simp only [String.utf8EncodeChar]
    split
    · exact carriesOne read ‹_›
    · split
      · exact carriesTwo read (by omega) ‹_›
      · split
        · exact carriesThree read (by omega) ‹_› (by omega)
        · exact carriesFour read (by omega) (by omega)
  rwa [show Char.ofNat c.val.toNat = c from Char.ofNat_toNat c] at carried

end Utf8

theorem utf8Cons (c : Char) (text : List Char) :
    utf8 (c :: text) = String.utf8EncodeChar c ++ utf8 text := List.flatMap_cons

theorem utf8Append (first second : List Char) :
    utf8 (first ++ second) = utf8 first ++ utf8 second := List.flatMap_append

theorem utf8Nothing {text : List Char} (nothing : utf8 text = []) : text = [] := by
  cases text with
  | nil => rfl
  | cons c text =>
    rw [utf8Cons, List.append_eq_nil_iff] at nothing
    exact absurd nothing.1 String.utf8EncodeChar_ne_nil

namespace Utf8

theorem textRead (text read : List Char) :
    (utf8 text).foldl step ⟨read, .start⟩ = ⟨text.reverse ++ read, .start⟩ := by
  induction text generalizing read with
  | nil => rfl
  | cons c more ih =>
    rw [utf8Cons, List.foldl_append, (characterCarried c read).whole, ih, List.reverse_cons,
      List.append_assoc, List.singleton_append]

/-- What a cut leaves of a text: whole characters, and after them perhaps part of one. -/
theorem prefixRead {text : List Char} {bytes : Bytes} (cut : bytes <+: utf8 text) :
    ∃ whole rest, text = whole ++ rest ∧
      (bytes = utf8 whole ∨ rest ≠ [] ∧ ∀ read, ∃ low high more bits,
        bytes.foldl step ⟨read, .start⟩ = ⟨whole.reverse ++ read, .inside low high more bits⟩) := by
  induction text generalizing bytes with
  | nil => exact ⟨[], [], rfl, .inl (List.prefix_nil.mp cut)⟩
  | cons c text ih =>
    rw [utf8Cons] at cut
    -- The cut is in the first character or behind it.
    rcases Nat.lt_or_ge bytes.length (String.utf8EncodeChar c).length with short | long
    · have inFirst :=
        List.prefix_of_prefix_length_le cut (List.prefix_append _ _) (Nat.le_of_lt short)
      have taken := List.prefix_iff_eq_take.mp inFirst
      rcases Nat.eq_zero_or_pos bytes.length with nothing | something
      · exact ⟨[], c :: text, rfl, .inl (List.length_eq_zero_iff.mp nothing)⟩
      · refine ⟨[], c :: text, rfl, .inr ⟨by simp, fun read => ?_⟩⟩
        rw [taken]
        exact (characterCarried c read).cut _ something short
    · obtain ⟨more, rfl⟩ := List.prefix_of_prefix_length_le (List.prefix_append _ _) cut long
      obtain ⟨whole, rest, rfl, ends⟩ := ih ((List.prefix_append_right_inj _).mp cut)
      refine ⟨c :: whole, rest, rfl, ends.imp (fun same => ?_) (fun ⟨left, inside⟩ => ⟨left, ?_⟩)⟩
      · rw [same, utf8Cons]
      · intro read
        rw [List.foldl_append, (characterCarried c read).whole, List.reverse_cons,
          List.append_assoc]
        exact inside (c :: read)

end Utf8

theorem lossyEncoded (text : List Char) : ofUtf8Lossy (utf8 text) = text := by
  rw [ofUtf8Lossy, Utf8.textRead, Utf8.finish, List.append_nil, List.reverse_reverse]

theorem lossyPrefix {text : List Char} {bytes : Bytes} (cut : bytes <+: utf8 text) :
    ∃ whole rest, text = whole ++ rest ∧
      (bytes = utf8 whole ∧ ofUtf8Lossy bytes = whole ∨
        rest ≠ [] ∧ ofUtf8Lossy bytes = whole ++ [replacement]) := by
  obtain ⟨whole, rest, parts, same | ⟨left, inside⟩⟩ := Utf8.prefixRead cut
  · exact ⟨whole, rest, parts, .inl ⟨same, by rw [same, lossyEncoded]⟩⟩
  · obtain ⟨low, high, more, bits, stopped⟩ := inside []
    refine ⟨whole, rest, parts, .inr ⟨left, ?_⟩⟩
    rw [ofUtf8Lossy, stopped, Utf8.finish, List.append_nil, List.reverse_cons,
      List.reverse_reverse]

end SvelteTransform.Text
