import LintRun.Text.Utf8
import Mathlib.Data.List.Lex

/-!
# The order of octets

Texts are ordered by the numbers of their characters. The octets of texts are in the same order: a
character with a greater number has octets that come later, whatever stands behind them.

## Main definitions

* `octetsOf` is a run of a first octet and some that go on a character.
* `firstOctet` is the first octet of a character by its number.

## Main statements

* `encode_eq_flatMap`: the octets of a text are those of its characters.
* `encode_lt_encode`: the octets of texts are ordered as the texts.
-/

namespace LintRun.Text

/-! ## Runs of octets -/

/-- What is left of a number without its last `count` groups of six bits. -/
def leadBits : Nat → Nat → Nat
  | 0, n => n
  | count + 1, n => leadBits count (n / 64)

/-- A first octet and `count` octets behind it, which hold six bits of the number each. The first
octet holds the bits that are left, above the value `base`. -/
def octetsOf (base : Nat) : Nat → Nat → List UInt8
  | 0, n => [UInt8.ofNat (n + base)]
  | count + 1, n => octetsOf base count (n / 64) ++ [UInt8.ofNat (n % 64 + 0x80)]

variable {base base' count count' m n : Nat}

theorem exists_octetsOf_eq_cons (base count n : Nat) :
    ∃ tail, octetsOf base count n = UInt8.ofNat (leadBits count n + base) :: tail := by
  induction count generalizing n with
  | zero => exact ⟨[], rfl⟩
  | succ count ih =>
    obtain ⟨tail, htail⟩ := ih (n / 64)
    exact ⟨_, by rw [octetsOf, htail, List.cons_append, leadBits]⟩

theorem ofNat_lt_ofNat (h : m < n) (hn : n < 256) : UInt8.ofNat m < UInt8.ofNat n := by
  rw [UInt8.lt_iff_toNat_lt, UInt8.toNat_ofNat', UInt8.toNat_ofNat']
  omega

/-- Runs with different first octets are ordered by these. -/
theorem octetsOf_append_lt_of_first (h : leadBits count m + base < leadBits count' n + base')
    (hn : leadBits count' n + base' < 256) (rest rest' : List UInt8) :
    octetsOf base count m ++ rest < octetsOf base' count' n ++ rest' := by
  obtain ⟨tail, htail⟩ := exists_octetsOf_eq_cons base count m
  obtain ⟨tail', htail'⟩ := exists_octetsOf_eq_cons base' count' n
  rw [htail, htail', List.cons_append, List.cons_append, List.cons_lt_cons_iff]
  exact .inl (ofNat_lt_ofNat h hn)

/-- Runs of one kind are ordered by their numbers. -/
theorem octetsOf_append_lt (h : m < n) (hn : leadBits count n + base < 256)
    (rest rest' : List UInt8) :
    octetsOf base count m ++ rest < octetsOf base count n ++ rest' := by
  -- All octets but the last are the run for the numbers without their last six bits.
  induction count generalizing m n rest rest' with
  | zero => exact octetsOf_append_lt_of_first (Nat.add_lt_add_right h base) hn rest rest'
  | succ count ih =>
    rw [octetsOf, octetsOf, List.append_assoc, List.append_assoc]
    by_cases heq : m / 64 = n / 64
    · -- The numbers differ in the last octet only.
      rw [heq]
      have hlast : m % 64 + 0x80 < n % 64 + 0x80 := by omega
      exact List.append_left_lt (List.cons_lt_cons_iff.2 (.inl (ofNat_lt_ofNat hlast (by omega))))
    · exact ih (by omega) hn _ _

/-! ## Characters -/

theorem toNat_lt (c : Char) : c.toNat < 0x110000 := by
  rcases c.valid with h | ⟨-, h⟩
  · exact Nat.lt_trans h (by decide)
  · exact h

/-- The number of octets behind the first one for a character with the number `n`. -/
def trailCount (n : Nat) : Nat :=
  if n ≤ 0x7F then 0 else if n ≤ 0x7FF then 1 else if n ≤ 0xFFFF then 2 else 3

/-- The mark in the first octet in front of `count` others. -/
def mark : Nat → Nat
  | 0 => 0
  | 1 => 0xC0
  | 2 => 0xE0
  | _ => 0xF0

/-- The value of the first octet for a character with the number `n`. -/
def firstOctet (n : Nat) : Nat :=
  leadBits (trailCount n) n + mark (trailCount n)

theorem firstOctet_lt {n : Nat} (h : n < 0x110000) : firstOctet n < 256 := by
  unfold firstOctet trailCount
  split_ifs <;> simp only [leadBits, mark] <;> omega

/-- The more octets stand behind the first one, the greater it is. -/
theorem firstOctet_lt_firstOctet (h : m < n) (hne : trailCount m ≠ trailCount n) :
    firstOctet m < firstOctet n := by
  unfold firstOctet trailCount at *
  split_ifs at * <;> simp only [leadBits, mark] <;> omega

theorem utf8EncodeChar_eq_octetsOf (c : Char) :
    String.utf8EncodeChar c =
      octetsOf (mark (trailCount c.toNat)) (trailCount c.toNat) c.toNat := by
  have hbound := toNat_lt c
  have hval : c.val.toNat = c.toNat := rfl
  unfold trailCount String.utf8EncodeChar
  rw [hval]
  dsimp only
  split_ifs with hone htwo hthree
  · rfl
  · have hfirst : c.toNat / 64 % 0x20 = c.toNat / 64 := Nat.mod_eq_of_lt (by omega)
    rw [hfirst]
    rfl
  · have hfirst : c.toNat / 4096 % 0x10 = c.toNat / 4096 := Nat.mod_eq_of_lt (by omega)
    rw [hfirst]
    simp [octetsOf, mark, Nat.div_div_eq_div_mul, UInt8.ofNat_add]
  · have hfirst : c.toNat / 262144 % 0x08 = c.toNat / 262144 := Nat.mod_eq_of_lt (by omega)
    rw [hfirst]
    simp [octetsOf, mark, Nat.div_div_eq_div_mul, UInt8.ofNat_add]

/-- A greater character has octets that come later, whatever stands behind them. -/
theorem utf8EncodeChar_append_lt {c d : Char} (h : c < d) (rest rest' : List UInt8) :
    String.utf8EncodeChar c ++ rest < String.utf8EncodeChar d ++ rest' := by
  have hbound : firstOctet d.toNat < 256 := firstOctet_lt (toNat_lt d)
  rw [utf8EncodeChar_eq_octetsOf, utf8EncodeChar_eq_octetsOf]
  by_cases hcount : trailCount c.toNat = trailCount d.toNat
  · rw [hcount]
    exact octetsOf_append_lt h hbound rest rest'
  · exact octetsOf_append_lt_of_first (firstOctet_lt_firstOctet h hcount) hbound rest rest'

/-! ## Texts -/

theorem toList_loop (octets : ByteArray) (i : Nat) (front : List UInt8) :
    ByteArray.toList.loop octets i front = front.reverse ++ octets.data.toList.drop i := by
  fun_induction ByteArray.toList.loop octets i front with
  | case1 i front hi ih =>
    have hi' : i < octets.data.toList.length := hi
    have hget : octets.get! i = octets.data.toList[i] := getElem!_pos octets.data i hi
    rw [ih, List.reverse_cons, List.append_assoc, List.singleton_append, hget,
      List.getElem_cons_drop]
  | case2 i front hi =>
    have hi' : octets.data.toList.length ≤ i := Nat.le_of_not_lt hi
    rw [List.drop_of_length_le hi', List.append_nil]

theorem encode_eq_flatMap (text : String) :
    encode text = text.toList.flatMap String.utf8EncodeChar := by
  have hoctets : text.toUTF8 = (text.toList.flatMap String.utf8EncodeChar).toByteArray :=
    String.utf8Encode_toList.symm
  rw [encode, hoctets, ByteArray.toList, toList_loop, List.toList_data_toByteArray]
  rfl

/-- The octets of texts are ordered as the texts. -/
theorem encode_lt_encode {text text' : String} (h : text < text') :
    encode text < encode text' := by
  rw [encode_eq_flatMap, encode_eq_flatMap]
  have hlist : text.toList < text'.toList := h
  generalize text.toList = s at hlist ⊢
  generalize text'.toList = s' at hlist ⊢
  induction hlist with
  | nil =>
    rw [List.flatMap_cons]
    obtain ⟨c, more, hc⟩ := List.exists_cons_of_ne_nil String.utf8EncodeChar_ne_nil
    rw [hc]
    exact List.nil_lt_cons _ _
  | cons h ih =>
    rw [List.flatMap_cons, List.flatMap_cons]
    exact List.append_left_lt ih
  | rel h =>
    rw [List.flatMap_cons, List.flatMap_cons]
    exact utf8EncodeChar_append_lt h _ _

end LintRun.Text
