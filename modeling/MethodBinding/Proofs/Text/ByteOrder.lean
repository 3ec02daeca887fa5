import MethodBinding.NameMap

/-!
# The order of texts is that of their bytes

Texts are compared character by character. In UTF-8 a character is a first byte, which tells how
many bytes follow, and these, which hold six bits each, the highest first (`utf8EncodeChar_eq`). So
a greater character has a greater first byte, or the same first byte and greater ones behind it
(`encodeChar_append_lt`), and a text that comes before another one does so by its bytes, too
(`BytesBefore.of_lt`).
-/

namespace MethodBinding

/-- A text comes before another one, byte by byte. -/
def BytesBefore (a b : String) : Prop := a.toUTF8.data.toList < b.toUTF8.data.toList

namespace ByteOrder

variable {n m : Nat} {xs ys : List UInt8}

/-! ## The bytes of a character -/

/-- The last `count` bytes of a character with this number. -/
def lastBytes : Nat → Nat → List UInt8
  | 0, _ => []
  | count + 1, n => UInt8.ofNat (n / Nat.pow 64 count % 64 + 0x80) :: lastBytes count n

/-- The number of bytes behind the first one. -/
def moreBytes (n : Nat) : Nat :=
  if n ≤ 0x7f then 0 else if n ≤ 0x7ff then 1 else if n ≤ 0xffff then 2 else 3

/-- What the first byte shows of the number of bytes. -/
def lead : Nat → Nat
  | 0 => 0
  | 1 => 0xc0
  | 2 => 0xe0
  | _ => 0xf0

def firstByte (n : Nat) : Nat := n / Nat.pow 64 (moreBytes n) + lead (moreBytes n)

theorem toNat_lt (c : Char) : c.toNat < 0x110000 := by
  rcases c.valid with h | ⟨-, h⟩
  · exact Nat.lt_trans h (by decide)
  · exact h

theorem utf8EncodeChar_eq (c : Char) : String.utf8EncodeChar c =
    UInt8.ofNat (firstByte c.toNat) :: lastBytes (moreBytes c.toNat) c.toNat := by
  have hn : c.val.toNat = c.toNat := rfl
  have hlt := toNat_lt c
  unfold String.utf8EncodeChar firstByte moreBytes
  simp only [hn]
  split
  · simp [lead, lastBytes]
  split
  · have hmod : c.toNat / 64 % 32 = c.toNat / 64 := Nat.mod_eq_of_lt (by omega)
    simp [lead, lastBytes, hmod]
  split
  · have hmod : c.toNat / 4096 % 16 = c.toNat / 4096 := Nat.mod_eq_of_lt (by omega)
    simp [lead, lastBytes, hmod]
  · have hmod : c.toNat / 262144 % 8 = c.toNat / 262144 := Nat.mod_eq_of_lt (by omega)
    simp [lead, lastBytes, hmod]

theorem moreBytes_cases (n : Nat) :
    n ≤ 0x7f ∧ moreBytes n = 0 ∨ (0x7f < n ∧ n ≤ 0x7ff) ∧ moreBytes n = 1 ∨
      (0x7ff < n ∧ n ≤ 0xffff) ∧ moreBytes n = 2 ∨ 0xffff < n ∧ moreBytes n = 3 := by
  unfold moreBytes
  split
  next h1 => exact .inl ⟨h1, rfl⟩
  next h1 =>
  split
  next h2 => exact .inr (.inl ⟨⟨by omega, h2⟩, rfl⟩)
  next h2 =>
  split
  next h3 => exact .inr (.inr (.inl ⟨⟨by omega, h3⟩, rfl⟩))
  next h3 => exact .inr (.inr (.inr ⟨by omega, rfl⟩))

theorem firstByte_lt (h : n < 0x110000) : firstByte n < 256 := by
  rcases moreBytes_cases n with ⟨hn, hc⟩ | ⟨hn, hc⟩ | ⟨hn, hc⟩ | ⟨hn, hc⟩ <;>
    simp [firstByte, hc, lead] <;> omega

/-- A greater number has a greater first byte, or the same one and as many bytes behind it. -/
theorem firstByte_lt_or_eq (h : n < m) :
    firstByte n < firstByte m ∨
      moreBytes n = moreBytes m ∧
        n / Nat.pow 64 (moreBytes m) = m / Nat.pow 64 (moreBytes m) := by
  rcases moreBytes_cases n with ⟨hn, hc⟩ | ⟨hn, hc⟩ | ⟨hn, hc⟩ | ⟨hn, hc⟩ <;>
    rcases moreBytes_cases m with ⟨hm, hc'⟩ | ⟨hm, hc'⟩ | ⟨hm, hc'⟩ | ⟨hm, hc'⟩ <;>
    simp [firstByte, hc, hc', lead] <;> omega

theorem lastBytes_append_lt {count : Nat} (h : n < m)
    (hsame : n / Nat.pow 64 count = m / Nat.pow 64 count) :
    lastBytes count n ++ xs < lastBytes count m ++ ys := by
  induction count with
  | zero =>
    have hnm : n = m := by simpa using hsame
    exact absurd hnm (Nat.ne_of_lt h)
  | succ count ih =>
    have hhigh : n / Nat.pow 64 count / 64 = m / Nat.pow 64 count / 64 := by
      rw [Nat.div_div_eq_div_mul, Nat.div_div_eq_div_mul]
      exact hsame
    have hle : n / Nat.pow 64 count ≤ m / Nat.pow 64 count := Nat.div_le_div_right (Nat.le_of_lt h)
    simp only [lastBytes, List.cons_append, List.cons_lt_cons_iff]
    rcases Nat.lt_or_eq_of_le hle with hlt | heq
    · left
      rw [UInt8.ofNat_lt_iff_lt (by simp [UInt8.size]; omega) (by simp [UInt8.size]; omega)]
      omega
    · exact .inr ⟨by rw [heq], ih heq⟩

theorem encodeChar_append_lt {c d : Char} (h : c < d) :
    String.utf8EncodeChar c ++ xs < String.utf8EncodeChar d ++ ys := by
  have hlt : c.toNat < d.toNat := h
  rw [utf8EncodeChar_eq, utf8EncodeChar_eq, List.cons_append, List.cons_append,
    List.cons_lt_cons_iff]
  rcases firstByte_lt_or_eq hlt with hfirst | ⟨hcount, hsame⟩
  · left
    exact (UInt8.ofNat_lt_iff_lt (firstByte_lt (toNat_lt c)) (firstByte_lt (toNat_lt d))).2 hfirst
  · right
    refine ⟨?_, ?_⟩
    · rw [firstByte, firstByte, hcount, hsame]
    · rw [hcount]
      exact lastBytes_append_lt hlt hsame

/-! ## The bytes of a text -/

theorem flatMap_encodeChar_lt {as bs : List Char} (h : as < bs) :
    as.flatMap String.utf8EncodeChar < bs.flatMap String.utf8EncodeChar := by
  induction as generalizing bs with
  | nil =>
    cases bs with
    | nil => exact absurd h (List.lt_irrefl _)
    | cons b bs =>
      rw [List.flatMap_cons, utf8EncodeChar_eq]
      exact List.nil_lt_cons _ _
  | cons a as ih =>
    cases bs with
    | nil => exact absurd h (List.not_lt_nil _)
    | cons b bs =>
      rw [List.flatMap_cons, List.flatMap_cons]
      rcases List.cons_lt_cons_iff.1 h with hlt | ⟨rfl, hrest⟩
      · exact encodeChar_append_lt hlt
      · exact List.append_left_lt (ih hrest)

end ByteOrder

theorem BytesBefore.of_lt {a b : String} (h : a < b) : BytesBefore a b := by
  have hbytes (s : String) : s.toUTF8.data.toList = s.toList.flatMap String.utf8EncodeChar := by
    conv => lhs; rw [← String.ofList_toList (s := s)]
    exact List.toList_data_toByteArray
  rw [BytesBefore, hbytes, hbytes]
  exact ByteOrder.flatMap_encodeChar_lt h

end MethodBinding
