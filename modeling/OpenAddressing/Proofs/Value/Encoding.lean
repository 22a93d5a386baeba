import OpenAddressing.Proofs.Decimal.Canonical
import OpenAddressing.Proofs.Value.Equality

/-!
# The bytes of a value show where it ends

The bytes of a value begin those of another only if the two are the same key. The kind comes
first and has eight bytes for all values, so only contents of the same kind have to be compared:
numbers of one kind have the same width, a text is ended by a byte that is in no text, and a blob
begins with its length.

* `encoding_isFaithful`: values are the same key just if they have the same bytes, and just if
  the bytes of one begin those of the other.
-/

namespace OpenAddressing

/-! ### Numbers -/

/-- The bytes of two numbers that fit into them agree only if the numbers do. -/
theorem eq_of_littleEndian_eq {count m n : Nat} (hm : m < 256 ^ count) (hn : n < 256 ^ count)
    (h : littleEndian count m = littleEndian count n) :
  m = n
  := by
  induction count generalizing m n with
  | zero => omega
  | succ count ih =>
      rw [Nat.pow_succ] at hm hn
      rw [littleEndian, littleEndian, List.cons.injEq] at h
      obtain ⟨hlow, hhigh⟩ := h
      have hdiv : m / 256 = n / 256 := ih (by omega) (by omega) hhigh
      have hmod : m % 256 = n % 256 := by
        have hbyte := congrArg UInt8.toNat hlow
        rwa [UInt8.toNat_ofNat', UInt8.toNat_ofNat'] at hbyte
      omega

theorem eq_of_littleEndian_isPrefix {count m n : Nat} (hm : m < 256 ^ count) (hn : n < 256 ^ count)
    (h : littleEndian count m <+: littleEndian count n) :
  m = n
  := by
  apply eq_of_littleEndian_eq hm hn
  apply h.eq_of_length
  rw [length_littleEndian, length_littleEndian]

/-- What follows two numbers of the same width is compared if the numbers agree. -/
theorem eq_and_isPrefix_of_littleEndian_append {count m n : Nat} (hm : m < 256 ^ count)
    (hn : n < 256 ^ count) {bytes others : List UInt8}
    (h : littleEndian count m ++ bytes <+: littleEndian count n ++ others) :
  m = n ∧ bytes <+: others
  := by
  have hlength : (littleEndian count m).length = (littleEndian count n).length := by
    rw [length_littleEndian, length_littleEndian]
  obtain ⟨hnumber, hrest⟩ := (List.prefix_append_inj_of_length_eq hlength).mp h
  exact ⟨eq_of_littleEndian_eq hm hn hnumber, hrest⟩

/-! ### Texts -/

theorem toNat_lt_of_mem_utf8EncodeChar {c : Char} {b : UInt8}
    (h : b ∈ String.utf8EncodeChar c) :
  b.toNat < 255
  := by
  have hc := c.val.toNat_lt
  grind [String.utf8EncodeChar, UInt8.toNat_ofNat']

/-- No text contains the largest byte. -/
theorem not_mem_toUTF8 (s : String) :
  0xff ∉ s.toUTF8.data.toList
  := by
  rw [String.toUTF8_eq_toByteArray, ← String.utf8Encode_toList, List.utf8Encode,
    List.toList_data_toByteArray]
  intro h
  obtain ⟨c, -, hbyte⟩ := List.mem_flatMap.mp h
  apply Nat.lt_irrefl 255 (toNat_lt_of_mem_utf8EncodeChar hbyte)

/-- A text with its end does not begin another one. -/
theorem eq_of_toUTF8_isPrefix {s t : String}
    (h : s.toUTF8.data.toList ++ [0xff] <+: t.toUTF8.data.toList ++ [0xff]) :
  s = t
  := by
  rcases List.prefix_concat_iff.mp h with heq | hbegins
  · apply String.toByteArray_inj.mp
    apply ByteArray.ext
    apply Array.toList_inj.mp
    apply List.append_cancel_right heq
  · apply absurd _ (not_mem_toUTF8 t)
    apply hbegins.mem
    apply List.mem_append_right _ List.mem_cons_self

namespace Value

/-! ### Values -/

theorem kind_lt (value : Value) :
  value.kind < 256 ^ 8
  := by
  cases value <;> simp [kind]

/-- Among values of the same kind no content begins that of another key. -/
theorem canonical_eq_of_content_isPrefix {a b : Value} (hkind : a.kind = b.kind)
    (h : a.content <+: b.content) :
  a.canonical = b.canonical
  := by
  cases a <;> cases b <;> try cases hkind
  case null.null => rfl
  case boolean.boolean a b =>
    have hbyte := h.eq_of_length rfl
    cases a <;> cases b <;> simp [content] at hbyte ⊢
  case tinyInt.tinyInt a b =>
    have hnat := eq_of_littleEndian_isPrefix a.toUInt8.toNat_lt b.toUInt8.toNat_lt h
    apply congrArg (tinyInt ∘ Int8.ofUInt8) (UInt8.toNat_inj.mp hnat)
  case smallInt.smallInt a b =>
    have hnat := eq_of_littleEndian_isPrefix a.toUInt16.toNat_lt b.toUInt16.toNat_lt h
    apply congrArg (smallInt ∘ Int16.ofUInt16) (UInt16.toNat_inj.mp hnat)
  case integer.integer a b =>
    have hnat := eq_of_littleEndian_isPrefix a.toUInt32.toNat_lt b.toUInt32.toNat_lt h
    apply congrArg (integer ∘ Int32.ofUInt32) (UInt32.toNat_inj.mp hnat)
  case bigInt.bigInt a b =>
    have hnat := eq_of_littleEndian_isPrefix a.toUInt64.toNat_lt b.toUInt64.toNat_lt h
    apply congrArg (bigInt ∘ Int64.ofUInt64) (UInt64.toNat_inj.mp hnat)
  case decimal.decimal a b =>
    have hnat := eq_of_littleEndian_isPrefix a.canonical.toNat_lt b.canonical.toNat_lt h
    apply congrArg (decimal ∘ Decimal.mk) (UInt64.toNat_inj.mp hnat)
  case timestamp.timestamp a b =>
    have hnat := eq_of_littleEndian_isPrefix a.toNat_lt b.toNat_lt h
    apply congrArg timestamp (UInt64.toNat_inj.mp hnat)
  case varchar.varchar a b => apply congrArg varchar (eq_of_toUTF8_isPrefix h)
  case binary.binary a b =>
    obtain ⟨a, ha⟩ := a
    obtain ⟨b, hb⟩ := b
    have hfits : (2 : Nat) ^ (63 : Nat) ≤ 256 ^ 8 := by decide
    obtain ⟨hlength, hbytes⟩ := eq_and_isPrefix_of_littleEndian_append
      (Nat.lt_of_lt_of_le ha hfits) (Nat.lt_of_lt_of_le hb hfits) h
    obtain rfl := hbytes.eq_of_length hlength
    rfl

/-- The bytes of a value begin those of another only if the two are the same key. -/
theorem beq_of_encoding_isPrefix {a b : Value} (h : a.encoding <+: b.encoding) :
  a == b
  := by
  obtain ⟨hkind, hcontent⟩ := eq_and_isPrefix_of_littleEndian_append a.kind_lt b.kind_lt h
  apply beq_iff_canonical_eq.mpr (canonical_eq_of_content_isPrefix hkind hcontent)

theorem beq_iff_encoding_isPrefix {a b : Value} :
  a == b ↔ a.encoding <+: b.encoding
  := by
  constructor
  · intro h
    exact encoding_eq_of_beq h ▸ List.prefix_rfl
  · apply beq_of_encoding_isPrefix

theorem beq_iff_encoding_eq {a b : Value} :
  a == b ↔ a.encoding = b.encoding
  := by
  constructor
  · apply encoding_eq_of_beq
  · intro h
    apply beq_of_encoding_isPrefix
    exact h ▸ List.prefix_rfl

/-- Decimals are the same key if their bits agree, or neither is a number, or both are zeros. -/
theorem decimal_beq_iff {x y : UInt64} :
  decimal ⟨x⟩ == decimal ⟨y⟩
    ↔ x = y ∨ (Decimal.infinity < x.toNat % 2 ^ (63 : Nat)
        ∧ Decimal.infinity < y.toNat % 2 ^ (63 : Nat))
      ∨ (x.toNat % 2 ^ (63 : Nat) = 0 ∧ y.toNat % 2 ^ (63 : Nat) = 0)
  := by
  rw [beq_iff_canonical_eq, canonical, canonical, decimal.injEq, Decimal.mk.injEq,
    Decimal.canonical_eq_iff, Decimal.isNaN_iff, Decimal.isNaN_iff, Decimal.isZero_iff,
    Decimal.isZero_iff, Decimal.mk.injEq]
  rfl

/-- Values are the same key just if they have the same bytes, and just if the bytes of one begin
those of the other, so that no hash of the bytes tells equal keys apart. Among decimals only
those that are not a number, and the two zeros, share their bytes. -/
theorem encoding_isFaithful :
  (∀ a b : Value, (a == b ↔ a.encoding = b.encoding)
      ∧ (a == b ↔ a.encoding <+: b.encoding) ∧ (a == b ↔ b.encoding <+: a.encoding))
    ∧ (Equivalence fun a b : Value => a == b)
    ∧ (∀ hash : List UInt8 → UInt64, HashCompatible fun value : Value => hash value.encoding)
    ∧ ∀ x y : UInt64, decimal ⟨x⟩ == decimal ⟨y⟩
      ↔ x = y ∨ (Decimal.infinity < x.toNat % 2 ^ (63 : Nat)
          ∧ Decimal.infinity < y.toNat % 2 ^ (63 : Nat))
        ∨ (x.toNat % 2 ^ (63 : Nat) = 0 ∧ y.toNat % 2 ^ (63 : Nat) = 0)
  := by
  refine ⟨?_, ?_, hashCompatible, fun x y => decimal_beq_iff⟩
  · intro a b
    use beq_iff_encoding_eq, beq_iff_encoding_isPrefix
    rw [BEq.comm]
    apply beq_iff_encoding_isPrefix
  · constructor
    · apply BEq.refl
    · apply BEq.symm
    · apply BEq.trans

/-- No bits beyond those of the infinities are a number, whatever their sign. -/
example : decimal ⟨0x7ff0000000000001⟩ == decimal ⟨0xffffffffffffffff⟩ := by decide

end Value

end OpenAddressing
