import ChartOperator.Proofs.ByteOrder
import ChartOperator.Proofs.Names

/-!
# Names that are texts

The bytes of a text are decoded to this text.  So a file whose path has only texts as names can be
told from all other such files by its name alone.
-/

namespace ChartOperator

namespace Utf8

/-- Whether bytes are those of a text. -/
def IsText (bytes : Bytes) : Prop := ∃ cs : List Char, bytes = encode cs

/-! ## The bytes of a character -/

theorem isWithin_ofNat {low high : UInt8} {n : Nat} (byte : n < UInt8.size) :
    isWithin low high (UInt8.ofNat n) = true ↔ low.toNat ≤ n ∧ n ≤ high.toNat := by
  rw [isWithin, Bool.and_eq_true, decide_eq_true_eq, decide_eq_true_eq, UInt8.le_iff_toNat_le,
    UInt8.le_iff_toNat_le, UInt8.toNat_ofNat_of_lt' byte]

theorem byte_of_digit {digit : Nat} (small : digit < 64) : digit + 0x80 < UInt8.size :=
  Nat.lt_of_lt_of_le (Nat.add_lt_add_right small 0x80) (by decide)

theorem payload_ofNat {digit : Nat} (small : digit < 64) :
    payload (UInt8.ofNat (digit + 0x80)) = digit := by
  have byte := UInt8.toNat_ofNat_of_lt' (byte_of_digit small)
  unfold payload
  rw [byte]
  exact Nat.add_sub_cancel digit 0x80

theorem isWithin_plain {digit : Nat} (small : digit < 64) :
    isWithin 0x80 0xBF (UInt8.ofNat (digit + 0x80)) = true := by
  rw [isWithin_ofNat (byte_of_digit small)]
  exact ⟨Nat.le_add_left _ _, Nat.add_le_add_right (Nat.le_of_lt_succ small) 0x80⟩

/-- The bounds of a second byte are narrower behind a first byte that alone would allow a shorter
form or a code that is too large. -/
theorem isWithin_narrow {short large : Prop} [Decidable short] [Decidable large] {low high : UInt8}
    {digit : Nat} (small : digit < 64) (notShort : short → low.toNat ≤ digit + 0x80)
    (notLarge : large → digit + 0x80 ≤ high.toNat) :
    isWithin (if short then low else 0x80) (if large then high else 0xBF)
      (UInt8.ofNat (digit + 0x80)) = true := by
  obtain ⟨atLeast, atMost⟩ := (isWithin_ofNat (byte_of_digit small)).mp (isWithin_plain small)
  rw [isWithin_ofNat (byte_of_digit small)]
  constructor
  · split
    · exact notShort ‹_›
    · exact atLeast
  · split
    · exact notLarge ‹_›
    · exact atMost

theorem readTail_cons {digit : Nat} (small : digit < 64) (more code : Nat) (rest : Bytes) :
    readTail (more + 1) code (UInt8.ofNat (digit + 0x80) :: rest) =
      readTail more (code * 64 + digit) rest := by
  rw [readTail, if_pos (isWithin_plain small), payload_ofNat small]

/-- Longer forms of characters start with other bytes than single ones. -/
theorem not_small_of_continuation {lead : UInt8} {found : UInt8 × UInt8 × Nat}
    (leads : continuation? lead = some found) : ¬ lead < 0x80 := by
  have everyLead : ∀ bits : BitVec 8, continuation? (.ofBitVec bits) ≠ none →
      ¬ UInt8.ofBitVec bits < 0x80 := by
    decide +kernel
  refine everyLead lead.toBitVec ?_
  rw [UInt8.ofBitVec_toBitVec, leads]
  exact Option.some_ne_none _

/-- A longer form is read from its first byte, a second one within its bounds, and as many further
ones as belong to it. -/
theorem readChar_of_continuation {lead low high : UInt8} {more digit : Nat}
    (leads : continuation? lead = some (low, high, more)) (small : digit < 64)
    (within : isWithin low high (UInt8.ofNat (digit + 0x80)) = true) (rest : Bytes) :
    readChar lead (UInt8.ofNat (digit + 0x80) :: rest) =
      readTail more (leadPayload lead * 64 + digit) rest := by
  rw [readChar, if_neg (not_small_of_continuation leads), leads]
  dsimp only
  rw [if_pos within, payload_ofNat small]

theorem readChar_two {first second : Nat} (lead : first < 32) (digit : second < 64)
    (notShort : 2 ≤ first) (rest : Bytes) :
    readChar (UInt8.ofNat (first + 0xC0)) (UInt8.ofNat (second + 0x80) :: rest) =
      (some (Char.ofNat (first * 64 + second)), rest) := by
  have everyLead : ∀ first < 32, 2 ≤ first →
      continuation? (UInt8.ofNat (first + 0xC0)) = some (0x80, 0xBF, 0) ∧
        leadPayload (UInt8.ofNat (first + 0xC0)) = first := by
    decide
  obtain ⟨leads, value⟩ := everyLead first lead notShort
  rw [readChar_of_continuation leads digit (isWithin_plain digit), value, readTail]

/-- A form of three bytes is read, unless fewer are enough or the code is that of no character. -/
theorem readChar_three {first second third : Nat} (lead : first < 16) (digit : second < 64)
    (last : third < 64) (notShort : first = 0 → 32 ≤ second)
    (noSurrogate : first = 13 → second < 32) (rest : Bytes) :
    readChar (UInt8.ofNat (first + 0xE0))
        (UInt8.ofNat (second + 0x80) :: UInt8.ofNat (third + 0x80) :: rest) =
      (some (Char.ofNat ((first * 64 + second) * 64 + third)), rest) := by
  have everyLead : ∀ first < 16,
      continuation? (UInt8.ofNat (first + 0xE0)) =
          some (if first = 0 then 0xA0 else 0x80, if first = 13 then 0x9F else 0xBF, 1) ∧
        leadPayload (UInt8.ofNat (first + 0xE0)) = first := by
    decide
  obtain ⟨leads, value⟩ := everyLead first lead
  have atLeast : first = 0 → (0xA0 : UInt8).toNat ≤ second + 0x80 :=
    fun zero => Nat.add_le_add_right (notShort zero) 0x80
  have atMost : first = 13 → second + 0x80 ≤ (0x9F : UInt8).toNat :=
    fun same => Nat.add_le_add_right (Nat.le_of_lt_succ (noSurrogate same)) 0x80
  rw [readChar_of_continuation leads digit (isWithin_narrow digit atLeast atMost), value,
    readTail_cons last, readTail]

/-- A form of four bytes is read, unless fewer are enough or the code is too large. -/
theorem readChar_four {first second third fourth : Nat} (lead : first < 5) (digit : second < 64)
    (next : third < 64) (last : fourth < 64) (notShort : first = 0 → 16 ≤ second)
    (notLarge : first = 4 → second < 16) (rest : Bytes) :
    readChar (UInt8.ofNat (first + 0xF0))
        (UInt8.ofNat (second + 0x80) :: UInt8.ofNat (third + 0x80) ::
          UInt8.ofNat (fourth + 0x80) :: rest) =
      (some (Char.ofNat (((first * 64 + second) * 64 + third) * 64 + fourth)), rest) := by
  have everyLead : ∀ first < 5,
      continuation? (UInt8.ofNat (first + 0xF0)) =
          some (if first = 0 then 0x90 else 0x80, if first = 4 then 0x8F else 0xBF, 2) ∧
        leadPayload (UInt8.ofNat (first + 0xF0)) = first := by
    decide
  obtain ⟨leads, value⟩ := everyLead first lead
  have atLeast : first = 0 → (0x90 : UInt8).toNat ≤ second + 0x80 :=
    fun zero => Nat.add_le_add_right (notShort zero) 0x80
  have atMost : first = 4 → second + 0x80 ≤ (0x8F : UInt8).toNat :=
    fun same => Nat.add_le_add_right (Nat.le_of_lt_succ (notLarge same)) 0x80
  rw [readChar_of_continuation leads digit (isWithin_narrow digit atLeast atMost), value,
    readTail_cons next, readTail_cons last, readTail]

/-- The bytes of a character are read as it, whatever follows.  The digits of its code are those of
the form, to the base 64. -/
theorem decodeLossy_encodeChar (c : Char) (rest : Bytes) :
    decodeLossy (String.utf8EncodeChar c ++ rest) = c :: decodeLossy rest := by
  have limit := toNat_val_lt c
  have noSurrogate : c.val.toNat < 0xD800 ∨ 0xDFFF < c.val.toNat := by
    rcases c.valid with small | ⟨large, -⟩
    · exact Or.inl small
    · exact Or.inr large
  have code : Char.ofNat c.val.toNat = c := Char.ofNat_toNat c
  unfold String.utf8EncodeChar
  dsimp only
  generalize c.val.toNat = v at limit noSurrogate code
  split
  · rename_i small
    have byte : v < UInt8.size := Nat.lt_of_le_of_lt small (by decide)
    have single : UInt8.ofNat v < 0x80 := by
      rw [UInt8.lt_iff_toNat_lt, UInt8.toNat_ofNat_of_lt' byte]
      exact Nat.lt_succ_of_le small
    rw [List.singleton_append, decodeLossy_cons, readChar_of_small single,
      UInt8.toNat_ofNat_of_lt' byte, code]
    rfl
  · split
    · have digits : v / 64 % 32 * 64 + v % 64 = v := by omega
      simp only [List.cons_append, List.nil_append]
      rw [decodeLossy_cons, readChar_two (by omega) (by omega) (by omega), digits, code]
      rfl
    · split
      · have digits : (v / 4096 % 16 * 64 + v / 64 % 64) * 64 + v % 64 = v := by omega
        simp only [List.cons_append, List.nil_append]
        rw [decodeLossy_cons,
          readChar_three (by omega) (by omega) (by omega) (by omega) (by omega), digits, code]
        rfl
      · have digits : ((v / 262144 % 8 * 64 + v / 4096 % 64) * 64 + v / 64 % 64) * 64 + v % 64 =
            v := by omega
        simp only [List.cons_append, List.nil_append]
        rw [decodeLossy_cons, readChar_four (by omega) (by omega) (by omega) (by omega) (by omega)
          (by omega), digits, code]
        rfl

/-- The bytes of a text are decoded to it. -/
theorem decodeLossy_encode (cs : List Char) : decodeLossy (encode cs) = cs := by
  induction cs with
  | nil => simp [encode, decodeLossy, units]
  | cons c rest ih =>
      rw [encode, List.flatMap_cons, decodeLossy_encodeChar, ← encode, ih]

/-- Texts as bytes are told apart by what is decoded from them. -/
theorem eq_of_decodeLossy_eq {bytes other : Bytes} (isText : IsText bytes) (isOther : IsText other)
    (same : decodeLossy bytes = decodeLossy other) : bytes = other := by
  obtain ⟨cs, rfl⟩ := isText
  obtain ⟨ds, rfl⟩ := isOther
  rw [decodeLossy_encode, decodeLossy_encode] at same
  rw [same]

end Utf8

/-! ## Relative names -/

/-- Names on the way to an entry, all of them texts. -/
structure IsTextPath (names : List Bytes) : Prop where
  nonempty : names ≠ []
  named : ∀ name ∈ names, FileTree.isName name = true
  text : ∀ name ∈ names, Utf8.IsText name

theorem IsTextPath.tail {name : Bytes} {rest : List Bytes} (isPath : IsTextPath (name :: rest))
    (nonempty : rest ≠ []) : IsTextPath rest :=
  ⟨nonempty, fun next mem => isPath.named next (List.mem_cons_of_mem name mem),
    fun next mem => isPath.text next (List.mem_cons_of_mem name mem)⟩

/-- The name of a file tells the way to it, if all names on the way are texts: no slash is decoded
from them, so the slashes are those between the names. -/
theorem eq_of_relativeName_eq {names others : List Bytes} (isPath : IsTextPath names)
    (isOther : IsTextPath others)
    (same : ChartFile.relativeName names = ChartFile.relativeName others) : names = others := by
  induction names generalizing others with
  | nil => exact absurd rfl isPath.nonempty
  | cons name rest ih =>
      obtain ⟨other, more, rfl⟩ := List.exists_cons_of_ne_nil isOther.nonempty
      have named := isPath.named name List.mem_cons_self
      have otherNamed := isOther.named other List.mem_cons_self
      have decoded : Utf8.decodeLossy name = Utf8.decodeLossy other := by
        rw [← firstPart_relativeName rest named, ← firstPart_relativeName more otherNamed, same]
      obtain rfl : name = other := Utf8.eq_of_decodeLossy_eq (isPath.text name List.mem_cons_self)
        (isOther.text other List.mem_cons_self) decoded
      rw [← String.toList_inj, toList_relativeName_cons, toList_relativeName_cons,
        List.append_cancel_left_eq] at same
      by_cases last : rest = []
      · by_cases otherLast : more = []
        · rw [last, otherLast]
        · simp [last, otherLast] at same
      · by_cases otherLast : more = []
        · simp [last, otherLast] at same
        · rw [if_neg last, if_neg otherLast, List.cons.injEq, String.toList_inj] at same
          rw [ih (isPath.tail last) (isOther.tail otherLast) same.2]

end ChartOperator
