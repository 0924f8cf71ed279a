import ChartOperator.Chart.Loader
import ChartOperator.Proofs.Lookup
import Mathlib.Algebra.Group.Nat.Defs
import Mathlib.Data.List.TakeWhile

/-!
# The names of chart files

The name of a chart file is made of the names on the way to it.  Names are bytes, and bytes that
are no text are decoded all the same; but what is decoded to a plain word has the bytes of this
word.  So the name of a file tells in which directory of the chart the file is.
-/

namespace ChartOperator

namespace Utf8

/-! ## Plain words -/

/-- A plain character: it has a code below 128 and is not zero, so it is encoded as one byte, and
no other bytes are decoded to it. -/
def IsPlain (c : Char) : Prop := 0 < c.toNat ∧ c.toNat < 128

instance : DecidablePred IsPlain := fun _ => inferInstanceAs (Decidable (_ ∧ _))

theorem encode_cons_of_isPlain {c : Char} (plain : IsPlain c) (cs : List Char) :
    encode (c :: cs) = UInt8.ofNat c.toNat :: encode cs := by
  have size : c.utf8Size = 1 := by
    rw [Char.utf8Size_eq_one_iff]
    exact UInt32.le_iff_toNat_le.mpr (Nat.le_of_lt_succ plain.2)
  rw [encode, List.flatMap_cons, String.utf8EncodeChar_eq_singleton size]
  rfl

theorem toNat_ofNat_of_valid {code : Nat} (valid : code.isValidChar) :
    (Char.ofNat code).toNat = code := by
  rw [Char.ofNat, dif_pos valid]
  rfl

theorem toNat_ofNat_of_small {code : Nat} (small : code < 128) :
    (Char.ofNat code).toNat = code :=
  toNat_ofNat_of_valid (Or.inl (Nat.lt_trans small (by decide)))

theorem not_isPlain_ofNat {code : Nat} (large : 128 ≤ code) : ¬ IsPlain (Char.ofNat code) := by
  rintro ⟨positive, small⟩
  by_cases valid : code.isValidChar
  · rw [toNat_ofNat_of_valid valid] at small
    exact absurd large (Nat.not_le_of_lt small)
  · rw [Char.ofNat, dif_neg valid] at positive
    exact absurd positive (by decide)

/-- Continuation bytes make a code larger. -/
theorem not_isPlain_of_readTail {more code : Nat} {rest left : Bytes} {c : Char}
    (large : 128 ≤ code * 64 ^ more) (read : readTail more code rest = (some c, left)) :
    ¬ IsPlain c := by
  induction more generalizing code rest with
  | zero =>
      obtain ⟨rfl, -⟩ : Char.ofNat code = c ∧ rest = left := by simpa [readTail] using read
      exact not_isPlain_ofNat (by simpa using large)
  | succ more ih =>
      cases rest with
      | nil => simp [readTail] at read
      | cons b rest =>
          simp only [readTail] at read
          split at read
          · refine ih ?_ read
            calc
              128 ≤ code * 64 ^ (more + 1) := large
              _ = code * 64 * 64 ^ more := by rw [Nat.pow_succ', Nat.mul_assoc]
              _ ≤ (code * 64 + payload b) * 64 ^ more :=
                  Nat.mul_le_mul_right _ (Nat.le_add_right _ _)
          · simp at read

/-- The bounds of the second byte exclude codes for which one byte is enough. -/
theorem large_of_continuation {lead low high : UInt8} {more : Nat}
    (leads : continuation? lead = some (low, high, more)) :
    128 ≤ (leadPayload lead * 64 + payload low) * 64 ^ more := by
  have everyLead : ∀ bits : BitVec 8, ∀ found ∈ continuation? (.ofBitVec bits),
      128 ≤ (leadPayload (.ofBitVec bits) * 64 + payload found.1) * 64 ^ found.2.2 := by
    decide +kernel
  have bound := everyLead lead.toBitVec (low, high, more)
  rw [UInt8.ofBitVec_toBitVec] at bound
  exact bound leads

theorem readChar_of_small {lead : UInt8} (small : lead < 0x80) (rest : Bytes) :
    readChar lead rest = (some (Char.ofNat lead.toNat), rest) := by
  rw [readChar, if_pos small]

/-- No plain character is read from bytes that start with another one than a single byte. -/
theorem not_isPlain_of_readChar {lead : UInt8} {rest left : Bytes} {c : Char}
    (notSmall : ¬ lead < 0x80) (read : readChar lead rest = (some c, left)) : ¬ IsPlain c := by
  unfold readChar at read
  rw [if_neg notSmall] at read
  split at read
  · simp at read
  · rename_i low high more leads
    cases rest with
    | nil => simp at read
    | cons b rest =>
        dsimp only at read
        split at read
        · rename_i within
          refine not_isPlain_of_readTail ?_ read
          have atLeast : payload low ≤ payload b := by
            simp only [isWithin, Bool.and_eq_true, decide_eq_true_eq] at within
            exact Nat.sub_le_sub_right (UInt8.le_iff_toNat_le.mp within.1) _
          calc
            128 ≤ (leadPayload lead * 64 + payload low) * 64 ^ more := large_of_continuation leads
            _ ≤ (leadPayload lead * 64 + payload b) * 64 ^ more :=
                Nat.mul_le_mul_right _ (Nat.add_le_add_left atLeast _)
        · simp at read

/-- What is read as a plain character is its byte. -/
theorem readChar_of_isPlain {lead : UInt8} {rest : Bytes} {c : Char} (plain : IsPlain c)
    (read : (readChar lead rest).1.getD '\uFFFD' = c) :
    lead = UInt8.ofNat c.toNat ∧ (readChar lead rest).2 = rest := by
  by_cases small : lead < 0x80
  · rw [readChar_of_small small] at read ⊢
    subst read
    have code : lead.toNat < 128 := UInt8.lt_iff_toNat_lt.mp small
    exact ⟨by simp [toNat_ofNat_of_small code], rfl⟩
  · exfalso
    cases found : readChar lead rest with
    | mk decoded left =>
        rw [found] at read
        cases decoded with
        | none =>
            have replaced : ¬ IsPlain '\uFFFD' := by decide
            rw [← show '\uFFFD' = c from read] at plain
            exact replaced plain
        | some d =>
            subst read
            exact not_isPlain_of_readChar small found plain

theorem decodeLossy_cons (lead : UInt8) (rest : Bytes) :
    decodeLossy (lead :: rest) =
      (readChar lead rest).1.getD '\uFFFD' :: decodeLossy (readChar lead rest).2 := by
  rw [decodeLossy, units, List.map_cons, decodeLossy]

/-- Only the bytes of a plain word are decoded to this word. -/
theorem decodeLossy_eq_iff {bytes : Bytes} {word : List Char} (plain : ∀ c ∈ word, IsPlain c) :
    decodeLossy bytes = word ↔ bytes = encode word := by
  induction word generalizing bytes with
  | nil =>
      cases bytes with
      | nil => simp [decodeLossy, units, encode]
      | cons lead rest => simp [decodeLossy_cons, encode]
  | cons c word ih =>
      have plainFirst := plain c List.mem_cons_self
      have plainRest : ∀ d ∈ word, IsPlain d := fun d mem => plain d (List.mem_cons_of_mem c mem)
      rw [encode_cons_of_isPlain plainFirst]
      constructor
      · intro decoded
        cases bytes with
        | nil => simp [decodeLossy, units] at decoded
        | cons lead rest =>
            rw [decodeLossy_cons] at decoded
            obtain ⟨first, others⟩ := List.cons.inj decoded
            obtain ⟨rfl, left⟩ := readChar_of_isPlain plainFirst first
            rw [left] at others
            rw [(ih plainRest).mp others]
      · rintro rfl
        have small : UInt8.ofNat c.toNat < 0x80 := by
          rw [UInt8.lt_iff_toNat_lt, UInt8.toNat_ofNat']
          exact Nat.lt_of_le_of_lt (Nat.mod_le _ _) plainFirst.2
        have code : (UInt8.ofNat c.toNat).toNat = c.toNat := by
          rw [UInt8.toNat_ofNat']
          exact Nat.mod_eq_of_lt (Nat.lt_trans plainFirst.2 (by decide))
        rw [decodeLossy_cons, readChar_of_small small, code, Char.ofNat_toNat,
          (ih plainRest).mpr rfl]
        rfl

theorem readTail_suffix (more code : Nat) (rest : Bytes) :
    (readTail more code rest).2 <:+ rest := by
  induction more generalizing code rest with
  | zero => exact List.suffix_rfl
  | succ more ih =>
      cases rest with
      | nil => exact List.suffix_rfl
      | cons b rest =>
          simp only [readTail]
          split
          · exact (ih _ rest).trans (List.suffix_cons b rest)
          · exact List.suffix_rfl

theorem readChar_suffix (lead : UInt8) (rest : Bytes) : (readChar lead rest).2 <:+ rest := by
  unfold readChar
  split
  · exact List.suffix_rfl
  · split
    · exact List.suffix_rfl
    · cases rest with
      | nil => exact List.suffix_rfl
      | cons b rest =>
          dsimp only
          split
          · exact (readTail_suffix _ _ rest).trans (List.suffix_cons b rest)
          · exact List.suffix_rfl

/-- A plain character is decoded only where its byte stands. -/
theorem mem_of_mem_decodeLossy {bytes : Bytes} {c : Char} (plain : IsPlain c)
    (mem : c ∈ decodeLossy bytes) : UInt8.ofNat c.toNat ∈ bytes := by
  induction bytes using units.induct with
  | case1 => simp [decodeLossy, units] at mem
  | case2 lead rest ih =>
      rw [decodeLossy_cons] at mem
      rcases List.mem_cons.mp mem with first | mem
      · rw [(readChar_of_isPlain plain first.symm).1]
        exact List.mem_cons_self
      · exact List.mem_cons_of_mem lead ((readChar_suffix lead rest).subset (ih mem))

end Utf8

/-! ## Relative names -/

/-- Whether a name is that of a directory or lies below the directory. -/
def IsAtOrBelow (directory name : String) : Prop :=
  name = directory ∨ (directory ++ "/").toList <+: name.toList

/-- A name that can be told from all others: its characters are plain and no slashes. -/
def IsWord (word : String) : Prop :=
  ∀ c ∈ word.toList, Utf8.IsPlain c ∧ c ≠ '/'

-- The characters of the word are tried one by one, and not all characters that there are.
instance : DecidablePred IsWord := fun word => List.decidableBAll _ word.toList

/-- The part of a name in front of its first slash. -/
def firstPart (name : String) : List Char :=
  name.toList.takeWhile (· ≠ '/')

theorem takeWhile_of_noSlash {part : List Char} (noSlash : '/' ∉ part) :
    part.takeWhile (· ≠ '/') = part := by
  rw [List.takeWhile_eq_self_iff]
  intro c mem
  rw [decide_eq_true_iff]
  rintro rfl
  exact noSlash mem

theorem takeWhile_append_slash {part : List Char} (noSlash : '/' ∉ part) (after : List Char) :
    (part ++ '/' :: after).takeWhile (· ≠ '/') = part := by
  rw [List.takeWhile_append, takeWhile_of_noSlash noSlash]
  simp

theorem isAtOrBelow_iff {word name : String} (noSlash : '/' ∉ word.toList) :
    IsAtOrBelow word name ↔ firstPart name = word.toList := by
  unfold IsAtOrBelow firstPart
  constructor
  · rintro (rfl | ⟨after, below⟩)
    · exact takeWhile_of_noSlash noSlash
    · rw [← below, String.toList_append, List.append_assoc]
      exact takeWhile_append_slash noSlash after
  · intro first
    have split := List.takeWhile_append_dropWhile (p := (· ≠ '/')) (l := name.toList)
    rw [first] at split
    cases left : name.toList.dropWhile (· ≠ '/') with
    | nil =>
        rw [left, List.append_nil] at split
        exact Or.inl (String.toList_inj.mp split.symm)
    | cons c after =>
        have stops := List.head?_dropWhile_not (fun c => decide (c ≠ '/')) name.toList
        rw [left] at stops
        have slash : c = '/' := by simpa using stops
        rw [left, slash] at split
        right
        rw [← split, String.toList_append]
        exact ⟨after, by simp⟩

theorem noSlash_decodeLossy {name : Bytes} (named : FileTree.isName name = true) :
    '/' ∉ Utf8.decodeLossy name := by
  intro mem
  exact (FileTree.isName_iff.mp named).2.1 (Utf8.mem_of_mem_decodeLossy (by decide) mem)

theorem toList_relativeName_cons (name : Bytes) (rest : List Bytes) :
    (ChartFile.relativeName (name :: rest)).toList =
      Utf8.decodeLossy name ++
        if rest = [] then [] else '/' :: (ChartFile.relativeName rest).toList := by
  cases rest with
  | nil => simp [ChartFile.relativeName]
  | cons next others => simp [ChartFile.relativeName, String.intercalate_cons_cons]

theorem firstPart_relativeName {name : Bytes} (rest : List Bytes)
    (named : FileTree.isName name = true) :
    firstPart (ChartFile.relativeName (name :: rest)) = Utf8.decodeLossy name := by
  rw [firstPart, toList_relativeName_cons]
  split
  · rw [List.append_nil, takeWhile_of_noSlash (noSlash_decodeLossy named)]
  · exact takeWhile_append_slash (noSlash_decodeLossy named) _

/-- A file is at a directory or below it exactly if this is the first name on the way to it. -/
theorem isAtOrBelow_relativeName_iff {word : String} {names : List Bytes} (isWord : IsWord word)
    (named : ∀ name ∈ names, FileTree.isName name = true) (nonempty : names ≠ []) :
    IsAtOrBelow word (ChartFile.relativeName names) ↔ names.head? = some (Utf8.ofString word) := by
  obtain ⟨name, rest, rfl⟩ := List.exists_cons_of_ne_nil nonempty
  rw [isAtOrBelow_iff fun slash => (isWord _ slash).2 rfl,
    firstPart_relativeName rest (named name List.mem_cons_self),
    Utf8.decodeLossy_eq_iff fun c mem => (isWord c mem).1, List.head?_cons, Option.some.injEq,
    Utf8.ofString]

/-- A file has a word as its name exactly if this is the only name on the way to it. -/
theorem relativeName_eq_iff {word : String} {names : List Bytes} (isWord : IsWord word)
    (named : ∀ name ∈ names, FileTree.isName name = true) (nonempty : names ≠ []) :
    ChartFile.relativeName names = word ↔ names = [Utf8.ofString word] := by
  obtain ⟨name, rest, rfl⟩ := List.exists_cons_of_ne_nil nonempty
  have first := isAtOrBelow_relativeName_iff isWord named nonempty
  rw [List.head?_cons, Option.some.injEq] at first
  constructor
  · intro same
    rw [first.mp (Or.inl same)]
    cases rest with
    | nil => rfl
    | cons next others =>
        refine absurd rfl (isWord '/' ?_).2
        rw [← same, toList_relativeName_cons]
        simp
  · rintro only
    obtain ⟨rfl, rfl⟩ := List.cons.inj only
    rw [← String.toList_inj, toList_relativeName_cons, if_pos rfl, List.append_nil, Utf8.ofString]
    exact (Utf8.decodeLossy_eq_iff fun c mem => (isWord c mem).1).mpr rfl

end ChartOperator
