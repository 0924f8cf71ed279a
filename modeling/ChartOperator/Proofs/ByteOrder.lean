import ChartOperator.Proofs.Walk

/-!
# The order of texts

Texts are ordered by the codes of their characters.  This is also the order of their bytes, since
longer forms of characters start with larger bytes and the bytes of a form are the digits of the
code.
-/

namespace ChartOperator

namespace Utf8

open FileTree (nameLt)

theorem nameLt_ofNat_cons {m n : Nat} {as bs : Bytes} (mByte : m < 256) (nByte : n < 256) :
    nameLt (UInt8.ofNat m :: as) (UInt8.ofNat n :: bs) = true ↔
      m < n ∨ m = n ∧ nameLt as bs = true := by
  rw [nameLt, Bool.or_eq_true, Bool.and_eq_true, decide_eq_true_eq, beq_iff_eq,
    UInt8.lt_iff_toNat_lt, ← UInt8.toNat_inj, UInt8.toNat_ofNat_of_lt' mByte,
    UInt8.toNat_ofNat_of_lt' nByte]

theorem toNat_val_lt (c : Char) : c.val.toNat < 0x110000 := by
  rcases c.valid with small | large
  · exact Nat.lt_trans small (by decide)
  · exact large.2

/-- The bytes of a smaller character come before those of a larger one, whatever follows. -/
theorem nameLt_encodeChar {c d : Char} (less : c < d) (as bs : Bytes) :
    nameLt (String.utf8EncodeChar c ++ as) (String.utf8EncodeChar d ++ bs) = true := by
  have order : c.val.toNat < d.val.toNat := UInt32.lt_iff_toNat_lt.mp less
  have limit := toNat_val_lt d
  unfold String.utf8EncodeChar
  dsimp only
  generalize c.val.toNat = m at order
  generalize d.val.toNat = n at order limit
  -- The first byte of the longest form has room for more than the first digit of a code.
  have leadLess : m / 262144 % 8 = m / 262144 := Nat.mod_eq_of_lt (by omega)
  have leadMore : n / 262144 % 8 = n / 262144 := Nat.mod_eq_of_lt (by omega)
  repeat' split
  all_goals
    simp (disch := omega) only [List.cons_append, List.nil_append, nameLt_ofNat_cons]
    omega

theorem nameLt_append_left (shared as bs : Bytes) :
    nameLt (shared ++ as) (shared ++ bs) = nameLt as bs := by
  induction shared with
  | nil => rfl
  | cons b rest ih => simp [nameLt, ih, UInt8.lt_irrefl]

theorem nameLt_encode_of_lt {cs ds : List Char} (less : cs < ds) :
    nameLt (encode cs) (encode ds) = true := by
  induction cs generalizing ds with
  | nil =>
      cases ds with
      | nil => exact absurd less (List.lt_irrefl _)
      | cons d ds =>
          obtain ⟨b, rest, bytes⟩ :=
            List.exists_cons_of_ne_nil (String.utf8EncodeChar_ne_nil (c := d))
          rw [encode, encode, List.flatMap_cons, bytes]
          rfl
  | cons c cs ih =>
      cases ds with
      | nil => cases less
      | cons d ds =>
          simp only [encode, List.flatMap_cons]
          rcases List.cons_lt_cons_iff.mp less with before | ⟨rfl, others⟩
          · exact nameLt_encodeChar before _ _
          · rw [nameLt_append_left]
            exact ih others

/-- The order of texts is that of their bytes. -/
theorem nameLt_ofString_iff {s t : String} : nameLt (ofString s) (ofString t) = true ↔ s < t := by
  constructor
  · intro before
    by_contra notLess
    by_cases same : s = t
    · rw [same, FileTree.nameLt_irrefl] at before
      contradiction
    · have after : t < s := Std.lt_of_le_of_ne (String.not_lt.mp notLess) (Ne.symm same)
      have back : nameLt (ofString s) (ofString s) = true :=
        FileTree.nameLt_trans before (nameLt_encode_of_lt (String.lt_iff.mp after))
      rw [FileTree.nameLt_irrefl] at back
      contradiction
  · intro less
    exact nameLt_encode_of_lt (String.lt_iff.mp less)

end Utf8

end ChartOperator
