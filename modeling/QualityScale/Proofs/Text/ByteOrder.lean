/-!
# The order of bytes

Texts are compared character by character, by code point.  Their encodings are compared byte by
byte.  The two orders are one (`lt_iff_bytes_lt`), because the encoding of a character with a
smaller code point is smaller, whatever stands after the two (`utf8EncodeChar_append_lt`).
-/

namespace QualityScale.Text

/-- The bytes that encode a text. -/
def bytes (s : String) : List UInt8 :=
  s.toByteArray.data.toList

theorem bytes_eq (s : String) : bytes s = s.toList.flatMap String.utf8EncodeChar := by
  rw [bytes, ← String.utf8Encode_toList, List.utf8Encode, List.toList_data_toByteArray]

/-- Of two numbers of four digits to the base 64, the first digits that differ decide. -/
theorem digits_lt {m n : Nat} (h : m < n) :
    m / 262144 < n / 262144 ∨ m / 262144 = n / 262144 ∧
      (m / 4096 % 64 < n / 4096 % 64 ∨ m / 4096 % 64 = n / 4096 % 64 ∧
        (m / 64 % 64 < n / 64 % 64 ∨ m / 64 % 64 = n / 64 % 64 ∧ m % 64 < n % 64)) := by
  have step : ∀ {a b : Nat}, a < b → a / 64 < b / 64 ∨ a / 64 = b / 64 ∧ a % 64 < b % 64 := by
    omega
  have hlow : ∀ k, k / 64 / 64 = k / 4096 := by omega
  have hhigh : ∀ k, k / 4096 / 64 = k / 262144 := by omega
  rcases step h with h | ⟨h, h1⟩
  · rcases step h with h | ⟨h, h2⟩
    · rw [hlow, hlow] at h
      rcases step h with h | ⟨h, h3⟩
      · rw [hhigh, hhigh] at h
        exact .inl h
      · rw [hhigh, hhigh] at h
        exact .inr ⟨h, .inl h3⟩
    · rw [hlow, hlow] at h
      omega
  · omega

/-- **Smaller characters have smaller encodings**, whatever follows them. -/
theorem utf8EncodeChar_append_lt {c d : Char} (h : c < d) (x y : List UInt8) :
    String.utf8EncodeChar c ++ x < String.utf8EncodeChar d ++ y := by
  have hlt : c.val.toNat < d.val.toNat := UInt32.lt_iff_toNat_lt.mp (Char.lt_def.mp h)
  have hmax : d.val.toNat < 1114112 := by
    have hvalid := d.valid
    simp only [UInt32.isValidChar, Nat.isValidChar] at hvalid
    omega
  have hlead : ∀ {k}, k < 1114112 → k / 262144 % 8 = k / 262144 := by omega
  have hdigits := digits_lt hlt
  simp only [String.utf8EncodeChar]
  -- One case for each pair of lengths.  A longer encoding has the larger first byte; in encodings
  -- of one length, the first bytes that differ are in the order of the code points.
  repeat' split
  all_goals
    simp (disch := simp only [UInt8.size]; omega) only [List.cons_append, List.nil_append,
      List.cons_lt_cons_iff, UInt8.lt_iff_toNat_lt, ← UInt8.toNat_inj, UInt8.toNat_ofNat_of_lt',
      hlead hmax, hlead (Nat.lt_trans hlt hmax)]
    omega

theorem flatMap_utf8EncodeChar_lt {cs ds : List Char} (h : cs < ds) :
    cs.flatMap String.utf8EncodeChar < ds.flatMap String.utf8EncodeChar := by
  induction cs generalizing ds with
  | nil =>
    cases ds with
    | nil => exact absurd h (List.lt_irrefl [])
    | cons d ds =>
      obtain ⟨b, bs, hb⟩ := List.exists_cons_of_ne_nil (String.utf8EncodeChar_ne_nil (c := d))
      rw [List.flatMap_nil, List.flatMap_cons, hb]
      exact List.nil_lt_cons _ _
  | cons c cs ih =>
    cases ds with
    | nil => exact absurd h (List.not_lt_nil _)
    | cons d ds =>
      rw [List.flatMap_cons, List.flatMap_cons]
      rcases List.cons_lt_cons_iff.mp h with hlt | ⟨rfl, hlt⟩
      · exact utf8EncodeChar_append_lt hlt _ _
      · exact List.append_left_lt (ih hlt)

/-- **The order of texts is the order of their bytes.** -/
theorem lt_iff_bytes_lt {s t : String} : s < t ↔ bytes s < bytes t := by
  have hlt : ∀ {s t : String}, s < t → bytes s < bytes t := by
    intro s t h
    rw [bytes_eq, bytes_eq]
    exact flatMap_utf8EncodeChar_lt (String.lt_iff.mp h)
  refine ⟨hlt, fun h => ?_⟩
  by_cases hst : s < t
  · exact hst
  · by_cases hts : t < s
    · exact absurd (hlt hts) (List.lt_asymm h)
    · obtain rfl := String.le_antisymm (String.not_lt.mp hts) (String.not_lt.mp hst)
      exact absurd h (List.lt_irrefl _)

end QualityScale.Text
