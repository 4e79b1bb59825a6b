-- The law of the order of texts. Texts are compared by their characters, and
-- their UTF-8 bytes compare in the same way. So what is sorted by text is
-- sorted by bytes.
import Mathlib.Data.String.Basic
import Mathlib.Tactic.SplitIfs

namespace RuleFields

/-! ## Bytes -/

theorem ofNat_eq_iff_eq {a b : Nat} (ha : a < UInt8.size) (hb : b < UInt8.size) :
    UInt8.ofNat a = UInt8.ofNat b ↔ a = b := by
  rw [← UInt8.toNat_inj, UInt8.toNat_ofNat_of_lt' ha, UInt8.toNat_ofNat_of_lt' hb]

/-! ## Characters -/

/-- The bytes of a smaller character are smaller, whatever follows on both sides. -/
theorem utf8EncodeChar_append_lt {c d : Char} (h : c < d) (u v : List UInt8) :
    String.utf8EncodeChar c ++ u < String.utf8EncodeChar d ++ v := by
  have hlt : c.val.toNat < d.val.toNat := h
  have hd : d.val.toNat < 1114112 := by
    rcases d.valid with hd | hd
    · exact Nat.lt_trans hd (by decide)
    · exact hd.2
  -- The bytes after the first hold the digits of base 64, so all is said in these.
  have hsquare : ∀ k : Nat, k / 4096 = k / 64 / 64 := by omega
  have hcube : ∀ k : Nat, k / 262144 = k / 64 / 64 / 64 := by omega
  unfold String.utf8EncodeChar
  generalize c.val.toNat = m at hlt
  generalize d.val.toNat = n at hlt hd
  dsimp only
  -- The number of bytes decides in the first byte. Of one number of bytes, the first pair of
  -- digits that differ decides.
  split_ifs
  all_goals try omega
  all_goals simp (disch := (unfold UInt8.size; omega)) only [List.cons_append, List.nil_append,
      List.cons_lt_cons_iff, UInt8.ofNat_lt_iff_lt, ofNat_eq_iff_eq, hsquare, hcube]
  all_goals omega

/-! ## Texts -/

theorem flatMap_utf8EncodeChar_lt {l m : List Char} (h : l < m) :
    l.flatMap String.utf8EncodeChar < m.flatMap String.utf8EncodeChar := by
  induction l generalizing m with
  | nil =>
    cases m with
    | nil => simp at h
    | cons d m =>
      rw [List.flatMap_cons]
      cases hd : String.utf8EncodeChar d with
      | nil => exact absurd hd String.utf8EncodeChar_ne_nil
      | cons x r => exact List.nil_lt_cons _ _
  | cons c l ih =>
    cases m with
    | nil => simp at h
    | cons d m =>
      rw [List.flatMap_cons, List.flatMap_cons]
      rcases List.cons_lt_cons_iff.mp h with hcd | ⟨rfl, hlm⟩
      · exact utf8EncodeChar_append_lt hcd _ _
      · exact List.append_left_lt (ih hlm)

theorem toUTF8_eq_flatMap (s : String) :
    s.toUTF8.data.toList = s.toList.flatMap String.utf8EncodeChar := by
  rw [String.toUTF8_eq_toByteArray, ← String.utf8Encode_toList, List.utf8Encode,
    List.data_toByteArray]

/-- The order of texts is the order of their bytes. -/
theorem lt_iff_toUTF8_lt (s t : String) :
    s < t ↔ s.toUTF8.data.toList < t.toUTF8.data.toList := by
  rw [String.lt_iff, toUTF8_eq_flatMap, toUTF8_eq_flatMap]
  refine ⟨flatMap_utf8EncodeChar_lt, fun h => ?_⟩
  rcases lt_trichotomy s.toList t.toList with hst | hst | hts
  · exact hst
  · rw [hst] at h
    exact absurd h (List.lt_irrefl _)
  · exact absurd h (List.lt_asymm (flatMap_utf8EncodeChar_lt hts))

end RuleFields
