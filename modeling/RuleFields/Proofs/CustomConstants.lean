-- The laws of the constants of custom fields. Each is a common beginning and
-- twelve digits of a digest, so it is valid whatever the key, and no built-in
-- field has it. The digits stand for nine bytes of the digest and lose none.
import RuleFields.Builtin
import RuleFields.Proofs.Constants
import RuleFields.Proofs.Text.Base64Url
import Mathlib.Data.String.Basic

namespace RuleFields

/-! ## Digits -/

theorem Base64Url.utf8Len_of_mem_encode {bytes : List UInt8} {l : List Char}
    (h : ∀ x ∈ l, x ∈ encode bytes) : String.utf8Len l = l.length := by
  induction l with
  | nil => rfl
  | cons x rest ih =>
    obtain ⟨hx, hrest⟩ := List.forall_mem_cons.mp h
    rw [String.utf8Len_cons, ih hrest, utf8Size_of_mem_encode hx, List.length_cons]

/-! ## The constant of a key -/

/-- The digits that stand for a key in its constant. -/
def keyDigits (key : String) : List Char :=
  (Base64Url.encode (sha256 key.toUTF8.data.toList)).take 12

theorem length_keyDigits (key : String) : (keyDigits key).length = 12 := by
  rw [keyDigits, List.length_take, Base64Url.length_encode, length_sha256]
  rfl

theorem customFieldConstant_eq (key : String) :
    customFieldConstant key = "herald.custom/" ++ String.ofList (keyDigits key) := rfl

theorem mem_encode_of_mem_keyDigits {key : String} {x : Char} (h : x ∈ keyDigits key) :
    x ∈ Base64Url.encode (sha256 key.toUTF8.data.toList) :=
  List.mem_of_mem_take h

theorem utf8Len_keyDigits (key : String) : String.utf8Len (keyDigits key) = 12 := by
  rw [Base64Url.utf8Len_of_mem_encode fun x hx => mem_encode_of_mem_keyDigits hx,
    length_keyDigits]

/-- Twelve digits are four groups of three bytes. -/
theorem keyDigits_eq_encode (key : String) :
    keyDigits key = Base64Url.encode ((sha256 key.toUTF8.data.toList).take 9) :=
  Base64Url.take_encode 3 _

theorem utf8ByteSize_customFieldConstant (key : String) :
    (customFieldConstant key).utf8ByteSize = 26 := by
  have hbeginning : "herald.custom/".utf8ByteSize = 14 := by decide
  rw [customFieldConstant_eq, String.utf8ByteSize_append, hbeginning,
    String.utf8ByteSize_ofList, utf8Len_keyDigits]

theorem validConstant_customFieldConstant (key : String) :
    ValidConstant (customFieldConstant key) := by
  have hsize := utf8ByteSize_customFieldConstant key
  refine ⟨?_, by omega⟩
  intro hempty
  rw [hempty] at hsize
  exact absurd hsize (by decide)

/-- No built-in field has the constant of a custom field. The family itself comes closest: its
constant lacks only the last character of the common beginning. -/
theorem customFieldConstant_ne_of_builtin {f : Field} (h : f ∈ Builtin.all) (key : String) :
    f.constant ≠ customFieldConstant key := by
  have hbuiltin : ∀ c ∈ Builtin.all.map Field.constant,
      c.toList.take 14 ≠ "herald.custom/".toList := by decide
  have hcustom : (customFieldConstant key).toList.take 14 = "herald.custom/".toList := by
    rw [customFieldConstant_eq, String.toList_append]
    rfl
  intro heq
  exact hbuiltin _ (List.mem_map_of_mem h) (heq ▸ hcustom)

/-- The digits are all that tells two constants apart. -/
theorem customFieldConstant_eq_iff (key other : String) :
    customFieldConstant key = customFieldConstant other ↔ keyDigits key = keyDigits other := by
  rw [customFieldConstant_eq, customFieldConstant_eq, ← String.toList_inj, String.toList_append,
    String.toList_append, List.append_cancel_left_eq, String.toList_ofList, String.toList_ofList]

/-! ## The laws -/

/-- The constant of a custom field has 26 bytes and is valid, whatever the key. After the common
beginning stand twelve digits, which can always be cut from the 43 of the digest, each of them
one byte. They stand for the first nine bytes of the digest of the key, so two keys have one
constant exactly when these bytes agree. -/
theorem a_custom_constant_stands_for_nine_bytes_of_a_digest (key : String) :
    (Base64Url.encode (sha256 key.toUTF8.data.toList)).length = 43 ∧
    (∀ x ∈ Base64Url.encode (sha256 key.toUTF8.data.toList), x.utf8Size = 1) ∧
    (∃ digits : List Char, customFieldConstant key = "herald.custom/" ++ String.ofList digits ∧
      digits.length = 12 ∧ (∀ x ∈ digits, Base64Url.IsDigit x) ∧
      Base64Url.decode? digits = some ((sha256 key.toUTF8.data.toList).take 9)) ∧
    (customFieldConstant key).utf8ByteSize = 26 ∧
    (∀ f : Field, f.constant = customFieldConstant key → f.validateConstant = .ok ()) ∧
    ∀ other : String, customFieldConstant key = customFieldConstant other ↔
      (sha256 key.toUTF8.data.toList).take 9 = (sha256 other.toUTF8.data.toList).take 9 := by
  refine ⟨?_, ?_, ⟨keyDigits key, customFieldConstant_eq key, length_keyDigits key, ?_, ?_⟩,
    utf8ByteSize_customFieldConstant key, ?_, ?_⟩
  · rw [Base64Url.length_encode, length_sha256]
  · intro x hx
    exact Base64Url.utf8Size_of_mem_encode hx
  · intro x hx
    exact Base64Url.isDigit_of_mem_encode (mem_encode_of_mem_keyDigits hx)
  · rw [keyDigits_eq_encode, Base64Url.decode?_encode]
  · intro f hf
    rw [validateConstant_eq_ok_iff, hf]
    exact validConstant_customFieldConstant key
  · intro other
    rw [customFieldConstant_eq_iff, keyDigits_eq_encode, keyDigits_eq_encode,
      Base64Url.encode_inj]

end RuleFields
