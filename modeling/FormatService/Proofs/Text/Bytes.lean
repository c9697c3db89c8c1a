import FormatService.Text.Utf8

/-!
# The bytes of a text

A text has the bytes of its characters, one after the other, and so as many of them as its
length in bytes says.
-/

set_option autoImplicit false

namespace FormatService.Bytes

/-- The induction is on the bytes that are left: those before them are already collected. -/
theorem toList_loop_eq (b : ByteArray) (i : Nat) (collected : List UInt8) :
    ByteArray.toList.loop b i collected = collected.reverse ++ b.data.toList.drop i := by
  fun_induction ByteArray.toList.loop b i collected with
  | case1 i collected inner ih =>
    have next : b.data.toList.drop i = b.get! i :: b.data.toList.drop (i + 1) := by
      rw [List.drop_eq_getElem_cons (by simpa using inner)]
      simp [ByteArray.get!, inner]
    rw [ih, next]
    simp
  | case2 i collected past =>
    rw [List.drop_eq_nil_of_le (by simpa using Nat.le_of_not_lt past)]
    simp

theorem ofText_eq (t : Text) : ofText t = t.flatMap String.utf8EncodeChar := by
  rw [ofText, String.toUTF8_eq_toByteArray, String.toByteArray_ofList, ByteArray.toList,
    toList_loop_eq]
  simp [List.utf8Encode]

theorem ofText_append (s t : Text) : ofText (s ++ t) = ofText s ++ ofText t := by
  simp [ofText_eq]

@[simp] theorem length_ofText (t : Text) : (ofText t).length = t.byteLength := by
  rw [ofText_eq]
  induction t with
  | nil => rfl
  | cons c t ih => simp [ih]

end FormatService.Bytes
