/-!
# Octets as text

Directory values arrive as octets. They are UTF-8 if they can be; octets that are not UTF-8 are
read one character per octet where any text will do.
-/

set_option autoImplicit false

namespace GrantedRoles.Text

/-- The text that these octets write in UTF-8. -/
def ofUtf8? (octets : List UInt8) : Option String :=
  String.fromUTF8? (ByteArray.mk octets.toArray)

/-- The UTF-8 octets of a text. -/
def utf8 (s : String) : List UInt8 := s.toUTF8.data.toList

/-- One character per octet, with the octet's value as its code point. -/
def ofLatin1 (octets : List UInt8) : String :=
  String.ofList (octets.map fun octet => Char.ofNat octet.toNat)

/-- The text of octets from a directory: UTF-8, or one character per octet. -/
def ofServer (octets : List UInt8) : String :=
  (ofUtf8? octets).getD (ofLatin1 octets)

/-- A text is encoded character by character. -/
theorem utf8_eq_flatMap (s : String) : utf8 s = s.toList.flatMap String.utf8EncodeChar := by
  rw [utf8, String.toUTF8_eq_toByteArray, ← String.utf8Encode_toList, List.utf8Encode]
  simp

/-- Octets that write a text are its encoding. -/
theorem utf8_of_ofUtf8? {octets : List UInt8} {s : String} (h : ofUtf8? octets = some s) :
    utf8 s = octets := by
  unfold ofUtf8? String.fromUTF8? at h
  split at h
  · cases h
    simp [utf8, String.fromUTF8]
  · cases h

end GrantedRoles.Text
