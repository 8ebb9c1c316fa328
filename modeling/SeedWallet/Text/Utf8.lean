import SeedWallet.Bytes

/-!
# Text as bytes

- `utf8 s`: the UTF-8 bytes of a text, which is what is hashed and what lengths count.
- `ofUtf8? bs`: the text that the bytes encode, if they are well-formed.
-/

namespace SeedWallet

/-- The UTF-8 bytes of a text. -/
def utf8 (s : String) : Bytes :=
  s.toUTF8.data.toList

/-- The text whose UTF-8 bytes these are. -/
def ofUtf8? (bs : Bytes) : Option String :=
  String.fromUTF8? ⟨bs.toArray⟩

/-- The bytes of a text encode that text. -/
@[simp] theorem ofUtf8?_utf8 (s : String) : ofUtf8? (utf8 s) = some s := by
  rw [ofUtf8?, utf8, Array.toArray_toList]
  exact dif_pos s.isValidUTF8

end SeedWallet
