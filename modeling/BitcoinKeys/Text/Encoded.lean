import BitcoinKeys.Bytes

/-!
# Texts as bytes

The UTF-8 form of a text, and texts made of ASCII bytes. Decoders of text formats work on the
UTF-8 bytes, because the positions they report count bytes.
-/

namespace BitcoinKeys.Text

def utf8 (text : String) : Bytes :=
  text.toList.flatMap String.utf8EncodeChar

/-- The text of a byte string whose bytes are all ASCII. -/
def ofAscii (bytes : Bytes) : String :=
  String.ofList (bytes.map fun byte => Char.ofNat byte.toNat)

def ofUtf8? (bytes : Bytes) : Option String :=
  String.fromUTF8? bytes.toByteArray

end BitcoinKeys.Text
