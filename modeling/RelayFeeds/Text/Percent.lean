import RelayFeeds.Text.Hex

/-! # Percent signs — bytes spelled by two hexadecimal digits

In an address a percent sign with two hexadecimal digits behind it stands for a byte. The bytes of
the whole text must be the UTF-8 form of one; a percent sign without digits stands for itself. -/

namespace RelayFeeds.Text

/-- The bytes of a text, those spelled by percent signs among them. -/
def percentBytes : List Char → List UInt8
  | '%' :: a :: b :: rest =>
    if isHexDigit a && isHexDigit b then UInt8.ofNat (hexNumber [a, b]) :: percentBytes rest
    else String.utf8EncodeChar '%' ++ percentBytes (a :: b :: rest)
  | c :: rest => String.utf8EncodeChar c ++ percentBytes rest
  | [] => []

/-- A text with the bytes spelled by percent signs in place of their spelling. -/
def percentDecoded? (text : List Char) : Option (List Char) :=
  if text.contains '%' then
    (String.fromUTF8? ⟨(percentBytes text).toArray⟩).map String.toList
  else some text

end RelayFeeds.Text
