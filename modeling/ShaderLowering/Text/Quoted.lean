import ShaderLowering.Text.Printable

/-!
# Quoted text

Messages show text that a user has given in quotes, so that its ends can be seen. What cannot be
shown, and what would end the text early, is written as an escape: NUL, tab, line feed, carriage
return, the backslash and the double quote behind a backslash, and any other character that is not
printable by its number.
-/

namespace ShaderLowering

/-- A character inside quotes. -/
def quotedChar : Char → String
  | '\x00' => "\\0"
  | '\t' => "\\t"
  | '\n' => "\\n"
  | '\r' => "\\r"
  | '\\' => "\\\\"
  | '"' => "\\\""
  | c =>
    if isPrintable c then String.singleton c
    else "\\u\x7b" ++ String.ofList (Nat.toDigits 16 c.toNat) ++ "\x7d"

/-- A text in double quotes. -/
def quoted (s : String) : String :=
  "\"" ++ String.join (s.toList.map quotedChar) ++ "\""

end ShaderLowering
