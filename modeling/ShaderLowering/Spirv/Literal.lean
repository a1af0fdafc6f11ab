import ShaderLowering.Word

/-!
# String literals

A string stands in an instruction as its UTF-8 bytes, a zero byte, and as many more zero bytes as
fill the last word.
-/

namespace ShaderLowering.Spirv

/-- Bytes, a zero byte behind them, and zeros up to the end of a word. -/
def literalWords : List UInt8 → List Word
  | a :: b :: c :: d :: rest => Word.ofBytes a b c d :: literalWords rest
  | [a, b, c] => [Word.ofBytes a b c 0]
  | [a, b] => [Word.ofBytes a b 0 0]
  | [a] => [Word.ofBytes a 0 0 0]
  | [] => [0]

/-- The words of a string literal. -/
def stringWords (s : String) : List Word :=
  literalWords s.toUTF8.toList

/-- There is always room for the zero byte. -/
theorem length_literalWords (bytes : List UInt8) :
    (literalWords bytes).length = bytes.length / 4 + 1 := by
  fun_induction literalWords bytes with
  | case1 a b c d rest ih =>
    simp only [List.length_cons, ih]
    omega
  | case2 | case3 | case4 => simp
  | case5 => rfl

end ShaderLowering.Spirv
