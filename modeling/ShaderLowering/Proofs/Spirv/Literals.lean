import ShaderLowering.Proofs.StringBytes
import ShaderLowering.Proofs.Words
import ShaderLowering.Spirv.Module

/-!
# String literals tell where they end

A string literal is written without its length. A reader takes the bytes in front of the first zero
byte for the string (`literalText`), and the words behind the word of that byte for what follows
(`behindLiteral`). If the string has no zero byte of its own, this is the string that was written,
and what was written behind it: its bytes fill words, and the last word has the rest of them and
then nothing but zeros (`exists_lastWord`).

So the interface variables of an entry point are found behind its name, whatever the name is
(`Delimits`).
-/

namespace ShaderLowering.Spirv

/-! ## Reading a literal -/

/-- The text of the string literal at the start of words: the bytes in front of the first zero
byte. -/
def literalText (words : List Word) : List UInt8 := (wordBytes words).takeWhile (· ≠ 0)

/-- What stands behind the string literal at the start of words: the literal ends with the first
word that has a zero byte. -/
def behindLiteral : List Word → List Word
  | [] => []
  | w :: rest => if 0 ∈ w.bytes then rest else behindLiteral rest

/-- A literal without zero bytes ends where it was meant to. -/
theorem behindLiteral_literalWords {bytes : List UInt8} (h : 0 ∉ bytes) (rest : List Word) :
    behindLiteral (literalWords bytes ++ rest) = rest := by
  fun_induction literalWords bytes with
  | case1 a b c d bytes ih =>
    simp only [List.mem_cons, not_or] at h
    obtain ⟨ha, hb, hc, hd, hbytes⟩ := h
    have hfull : 0 ∉ (Word.ofBytes a b c d).bytes := by
      simp only [Word.bytes_ofBytes, List.mem_cons, List.not_mem_nil, or_false, not_or]
      exact ⟨ha, hb, hc, hd⟩
    rw [List.cons_append, behindLiteral, if_neg hfull]
    exact ih hbytes
  | case2 | case3 | case4 =>
    rw [List.singleton_append, behindLiteral, if_pos]
    simp only [Word.bytes_ofBytes, List.mem_cons, true_or, or_true]
  | case5 => rfl

theorem behindLiteral_stringWords {name : String} (h : '\x00' ∉ name.toList) (rest : List Word) :
    behindLiteral (stringWords name ++ rest) = rest :=
  behindLiteral_literalWords (zero_notMem_toUTF8 h) rest

/-! ## How a literal is laid out -/

/-- A text takes a word for every four of its bytes, and one more. -/
theorem length_stringWords (s : String) : (stringWords s).length = s.utf8ByteSize / 4 + 1 := by
  rw [stringWords, length_literalWords, length_toUTF8_toList]

theorem wordBytes_append (words rest : List Word) :
    wordBytes (words ++ rest) = wordBytes words ++ wordBytes rest :=
  List.flatMap_append

/-- The bytes of a text fill words, and those that are left over stand in a last word that ends in
zeros. There is always a last word with a zero. -/
theorem exists_lastWord (bytes : List UInt8) :
    ∃ full last left, literalWords bytes = full ++ [last] ∧ bytes = wordBytes full ++ left ∧
      left.length < 4 ∧ last.bytes = left ++ List.replicate (4 - left.length) 0 := by
  -- the recursion takes four bytes at a time, so it ends with what is left over
  fun_induction literalWords bytes with
  | case1 a b c d bytes ih =>
    obtain ⟨full, last, left, hwords, hbytes, hleft, hlast⟩ := ih
    refine ⟨Word.ofBytes a b c d :: full, last, left, ?_, ?_, hleft, hlast⟩
    · rw [hwords, List.cons_append]
    · change a :: b :: c :: d :: bytes = (Word.ofBytes a b c d).bytes ++ wordBytes full ++ left
      rw [Word.bytes_ofBytes, hbytes, List.append_assoc]
      rfl
  | case2 a b c => exact ⟨[], _, [a, b, c], rfl, rfl, by simp, Word.bytes_ofBytes a b c 0⟩
  | case3 a b => exact ⟨[], _, [a, b], rfl, rfl, by simp, Word.bytes_ofBytes a b 0 0⟩
  | case4 a => exact ⟨[], _, [a], rfl, rfl, by simp, Word.bytes_ofBytes a 0 0 0⟩
  | case5 => exact ⟨[], 0, [], rfl, rfl, by simp, by decide⟩

/-- Behind the bytes of a text stands a zero byte, whatever follows the literal. -/
theorem exists_wordBytes_literalWords (bytes : List UInt8) (rest : List Word) :
    ∃ more, wordBytes (literalWords bytes ++ rest) = bytes ++ 0 :: more := by
  obtain ⟨full, last, left, hwords, hbytes, hleft, hlast⟩ := exists_lastWord bytes
  obtain ⟨count, hcount⟩ : ∃ count, 4 - left.length = count + 1 := ⟨3 - left.length, by omega⟩
  refine ⟨List.replicate count 0 ++ wordBytes rest, ?_⟩
  calc wordBytes (literalWords bytes ++ rest)
      = wordBytes full ++ last.bytes ++ wordBytes rest := by
        rw [hwords, wordBytes_append, wordBytes_append]
        simp [wordBytes]
    _ = bytes ++ (List.replicate (count + 1) 0 ++ wordBytes rest) := by
        rw [hlast, hcount, hbytes]
        simp only [List.append_assoc]
    _ = bytes ++ 0 :: (List.replicate count 0 ++ wordBytes rest) := by
        rw [List.replicate_succ, List.cons_append]

/-- A text without zero bytes is read back, whatever follows the literal. -/
theorem literalText_literalWords {bytes : List UInt8} (h : 0 ∉ bytes) (rest : List Word) :
    literalText (literalWords bytes ++ rest) = bytes := by
  obtain ⟨more, hmore⟩ := exists_wordBytes_literalWords bytes rest
  have hbytes : ∀ b ∈ bytes, decide (b ≠ 0) = true := by
    intro b hb
    simp only [decide_eq_true_eq]
    rintro rfl
    exact h hb
  rw [literalText, hmore, List.takeWhile_append_of_pos hbytes, List.takeWhile_cons_of_neg (by simp),
    List.append_nil]

theorem literalText_stringWords {s : String} (h : '\x00' ∉ s.toList) (rest : List Word) :
    literalText (stringWords s ++ rest) = s.toUTF8.toList :=
  literalText_literalWords (zero_notMem_toUTF8 h) rest

/-- A literal and what follows it are told by their words. -/
theorem eq_of_stringWords_append_eq {s t : String} (hs : '\x00' ∉ s.toList)
    (ht : '\x00' ∉ t.toList) {rest rest' : List Word}
    (h : stringWords s ++ rest = stringWords t ++ rest') : s = t ∧ rest = rest' := by
  constructor
  · apply eq_of_toUTF8_toList
    rw [← literalText_stringWords hs rest, h, literalText_stringWords ht rest']
  · rw [← behindLiteral_stringWords hs rest, h, behindLiteral_stringWords ht rest']

/-! ## Instructions with names -/

/-- The operands of an instruction with a name, as they are read from its words. -/
structure NamedOperands where
  /-- The operands in front of the name. -/
  front : List Word
  /-- The bytes of the name. -/
  name : List UInt8
  /-- The operands behind the name. -/
  behind : List Word

/-- Reads the operands of an instruction that has `count` of them in front of its name. -/
def NamedOperands.ofWords (count : Nat) (words : List Word) : NamedOperands :=
  let operands := words.drop 1
  ⟨operands.take count, literalText (operands.drop count), behindLiteral (operands.drop count)⟩

/-- The operands of an instruction with a name are found again, those behind the name included. -/
theorem NamedOperands.ofWords_effect (op : Op) (front : List Word) {name : String}
    (h : '\x00' ∉ name.toList) (behind : List Word) :
    ofWords front.length (Inst.effect op (front ++ (stringWords name ++ behind))).words =
      ⟨front, name.toUTF8.toList, behind⟩ := by
  have hwords : (Inst.effect op (front ++ (stringWords name ++ behind))).words.drop 1 =
      front ++ (stringWords name ++ behind) := rfl
  rw [ofWords, hwords]
  simp only [List.take_left, List.drop_left]
  rw [literalText_stringWords h, behindLiteral_stringWords h]

/-- The operands of the last instruction of a section, which has just been added. -/
theorem NamedOperands.ofWords_back? (insts : Array Inst) (op : Op) (front : List Word)
    {name : String} (h : '\x00' ∉ name.toList) (behind : List Word) :
    (insts.push (.effect op (front ++ (stringWords name ++ behind)))).back?.map
        (fun i => ofWords front.length i.words) =
      some ⟨front, name.toUTF8.toList, behind⟩ := by
  rw [Array.back?_push, Option.map_some, ofWords_effect op front h behind]

/-! ## What a literal delimits -/

/-- What a reader can tell of a string literal and of the words behind it. -/
structure Delimits (s : String) (behind : List Word) : Prop where
  /-- The bytes up to the first zero byte are those of the string. -/
  text : literalText (stringWords s ++ behind) = s.toUTF8.toList
  /-- The zero byte is in the last word of the literal, and so are all zeros that follow it. -/
  lastWord : ∃ full last left, stringWords s = full ++ [last] ∧
    s.toUTF8.toList = wordBytes full ++ left ∧ left.length < 4 ∧
      last.bytes = left ++ List.replicate (4 - left.length) 0
  /-- There is one word more than the bytes fill. -/
  length : (stringWords s).length = s.utf8ByteSize / 4 + 1
  /-- The words behind the literal are found, by its zero byte or by the length of its text. -/
  rest : behindLiteral (stringWords s ++ behind) = behind ∧
    (stringWords s ++ behind).drop ((literalText (stringWords s ++ behind)).length / 4 + 1) = behind
  /-- No other string has these words, not even with other words behind them. -/
  unique : ∀ (t : String) (more : List Word), '\x00' ∉ t.toList →
    stringWords t ++ more = stringWords s ++ behind → t = s ∧ more = behind
  /-- The interface variables of an entry point are found behind its name. -/
  entryPoint : ∀ (m : Module) (model : ExecutionModel) (function : Word),
    ((Build.addEntryPoint model function s behind).run m).2.entryPoints.back?.map
        (fun i => NamedOperands.ofWords 2 i.words) =
      some ⟨[model.number, function], s.toUTF8.toList, behind⟩
  /-- Names for debuggers are read back, and nothing stands behind them. -/
  debugNames : ∀ (m : Module) (id member : Word),
    ((Build.setName id s).run m).2.names.back?.map (fun i => NamedOperands.ofWords 1 i.words) =
      some ⟨[id], s.toUTF8.toList, []⟩ ∧
    ((Build.setMemberName id member s).run m).2.names.back?.map
        (fun i => NamedOperands.ofWords 2 i.words) =
      some ⟨[id, member], s.toUTF8.toList, []⟩

/-- A string literal tells where it ends: a string without the character zero is read back from its
words, and so is what stands behind it. -/
theorem stringWords_delimits {s : String} (hs : '\x00' ∉ s.toList) (behind : List Word) :
    Delimits s behind := by
  constructor
  case text => exact literalText_stringWords hs behind
  case lastWord => exact exists_lastWord s.toUTF8.toList
  case length => exact length_stringWords s
  case rest =>
    refine ⟨behindLiteral_stringWords hs behind, ?_⟩
    rw [literalText_stringWords hs, length_toUTF8_toList, ← length_stringWords, List.drop_left]
  case unique =>
    intro t more ht heq
    exact eq_of_stringWords_append_eq ht hs heq
  case entryPoint =>
    intro m model function
    exact NamedOperands.ofWords_back? m.entryPoints .entryPoint [model.number, function] hs behind
  case debugNames =>
    intro m id member
    have hname := NamedOperands.ofWords_back? m.names .name [id] hs []
    have hmember := NamedOperands.ofWords_back? m.names .memberName [id, member] hs []
    rw [List.append_nil] at hname hmember
    exact ⟨hname, hmember⟩

/-- A character of three bytes lies across two words, and a zero word behind the literal is not
taken for a part of it. -/
theorem acrossWords_delimits :
    '\x00' ∉ "pix\u20acl".toList ∧ stringWords "pix\u20acl" = [0xe2786970, 0x006cac82] ∧
      Delimits "pix\u20acl" [0, 7] := by
  have hs : '\x00' ∉ "pix\u20acl".toList := by decide
  exact ⟨hs, by decide +kernel, stringWords_delimits hs [0, 7]⟩

end ShaderLowering.Spirv
