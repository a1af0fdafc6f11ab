import ShaderLowering.Proofs.Token.PrefixFree
import ShaderLowering.Proofs.Token.ReaderRuns
import ShaderLowering.Proofs.Token.WholeOperands
import ShaderLowering.Token.Assembly

/-!
# Reading the arguments of an instruction

The arguments of an instruction are read from a cursor, operand by operand or word by word, or looked
up at an offset. Whatever has been read from the cursor, it stands at some offset of the arguments,
and the next call answers what is found at that offset (`Instruction.perform_cursorAt`). The text of an
instruction comes from one such sequence of calls, which takes each argument word once.
-/

namespace ShaderLowering

/-! ## Calls -/

/-- What is read from argument words: an operand, or a word as it is. -/
inductive Argument where
  /-- An operand. -/
  | operand (o : Operand)
  /-- A word. -/
  | word (w : Word)

namespace Argument

/-- The words of an argument. -/
def words : Argument → List Word
  | operand o => o.words
  | word w => [w]

/-- How many words an argument takes. -/
def length (a : Argument) : Nat := a.words.length

/-- The text of an argument. -/
def text : Argument → String
  | operand o => o.text
  | word w => hexText w

theorem length_pos (a : Argument) : 1 ≤ a.length := by
  cases a with
  | operand o => exact o.length_pos
  | word w => exact Nat.le_refl 1

end Argument

/-- A call of a cursor over argument words. -/
inductive ArgumentCall where
  /-- The next operand. -/
  | nextOperand
  /-- The next word. -/
  | readArg

namespace ArgumentCall

/-- What a call reads. -/
def decoder : ArgumentCall → Decoder Argument
  | nextOperand => do return .operand (← Operand.decode)
  | readArg => do return .word (← Decoder.word)

/-- What a call answers, and the cursor behind it, which a failing call leaves where it is. -/
def perform (call : ArgumentCall) (c : Cursor) : Except DecodeError Argument × Cursor :=
  match call.decoder c with
  | .ok (a, c') => (.ok a, c')
  | .error e => (.error e, c)

end ArgumentCall

namespace Cursor

/-- What calls answer, one after the other. -/
def answers (c : Cursor) : List ArgumentCall → List (Except DecodeError Argument)
  | [] => []
  | call :: calls => (call.perform c).1 :: (call.perform c).2.answers calls

/-- The cursor behind calls. -/
def afterCalls (c : Cursor) : List ArgumentCall → Cursor
  | [] => c
  | call :: calls => (call.perform c).2.afterCalls calls

theorem afterCalls_append (c : Cursor) (calls more : List ArgumentCall) :
    c.afterCalls (calls ++ more) = (c.afterCalls calls).afterCalls more := by
  induction calls generalizing c with
  | nil => rfl
  | cons call calls ih => exact ih _

theorem answers_append (c : Cursor) (calls more : List ArgumentCall) :
    c.answers (calls ++ more) = c.answers calls ++ (c.afterCalls calls).answers more := by
  induction calls generalizing c with
  | nil => rfl
  | cons call calls ih => exact congrArg (_ :: ·) (ih _)

end Cursor

/-! ## What a call reads -/

/-- An operand is the next words of a cursor, and the cursor moves behind them. -/
theorem Operand.decode_eq_ok {c c' : Cursor} {o : Operand} (h : decode c = .ok (o, c')) :
    c.rest = o.words ++ c'.rest ∧ c'.position = c.position + o.length := by
  obtain ⟨_, hrest, -, rfl, -⟩ := prefixFree_decodeNested _ h
  obtain ⟨-, hend⟩ := forward_decodeNested _ h
  have hlength := congrArg List.length hrest
  rw [List.length_append, ← length] at hlength
  exact ⟨hrest, by omega⟩

namespace ArgumentCall

theorem perform_of_ok {call : ArgumentCall} {c c' : Cursor} {a : Argument}
    (h : call.decoder c = .ok (a, c')) : call.perform c = (.ok a, c') := by
  rw [perform, h]

theorem perform_of_error {call : ArgumentCall} {c : Cursor} {e : DecodeError}
    (h : call.decoder c = .error e) : call.perform c = (.error e, c) := by
  rw [perform, h]

/-- What is read is the next words, and the cursor moves behind them. -/
theorem decoder_eq_ok {call : ArgumentCall} {c c' : Cursor} {a : Argument}
    (h : call.decoder c = .ok (a, c')) :
    c.rest = a.words ++ c'.rest ∧ c'.position = c.position + a.length := by
  cases call with
  | nextOperand =>
    obtain ⟨o, c'', hdecode, hpure⟩ := Decoder.bind_eq_ok.1 h
    obtain ⟨rfl, rfl⟩ := Decoder.pure_eq_ok.1 hpure
    exact Operand.decode_eq_ok hdecode
  | readArg =>
    obtain ⟨w, c'', hword, hpure⟩ := Decoder.bind_eq_ok.1 h
    obtain ⟨rfl, rfl⟩ := Decoder.pure_eq_ok.1 hpure
    exact Decoder.word_eq_ok.1 hword

end ArgumentCall

namespace Instruction

/-- What is found at an offset of the arguments. -/
def argumentAt (i : Instruction) (offset : Nat) : ArgumentCall → Except DecodeError Argument
  | .nextOperand => (i.operand offset).map .operand
  | .readArg => (i.arg offset).map .word

/-- What is found at an offset is what a cursor there reads. -/
theorem argumentAt_eq (i : Instruction) (offset : Nat) (call : ArgumentCall) :
    i.argumentAt offset call = (call.perform (i.cursorAt offset)).1 := by
  cases call with
  | nextOperand =>
    rw [argumentAt, operand, Operand.parse, StateT.run, ← cursorAt, ArgumentCall.perform]
    rcases h : Operand.decode (i.cursorAt offset) with e | ⟨o, c⟩
    · rw [ArgumentCall.decoder, Decoder.bind_of_error h]
      rfl
    · rw [ArgumentCall.decoder, Decoder.bind_of_ok h]
      rfl
  | readArg =>
    rw [argumentAt, arg, ArgumentCall.perform]
    rcases h : Decoder.word (i.cursorAt offset) with e | ⟨w, c⟩
    · rw [ArgumentCall.decoder, Decoder.bind_of_error h]
      rfl
    · rw [ArgumentCall.decoder, Decoder.bind_of_ok h]
      rfl

/-- What a call to a cursor at an offset of the arguments comes to. -/
inductive AnswersAt (i : Instruction) (offset : Nat) (call : ArgumentCall) : Prop
  /-- It answers the argument that is found there, and the cursor moves behind it. -/
  | found (a : Argument) (argument : i.argumentAt offset call = .ok a) (positive : 1 ≤ a.length)
      (inside : offset + a.length ≤ i.args.length)
      (performed : call.perform (i.cursorAt offset) = (.ok a, i.cursorAt (offset + a.length)))
  /-- It fails as looking the argument up does, and the cursor stays. -/
  | missed (e : DecodeError) (argument : i.argumentAt offset call = .error e)
      (performed : call.perform (i.cursorAt offset) = (.error e, i.cursorAt offset))

/-- At an offset of the arguments, a call answers what is found there. -/
theorem perform_cursorAt (i : Instruction) {offset : Nat} (hoffset : offset ≤ i.args.length)
    (call : ArgumentCall) : i.AnswersAt offset call := by
  have hargument := i.argumentAt_eq offset call
  rcases h : call.decoder (i.cursorAt offset) with e | ⟨a, c⟩
  · have hperform := ArgumentCall.perform_of_error h
    rw [hperform] at hargument
    exact .missed e hargument hperform
  · have hperform := ArgumentCall.perform_of_ok h
    rw [hperform] at hargument
    obtain ⟨hrest, hposition⟩ := ArgumentCall.decoder_eq_ok h
    have hlength := congrArg List.length hrest
    rw [cursorAt, List.length_drop, List.length_append, ← Argument.length] at hlength
    refine .found a hargument a.length_pos (by omega) (hperform.trans ?_)
    have hbehind : i.args.drop (offset + a.length) = c.rest := by
      rw [← List.drop_drop, show i.args.drop offset = a.words ++ c.rest from hrest]
      exact List.drop_left
    have hc : c = i.cursorAt (offset + a.length) := by
      obtain ⟨position, rest⟩ := c
      rw [cursorAt, hbehind, ← Nat.add_assoc]
      exact congrArg (Cursor.mk · rest) hposition
    exact congrArg (Prod.mk (Except.ok a)) hc

/-- Whatever has been called, the cursor stands at an offset of the arguments. -/
theorem exists_cursorAt (i : Instruction) (calls : List ArgumentCall) :
    ∃ offset, offset ≤ i.args.length ∧ i.cursor.afterCalls calls = i.cursorAt offset := by
  have hrun {offset : Nat} (hoffset : offset ≤ i.args.length) :
      ∃ behind, behind ≤ i.args.length ∧ (i.cursorAt offset).afterCalls calls = i.cursorAt behind := by
    induction calls generalizing offset with
    | nil => exact ⟨offset, hoffset, rfl⟩
    | cons call calls ih =>
      rw [Cursor.afterCalls]
      rcases i.perform_cursorAt hoffset call with ⟨a, -, -, hbehind, hcall⟩ | ⟨e, -, hcall⟩
      · rw [hcall]
        exact ih hbehind
      · rw [hcall]
        exact ih hoffset
  exact hrun (Nat.zero_le _)

/-! ## Where arguments are missed -/

variable {i : Instruction} {offset : Nat}

/-- The arguments end where the instruction does. -/
theorem argsPosition_add_length (i : Instruction) :
    i.argsPosition + i.args.length = i.position + i.length := by
  rw [argsPosition, length, words, List.length_cons, List.length_append]
  omega

theorem position_le_argsPosition (i : Instruction) : i.position ≤ i.argsPosition := by
  rw [argsPosition, Nat.add_assoc]
  exact Nat.le_add_right ..

/-- A word that is found is one of the arguments. -/
theorem lt_of_arg_eq_ok {w : Word} (h : i.arg offset = .ok w) : offset < i.args.length := by
  rw [arg, cursorAt, Decoder.word] at h
  rcases hdrop : i.args.drop offset with _ | ⟨v, rest⟩
  · rw [hdrop] at h
    cases h
  · have hlength := congrArg List.length hdrop
    rw [List.length_drop, List.length_cons] at hlength
    omega

/-- A word that is not there is missed where it should stand. -/
theorem position_of_arg_eq_error {e : DecodeError} (h : i.arg offset = .error e) :
    e.position = i.argsPosition + offset := by
  rw [arg, cursorAt, Decoder.word] at h
  rcases hdrop : i.args.drop offset with _ | ⟨v, rest⟩
  · rw [hdrop] at h
    cases h
    rfl
  · rw [hdrop] at h
    cases h

/-- An operand that is found has its words among the arguments. -/
theorem length_le_of_operand_eq_ok {o : Operand} (h : i.operand offset = .ok o) :
    o.length ≤ i.args.length - offset := by
  obtain ⟨hfront, -⟩ := Operand.takes_of_parse h
  rw [← List.length_drop]
  exact hfront.length_le

/-- Arguments that are no operand are refused at one of their words, or at their end. -/
theorem range_of_operand_eq_error {e : DecodeError} (h : i.operand 0 = .error e) :
    i.argsPosition ≤ e.position ∧ e.position ≤ i.position + i.length := by
  rw [← argsPosition_add_length]
  exact Operand.failsFrom_decodeNested _ i.argsPosition (Nat.le_refl _)
    (Operand.parse_eq_error_iff.1 h)

end Instruction

/-! ## The calls behind a text -/

namespace Cursor

/-- Operands are read one after the other, as long as there are words and they are operands. -/
theorem operands_calls (c : Cursor) :
    c.answers (List.replicate c.operands.operands.length .nextOperand) =
      c.operands.operands.map (.ok ∘ Argument.operand) ∧
    c.afterCalls (List.replicate c.operands.operands.length .nextOperand) = c.operands.cursor ∧
    c.rest = c.operands.operands.flatMap Operand.words ++ c.operands.cursor.rest ∧
    (c.operands.cursor.rest = [] ∨
      ∃ e, (ArgumentCall.nextOperand.perform c.operands.cursor).1 = .error e) := by
  induction c using Cursor.operands.induct with
  | case1 c hrest =>
    rw [operands_of_nil hrest]
    exact ⟨rfl, rfl, rfl, .inl hrest⟩
  | case2 c w rest hrest e he =>
    rw [operands_of_error hrest he]
    refine ⟨rfl, rfl, rfl, .inr ⟨e, ?_⟩⟩
    rw [ArgumentCall.perform_of_error (Decoder.bind_of_error he)]
  | case3 c w rest hrest o next hnext hless ih =>
    have hcall : ArgumentCall.nextOperand.perform c = (.ok (.operand o), next) :=
      ArgumentCall.perform_of_ok (Decoder.bind_of_ok hnext)
    obtain ⟨hanswers, hcursor, hwords, hend⟩ := ih
    rw [operands_of_ok hrest hnext]
    refine ⟨?_, ?_, ?_, hend⟩
    · rw [List.length_cons, List.replicate_succ, answers, hcall, hanswers]
      rfl
    · rw [List.length_cons, List.replicate_succ, afterCalls, hcall, hcursor]
    · rw [List.flatMap_cons, List.append_assoc, ← hwords]
      exact (Operand.decode_eq_ok hnext).1

/-- Words are read one after the other up to the last one. -/
theorem words_calls (c : Cursor) :
    c.answers (List.replicate c.rest.length .readArg) = c.rest.map (.ok ∘ Argument.word) ∧
    c.afterCalls (List.replicate c.rest.length .readArg) = ⟨c.position + c.rest.length, []⟩ := by
  obtain ⟨position, rest⟩ := c
  induction rest generalizing position with
  | nil => exact ⟨rfl, rfl⟩
  | cons w rest ih =>
    have hcall : ArgumentCall.readArg.perform ⟨position, w :: rest⟩ =
        (.ok (.word w), ⟨position + 1, rest⟩) := rfl
    obtain ⟨hanswers, hcursor⟩ := ih (position + 1)
    rw [List.length_cons, List.replicate_succ, answers, afterCalls, hcall]
    refine ⟨congrArg (_ :: ·) hanswers, hcursor.trans ?_⟩
    rw [Nat.add_assoc, Nat.add_comm 1]

end Cursor

/-- Words that are read as arguments are at least as many as these. -/
theorem length_le_flatMap_words (arguments : List Argument) :
    arguments.length ≤ (arguments.flatMap Argument.words).length := by
  induction arguments with
  | nil => exact Nat.le_refl 0
  | cons a arguments ih =>
    have hfirst := a.length_pos
    rw [List.flatMap_cons, List.length_append, ← Argument.length, List.length_cons]
    omega

namespace Instruction

/-- What the arguments are read as: the operands, and behind them the words that are no operand. -/
def arguments (i : Instruction) : List Argument :=
  i.argumentRun.operands.map .operand ++ i.argumentRun.cursor.rest.map .word

/-- The calls that the arguments are read by. -/
def argumentCalls (i : Instruction) : List ArgumentCall :=
  List.replicate i.argumentRun.operands.length .nextOperand ++
    List.replicate i.argumentRun.cursor.rest.length .readArg

/-- The operands in front are read one after the other, until there are no words left or the next ones
are no operand. Arguments that are numbers only have none in front. -/
theorem argumentRun_calls (i : Instruction) :
    i.cursor.answers (List.replicate i.argumentRun.operands.length .nextOperand) =
      i.argumentRun.operands.map (.ok ∘ Argument.operand) ∧
    i.cursor.afterCalls (List.replicate i.argumentRun.operands.length .nextOperand) =
      i.argumentRun.cursor ∧
    i.args = i.argumentRun.operands.flatMap Operand.words ++ i.argumentRun.cursor.rest ∧
    if hasNumbersOnly i.opcode then i.argumentRun.operands = []
    else i.argumentRun.cursor.rest = [] ∨
      ∃ e, (ArgumentCall.nextOperand.perform i.argumentRun.cursor).1 = .error e := by
  rw [argumentRun]
  split
  · exact ⟨rfl, rfl, rfl, rfl⟩
  · exact i.cursor.operands_calls

/-- The calls answer the arguments, which have every argument word once. -/
theorem argumentCalls_eq (i : Instruction) :
    i.cursor.answers i.argumentCalls = i.arguments.map .ok ∧
    i.cursor.afterCalls i.argumentCalls = i.cursorAt i.args.length ∧
    i.arguments.flatMap Argument.words = i.args := by
  obtain ⟨hanswers, hcursor, hwords, -⟩ := i.argumentRun_calls
  obtain ⟨hanswers', hcursor'⟩ := i.argumentRun.cursor.words_calls
  have hall : i.arguments.flatMap Argument.words = i.args := by
    have hsingle : i.argumentRun.cursor.rest.flatMap (fun w => [w]) = i.argumentRun.cursor.rest :=
      List.flatMap_singleton' _
    rw [arguments, List.flatMap_append, List.flatMap_map, List.flatMap_map, hwords]
    exact congrArg (_ ++ ·) hsingle
  refine ⟨?_, ?_, hall⟩
  · rw [argumentCalls, Cursor.answers_append, hanswers, hcursor, hanswers', arguments,
      List.map_append, List.map_map, List.map_map]
  · obtain ⟨offset, hoffset, hat⟩ := i.exists_cursorAt i.argumentCalls
    rw [hat]
    -- the words that are left behind the calls are none
    rw [argumentCalls, Cursor.afterCalls_append, hcursor, hcursor'] at hat
    have hnone : i.args.drop offset = [] := (congrArg Cursor.rest hat).symm
    rw [Nat.le_antisymm hoffset (List.drop_eq_nil_iff.1 hnone)]

/-- The text is the name and the texts of the arguments. -/
theorem text_eq (i : Instruction) :
    i.text = i.opcode.label ++ (if !i.opcode.isDeclaration && i.control.saturate then "_sat" else "") ++
      (if i.arguments.isEmpty then "" else " ") ++
      ", ".intercalate (i.arguments.map Argument.text) := by
  have hargs : i.argumentRun.operands.map Operand.text ++ i.argumentRun.cursor.rest.map hexText =
      i.arguments.map Argument.text := by
    rw [arguments, List.map_append, List.map_map, List.map_map]
    rfl
  rw [text, hargs, List.isEmpty_map]

/-- There are no more calls than argument words. -/
theorem length_argumentCalls_le (i : Instruction) : i.argumentCalls.length ≤ i.args.length := by
  have hsame : i.argumentCalls.length = i.arguments.length := by
    simp only [argumentCalls, arguments, List.length_append, List.length_replicate, List.length_map]
  have hwords := length_le_flatMap_words i.arguments
  rwa [i.argumentCalls_eq.2.2, ← hsame] at hwords

/-- An instruction that a reader yields is yielded wherever its words stand at its position. -/
theorem next_of_mem_items {i : Instruction} {tokens : List Word} {start : Nat}
    (h : .ok i ∈ (InstructionReader.ofTokens tokens start).items) {before : List Word}
    (hbefore : before.length = i.position) (behind : List Word) :
    (InstructionReader.ofTokens (before ++ i.words ++ behind) i.position).next.1 =
      some (.ok i) := by
  have hdrop : (before ++ i.words ++ behind).drop i.position = i.words ++ behind := by
    rw [List.append_assoc, ← hbefore]
    exact List.drop_left
  exact congrArg Prod.fst ((InstructionReader.next_eq_ok_iff rfl).2
    ⟨rfl, InstructionReader.isSound_of_mem_items rfl h, ⟨behind, hdrop⟩, rfl⟩)

/-- How the text of an instruction comes from calls: for operands, and then for words. -/
structure IsPrintedBy (i : Instruction) (operands words : Nat) (arguments : List Argument) :
    Prop where
  /-- There are no more calls than argument words. -/
  bounded : operands + words ≤ i.args.length
  /-- All of them succeed. -/
  answers : i.cursor.answers
    (List.replicate operands .nextOperand ++ List.replicate words .readArg) = arguments.map .ok
  /-- They end behind the last word. -/
  finished : i.cursor.afterCalls
    (List.replicate operands .nextOperand ++ List.replicate words .readArg) =
      i.cursorAt i.args.length
  /-- There are calls for operands as long as there are some, and none if all arguments are
  numbers. -/
  operands : if hasNumbersOnly i.opcode then operands = 0
    else words = 0 ∨ ∃ e, (ArgumentCall.nextOperand.perform
      (i.cursor.afterCalls (List.replicate operands .nextOperand))).1 = .error e
  /-- Each argument word is in exactly one of the arguments. -/
  words : arguments.flatMap Argument.words = i.args
  /-- The text is the name and the texts of the arguments. -/
  text : i.text = i.opcode.label ++
    (if !i.opcode.isDeclaration && i.control.saturate then "_sat" else "") ++
    (if arguments.isEmpty then "" else " ") ++ ", ".intercalate (arguments.map Argument.text)

/-- The text comes from the calls that the arguments are read by. -/
theorem isPrintedBy (i : Instruction) :
    i.IsPrintedBy i.argumentRun.operands.length i.argumentRun.cursor.rest.length i.arguments := by
  obtain ⟨-, hcursor, -, hend⟩ := i.argumentRun_calls
  obtain ⟨hanswers, hbehind, hwords⟩ := i.argumentCalls_eq
  have hcount := i.length_argumentCalls_le
  rw [argumentCalls, List.length_append, List.length_replicate, List.length_replicate] at hcount
  refine ⟨hcount, hanswers, hbehind, ?_, hwords, i.text_eq⟩
  rw [hcursor]
  split
  · next hnumbers =>
    rw [if_pos hnumbers] at hend
    exact congrArg List.length hend
  · next hother =>
    rw [if_neg hother] at hend
    exact hend.imp_left (congrArg List.length)

/-- What calls for arguments answer, in any order. -/
structure AnswersCalls (i : Instruction) : Prop where
  /-- Whatever has been called, the cursor stands at an offset of the arguments, and the next call
  answers what is found at that offset. -/
  calls : ∀ calls, ∃ offset, offset ≤ i.args.length ∧
    i.cursor.afterCalls calls = i.cursorAt offset ∧ ∀ call, i.AnswersAt offset call
  /-- None of this depends on other words: an instruction that a reader yields is yielded among any
  other words as well. -/
  elsewhere : ∀ tokens start, .ok i ∈ (InstructionReader.ofTokens tokens start).items →
    ∀ before behind, before.length = i.position →
      (InstructionReader.ofTokens (before ++ i.words ++ behind) i.position).next.1 = some (.ok i)
  /-- The text of the instruction comes from such calls, which take each argument word once. -/
  printed : ∃ operands words arguments, i.IsPrintedBy operands words arguments

/-- The arguments of an instruction can be read from a cursor, operands and words in any order, or
looked up, and the text of the instruction comes from reading each argument word once. -/
theorem calls_agree (i : Instruction) : i.AnswersCalls where
  calls calls := by
    obtain ⟨offset, hoffset, hat⟩ := i.exists_cursorAt calls
    exact ⟨offset, hoffset, hat, i.perform_cursorAt hoffset⟩
  elsewhere _ _ h _ behind hbefore := next_of_mem_items h hbefore behind
  printed := ⟨_, _, _, i.isPrintedBy⟩

/-- The declaration of a resource at register 3, an operand and a word, behind two other words. -/
def resourceDeclaration : Instruction :=
  ⟨2, ⟨0x04001858⟩, .dclResource, [], [0x00107000, 3, 0x5555]⟩

theorem resourceDeclaration_calls :
    .ok resourceDeclaration ∈
        (InstructionReader.ofTokens [7, 8, 0x04001858, 0x00107000, 3, 0x5555] 2).items ∧
      (InstructionReader.ofTokens ([0, 1] ++ resourceDeclaration.words ++ [9]) 2).next.1 =
        some (.ok resourceDeclaration) ∧
      (∃ offset, offset ≤ 3 ∧ resourceDeclaration.cursor.afterCalls [.readArg, .nextOperand] =
        resourceDeclaration.cursorAt offset) ∧
      ∃ arguments : List Argument,
        arguments.flatMap Argument.words = [0x00107000, 3, 0x5555] := by
  have hitems : .ok resourceDeclaration ∈
      (InstructionReader.ofTokens [7, 8, 0x04001858, 0x00107000, 3, 0x5555] 2).items := by
    refine List.mem_of_mem_head? ?_
    rw [← (InstructionReader.next_items _).1]
    rfl
  have hagree := calls_agree resourceDeclaration
  obtain ⟨offset, hoffset, hat, -⟩ := hagree.calls [.readArg, .nextOperand]
  obtain ⟨operands, words, arguments, hprinted⟩ := hagree.printed
  exact ⟨hitems, hagree.elsewhere _ _ hitems [0, 1] [9] rfl, ⟨offset, hoffset, hat⟩, arguments,
    hprinted.words⟩

end Instruction

end ShaderLowering
