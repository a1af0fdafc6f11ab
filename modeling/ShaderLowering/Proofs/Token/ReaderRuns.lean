import Mathlib.Data.List.Induction
import Mathlib.Logic.Function.Iterate
import ShaderLowering.Proofs.Token.WholeInstructions

/-!
# Walks of a reader

A walk yields instructions that cut the words from its start on into pieces, and ends where the words
end or with the error of the first word that starts no instruction (`InstructionReader.items_cases`).
A call of `next` answers with the item whose number is the number of calls since the last restart, and
with nothing when there is none (`next_advance`), so a walk that has ended stays so, and a restart
begins the same walk again. `InstructionReader.tiles` puts this together.
-/

namespace ShaderLowering

/-! ## The parts of an instruction -/

namespace Instruction

/-- The word with the length of a customdata block; other instructions have none. -/
def lengthWords (i : Instruction) : List Word := if i.opcode = .customdata then i.head else []

/-- An instruction is cut out of words at its own position, and is its opcode token, the length word
of a customdata block, the extended tokens and the arguments, one after the other. -/
structure IsCutFrom (i : Instruction) (tokens : List Word) : Prop where
  length : 1 ≤ i.length
  inside : i.position + i.length ≤ tokens.length
  slice : i.words = (tokens.drop i.position).take i.length
  parts : i.words = i.token.word :: (i.lengthWords ++ i.extensions.map (·.word) ++ i.args)
  lengthWord : if i.opcode = .customdata then ∃ w, i.lengthWords = [w] ∧ w.toNat = i.length
    else i.lengthWords = []
  argsPosition : i.argsPosition = i.position + 1 + i.lengthWords.length + i.extensions.length

/-- The words between the token and the arguments are the length word or extended tokens. -/
theorem head_eq (i : Instruction) : i.head = i.lengthWords ++ i.extensions.map (·.word) := by
  rw [lengthWords, extensions]
  split
  · rw [List.map_nil, List.append_nil]
  · rw [List.map_map, List.nil_append]
    exact (List.map_id _).symm

/-- A sound instruction is cut out of words at a position where its own words stand. -/
theorem IsSound.isCutFrom {i : Instruction} (h : i.IsSound) {tokens behind : List Word}
    (hdrop : tokens.drop i.position = i.words ++ behind) : i.IsCutFrom tokens where
  length := i.length_pos
  inside := by
    have hlength := congrArg List.length hdrop
    have hpos := i.length_pos
    rw [List.length_drop, List.length_append, ← Instruction.length] at hlength
    omega
  slice := by
    rw [hdrop]
    exact List.take_left.symm
  parts := by rw [words, head_eq]
  lengthWord := by
    have hhead := h.head
    rw [lengthWords]
    split
    · next hc => rwa [if_pos hc] at hhead
    · rfl
  argsPosition := by
    rw [Instruction.argsPosition, head_eq, List.length_append, List.length_map,
      Nat.add_assoc _ _ i.extensions.length]

end Instruction

namespace InstructionReader

/-! ## What a walk yields -/

/-- A walk yields instructions that follow each other, and ends with the words or with the error of
the first word that starts no instruction. -/
theorem items_cases {r : InstructionReader} (hr : r.failed = false) :
    ∃ instructions, Contiguous r.position instructions ∧
      ((r.tokens.drop r.position = instructions.flatMap Instruction.words ∧
          r.items = instructions.map .ok) ∨
        ∃ e w rest, r.tokens.drop r.position =
            instructions.flatMap Instruction.words ++ w :: rest ∧
          Instruction.decode (r.position + (instructions.flatMap Instruction.words).length) w rest =
            .error e ∧
          r.items = instructions.map .ok ++ [.error e]) := by
  induction r using items.induct with
  | case1 r r' hnext =>
    obtain ⟨hend, -⟩ := next_eq_none_iff.1 hnext
    have hdrop : r.tokens.drop r.position = [] := hend.resolve_left (by simp [hr])
    refine ⟨[], trivial, .inl ⟨hdrop, ?_⟩⟩
    rw [items_eq, hnext, List.map_nil]
  | case2 r item r' hnext hleft ih =>
    rw [items_eq, hnext]
    cases item with
    | error e =>
      obtain ⟨⟨w, rest, hdrop, he⟩, rfl⟩ := (next_eq_error_iff hr).1 hnext
      refine ⟨[], trivial, .inr ⟨e, w, rest, hdrop, he, ?_⟩⟩
      simp only [items_of_failed, List.map_nil, List.nil_append]
    | ok i =>
      obtain ⟨hposition, hsound, ⟨behind, hbehind⟩, rfl⟩ := (next_eq_ok_iff hr).1 hnext
      have hdrop : r.tokens.drop (r.position + i.length) = behind := by
        rw [← List.drop_drop, hbehind]
        exact List.drop_left
      obtain ⟨instructions, hcontiguous, hend⟩ := ih hr
      refine ⟨i :: instructions, ⟨hposition, hsound, hcontiguous⟩, ?_⟩
      rw [List.flatMap_cons, List.map_cons, hbehind, ← hdrop]
      rcases hend with ⟨hwords, hitems⟩ | ⟨e, w, rest, hwords, he, hitems⟩
      · left
        exact ⟨congrArg _ hwords, congrArg _ hitems⟩
      · right
        refine ⟨e, w, rest, ?_, ?_, congrArg _ hitems⟩
        · rw [hwords, List.append_assoc]
        · rwa [List.length_append, ← Nat.add_assoc]

/-- What a reader yields is sound. -/
theorem isSound_of_mem_items {r : InstructionReader} (hr : r.failed = false) {i : Instruction}
    (h : .ok i ∈ r.items) : i.IsSound := by
  obtain ⟨instructions, hcontiguous, ⟨-, hitems⟩ | ⟨e, -, -, -, -, hitems⟩⟩ := items_cases hr
  · rw [hitems] at h
    exact hcontiguous.isSound i (by simpa using h)
  · rw [hitems] at h
    exact hcontiguous.isSound i (by simpa using h)

/-- A walk is no longer than there are words from its start on. -/
theorem length_items_le (r : InstructionReader) : r.items.length ≤ r.left := by
  induction r using items.induct with
  | case1 r r' hnext =>
    rw [items_eq, hnext]
    exact Nat.zero_le _
  | case2 r item r' hnext hleft ih =>
    rw [items_eq, hnext]
    exact Nat.succ_le_of_lt (Nat.lt_of_le_of_lt ih hleft)

/-! ## Calls -/

/-- The reader behind a call of `next`. -/
def advance (r : InstructionReader) : InstructionReader := r.next.2

/-- The words of an item; an error has none. -/
def itemWords : Except DecodeError Instruction → List Word
  | .ok i => i.words
  | .error _ => []

theorem flatMap_itemWords (instructions : List Instruction) (es : List DecodeError) :
    (instructions.map Except.ok ++ es.map Except.error).flatMap itemWords =
      instructions.flatMap Instruction.words := by
  have hnone : (es.map Except.error).flatMap itemWords = [] := by
    rw [List.flatMap_map]
    exact List.flatMap_eq_nil_iff.2 fun e _ => rfl
  rw [List.flatMap_append, hnone, List.append_nil, List.flatMap_map]
  rfl

/-- A call answers with the first item and takes it away. -/
theorem next_items (r : InstructionReader) :
    r.next.1 = r.items.head? ∧ r.advance.items = r.items.tail := by
  rw [advance, items_eq]
  rcases hnext : r.next with ⟨_ | item, r'⟩
  · obtain ⟨-, rfl⟩ := next_eq_none_iff.1 hnext
    refine ⟨rfl, ?_⟩
    rw [items_eq, hnext]
    rfl
  · exact ⟨rfl, rfl⟩

/-- A call reads the same words, and moves behind the words of the first item. -/
theorem advance_eq (r : InstructionReader) :
    r.advance.tokens = r.tokens ∧ r.advance.start = r.start ∧
      r.advance.position = r.position + ((r.items.take 1).flatMap itemWords).length := by
  rw [advance, items_eq]
  rcases hnext : r.next with ⟨_ | item, r'⟩
  · obtain ⟨-, rfl⟩ := next_eq_none_iff.1 hnext
    exact ⟨rfl, rfl, rfl⟩
  · have hr : r.failed = false := by
      by_contra hfailed
      rw [next, if_pos (Bool.not_eq_false _ ▸ hfailed)] at hnext
      cases hnext
    cases item with
    | error e =>
      obtain ⟨-, rfl⟩ := (next_eq_error_iff hr).1 hnext
      exact ⟨rfl, rfl, rfl⟩
    | ok i =>
      obtain ⟨-, -, -, rfl⟩ := (next_eq_ok_iff hr).1 hnext
      refine ⟨rfl, rfl, ?_⟩
      rw [List.take_succ_cons, List.take_zero, List.flatMap_cons, List.flatMap_nil, List.append_nil]
      rfl

variable (r : InstructionReader) (k : Nat)

theorem tokens_iterate : (advance^[k] r).tokens = r.tokens ∧ (advance^[k] r).start = r.start := by
  induction k with
  | zero => exact ⟨rfl, rfl⟩
  | succ k ih =>
    obtain ⟨htokens, hstart, -⟩ := (advance^[k] r).advance_eq
    rw [Function.iterate_succ_apply']
    exact ⟨htokens.trans ih.1, hstart.trans ih.2⟩

/-- After some calls the items behind as many are left. -/
theorem items_iterate : (advance^[k] r).items = r.items.drop k := by
  induction k with
  | zero => rfl
  | succ k ih => rw [Function.iterate_succ_apply', (next_items _).2, ih, List.tail_drop]

/-- After some calls a reader answers with the item of that number. -/
theorem next_iterate : (advance^[k] r).next.1 = r.items[k]? := by
  rw [(next_items _).1, items_iterate, List.head?_drop]

/-- After some calls a reader stands behind the words of as many items. -/
theorem position_iterate :
    (advance^[k] r).position = r.position + ((r.items.take k).flatMap itemWords).length := by
  induction k with
  | zero => rfl
  | succ k ih =>
    obtain ⟨-, -, hposition⟩ := (advance^[k] r).advance_eq
    rw [Function.iterate_succ_apply', hposition, items_iterate, ih, List.take_add,
      List.flatMap_append, List.length_append, Nat.add_assoc]

end InstructionReader

/-- A call of a reader. -/
inductive ReaderCall where
  /-- The next item. -/
  | next
  /-- From the first item again. -/
  | restart

namespace ReaderCall

/-- The reader behind a call. -/
def perform (r : InstructionReader) : ReaderCall → InstructionReader
  | next => r.advance
  | restart => r.restart

/-- The number of items asked for, with one more call. -/
def count (n : Nat) : ReaderCall → Nat
  | next => n + 1
  | restart => 0

/-- How many times the next item has been asked for since the last restart. -/
def sinceRestart (calls : List ReaderCall) : Nat := calls.foldl count 0

end ReaderCall

namespace InstructionReader

/-- The reader behind calls, one after the other. -/
def afterCalls (r : InstructionReader) (calls : List ReaderCall) : InstructionReader :=
  calls.foldl ReaderCall.perform r

/-- A restart undoes all calls. -/
theorem restart_iterate (tokens : List Word) (start k : Nat) :
    (advance^[k] (ofTokens tokens start)).restart = ofTokens tokens start := by
  obtain ⟨htokens, hstart⟩ := tokens_iterate (ofTokens tokens start) k
  rw [restart, htokens, hstart]
  rfl

/-- What has been called before the last restart makes no difference. -/
theorem afterCalls_ofTokens (tokens : List Word) (start : Nat) (calls : List ReaderCall) :
    (ofTokens tokens start).afterCalls calls =
      advance^[ReaderCall.sinceRestart calls] (ofTokens tokens start) := by
  induction calls using List.reverseRecOn with
  | nil => rfl
  | append_singleton calls call ih =>
    have hcall : (ofTokens tokens start).afterCalls (calls ++ [call]) =
        call.perform (advance^[ReaderCall.sinceRestart calls] (ofTokens tokens start)) := by
      rw [← ih]
      exact List.foldl_append ..
    have hcount : ReaderCall.sinceRestart (calls ++ [call]) =
        ReaderCall.count (ReaderCall.sinceRestart calls) call := List.foldl_append ..
    rw [hcall, hcount]
    cases call with
    | next => rw [ReaderCall.count, Function.iterate_succ_apply', ReaderCall.perform]
    | restart => exact restart_iterate ..

/-- Where a reader of some words stands once all is yielded: where the words end, or, after an error,
at the words that start no instruction. The error names one of these words or their end. -/
def StandsAtEnd (tokens : List Word) (start : Nat) (instructions : List Instruction)
    (position : Nat) : Option DecodeError → Prop
  | none => position = max start tokens.length
  | some e => position = start + (instructions.flatMap Instruction.words).length ∧
      (∃ w rest, tokens.drop position = w :: rest ∧
        Instruction.decode position w rest = .error e) ∧
      position ≤ e.position ∧ e.position ≤ tokens.length

/-- What a reader yields tiles its words, up to the words that it stops at. -/
theorem exists_tiling (tokens : List Word) (start : Nat) :
    ∃ instructions error?,
      (ofTokens tokens start).items = instructions.map .ok ++ error?.toList.map .error ∧
      Contiguous start instructions ∧ (∀ i ∈ instructions, i.IsCutFrom tokens) ∧
      StandsAtEnd tokens start instructions
        (start + (instructions.flatMap Instruction.words).length) error? := by
  obtain ⟨instructions, hcontiguous, hend⟩ := items_cases (r := ofTokens tokens start) rfl
  have hcut {behind : List Word}
      (hwords : tokens.drop start = instructions.flatMap Instruction.words ++ behind) :
      ∀ i ∈ instructions, i.IsCutFrom tokens := by
    intro i hi
    obtain ⟨rest, hdrop⟩ := hcontiguous.exists_drop hwords i hi
    exact (hcontiguous.isSound i hi).isCutFrom hdrop
  rcases hend with ⟨hwords, hitems⟩ | ⟨e, w, rest, hwords, he, hitems⟩
  · replace hwords : tokens.drop start = instructions.flatMap Instruction.words := hwords
    refine ⟨instructions, none, by simpa using hitems, hcontiguous,
      hcut (hwords.trans (List.append_nil _).symm), ?_⟩
    have hlength := congrArg List.length hwords
    rw [List.length_drop] at hlength
    rw [StandsAtEnd]
    omega
  · replace hwords : tokens.drop start = instructions.flatMap Instruction.words ++ w :: rest :=
      hwords
    have hlength := congrArg List.length hwords
    rw [List.length_drop, List.length_append, List.length_cons] at hlength
    obtain ⟨hlow, hhigh⟩ := Instruction.range_of_decode_eq_error he
    replace hhigh : e.position ≤ start + _ + 1 + rest.length := hhigh
    refine ⟨instructions, some e, hitems, hcontiguous, hcut hwords, rfl, ⟨w, rest, ?_, he⟩, hlow,
      by omega⟩
    rw [← List.drop_drop, hwords]
    exact List.drop_left

/-- A reader cuts its words into instructions. It yields instructions that follow each other, each of
them cut out of the words where it stands, and then at most one error. It has at most as many items as
there are words from its start on. A call answers with the item of its number since the last restart,
and with nothing behind the last item; what was called before a restart makes no difference. -/
theorem tiles (tokens : List Word) (start : Nat) :
    (ofTokens tokens start).items.length ≤ tokens.length - start ∧
    (∀ calls, ((ofTokens tokens start).afterCalls calls).next.1 =
        (ofTokens tokens start).items[ReaderCall.sinceRestart calls]? ∧
      ((ofTokens tokens start).afterCalls calls).position = start +
        (((ofTokens tokens start).items.take (ReaderCall.sinceRestart calls)).flatMap
          itemWords).length ∧
      ((ofTokens tokens start).afterCalls calls).restart = ofTokens tokens start) ∧
    ∃ instructions error?,
      (ofTokens tokens start).items = instructions.map .ok ++ error?.toList.map .error ∧
      Contiguous start instructions ∧ (∀ i ∈ instructions, i.IsCutFrom tokens) ∧
      ∀ calls, (ofTokens tokens start).items.length ≤ ReaderCall.sinceRestart calls →
        StandsAtEnd tokens start instructions ((ofTokens tokens start).afterCalls calls).position
          error? := by
  refine ⟨length_items_le (ofTokens tokens start), fun calls => ?_, ?_⟩
  · rw [afterCalls_ofTokens]
    exact ⟨next_iterate .., position_iterate .., restart_iterate ..⟩
  · obtain ⟨instructions, error?, hitems, hcontiguous, hcut, hend⟩ := exists_tiling tokens start
    refine ⟨instructions, error?, hitems, hcontiguous, hcut, fun calls hcalls => ?_⟩
    rw [afterCalls_ofTokens, position_iterate, List.take_of_length_le hcalls, hitems,
      flatMap_itemWords]
    exact hend

end InstructionReader

end ShaderLowering
