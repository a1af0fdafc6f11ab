import ShaderLowering.Proofs.Token.WholeInstructions
import ShaderLowering.Token.Assembly

/-!
# Words that stand further on

What is decoded from words depends on where they stand in one way only: operands and errors carry
positions. `Operand.moved` and `DecodeError.moved` are an operand and an error further on, and every
decoder commutes with them (`Decoder.Moves`, `Operand.moves_decode`). What an operand says does not
depend on its position, and neither does its text.
-/

namespace ShaderLowering

variable {R R' α α' β β' : Type} {n : Nat}

/-! ## Operands, errors and cursors -/

/-- An index with its register replaced. -/
def IndexOf.map (f : R → R') : IndexOf R → IndexOf R'
  | imm32 v => imm32 v
  | imm64 high low => imm64 high low
  | relative r => relative (f r)
  | imm32Relative v r => imm32Relative v (f r)
  | imm64Relative high low r => imm64Relative high low (f r)

/-- The error of a word that stands `n` words further on. -/
def DecodeError.moved (n : Nat) (e : DecodeError) : DecodeError :=
  { e with position := e.position + n }

/-- The same words, `n` words further on. -/
def Cursor.moved (n : Nat) (c : Cursor) : Cursor := { c with position := c.position + n }

namespace Operand

mutual

/-- The operand that stands `n` words further on, with the operands inside it. -/
def moved (n : Nat) : Operand → Operand
  | ⟨position, token, type, extensions, indices, immediates⟩ =>
    ⟨position + n, token, type, extensions, movedIndices n indices, immediates⟩

/-- The indices of an operand that stands `n` words further on. -/
def movedIndices (n : Nat) : List (IndexOf Operand) → List (IndexOf Operand)
  | [] => []
  | index :: indices => movedIndex n index :: movedIndices n indices

/-- An index of an operand that stands `n` words further on. -/
def movedIndex (n : Nat) : IndexOf Operand → IndexOf Operand
  | .imm32 v => .imm32 v
  | .imm64 high low => .imm64 high low
  | .relative r => .relative (r.moved n)
  | .imm32Relative v r => .imm32Relative v (r.moved n)
  | .imm64Relative high low r => .imm64Relative high low (r.moved n)

end

theorem movedIndex_eq (n : Nat) (index : IndexOf Operand) :
    movedIndex n index = index.map (moved n) := by
  cases index <;> rw [movedIndex, IndexOf.map]

theorem movedIndices_eq (n : Nat) (indices : List (IndexOf Operand)) :
    movedIndices n indices = indices.map (IndexOf.map (moved n)) := by
  induction indices with
  | nil => rw [movedIndices, List.map_nil]
  | cons index indices ih => rw [movedIndices, movedIndex_eq, ih, List.map_cons]

theorem moved_eq (n : Nat) (o : Operand) : o.moved n =
    { o with position := o.position + n, indices := o.indices.map (IndexOf.map (moved n)) } := by
  cases o
  rw [moved, movedIndices_eq]

@[simp] theorem position_moved (n : Nat) (o : Operand) : (o.moved n).position = o.position + n := by
  rw [moved_eq]

@[simp] theorem token_moved (n : Nat) (o : Operand) : (o.moved n).token = o.token := by
  rw [moved_eq]

@[simp] theorem type_moved (n : Nat) (o : Operand) : (o.moved n).type = o.type := by
  rw [moved_eq]

@[simp] theorem indices_moved (n : Nat) (o : Operand) :
    (o.moved n).indices = o.indices.map (IndexOf.map (moved n)) := by
  rw [moved_eq]

@[simp] theorem immediates_moved (n : Nat) (o : Operand) :
    (o.moved n).immediates = o.immediates := by
  rw [moved_eq]

@[simp] theorem selection?_moved (n : Nat) (o : Operand) :
    (o.moved n).selection? = o.selection? := by
  rw [selection?, token_moved, selection?]

@[simp] theorem modifiers_moved (n : Nat) (o : Operand) : (o.moved n).modifiers = o.modifiers := by
  rw [moved_eq]
  rfl

@[simp] theorem dimension_moved (n : Nat) (o : Operand) : (o.moved n).dimension = o.dimension := by
  rw [dimension, indices_moved, List.length_map, dimension]

theorem index_moved (n : Nat) (o : Operand) (k : Nat) : (o.moved n).index k =
    ((o.index k).map (IndexOf.map (moved n))).mapError (DecodeError.moved n) := by
  rw [index, index, indices_moved, List.getElem?_map, position_moved, dimension_moved]
  cases o.indices[k]? <;> rfl

theorem immediate_moved (n : Nat) (o : Operand) (k : Nat) :
    (o.moved n).immediate k = (o.immediate k).mapError (DecodeError.moved n) := by
  rw [immediate, immediate, immediates_moved, position_moved]
  cases o.immediates[k]? <;> rfl

mutual

/-- An operand has the same words wherever it stands. -/
@[simp] theorem words_moved (n : Nat) : ∀ o : Operand, (o.moved n).words = o.words
  | ⟨_, _, _, _, indices, _⟩ => by rw [moved, words, indexListWords_moved n indices, words]

theorem indexListWords_moved (n : Nat) : ∀ indices : List (IndexOf Operand),
    indexListWords (movedIndices n indices) = indexListWords indices
  | [] => rfl
  | index :: indices => by
    rw [movedIndices, indexListWords, indexWords_moved n index, indexListWords_moved n indices,
      indexListWords]

theorem indexWords_moved (n : Nat) : ∀ index : IndexOf Operand,
    indexWords (movedIndex n index) = indexWords index
  | .imm32 _ | .imm64 _ _ => rfl
  | .relative r => by rw [movedIndex, indexWords, words_moved n r, indexWords]
  | .imm32Relative _ r => by rw [movedIndex, indexWords, words_moved n r, indexWords]
  | .imm64Relative _ _ r => by rw [movedIndex, indexWords, words_moved n r, indexWords]

end

@[simp] theorem length_moved (n : Nat) (o : Operand) : (o.moved n).length = o.length := by
  rw [length, words_moved, length]

mutual

/-- An operand has the same text wherever it stands. -/
@[simp] theorem text_moved (n : Nat) : ∀ o : Operand, (o.moved n).text = o.text
  | ⟨_, _, _, _, indices, _⟩ => by
    rw [moved, text.eq_def, text.eq_def]
    dsimp only
    rw [firstIndicesText_moved n indices]
    rfl

theorem firstIndicesText_moved (n : Nat) : ∀ indices : List (IndexOf Operand),
    firstIndicesText (movedIndices n indices) = firstIndicesText indices
  | [] => rfl
  | index :: indices => by
    rw [movedIndices, firstIndicesText, firstIndicesText, bracketedIndicesText_moved n indices,
      indexText_moved n index]
    cases index <;> rfl

theorem bracketedIndicesText_moved (n : Nat) : ∀ indices : List (IndexOf Operand),
    bracketedIndicesText (movedIndices n indices) = bracketedIndicesText indices
  | [] => rfl
  | index :: indices => by
    rw [movedIndices, bracketedIndicesText, indexText_moved n index,
      bracketedIndicesText_moved n indices, bracketedIndicesText]

theorem indexText_moved (n : Nat) : ∀ index : IndexOf Operand,
    indexText (movedIndex n index) = indexText index
  | .imm32 _ | .imm64 _ _ => rfl
  | .relative r => by rw [movedIndex, indexText, text_moved n r, indexText]
  | .imm32Relative _ r => by rw [movedIndex, indexText, text_moved n r, indexText]
  | .imm64Relative _ _ r => by rw [movedIndex, indexText, text_moved n r, indexText]

end

end Operand

/-! ## Decoders -/

namespace Decoder

/-- A decoder does further on what another does, with the result replaced. -/
def Moves (n : Nat) (f : α → α') (d : Decoder α) (d' : Decoder α') : Prop :=
  ∀ c, d' (c.moved n) = ((d c).map (Prod.map f (Cursor.moved n))).mapError (DecodeError.moved n)

namespace Moves

theorem pure (f : α → α') (a : α) : Moves n f (Pure.pure a) (Pure.pure (f a)) := fun _ => rfl

theorem bind {f : α → α'} {h : β → β'} {d : Decoder α} {d' : Decoder α'} {k : α → Decoder β}
    {k' : α' → Decoder β'} (hd : Moves n f d d') (hk : ∀ a, Moves n h (k a) (k' (f a))) :
    Moves n h (d >>= k) (d' >>= k') := by
  intro c
  have hfirst := hd c
  simp only [Bind.bind, StateT.bind, Except.bind]
  rcases hdc : d c with e | ⟨a, c₁⟩ <;> rw [hdc] at hfirst <;> rw [hfirst]
  · rfl
  · exact hk a c₁

theorem fail (f : α → α') (position : Nat) (fault : DecodeFault) :
    Moves n f (fail position fault) (fail (position + n) fault) := fun _ => rfl

theorem get : Moves n (Cursor.moved n) MonadState.get MonadState.get := fun _ => rfl

theorem word : Moves n id word word := by
  rintro ⟨position, rest⟩
  cases rest with
  | nil => rfl
  | cons w rest =>
    change Except.ok (w, Cursor.mk (position + n + 1) rest) = .ok (w, ⟨position + 1 + n, rest⟩)
    rw [Nat.add_right_comm]

theorem words (k : Nat) : Moves n id (words k) (words k) := by
  induction k with
  | zero => exact .pure id []
  | succ k ih => exact .bind .word fun w => .bind ih fun ws => .pure id (w :: ws)

theorem chainFrom (rest : List Word) (position : Nat) : Decoder.chainFrom rest (position + n) =
    ((Decoder.chainFrom rest position).map (Prod.map id (Cursor.moved n))).mapError
      (DecodeError.moved n) := by
  induction rest generalizing position with
  | nil => rfl
  | cons w rest ih =>
    rw [Decoder.chainFrom, Decoder.chainFrom, Nat.add_right_comm, ih]
    split
    · rcases Decoder.chainFrom rest (position + 1) with e | ⟨ws, c⟩ <;> rfl
    · change Except.ok ([w], Cursor.mk (position + 1 + n) rest) = .ok ([w], ⟨position + 1 + n, rest⟩)
      rfl

theorem chain (announced : Bool) : Moves n id (chain announced) (chain announced) := by
  intro c
  rw [Decoder.chain, Decoder.chain]
  split
  · exact chainFrom c.rest c.position
  · rfl

end Moves

end Decoder

namespace Operand

open Decoder (Moves)

theorem moves_decodeIndexAs {f : R → R'} {register : Decoder R} {register' : Decoder R'}
    (h : Moves n f register register') (representation : IndexRepresentation) :
    Moves n (IndexOf.map f) (decodeIndexAs register representation)
      (decodeIndexAs register' representation) := by
  cases representation with
  | imm32 => exact .bind .word fun v => .pure _ (IndexOf.imm32 v)
  | imm64 => exact .bind .word fun high => .bind .word fun low => .pure _ (IndexOf.imm64 high low)
  | relative => exact .bind h fun r => .pure _ (IndexOf.relative r)
  | imm32Relative => exact .bind .word fun v => .bind h fun r => .pure _ (IndexOf.imm32Relative v r)
  | imm64Relative =>
    exact .bind .word fun high => .bind .word fun low => .bind h fun r =>
      .pure _ (IndexOf.imm64Relative high low r)

theorem moves_decodeIndices {f : R → R'} {register : Decoder R} {register' : Decoder R'}
    (h : Moves n f register register') (position : Nat) (raws : List Nat) :
    Moves n (List.map (IndexOf.map f)) (decodeIndices register position raws)
      (decodeIndices register' (position + n) raws) := by
  induction raws with
  | nil => exact .pure _ []
  | cons raw raws ih =>
    rw [decodeIndices, decodeIndices]
    split
    · exact .fail _ _ _
    · exact .bind (moves_decodeIndexAs h _) fun index => .bind ih fun indices =>
        .pure _ (index :: indices)

theorem moves_decodeBehind {register : Decoder Operand} (h : Moves n (moved n) register register)
    (position : Nat) (token : OperandToken) :
    Moves n (moved n) (decodeBehind register position token)
      (decodeBehind register (position + n) token) := by
  rw [decodeBehind, decodeBehind]
  split
  · exact .fail _ _ _
  · next type _ =>
    refine .bind (.chain _) fun extensions => ?_
    refine .bind (moves_decodeIndices h _ _) fun indices => .bind (.words _) fun immediates => ?_
    intro c
    change Except.ok (_, c.moved n) = .ok (moved n _, c.moved n)
    rw [moved_eq]
    rfl

theorem moves_decodeNested (levels : Nat) :
    Moves n (moved n) (decodeNested levels) (decodeNested levels) := by
  induction levels with
  | zero => exact .bind .get fun c => .fail _ _ _
  | succ levels ih =>
    exact .bind .get fun c => .bind .word fun w => moves_decodeBehind ih _ _

/-- The same words are decoded to the same operand, wherever they stand. -/
theorem moves_decode : Moves n (moved n) decode decode := moves_decodeNested _

theorem parse_moved (n : Nat) (ws : List Word) (position : Nat) : parse ws (position + n) =
    ((parse ws position).map (moved n)).mapError (DecodeError.moved n) := by
  have h : decode.run ⟨position + n, ws⟩ = _ := moves_decode (n := n) ⟨position, ws⟩
  rw [parse, parse, h, StateT.run]
  rcases decode ⟨position, ws⟩ with e | ⟨o, c⟩ <;> rfl

end Operand

/-! ## Instructions -/

/-- A number is looked up in the same way, wherever its word stands. -/
theorem Numbered.decode_moved [Numbered α] (n raw position : Nat) :
    (Numbered.decode raw (position + n) : Except DecodeError α) =
      (Numbered.decode raw position).mapError (DecodeError.moved n) := by
  rw [Numbered.decode, Numbered.decode]
  split <;> rfl

namespace Instruction

/-- The instruction that stands `n` words further on. -/
def moved (n : Nat) (i : Instruction) : Instruction := i.placedAt (i.position + n)

/-- Wherever an instruction is placed, it is moved there from the start of all words. -/
theorem placedAt_eq_moved (i : Instruction) (position : Nat) :
    i.placedAt position = (i.placedAt 0).moved position := by
  rw [moved, position_placedAt, Nat.zero_add]
  rfl

theorem argsPosition_moved (n : Nat) (i : Instruction) :
    (i.moved n).argsPosition = i.argsPosition + n := by
  change i.position + n + 1 + i.head.length = i.position + 1 + i.head.length + n
  omega

theorem cursor_moved (n : Nat) (i : Instruction) : (i.moved n).cursor = i.cursor.moved n := by
  rw [cursor, argsPosition_moved]
  rfl

theorem operand_moved (n : Nat) (i : Instruction) (offset : Nat) : (i.moved n).operand offset =
    ((i.operand offset).map (Operand.moved n)).mapError (DecodeError.moved n) := by
  rw [operand, argsPosition_moved, Nat.add_right_comm, Operand.parse_moved]
  rfl

theorem arg_moved (n : Nat) (i : Instruction) (offset : Nat) :
    (i.moved n).arg offset = (i.arg offset).mapError (DecodeError.moved n) := by
  have hcursor : (i.moved n).cursorAt offset = (i.cursorAt offset).moved n := by
    rw [cursorAt, argsPosition_moved, Nat.add_right_comm]
    rfl
  rw [arg, arg, hcursor, Decoder.Moves.word]
  rcases Decoder.word (i.cursorAt offset) with e | ⟨w, c⟩ <;> rfl

theorem resourceDim_moved (n : Nat) (i : Instruction) :
    (i.moved n).resourceDim = i.resourceDim.mapError (DecodeError.moved n) :=
  Numbered.decode_moved n _ _

theorem samplerMode_moved (n : Nat) (i : Instruction) :
    (i.moved n).samplerMode = i.samplerMode.mapError (DecodeError.moved n) :=
  Numbered.decode_moved n _ _

theorem interpolationMode_moved (n : Nat) (i : Instruction) :
    (i.moved n).interpolationMode = i.interpolationMode.mapError (DecodeError.moved n) :=
  Numbered.decode_moved n _ _

end Instruction

end ShaderLowering
