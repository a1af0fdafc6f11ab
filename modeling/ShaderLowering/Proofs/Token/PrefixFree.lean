import ShaderLowering.Proofs.Token.Moving
import ShaderLowering.Proofs.Token.WholeOperands

/-!
# Operands are a prefix-free code

How long an operand is shows only once it has been decoded, so that its end is where it is has to be
said of the decoder: the words that it has taken are decoded to the same operand whatever follows
them, and as soon as one of them is missing, that word is the one that is missed (`Decoder.Takes`).
A decoder all of whose results are taken in this way is `Decoder.PrefixFree`; decoders in sequence
stay so, and `Operand.decode` is. A failure names a word between the first one and the end
(`Decoder.FailsFrom`).
-/

namespace ShaderLowering

namespace Decoder

variable {α β : Type} {d : Decoder α} {f : α → Decoder β}

/-! ## Runs of a sequence -/

theorem bind_of_ok {c c' : Cursor} {a : α} (h : d c = .ok (a, c')) : (d >>= f) c = f a c' := by
  simp only [bind, StateT.bind, Except.bind, h]

theorem bind_of_error {c : Cursor} {e : DecodeError} (h : d c = .error e) :
    (d >>= f) c = .error e := by
  simp only [bind, StateT.bind, Except.bind, h]

/-- A sequence fails in its first part, or in its second part behind the first. -/
theorem bind_eq_error {c : Cursor} {e : DecodeError} (h : (d >>= f) c = .error e) :
    d c = .error e ∨ ∃ a c', d c = .ok (a, c') ∧ f a c' = .error e := by
  rcases hd : d c with e' | ⟨a, c'⟩
  · rw [bind_of_error hd] at h
    left
    exact congrArg _ (Except.error.inj h)
  · rw [bind_of_ok hd] at h
    right
    exact ⟨a, c', rfl, h⟩

/-! ## The words that a decoder takes -/

/-- At a position, a decoder takes exactly some words for its result: all of them whatever follows,
and where one of them is missing, the decoder fails for want of that word. -/
structure Takes (d : Decoder α) (position : Nat) (ws : List Word) (a : α) : Prop where
  whole (behind : List Word) :
    d ⟨position, ws ++ behind⟩ = .ok (a, ⟨position + ws.length, behind⟩)
  cut {k : Nat} (hk : k < ws.length) :
    d ⟨position, ws.take k⟩ = .error (.endOfStream (position + k))

namespace Takes

theorem pure (position : Nat) (a : α) : Takes (Pure.pure a) position [] a where
  whole _ := rfl
  cut hk := absurd hk (Nat.not_lt_zero _)

theorem word (position : Nat) (w : Word) : Takes word position [w] w where
  whole _ := rfl
  cut := by
    intro k hk
    obtain rfl : k = 0 := Nat.lt_one_iff.1 hk
    rfl

/-- One after the other, two decoders take the words of both. -/
theorem bind {position : Nat} {vs ws : List Word} {a : α} {b : β} (hd : d.Takes position vs a)
    (hf : (f a).Takes (position + vs.length) ws b) : (d >>= f).Takes position (vs ++ ws) b where
  whole := by
    intro behind
    rw [List.append_assoc, bind_of_ok (hd.whole _), hf.whole, List.length_append, Nat.add_assoc]
  cut := by
    intro k hk
    -- the first missing word is one of the first part or one of the second
    by_cases hfirst : k < vs.length
    · rw [List.take_append_of_le_length (Nat.le_of_lt hfirst)]
      apply bind_of_error
      exact hd.cut hfirst
    · obtain ⟨n, rfl⟩ := Nat.exists_eq_add_of_le (Nat.le_of_not_lt hfirst)
      have hn : n < ws.length := by
        rw [List.length_append] at hk
        exact Nat.lt_of_add_lt_add_left hk
      rw [List.take_length_add_append, bind_of_ok (hd.whole _), hf.cut hn, Nat.add_assoc]

/-- A function of the result takes the same words. -/
theorem map {position : Nat} {ws : List Word} {a : α} (hd : d.Takes position ws a) (g : α → β) :
    (d >>= fun a => Pure.pure (g a)).Takes position ws (g a) := by
  have hpure := hd.bind (f := fun a => Pure.pure (g a)) (.pure (position + ws.length) (g a))
  rwa [List.append_nil] at hpure

/-- A decoder that first asks for its position takes what it takes there. -/
theorem at_position {f : Nat → Decoder α} {position : Nat} {ws : List Word} {a : α}
    (h : (f position).Takes position ws a) :
    (get >>= fun c => f c.position).Takes position ws a where
  whole := h.whole
  cut := h.cut

/-- As many words are taken as there are. -/
theorem words (position : Nat) (ws : List Word) : (words ws.length).Takes position ws ws := by
  induction ws generalizing position with
  | nil => exact .pure position []
  | cons w ws ih => exact (word position w).bind ((ih (position + 1)).map (w :: ·))

/-- Extended tokens are taken up to the first one that announces no other. -/
theorem chain {announced : Bool} {ws : List Word} (position : Nat) (h : IsChain announced ws) :
    Takes (chain announced) position ws ws where
  whole behind := chain_eq_ok_iff.2 ⟨h, rfl, rfl⟩
  cut := by
    intro k hk
    induction ws generalizing announced position k with
    | nil => exact absurd hk (Nat.not_lt_zero _)
    | cons w ws ih =>
      cases announced with
      | false => cases h
      | true =>
        cases k with
        | zero => rfl
        | succ k =>
          have hk : k < ws.length := Nat.lt_of_succ_lt_succ hk
          have hw : w.extended = true := by
            cases hw : w.extended with
            | true => rfl
            | false =>
              rw [IsChain, hw, IsChain] at h
              rw [h] at hk
              exact absurd hk (Nat.not_lt_zero _)
          rw [IsChain, hw] at h
          have hrest : chainFrom (ws.take k) (position + 1) =
              .error (.endOfStream (position + 1 + k)) := ih (position + 1) h hk
          change chainFrom (w :: ws.take k) position = _
          rw [chainFrom, if_pos hw, hrest, Nat.add_right_comm, Nat.add_assoc]

end Takes

/-! ## Prefix-free decoders -/

/-- Every result of a decoder has been taken from the words that the cursor has moved over, and the
result and these words are related by `Q`. -/
def PrefixFree (d : Decoder α) (Q : α → List Word → Prop) : Prop :=
  ∀ ⦃c a c'⦄, d c = .ok (a, c') →
    ∃ ws, c.rest = ws ++ c'.rest ∧ d.Takes c.position ws a ∧ Q a ws

namespace PrefixFree

variable {Q : α → List Word → Prop} {R : β → List Word → Prop}

theorem pure {a : α} (h : Q a []) : PrefixFree (Pure.pure a) Q := by
  intro c b c' hb
  obtain ⟨rfl, rfl⟩ := pure_eq_ok.1 hb
  exact ⟨[], rfl, .pure _ _, h⟩

theorem fail (position : Nat) (fault : DecodeFault) :
    PrefixFree (fail position fault : Decoder α) Q := by
  intro c a c' h
  cases h

theorem word : PrefixFree word fun w ws => ws = [w] := by
  intro c w c' h
  obtain ⟨hrest, -⟩ := word_eq_ok.1 h
  exact ⟨[w], hrest, .word _ _, rfl⟩

theorem chain (announced : Bool) : PrefixFree (chain announced) fun vs ws => ws = vs := by
  intro c ws c' h
  obtain ⟨hchain, hrest, -⟩ := chain_eq_ok_iff.1 h
  exact ⟨ws, hrest, .chain _ hchain, rfl⟩

/-- A sequence is prefix-free if its parts are: the words of the first part stand in front of those of
the second. -/
theorem bind (hd : PrefixFree d Q)
    (hf : ∀ a vs, Q a vs → PrefixFree (f a) fun b ws => R b (vs ++ ws)) :
    PrefixFree (d >>= f) R := by
  intro c b c'' h
  obtain ⟨a, c', ha, hb⟩ := bind_eq_ok.1 h
  obtain ⟨vs, hrest, hvs, hQ⟩ := hd ha
  -- the second part starts where the words of the first end
  have hposition : c'.position = c.position + vs.length := by
    have hwhole := hvs.whole c'.rest
    rw [← hrest, show Cursor.mk c.position c.rest = c from rfl, ha] at hwhole
    exact congrArg Cursor.position (Prod.mk.inj (Except.ok.inj hwhole)).2
  obtain ⟨ws, hrest', hws, hR⟩ := hf a vs hQ hb
  rw [hposition] at hws
  refine ⟨vs ++ ws, ?_, hvs.bind hws, hR⟩
  rw [hrest, hrest', List.append_assoc]

/-- A decoder that first asks for its position is, at each position, the decoder for that position. -/
theorem at_position {f : Nat → Decoder α} (h : ∀ position, PrefixFree (f position) Q) :
    PrefixFree (get >>= fun c => f c.position) Q := by
  intro c a c' hrun
  obtain ⟨ws, hrest, htakes, hQ⟩ := h c.position hrun
  exact ⟨ws, hrest, htakes.at_position, hQ⟩

theorem words (n : Nat) : PrefixFree (words n) fun vs ws => ws = vs ∧ vs.length = n := by
  induction n with
  | zero => exact .pure ⟨rfl, rfl⟩
  | succ n ih =>
    refine .bind .word ?_
    rintro w _ rfl
    refine .bind ih ?_
    rintro vs _ ⟨rfl, hlength⟩
    exact .pure ⟨List.append_nil _ ▸ rfl, congrArg (· + 1) hlength⟩

end PrefixFree

/-! ## Where a decoder fails -/

/-- From a position on, a decoder fails at that position or behind it, and not behind the end of the
words. -/
def FailsFrom (low : Nat) (d : Decoder α) : Prop :=
  ∀ ⦃c e⦄, low ≤ c.position → d c = .error e →
    low ≤ e.position ∧ e.position ≤ c.position + c.rest.length

namespace FailsFrom

variable {low : Nat}

theorem pure (a : α) : FailsFrom low (Pure.pure a : Decoder α) := by
  intro c e _ h
  cases h

theorem fail (fault : DecodeFault) : FailsFrom low (fail low fault : Decoder α) := by
  intro c e hlow h
  obtain rfl : ⟨low, fault⟩ = e := Except.error.inj h
  exact ⟨Nat.le_refl _, Nat.le_trans hlow (Nat.le_add_right ..)⟩

theorem word : FailsFrom low word := by
  rintro ⟨position, rest⟩ e hlow h
  cases rest with
  | nil =>
    obtain rfl := Except.error.inj h
    exact ⟨hlow, Nat.le_refl _⟩
  | cons w rest => cases h

/-- What is left behind the first part ends where the words end, so the second part cannot fail behind
them either. -/
theorem bind (hforward : Forward d) (hd : FailsFrom low d) (hf : ∀ a, FailsFrom low (f a)) :
    FailsFrom low (d >>= f) := by
  intro c e hlow h
  rcases bind_eq_error h with hfirst | ⟨a, c', ha, hsecond⟩
  · exact hd hlow hfirst
  · obtain ⟨hsuffix, hend⟩ := hforward ha
    have hshorter := hsuffix.length_le
    have hlow' : low ≤ c'.position := by omega
    rw [← hend]
    exact hf a hlow' hsecond

theorem words (n : Nat) : FailsFrom low (words n) := by
  induction n with
  | zero => exact .pure []
  | succ n ih => exact .bind .word .word fun w => .bind (.words n) ih fun ws => .pure (w :: ws)

theorem chain (announced : Bool) : FailsFrom low (chain announced) := by
  intro c e hlow h
  cases announced with
  | false => cases h
  | true =>
    obtain ⟨hfrom, hend⟩ := range_of_chainFrom_eq_error h
    exact ⟨Nat.le_trans hlow hfrom, hend⟩

end FailsFrom

end Decoder

namespace Operand

open Decoder (PrefixFree FailsFrom Takes)

/-! ## The words of a decoded operand -/

variable {register : Decoder Operand}

/-- An index is decoded from its own words, if a register is, and then its register is whole. -/
theorem prefixFree_decodeIndexAs
    (h : PrefixFree register fun o ws => ws = o.words ∧ o.IsWhole)
    (representation : IndexRepresentation) :
    PrefixFree (decodeIndexAs register representation) fun index ws =>
      ws = indexWords index ∧ ∀ r, index.register? = some r → r.IsWhole := by
  cases representation with
  | imm32 =>
    refine .bind .word ?_
    rintro v _ rfl
    exact .pure ⟨rfl, nofun⟩
  | imm64 =>
    refine .bind .word ?_
    rintro high _ rfl
    refine .bind .word ?_
    rintro low _ rfl
    exact .pure ⟨rfl, nofun⟩
  | relative =>
    refine .bind h ?_
    rintro r _ ⟨rfl, hr⟩
    refine .pure ⟨?_, fun r' hr' => Option.some.inj hr' ▸ hr⟩
    rw [List.append_nil, indexWords]
  | imm32Relative =>
    refine .bind .word ?_
    rintro v _ rfl
    refine .bind h ?_
    rintro r _ ⟨rfl, hr⟩
    refine .pure ⟨?_, fun r' hr' => Option.some.inj hr' ▸ hr⟩
    rw [List.append_nil, indexWords, List.singleton_append]
  | imm64Relative =>
    refine .bind .word ?_
    rintro high _ rfl
    refine .bind .word ?_
    rintro low _ rfl
    refine .bind h ?_
    rintro r _ ⟨rfl, hr⟩
    refine .pure ⟨?_, fun r' hr' => Option.some.inj hr' ▸ hr⟩
    rw [List.append_nil, indexWords, List.singleton_append, List.singleton_append]

theorem prefixFree_decodeIndices
    (h : PrefixFree register fun o ws => ws = o.words ∧ o.IsWhole) (position : Nat)
    (raws : List Nat) :
    PrefixFree (decodeIndices register position raws) fun indices ws =>
      ws = indexListWords indices ∧
        ∀ index ∈ indices, ∀ r, index.register? = some r → r.IsWhole := by
  induction raws with
  | nil => exact .pure ⟨rfl, List.forall_mem_nil _⟩
  | cons raw raws ih =>
    rw [decodeIndices]
    split
    · exact .fail _ _
    · refine .bind (prefixFree_decodeIndexAs h _) ?_
      rintro index _ ⟨rfl, hindex⟩
      refine .bind ih ?_
      rintro indices _ ⟨rfl, hindices⟩
      refine .pure ⟨?_, List.forall_mem_cons.2 ⟨hindex, hindices⟩⟩
      rw [List.append_nil, indexListWords]

/-- Behind an operand token stand the other words of the operand, which is whole. -/
theorem prefixFree_decodeBehind
    (h : PrefixFree register fun o ws => ws = o.words ∧ o.IsWhole) (position : Nat)
    (token : OperandToken) :
    PrefixFree (decodeBehind register position token) fun o ws =>
      token.word :: ws = o.words ∧ o.IsWhole := by
  rw [decodeBehind]
  split
  · exact .fail _ _
  · refine .bind (.chain _) ?_
    rintro extensions _ rfl
    refine .bind (prefixFree_decodeIndices h _ _) ?_
    rintro indices _ ⟨rfl, hindices⟩
    refine .bind (.words _) ?_
    rintro immediates _ ⟨rfl, hlength⟩
    refine .pure ⟨?_, .intro hlength hindices⟩
    rw [List.append_nil, words, List.map_map, List.append_assoc]
    congr 2
    exact (List.map_id _).symm

theorem prefixFree_decodeNested (levels : Nat) :
    PrefixFree (decodeNested levels) fun o ws => ws = o.words ∧ o.IsWhole := by
  induction levels with
  | zero =>
    exact .at_position (f := fun position => Decoder.fail position (.nestedTooDeep maxNesting))
      fun position => .fail _ _
  | succ levels ih =>
    refine .at_position (f := fun position => Decoder.word >>= fun w =>
      decodeBehind (decodeNested levels) position ⟨w⟩) fun position => .bind .word ?_
    rintro w _ rfl
    exact prefixFree_decodeBehind ih position ⟨w⟩

/-- Every operand that is decoded is whole. -/
theorem returns_decode : decode.Returns IsWhole := by
  intro c o c' h
  obtain ⟨_, -, -, -, hwhole⟩ := prefixFree_decodeNested _ h
  exact hwhole

/-- The words that an operand is taken from are its own. -/
theorem words_of_takes {levels position : Nat} {ws : List Word} {o : Operand}
    (h : (decodeNested levels).Takes position ws o) : o.words = ws := by
  obtain ⟨_, hrest, -, rfl, -⟩ := prefixFree_decodeNested levels (h.whole [])
  exact (List.append_cancel_right hrest).symm

/-! ## Where decoding an operand fails -/

theorem failsFrom_decodeIndexAs {low : Nat} (hforward : register.Forward)
    (h : FailsFrom low register) (representation : IndexRepresentation) :
    FailsFrom low (decodeIndexAs register representation) := by
  have word : FailsFrom low Decoder.word := .word
  have forward : Decoder.word.Forward := .word
  cases representation with
  | imm32 => exact .bind forward word fun v => .pure _
  | imm64 => exact .bind forward word fun high => .bind forward word fun low => .pure _
  | relative => exact .bind hforward h fun r => .pure _
  | imm32Relative => exact .bind forward word fun v => .bind hforward h fun r => .pure _
  | imm64Relative =>
    exact .bind forward word fun high => .bind forward word fun low => .bind hforward h fun r =>
      .pure _

theorem failsFrom_decodeIndices {low : Nat} (hforward : register.Forward)
    (h : FailsFrom low register) (raws : List Nat) :
    FailsFrom low (decodeIndices register low raws) := by
  induction raws with
  | nil => exact .pure []
  | cons raw raws ih =>
    rw [decodeIndices]
    split
    · exact .fail _
    · refine .bind (forward_decodeIndexAs hforward _) (failsFrom_decodeIndexAs hforward h _) ?_
      intro index
      exact .bind (forward_decodeIndices hforward _ _) ih fun indices => .pure _

theorem failsFrom_decodeBehind {low : Nat} (hforward : register.Forward)
    (h : FailsFrom low register) (token : OperandToken) :
    FailsFrom low (decodeBehind register low token) := by
  rw [decodeBehind]
  split
  · exact .fail _
  · refine .bind (.chain _) (.chain _) fun extensions => ?_
    refine .bind (forward_decodeIndices hforward _ _) (failsFrom_decodeIndices hforward h _) ?_
    intro indices
    exact .bind (.words _) (.words _) fun immediates => .pure _

/-- An operand that cannot be decoded is reported at one of its words, or at the end of the words. -/
theorem failsFrom_decodeNested (levels low : Nat) : FailsFrom low (decodeNested levels) := by
  induction levels generalizing low with
  | zero =>
    intro c e hlow h
    obtain rfl := Except.error.inj h
    exact ⟨hlow, Nat.le_add_right ..⟩
  | succ levels ih =>
    intro c e hlow h
    -- what is wrong with the operand is reported at its token, which stands at the cursor
    have hbehind : FailsFrom c.position (Decoder.word >>= fun w =>
        decodeBehind (decodeNested levels) c.position ⟨w⟩) :=
      .bind .word .word fun w =>
        failsFrom_decodeBehind (forward_decodeNested levels) (ih c.position) ⟨w⟩
    obtain ⟨hfrom, hend⟩ := hbehind (Nat.le_refl _) h
    exact ⟨Nat.le_trans hlow hfrom, hend⟩

/-! ## Parsing -/

theorem parse_eq_ok_iff {ws : List Word} {position : Nat} {o : Operand} :
    parse ws position = .ok o ↔ ∃ c, decode ⟨position, ws⟩ = .ok (o, c) := by
  rw [parse, StateT.run]
  rcases decode ⟨position, ws⟩ with e | ⟨o', c⟩
  · simp
  · simp

theorem parse_eq_error_iff {ws : List Word} {position : Nat} {e : DecodeError} :
    parse ws position = .error e ↔ decode ⟨position, ws⟩ = .error e := by
  rw [parse, StateT.run]
  rcases decode ⟨position, ws⟩ with e' | ⟨o, c⟩
  · simp
  · simp

/-- The words that start with an operand start with its own, and these are what it is taken from. -/
theorem takes_of_parse {ws : List Word} {position : Nat} {o : Operand}
    (h : parse ws position = .ok o) : o.words <+: ws ∧ decode.Takes position o.words o := by
  obtain ⟨c, hc⟩ := parse_eq_ok_iff.1 h
  obtain ⟨_, hrest, htakes, rfl, -⟩ := prefixFree_decodeNested _ hc
  refine ⟨?_, htakes⟩
  rw [show ws = o.words ++ c.rest from hrest]
  exact List.prefix_append ..

/-- An operand is at least its token. -/
theorem length_pos (o : Operand) : 0 < o.length := by
  cases o
  rw [length, words]
  exact Nat.succ_pos _

theorem parse_moved_of_ok {ws : List Word} {position : Nat} {o : Operand}
    (h : parse ws position = .ok o) (n : Nat) : parse ws (position + n) = .ok (o.moved n) := by
  rw [parse_moved, h]
  rfl

theorem parse_moved_of_error {ws : List Word} {position : Nat} {e : DecodeError}
    (h : parse ws position = .error e) (n : Nat) :
    parse ws (position + n) = .error (e.moved n) := by
  rw [parse_moved, h]
  rfl

/-- Operands are a prefix-free code that does not depend on where it stands. An operand is decoded
from its own words alone, which are the first ones: whatever follows them is not looked at, and if they
are cut off within, at any level of nesting, it is the first missing word that is missed. At another
position the operand is the same one moved there. Words that are no operand are refused for the same
reason wherever they stand, at one of them or at their end. -/
theorem parse_prefixFree (ws : List Word) (position : Nat) :
    (∀ o, parse ws position = .ok o →
      1 ≤ o.length ∧ o.length ≤ ws.length ∧
      (∀ behind, parse (ws.take o.length ++ behind) position = .ok o) ∧
      (∀ k < o.length, parse (ws.take k) position = .error (.endOfStream (position + k))) ∧
      (∀ n, parse ws (position + n) = .ok (o.moved n)) ∧
      ∀ other n, other + n = position → ∃ o', parse ws other = .ok o' ∧ o'.moved n = o) ∧
    ∀ e, parse ws position = .error e →
      position ≤ e.position ∧ e.position ≤ position + ws.length ∧
      (∀ n, parse ws (position + n) = .error (e.moved n)) ∧
      ∀ other n, other + n = position → ∃ e', parse ws other = .error e' ∧ e'.moved n = e := by
  constructor
  · intro o ho
    obtain ⟨hpre, htakes⟩ := takes_of_parse ho
    have htake : ws.take o.length = o.words := (List.prefix_iff_eq_take.1 hpre).symm
    refine ⟨o.length_pos, hpre.length_le, ?_, ?_, parse_moved_of_ok ho, ?_⟩
    · intro behind
      rw [htake]
      exact parse_eq_ok_iff.2 ⟨_, htakes.whole behind⟩
    · intro k hk
      have hcut : ws.take k = o.words.take k := by
        rw [← htake, List.take_take, Nat.min_eq_left (Nat.le_of_lt hk)]
      rw [hcut]
      exact parse_eq_error_iff.2 (htakes.cut hk)
    · rintro other n rfl
      rcases hother : parse ws other with e | o'
      · rw [parse_moved_of_error hother] at ho
        cases ho
      · rw [parse_moved_of_ok hother] at ho
        exact ⟨o', rfl, Except.ok.inj ho⟩
  · intro e he
    obtain ⟨hfrom, hend⟩ :=
      failsFrom_decodeNested _ position (Nat.le_refl _) (parse_eq_error_iff.1 he)
    refine ⟨hfrom, hend, parse_moved_of_error he, ?_⟩
    rintro other n rfl
    rcases hother : parse ws other with e' | o
    · rw [parse_moved_of_error hother] at he
      exact ⟨e', rfl, Except.error.inj he⟩
    · rw [parse_moved_of_ok hother] at he
      cases he

/-- The words of `cb1[r2.x + 4]`, whose last two are those of the register. -/
def relativeElement : List Word := [0x06208e46, 1, 4, 0x0010000a, 2]

/-- The element of a constant buffer is missed at each of its five words, the nested ones included, and
a register of an unknown type is refused where it stands. -/
theorem relativeElement_prefixFree :
    (∃ o, parse relativeElement 7 = .ok o ∧ o.length = 5 ∧
      (∀ behind, parse (relativeElement ++ behind) 7 = .ok o) ∧
      parse (relativeElement.take 4) 7 = .error (.endOfStream 11) ∧
      parse relativeElement 9 = .ok (o.moved 2)) ∧
    ∀ n, parse [0x06208e46, 1, 4, 0x001ff00a, 2] (7 + n) =
      .error ⟨10 + n, .unknownOperandType 255⟩ := by
  constructor
  · obtain ⟨o, ho, hlength⟩ : ∃ o, parse relativeElement 7 = .ok o ∧ o.length = 5 :=
      ⟨_, rfl, rfl⟩
    obtain ⟨-, -, hbehind, hcut, hmoved, -⟩ := (parse_prefixFree relativeElement 7).1 o ho
    rw [hlength] at hbehind hcut
    exact ⟨o, ho, hlength, hbehind, hcut 4 (by decide), hmoved 2⟩
  · obtain ⟨-, -, hmoved, -⟩ := (parse_prefixFree [0x06208e46, 1, 4, 0x001ff00a, 2] 7).2
      ⟨10, .unknownOperandType 255⟩ rfl
    exact hmoved

end Operand

end ShaderLowering
