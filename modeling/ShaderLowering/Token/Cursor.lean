import ShaderLowering.Token.OpcodeToken

/-!
# Reading words from left to right

A `Cursor` is what is left of a list of words, together with the position of its first word. A
`Decoder` reads from a cursor and leaves the rest to what follows; it fails with a `DecodeError`.
All decoders are built from two readers: `Decoder.word` takes one word, and `Decoder.chain` takes
extended tokens up to and including the first one that announces no other.

`Decoder.Forward` says that a decoder never goes back: what it leaves is a suffix of what it was
given, and the end of the words stays where it was. Every decoder of this library is forward.
-/

namespace ShaderLowering

/-- The words that are still to be read. -/
structure Cursor where
  /-- The position of the next word. -/
  position : Nat
  /-- The words from there on. -/
  rest : List Word

/-- A reader of words that can fail. -/
abbrev Decoder := StateT Cursor (Except DecodeError)

namespace Decoder

/-- Fails with a fault of the word at `position`. -/
def fail {α : Type} (position : Nat) (fault : DecodeFault) : Decoder α :=
  throw ⟨position, fault⟩

/-- Takes the next word. -/
def word : Decoder Word := fun c =>
  match c.rest with
  | [] => .error (.endOfStream c.position)
  | w :: rest => .ok (w, ⟨c.position + 1, rest⟩)

/-- Takes the next `n` words. -/
def words : Nat → Decoder (List Word)
  | 0 => pure []
  | n + 1 => do
    let w ← word
    let ws ← words n
    return w :: ws

/-- Takes extended tokens from a list of words that starts at `position`. -/
def chainFrom : List Word → Nat → Except DecodeError (List Word × Cursor)
  | [], position => .error (.endOfStream position)
  | w :: rest, position =>
    if w.extended then
      match chainFrom rest (position + 1) with
      | .ok (ws, c) => .ok (w :: ws, c)
      | .error e => .error e
    else .ok ([w], ⟨position + 1, rest⟩)

/-- Takes the extended tokens behind a token, none if it announces none. -/
def chain (announced : Bool) : Decoder (List Word) := fun c =>
  if announced then chainFrom c.rest c.position else .ok ([], c)

/-! ## Reading goes forward -/

/-- What a successful read leaves is a suffix of the words, and their end keeps its position. -/
def Forward {α : Type} (d : Decoder α) : Prop :=
  ∀ ⦃c a c'⦄, d c = .ok (a, c') →
    c'.rest <:+ c.rest ∧ c'.position + c'.rest.length = c.position + c.rest.length

/-- A sequence succeeds exactly when both parts do, one after the other. -/
theorem bind_eq_ok {α β : Type} {d : Decoder α} {f : α → Decoder β} {c c'' : Cursor} {b : β} :
    (d >>= f) c = .ok (b, c'') ↔ ∃ a c', d c = .ok (a, c') ∧ f a c' = .ok (b, c'') := by
  constructor
  · intro h
    simp only [bind, StateT.bind, Except.bind] at h
    split at h
    · cases h
    · next r hr => exact ⟨r.1, r.2, hr, h⟩
  · rintro ⟨a, c', hd, hf⟩
    simp only [bind, StateT.bind, Except.bind, hd, hf]

/-- Returning a value reads nothing. -/
theorem pure_eq_ok {α : Type} {a b : α} {c c' : Cursor} :
    (pure a : Decoder α) c = .ok (b, c') ↔ a = b ∧ c = c' := by
  constructor
  · intro h
    cases h
    exact ⟨rfl, rfl⟩
  · rintro ⟨rfl, rfl⟩
    rfl

/-- A word is read exactly when there is one. -/
theorem word_eq_ok {w : Word} {c c' : Cursor} :
    word c = .ok (w, c') ↔ c.rest = w :: c'.rest ∧ c'.position = c.position + 1 := by
  obtain ⟨p, rest⟩ := c
  obtain ⟨p', rest'⟩ := c'
  cases rest with
  | nil => simp [word]
  | cons v vs => simp [word, eq_comm, and_comm, and_assoc]

theorem Forward.pure {α : Type} (a : α) : Forward (Pure.pure a : Decoder α) := by
  intro c b c' h
  obtain ⟨-, rfl⟩ := pure_eq_ok.1 h
  exact ⟨List.suffix_refl _, rfl⟩

theorem Forward.bind {α β : Type} {d : Decoder α} {f : α → Decoder β} (hd : Forward d)
    (hf : ∀ a, Forward (f a)) : Forward (d >>= f) := by
  intro c b c'' h
  obtain ⟨a, c', h₁, h₂⟩ := bind_eq_ok.1 h
  have r₁ := hd h₁
  have r₂ := hf a h₂
  exact ⟨r₂.1.trans r₁.1, r₂.2.trans r₁.2⟩

theorem Forward.fail {α : Type} (position : Nat) (fault : DecodeFault) :
    Forward (fail position fault : Decoder α) := by
  intro c a c' h
  cases h

theorem Forward.get : Forward (get : Decoder Cursor) := by
  intro c a c' h
  cases h
  exact ⟨List.suffix_refl _, rfl⟩

theorem Forward.word : Forward word := by
  intro c w c' h
  obtain ⟨hr, hp⟩ := word_eq_ok.1 h
  rw [hr, hp]
  exact ⟨List.suffix_cons .., by simp; omega⟩

theorem Forward.words (n : Nat) : Forward (words n) := by
  induction n with
  | zero => exact .pure _
  | succ n ih => exact .bind .word fun _ => .bind ih fun _ => .pure _

/-- A chain is a prefix of the words. -/
theorem chainFrom_eq_ok {rest : List Word} {position : Nat} {ws : List Word} {c : Cursor}
    (h : chainFrom rest position = .ok (ws, c)) :
    rest = ws ++ c.rest ∧ c.position = position + ws.length := by
  induction rest generalizing position ws with
  | nil => cases h
  | cons w rest ih =>
    rw [chainFrom] at h
    split at h
    · split at h
      · next ws' c' h' =>
        cases h
        have := ih h'
        exact ⟨by rw [this.1, List.cons_append], by rw [this.2, List.length_cons]; omega⟩
      · cases h
    · cases h
      exact ⟨rfl, rfl⟩

theorem Forward.chain (announced : Bool) : Forward (chain announced) := by
  intro c ws c' h
  unfold Decoder.chain at h
  split at h
  · obtain ⟨hr, hp⟩ := chainFrom_eq_ok h
    rw [hr, hp]
    exact ⟨List.suffix_append .., by simp; omega⟩
  · cases h
    exact ⟨List.suffix_refl _, rfl⟩

end Decoder

end ShaderLowering
