import Mathlib.Data.List.Basic
import ShaderLowering.Proofs.Spirv.Blocks

/-!
# Replacing bindings in place

`Code.mapBindings` puts code together again from its header, its instructions and its tail. It can
as well be done in place: list the binding decorations once, then overwrite the number of each of
them (`Code.rewriteAt_bindingSites`). That works because numbers tell nothing of how code is framed: the
instructions are afterwards where they were before, with the same opcodes and lengths, and the same
of them are binding decorations. `Code.mapBindings_laws` collects what follows.
-/

namespace ShaderLowering.Spirv.Code

/-! ## One instruction -/

/-- Within words, no default is read. -/
theorem getElem?_eq_some_getD {words : List Word} {p : Nat} (h : p < words.length) :
    words[p]? = some (words.getD p 0) := by
  rw [List.getElem?_eq_getElem h]
  exact congrArg some (List.getElem_eq_getD 0)

/-- Whether an instruction is a binding decoration that has a number. -/
def IsBinding (block : List Word) : Prop :=
  (block.getD 0 0).field 0 16 = Op.decorate.code ∧ 4 ≤ block.length ∧
    block.getD 2 0 = Decoration.binding.number

instance (block : List Word) : Decidable (IsBinding block) :=
  inferInstanceAs (Decidable (_ ∧ _ ∧ _))

/-- The fourth word of a binding decoration is its number. -/
theorem binding?_eq (block : List Word) :
    binding? block = if IsBinding block then some (block.getD 3 0) else none := by
  rcases block with _ | ⟨head, _ | ⟨target, _ | ⟨decoration, _ | ⟨number, rest⟩⟩⟩⟩
  -- fewer than four words are no binding decoration
  iterate 4 exact (if_neg fun h => absurd h.2.1 (by simp)).symm
  simp [binding?, IsBinding]

section

variable (f g : Word → Word) (block : List Word)

@[simp] theorem length_mapBinding : (mapBinding f block).length = block.length := by
  rw [mapBinding]
  split
  · exact List.length_set
  · rfl

/-- Only the fourth word of a binding decoration changes. -/
theorem getElem?_mapBinding (p : Nat) :
    (mapBinding f block)[p]? =
      block[p]?.map fun w => if IsBinding block ∧ p = 3 then f w else w := by
  rw [mapBinding, binding?_eq]
  by_cases hb : IsBinding block
  · have hlength : 3 < block.length := hb.2.1
    by_cases hp : p = 3
    · subst hp
      simp [hb, hlength]
    · simp [hb, hp, List.getElem?_set_ne (Ne.symm hp)]
  · simp [hb]

/-- The words in front of the number stay as they are. -/
theorem getD_mapBinding {p : Nat} (hp : p < 3) :
    (mapBinding f block).getD p 0 = block.getD p 0 := by
  have hne : ¬(IsBinding block ∧ p = 3) := fun h => Nat.ne_of_lt hp h.2
  simp only [List.getD_eq_getElem?_getD, getElem?_mapBinding, hne, if_false, Option.map_id']

/-- What is a binding decoration stays one. -/
theorem isBinding_mapBinding : IsBinding (mapBinding f block) ↔ IsBinding block := by
  rw [IsBinding, IsBinding, length_mapBinding, getD_mapBinding f block (by decide),
    getD_mapBinding f block (by decide)]

/-- The number of a binding decoration is replaced. -/
theorem binding?_mapBinding : binding? (mapBinding f block) = (binding? block).map f := by
  rw [binding?_eq, binding?_eq]
  simp only [isBinding_mapBinding]
  split_ifs with h
  · rw [List.getD_eq_getElem?_getD, getElem?_mapBinding, getElem?_eq_some_getD h.2.1,
      Option.map_some, if_pos ⟨h, rfl⟩]
    rfl
  · rfl

theorem mapBinding_id : mapBinding id block = block := by
  refine List.ext_getElem? fun p => ?_
  simp only [getElem?_mapBinding, id, ite_self, Option.map_id']

theorem mapBinding_mapBinding : mapBinding g (mapBinding f block) = mapBinding (g ∘ f) block := by
  refine List.ext_getElem? fun p => ?_
  simp only [getElem?_mapBinding, isBinding_mapBinding, Option.map_map]
  congr 1
  funext w
  rw [Function.comp_apply]
  split_ifs <;> rfl

/-- A block tells its length as before. -/
theorem isFramed_mapBinding {block : List Word} (h : IsFramed block) :
    IsFramed (mapBinding f block) := by
  have hhead (words : List Word) : words.headD 0 = words.getD 0 0 := by cases words <;> rfl
  refine ⟨List.length_pos_iff.1 ((length_mapBinding f block).symm ▸ h.length_pos), ?_⟩
  rw [hhead, getD_mapBinding f block (by decide), ← hhead, h.2, length_mapBinding]

end

/-! ## Framing -/

section

variable (f g : Word → Word) (c : Code)

/-- The first word of code is none that is replaced. -/
theorem firstInstruction_mapBindings : (c.mapBindings f).firstInstruction = c.firstInstruction := by
  have hfirst : (c.mapBindings f).words.head? = c.words.head? := by
    have hwords := c.header_blocks_tail
    rw [mapBindings, ← hwords]
    rcases c.header with _ | ⟨w, header⟩
    · rcases hblocks : c.blocks with _ | ⟨b, blocks⟩
      · rfl
      · have hb : IsFramed b := c.isFramed_of_mem_blocks b (hblocks ▸ List.mem_cons_self ..)
        have hb' := (isFramed_mapBinding f hb).1
        simp only [List.nil_append, List.map_cons, List.flatten_cons, List.append_assoc]
        rw [List.head?_append_of_ne_nil _ hb', List.head?_append_of_ne_nil _ hb.1,
          List.head?_eq_getElem?, List.head?_eq_getElem?, getElem?_mapBinding]
        simp
    · rfl
  rw [firstInstruction, firstInstruction, hfirst]

/-- Code that ends in its header has no instructions. -/
theorem blocks_tail_of_drop_eq_nil {c : Code} (h : c.words.drop c.firstInstruction = []) :
    c.blocks = [] ∧ c.tail = [] := by
  rw [blocks, tail, h, splitBlocks]
  exact ⟨rfl, rfl⟩

/-- Behind the header, the code is cut into the instructions with their numbers replaced. -/
theorem splitBlocks_mapBindings :
    splitBlocks ((c.mapBindings f).words.drop c.firstInstruction) =
      (c.blocks.map (mapBinding f), c.tail) := by
  have hcut : (c.mapBindings f).words.drop c.firstInstruction =
      (c.blocks.map (mapBinding f)).flatten ++ c.tail := by
    by_cases h : c.words.drop c.firstInstruction = []
    · obtain ⟨hblocks, htail⟩ := blocks_tail_of_drop_eq_nil h
      have hwords := c.header_blocks_tail
      rw [mapBindings, hblocks, htail] at *
      exact (congrArg _ hwords).trans h
    · rw [mapBindings, ← length_header h, List.drop_left]
  have hframed : ∀ b ∈ c.blocks.map (mapBinding f), IsFramed b :=
    List.forall_mem_map.2 fun b hb => isFramed_mapBinding f (c.isFramed_of_mem_blocks b hb)
  rw [hcut, splitBlocks_flatten_append hframed, tail, splitBlocks_tail, List.append_nil]

theorem blocks_mapBindings : (c.mapBindings f).blocks = c.blocks.map (mapBinding f) := by
  rw [blocks, firstInstruction_mapBindings, splitBlocks_mapBindings]

theorem tail_mapBindings : (c.mapBindings f).tail = c.tail := by
  rw [tail, firstInstruction_mapBindings, splitBlocks_mapBindings]

theorem header_mapBindings : (c.mapBindings f).header = c.header := by
  have h := header_blocks_tail (c.mapBindings f)
  rw [blocks_mapBindings, tail_mapBindings] at h
  exact List.append_cancel_right h

/-- An instruction with its number replaced. -/
def Located.mapBinding (i : Located) : Located := ⟨i.offset, Code.mapBinding f i.words⟩

theorem opcode_mapBinding (i : Located) : (i.mapBinding f).opcode = i.opcode :=
  congrArg (Word.field · 0 16) (getD_mapBinding f i.words (by decide))

theorem locate_mapBinding (offset : Nat) (blocks : List (List Word)) :
    locate offset (blocks.map (mapBinding f)) =
      (locate offset blocks).map (Located.mapBinding f) := by
  induction blocks generalizing offset with
  | nil => rfl
  | cons block blocks ih =>
    rw [List.map_cons, locate, locate, length_mapBinding, ih, List.map_cons]
    rfl

/-- The instructions are where they were, with their numbers replaced. -/
theorem instructions_mapBindings :
    (c.mapBindings f).instructions = c.instructions.map (Located.mapBinding f) := by
  rw [instructions, firstInstruction_mapBindings, blocks_mapBindings, locate_mapBinding,
    ← instructions]

theorem bindings_mapBindings : (c.mapBindings f).bindings = c.bindings.map f := by
  rw [bindings, blocks_mapBindings, List.filterMap_map, bindings, List.map_filterMap]
  exact List.filterMap_congr fun b _ => binding?_mapBinding f b

theorem mapBindings_id : c.mapBindings id = c := by
  have hblocks : c.blocks.map (mapBinding id) = c.blocks :=
    (List.map_congr_left fun b _ => mapBinding_id b).trans (List.map_id _)
  rw [mapBindings, hblocks, header_blocks_tail]

theorem mapBindings_mapBindings : (c.mapBindings f).mapBindings g = c.mapBindings (g ∘ f) := by
  have hblocks : (c.blocks.map (mapBinding f)).map (mapBinding g) =
      c.blocks.map (mapBinding (g ∘ f)) := by
    rw [List.map_map]
    exact List.map_congr_left fun b _ => mapBinding_mapBinding f g b
  rw [mapBindings, header_mapBindings, blocks_mapBindings, tail_mapBindings, hblocks, mapBindings]

end

/-! ## Sites -/

/-- Where binding decorations stand among instructions. -/
def bindingSites (insts : List Located) : List Nat :=
  (insts.filter fun i => IsBinding i.words).map (·.offset)

/-- The numbers of binding decorations among instructions. -/
theorem bindings_eq (c : Code) :
    c.bindings = (c.instructions.filter fun i => IsBinding i.words).map (·.arg 3) := by
  rw [bindings, ← map_words_instructions, List.filterMap_map, ← List.filterMap_eq_map,
    List.filterMap_filter]
  refine List.filterMap_congr fun i _ => ?_
  rw [Function.comp_apply, binding?_eq]
  simp [Located.arg]

theorem mem_sites_cons {offset p : Nat} {block : List Word} {blocks : List (List Word)} :
    p ∈ (bindingSites (locate offset (block :: blocks))).map (· + 3) ↔
      IsBinding block ∧ p = offset + 3 ∨
        p ∈ (bindingSites (locate (offset + block.length) blocks)).map (· + 3) := by
  by_cases h : IsBinding block <;> simp [bindingSites, locate, h]

/-- Sites are not in front of the first instruction. -/
theorem le_of_mem_sites {offset p : Nat} {blocks : List (List Word)}
    (h : p ∈ (bindingSites (locate offset blocks)).map (· + 3)) : offset + 3 ≤ p := by
  induction blocks generalizing offset with
  | nil => simp [bindingSites, locate] at h
  | cons block blocks ih =>
    rcases mem_sites_cons.1 h with ⟨-, rfl⟩ | h
    · exact Nat.le_refl _
    · have hle := ih h
      omega

/-- The words, with those at some positions replaced. -/
def replaceAt (f : Word → Word) (positions : List Nat) (words : List Word) : List Word :=
  words.mapIdx fun p w => if p ∈ positions then f w else w

section

variable (f : Word → Word)

theorem getElem?_replaceAt (positions : List Nat) (words : List Word) (p : Nat) :
    (replaceAt f positions words)[p]? =
      words[p]?.map fun w => if p ∈ positions then f w else w :=
  List.getElem?_mapIdx

/-- Replacing the numbers of instructions replaces the words at their sites. -/
theorem getElem?_flatten_mapBinding (offset : Nat) (blocks : List (List Word)) (rest : List Word)
    (p : Nat) :
    ((blocks.map (mapBinding f)).flatten ++ rest)[p]? =
      (blocks.flatten ++ rest)[p]?.map fun w =>
        if offset + p ∈ (bindingSites (locate offset blocks)).map (· + 3) then f w else w := by
  induction blocks generalizing offset p with
  | nil => simp [bindingSites, locate]
  | cons block blocks ih =>
    rw [List.map_cons, List.flatten_cons, List.flatten_cons, List.append_assoc, List.append_assoc]
    by_cases hp : p < block.length
    · -- the site of this instruction is its fourth word, and the other sites are behind it
      have hsite : offset + p ∈ (bindingSites (locate offset (block :: blocks))).map (· + 3) ↔
          IsBinding block ∧ p = 3 := by
        rw [mem_sites_cons, Nat.add_left_cancel_iff]
        refine or_iff_left fun h => ?_
        have hle := le_of_mem_sites h
        omega
      rw [List.getElem?_append_left (by rwa [length_mapBinding]), List.getElem?_append_left hp,
        getElem?_mapBinding]
      simp only [hsite]
    · have hsite : offset + p ∈ (bindingSites (locate offset (block :: blocks))).map (· + 3) ↔
          offset + block.length + (p - block.length) ∈
            (bindingSites (locate (offset + block.length) blocks)).map (· + 3) := by
        rw [mem_sites_cons, Nat.add_assoc offset, Nat.add_sub_cancel' (Nat.le_of_not_lt hp)]
        refine or_iff_right fun h => ?_
        have hlength := h.1.2.1
        omega
      rw [List.getElem?_append_right (by simpa using hp),
        List.getElem?_append_right (Nat.le_of_not_lt hp), length_mapBinding,
        ih (offset + block.length)]
      simp only [hsite]

/-- In the words of code, exactly the words at the sites are replaced. -/
theorem words_mapBindings (c : Code) :
    (c.mapBindings f).words =
      replaceAt f ((bindingSites c.instructions).map (· + 3)) c.words := by
  refine List.ext_getElem? fun p => ?_
  have hwords : c.words[p]? = (c.header ++ (c.blocks.flatten ++ c.tail))[p]? := by
    rw [header_blocks_tail]
  rw [getElem?_replaceAt, mapBindings, hwords, instructions]
  by_cases hp : p < c.header.length
  · have hsite : p ∉ (bindingSites (locate c.firstInstruction c.blocks)).map (· + 3) :=
      fun hmem => by
        have hle := le_of_mem_sites hmem
        have hlength : c.header.length ≤ c.firstInstruction := List.length_take_le ..
        omega
    simp only [hsite, if_false, Option.map_id', List.getElem?_append_left hp]
  · rw [List.getElem?_append_right (Nat.le_of_not_lt hp),
      List.getElem?_append_right (Nat.le_of_not_lt hp),
      getElem?_flatten_mapBinding f c.firstInstruction]
    by_cases h : c.words.drop c.firstInstruction = []
    · obtain ⟨hblocks, -⟩ := blocks_tail_of_drop_eq_nil h
      simp [hblocks, bindingSites, locate]
    · rw [← length_header h, Nat.add_sub_cancel' (Nat.le_of_not_lt hp)]

/-! ## In place -/

/-- Overwrites the numbers at some sites one after the other, and lists the numbers that it finds
there; `none` if a site has no number. -/
def rewriteAt : List Nat → Code → Option (Code × List Word)
  | [], c => some (c, [])
  | site :: sites, c => do
    let old ← c.words[site + 3]?
    let changed ← c.setArg? site 3 (f old)
    let (last, seen) ← rewriteAt sites changed
    return (last, old :: seen)

/-- Overwriting one number, and replacing the words at other sites, replaces them all. -/
theorem replaceAt_set {words : List Word} {site : Nat} {sites : List Nat} (hnew : site ∉ sites)
    (hsite : site + 3 < words.length) :
    replaceAt f (sites.map (· + 3)) (words.set (site + 3) (f (words.getD (site + 3) 0))) =
      replaceAt f ((site :: sites).map (· + 3)) words := by
  refine List.ext_getElem? fun p => ?_
  rw [getElem?_replaceAt, getElem?_replaceAt, List.map_cons]
  by_cases hp : site + 3 = p
  · subst hp
    simp [hsite, hnew]
  · rw [List.getElem?_set_ne hp]
    simp only [List.mem_cons, Ne.symm hp, false_or]

/-- Different sites do not get in each other's way. -/
theorem rewriteAt_eq {c : Code} {sites : List Nat} (hsites : sites.Nodup)
    (hwithin : ∀ s ∈ sites, s + 3 < c.words.length) :
    rewriteAt f sites c =
      some (⟨replaceAt f (sites.map (· + 3)) c.words⟩,
        sites.map fun s => c.words.getD (s + 3) 0) := by
  induction sites generalizing c with
  | nil =>
    have hsame : replaceAt f [] c.words = c.words :=
      List.ext_getElem? fun p => by simp [getElem?_replaceAt]
    rw [List.map_nil, List.map_nil, hsame]
    rfl
  | cons site sites ih =>
    obtain ⟨hnew, hsites⟩ := List.nodup_cons.1 hsites
    have hsite : site + 3 < c.words.length := hwithin site (List.mem_cons_self ..)
    have hread := getElem?_eq_some_getD hsite
    have hset : c.setArg? site 3 (f (c.words.getD (site + 3) 0)) =
        some ⟨c.words.set (site + 3) (f (c.words.getD (site + 3) 0))⟩ := if_pos hsite
    have hseen : (sites.map fun s =>
        (c.words.set (site + 3) (f (c.words.getD (site + 3) 0))).getD (s + 3) 0) =
          sites.map fun s => c.words.getD (s + 3) 0 := by
      refine List.map_congr_left fun s hs => ?_
      have hne : site + 3 ≠ s + 3 := fun heq => hnew (Nat.add_right_cancel heq ▸ hs)
      rw [List.getD_eq_getElem?_getD, List.getElem?_set_ne hne, List.getD_eq_getElem?_getD]
    have hrest := ih (c := ⟨c.words.set (site + 3) (f (c.words.getD (site + 3) 0))⟩) hsites
      fun s hs => List.length_set.symm ▸ hwithin s (List.mem_cons_of_mem _ hs)
    rw [replaceAt_set f hnew hsite, hseen] at hrest
    rw [rewriteAt, hread, Option.bind_eq_bind, Option.bind_some, hset, Option.bind_eq_bind,
      Option.bind_some, hrest]
    rfl

/-! ### The sites of code -/

/-- Sites are in the order of the code. -/
theorem pairwise_bindingSites (c : Code) : (bindingSites c.instructions).Pairwise (· < ·) :=
  List.pairwise_map.2 (c.tile_instructions.pairwise.2.filter _)

/-- The number of a binding decoration stands three words behind its site. -/
theorem getElem?_site {c : Code} {i : Located} (hi : i ∈ c.instructions) (hb : IsBinding i.words) :
    c.words[i.offset + 3]? = some (i.arg 3) := by
  have hlength : 3 < i.words.length := hb.2.1
  have hword : i.words[3]? = some (i.arg 3) := getElem?_eq_some_getD hlength
  rw [c.tile_instructions.words_eq i hi, List.getElem?_take_of_lt hlength,
    List.getElem?_drop] at hword
  exact hword

/-- The numbers that decorations show are those at the sites. -/
theorem map_some_bindings (c : Code) :
    c.bindings.map some = (bindingSites c.instructions).map fun s => c.words[s + 3]? := by
  rw [bindings_eq, bindingSites, List.map_map, List.map_map]
  refine List.map_congr_left fun i hi => ?_
  obtain ⟨hi, hb⟩ := List.mem_filter.1 hi
  exact (getElem?_site hi (of_decide_eq_true hb)).symm

/-- Rewriting in place, site by site, comes to the same as putting the code together again, and
finds the numbers of the binding decorations in their order. -/
theorem rewriteAt_bindingSites (c : Code) :
    rewriteAt f (bindingSites c.instructions) c = some (c.mapBindings f, c.bindings) := by
  have hnodup : (bindingSites c.instructions).Nodup :=
    c.pairwise_bindingSites.imp fun h => Nat.ne_of_lt h
  have hsite : ∀ s ∈ bindingSites c.instructions, s + 3 < c.words.length := by
    intro s hs
    obtain ⟨i, hi, rfl⟩ := List.mem_map.1 hs
    obtain ⟨hi, hb⟩ := List.mem_filter.1 hi
    exact (List.getElem?_eq_some_iff.1 (getElem?_site hi (of_decide_eq_true hb))).1
  have hseen : (bindingSites c.instructions).map (fun s => c.words.getD (s + 3) 0) =
      c.bindings := by
    have h := congrArg (List.map (Option.getD · 0)) c.map_some_bindings
    simpa only [List.map_map, Function.comp_def, Option.getD_some, List.map_id',
      ← List.getD_eq_getElem?_getD] using h.symm
  rw [rewriteAt_eq f hnodup hsite, hseen, ← words_mapBindings]

end

/-! ## Laws -/

/-- Rewriting the bindings of any words, framed or not, replaces the numbers of the binding
decorations that the instructions show, one after the other, and nothing else. The instructions keep
their positions, opcodes and lengths; rewriting with the identity changes nothing; and rewriting
twice is rewriting once with the composition. -/
theorem mapBindings_laws (c : Code) (f g : Word → Word) :
    let sites := bindingSites c.instructions
    sites.Pairwise (· < ·) ∧
      (c.mapBindings f).words = replaceAt f (sites.map (· + 3)) c.words ∧
      c.bindings.map some = sites.map (fun s => c.words[s + 3]?) ∧
      rewriteAt f sites c = some (c.mapBindings f, c.bindings) ∧
      (c.mapBindings f).instructions.map (fun i => (i.offset, i.opcode, i.words.length)) =
        c.instructions.map (fun i => (i.offset, i.opcode, i.words.length)) ∧
      c.mapBindings id = c ∧
      (c.mapBindings f).mapBindings g = c.mapBindings (g ∘ f) ∧
      (c.mapBindings f).bindings = c.bindings.map f := by
  intro sites
  refine ⟨c.pairwise_bindingSites, words_mapBindings f c, c.map_some_bindings,
    rewriteAt_bindingSites f c, ?_, mapBindings_id c, mapBindings_mapBindings f g c,
    bindings_mapBindings f c⟩
  rw [instructions_mapBindings, List.map_map]
  refine List.map_congr_left fun i _ => ?_
  rw [Function.comp_apply, opcode_mapBinding, Located.mapBinding, length_mapBinding]

end ShaderLowering.Spirv.Code
