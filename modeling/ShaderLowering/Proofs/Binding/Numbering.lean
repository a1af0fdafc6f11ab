import Mathlib.Logic.Function.Basic
import ShaderLowering.Proofs.Binding.Mapping

/-!
# How slots are numbered

A mapping numbers its slots in the order of their first definitions. `SlotHistory` is a mapping with
the definitions that it has accepted, and `SlotHistory.Records` says what the mapping knows of all
definitions so far, refused ones included.

A mapping looks its slots up in its one list. A `BindingTable` writes the number of each slot down,
and finds it in a map of its own; both stay in step, whatever is defined
(`BindingTable.Holds.define`).
-/

namespace ShaderLowering

/-- A definition of a slot. -/
structure SlotDefinition where
  /-- The slot. -/
  slot : Word
  /-- What stands behind it. -/
  kind : ResourceKind
  /-- The stages that see it. -/
  stages : StageSet

/-- Whether a definition goes with others: the first of them for its slot, if there is any, has its
kind. -/
def SlotDefinition.agrees (d : SlotDefinition) (ds : List SlotDefinition) : Bool :=
  (ds.find? (·.slot == d.slot)).all (·.kind = d.kind)

/-- A definition does not stand in its own way, nor in the way of earlier ones. -/
theorem SlotDefinition.agrees_concat {ds : List SlotDefinition} {d d' : SlotDefinition}
    (h : d' ∈ ds ++ [d]) : d'.agrees (ds ++ [d]) = d'.agrees ds := by
  rw [agrees, agrees, List.find?_append]
  rcases hfind : ds.find? (·.slot == d'.slot) with _ | first
  · -- no earlier definition has the slot, so this is the last one
    have hmem : d' ∉ ds := fun hmem =>
      List.find?_eq_none.1 hfind d' hmem (beq_self_eq_true _)
    obtain rfl := List.mem_singleton.1 ((List.mem_append.1 h).resolve_left hmem)
    simp [hfind]
  · simp [hfind]

/-! ## Histories -/

/-- A mapping with the definitions that it has accepted. -/
structure SlotHistory where
  /-- The mapping. -/
  mapping : SlotMapping
  /-- The definitions that were not refused, in their order. -/
  accepted : List SlotDefinition

namespace SlotHistory

/-- Another definition; a mapping stays as it is if it refuses. -/
def add (h : SlotHistory) (d : SlotDefinition) : SlotHistory :=
  match h.mapping.define d.slot d.kind d.stages with
  | .ok m => ⟨m, h.accepted ++ [d]⟩
  | .error _ => h

/-- Definitions one after the other, beginning with a new mapping. -/
def of (ds : List SlotDefinition) : SlotHistory := ds.foldl add ⟨.empty, []⟩

/-- What a mapping knows of definitions. -/
structure Records (h : SlotHistory) (ds : List SlotDefinition) : Prop where
  /-- What is accepted has the kind of the first definition of its slot. -/
  accepted : h.accepted = ds.filter (·.agrees ds)
  /-- The slots are those of the definitions. -/
  slots : ∀ s, s ∈ h.mapping.entries.map (·.slot) ↔ s ∈ ds.map (·.slot)
  /-- They stand in the order of their first definitions. -/
  order : h.mapping.entries.Pairwise fun a b =>
    (ds.map (·.slot)).idxOf a.slot < (ds.map (·.slot)).idxOf b.slot
  /-- The kind of a slot is that of its first definition. -/
  kinds : ∀ e ∈ h.mapping.entries, ∃ d, ds.find? (·.slot == e.slot) = some d ∧ d.kind = e.kind
  /-- A stage sees a slot if an accepted definition of it says so. -/
  stages : ∀ e ∈ h.mapping.entries, ∀ n, e.stages.bits.testBit n = true ↔
    ∃ d ∈ h.accepted, d.slot = e.slot ∧ d.stages.bits.testBit n = true

variable {h : SlotHistory} {ds : List SlotDefinition} {d : SlotDefinition}

theorem records_start : Records ⟨.empty, []⟩ [] where
  accepted := rfl
  slots _ := .rfl
  order := .nil
  kinds _ he := absurd he List.not_mem_nil
  stages _ he := absurd he List.not_mem_nil

/-- No slot is in two places. -/
theorem Records.valid (hr : h.Records ds) : h.mapping.Valid :=
  List.pairwise_map.2 (hr.order.imp fun hlt heq => by
    rw [heq] at hlt
    exact Nat.lt_irrefl _ hlt)

/-- The first definitions of known slots are the first ones with more definitions, too. -/
theorem Records.order_concat (hr : h.Records ds) (d : SlotDefinition) :
    h.mapping.entries.Pairwise fun a b =>
      ((ds ++ [d]).map (·.slot)).idxOf a.slot < ((ds ++ [d]).map (·.slot)).idxOf b.slot := by
  have hsame (e : MappedSlot) (he : e ∈ h.mapping.entries) :
      ((ds ++ [d]).map (·.slot)).idxOf e.slot = (ds.map (·.slot)).idxOf e.slot := by
    rw [List.map_append]
    exact List.idxOf_append_of_mem ((hr.slots e.slot).1 (List.mem_map_of_mem he))
  refine hr.order.imp_of_mem fun ha hb hlt => ?_
  rwa [hsame _ ha, hsame _ hb]

theorem Records.kinds_concat (hr : h.Records ds) (d : SlotDefinition) :
    ∀ e ∈ h.mapping.entries, ∃ d', (ds ++ [d]).find? (·.slot == e.slot) = some d' ∧
      d'.kind = e.kind := by
  intro e he
  obtain ⟨d', hfind, hkind⟩ := hr.kinds e he
  exact ⟨d', by rw [List.find?_append, hfind, Option.some_or], hkind⟩

theorem mem_slots_concat {s : Word} :
    s ∈ (ds ++ [d]).map (·.slot) ↔ s ∈ ds.map (·.slot) ∨ s = d.slot := by
  rw [List.map_append, List.mem_append, List.map_singleton, List.mem_singleton]

/-- Earlier definitions stay accepted. -/
theorem Records.accepted_concat (hr : h.Records ds) (d : SlotDefinition) :
    (ds ++ [d]).filter (·.agrees (ds ++ [d])) =
      h.accepted ++ if d.agrees ds then [d] else [] := by
  rw [List.filter_congr fun _ => SlotDefinition.agrees_concat, List.filter_append, hr.accepted,
    List.filter_singleton]
  cases d.agrees ds <;> rfl

/-- The entry of a slot decides about another definition. -/
theorem Records.agrees_eq (hr : h.Records ds) {existing : MappedSlot}
    (hfind : h.mapping.find? d.slot = some existing) :
    d.agrees ds = decide (existing.kind = d.kind) := by
  obtain ⟨first, hfirst, hkind⟩ := hr.kinds existing (List.mem_of_find?_eq_some hfind)
  rw [SlotMapping.slot_of_find? hfind] at hfirst
  rw [SlotDefinition.agrees, hfirst, Option.all_some, hkind]

/-- A new slot comes last. -/
theorem Records.add_new (hr : h.Records ds) (hnew : h.mapping.find? d.slot = none) :
    Records ⟨⟨h.mapping.entries ++ [⟨d.slot, d.kind, d.stages⟩]⟩, h.accepted ++ [d]⟩
      (ds ++ [d]) := by
  have hslot := SlotMapping.ne_of_find?_eq_none hnew
  have hfirst : d.slot ∉ ds.map (·.slot) := fun hmem => by
    obtain ⟨e, he, heq⟩ := List.mem_map.1 ((hr.slots d.slot).2 hmem)
    exact hslot e he heq
  have hnone : ds.find? (·.slot == d.slot) = none := List.find?_eq_none.2 fun d' hd' heq =>
    hfirst (beq_iff_eq.1 heq ▸ List.mem_map_of_mem hd')
  constructor
  case accepted =>
    have hagrees : d.agrees ds = true := by rw [SlotDefinition.agrees, hnone, Option.all_none]
    rw [hr.accepted_concat, if_pos hagrees]
  case slots =>
    intro s
    rw [mem_slots_concat, ← hr.slots, List.map_append, List.mem_append, List.map_singleton,
      List.mem_singleton]
  case order =>
    refine List.pairwise_append.2 ⟨hr.order_concat d, List.pairwise_singleton .., ?_⟩
    intro e he e' he'
    obtain rfl := List.mem_singleton.1 he'
    have hmem := (hr.slots e.slot).1 (List.mem_map_of_mem he)
    rw [List.map_append, List.idxOf_append_of_mem hmem, List.idxOf_append_of_notMem hfirst]
    exact Nat.lt_add_right _ (List.idxOf_lt_length_of_mem hmem)
  case kinds =>
    refine List.forall_mem_append.2 ⟨hr.kinds_concat d, List.forall_mem_singleton.2 ⟨d, ?_, rfl⟩⟩
    rw [List.find?_append, hnone, Option.none_or, List.find?_singleton, if_pos (beq_self_eq_true _)]
  case stages =>
    refine List.forall_mem_append.2 ⟨fun e he n => ?_, List.forall_mem_singleton.2 fun n => ?_⟩
    · -- the definition is one of another slot
      rw [hr.stages e he]
      simp [Ne.symm (hslot e he)]
    · -- nothing else of this slot has been accepted
      have hother : ∀ d' ∈ h.accepted, d'.slot ≠ d.slot := fun d' hd' heq =>
        hfirst (heq ▸ List.mem_map_of_mem (List.mem_of_mem_filter (hr.accepted ▸ hd')))
      simp only [List.mem_append, List.mem_singleton]
      constructor
      · exact fun hbit => ⟨d, .inr rfl, rfl, hbit⟩
      · rintro ⟨d', hd' | rfl, heq, hbit⟩
        · exact (hother d' hd' heq).elim
        · exact hbit

/-- A known slot stays in its place, with more stages. -/
theorem Records.add_known (hr : h.Records ds) {existing : MappedSlot}
    (hfind : h.mapping.find? d.slot = some existing) (hkind : existing.kind = d.kind) :
    Records ⟨h.mapping.widen d.slot d.stages, h.accepted ++ [d]⟩ (ds ++ [d]) := by
  have hmem := List.mem_of_find?_eq_some hfind
  have hslot : d.slot ∈ ds.map (·.slot) := by
    rw [← hr.slots, ← SlotMapping.slot_of_find? hfind]
    exact List.mem_map_of_mem hmem
  -- an entry that was there before stands behind each entry
  have hentry {P : MappedSlot → Prop} (hP : ∀ e ∈ h.mapping.entries,
      P (if e.slot = d.slot then { e with stages := e.stages.union d.stages } else e)) :
      ∀ e ∈ (h.mapping.widen d.slot d.stages).entries, P e :=
    List.forall_mem_map.2 hP
  constructor
  case accepted => rw [hr.accepted_concat, hr.agrees_eq hfind, if_pos (decide_eq_true hkind)]
  case slots =>
    intro s
    rw [SlotMapping.slots_widen, hr.slots, mem_slots_concat]
    exact (or_iff_left_of_imp fun hs => hs ▸ hslot).symm
  case order =>
    refine List.pairwise_map.2 ((hr.order_concat d).imp fun {a b} hlt => ?_)
    split <;> split <;> exact hlt
  case kinds =>
    refine hentry fun e he => ?_
    split <;> exact hr.kinds_concat d e he
  case stages =>
    refine hentry fun e he n => ?_
    have hold := hr.stages e he n
    split
    · next heq =>
      rw [StageSet.union, Nat.testBit_or, Bool.or_eq_true, hold]
      simp only [List.mem_append, List.mem_singleton, or_and_right, exists_or, exists_eq_left, heq,
        true_and]
    · next hne =>
      rw [hold]
      simp [Ne.symm hne]

/-- A definition that is refused has no part in what is known. -/
theorem Records.add_refused (hr : h.Records ds) {existing : MappedSlot}
    (hfind : h.mapping.find? d.slot = some existing) (hkind : existing.kind ≠ d.kind) :
    h.Records (ds ++ [d]) := by
  have hslot : d.slot ∈ ds.map (·.slot) := by
    rw [← hr.slots, ← SlotMapping.slot_of_find? hfind]
    exact List.mem_map_of_mem (List.mem_of_find?_eq_some hfind)
  constructor
  case accepted =>
    have hrefused := ne_true_of_eq_false (decide_eq_false hkind)
    rw [hr.accepted_concat, hr.agrees_eq hfind, if_neg hrefused, List.append_nil]
  case slots =>
    intro s
    rw [hr.slots, mem_slots_concat]
    exact (or_iff_left_of_imp fun hs => hs ▸ hslot).symm
  case order => exact hr.order_concat d
  case kinds => exact hr.kinds_concat d
  case stages => exact hr.stages

/-- Every definition is recorded. -/
theorem Records.add (hr : h.Records ds) (d : SlotDefinition) : (h.add d).Records (ds ++ [d]) := by
  rw [SlotHistory.add]
  rcases h.mapping.define_cases d.slot d.kind d.stages with
    ⟨hnew, hdefine⟩ | ⟨existing, hfind, hkind, hdefine⟩ | ⟨existing, hfind, hkind, hdefine⟩
  all_goals simp only [hdefine]
  · exact hr.add_new hnew
  · exact hr.add_refused hfind hkind
  · exact hr.add_known hfind hkind

theorem records_of (ds : List SlotDefinition) : (of ds).Records ds := by
  have hrun (more : List SlotDefinition) {h : SlotHistory} {ds : List SlotDefinition}
      (hr : h.Records ds) : (more.foldl SlotHistory.add h).Records (ds ++ more) := by
    induction more generalizing h ds with
    | nil => rwa [List.append_nil]
    | cons d more ih =>
      rw [List.append_cons]
      exact ih (hr.add d)
  exact hrun ds records_start

end SlotHistory

/-! ## Tables -/

/-- A slot of a table. -/
structure BindingRow where
  /-- The slot. -/
  slot : Word
  /-- The number. -/
  binding : Word
  /-- What stands behind the slot. -/
  kind : ResourceKind
  /-- The stages that see it. -/
  stages : StageSet

/-- Slots with their numbers, and where the row of each slot is. -/
structure BindingTable where
  /-- The rows in the order of their first definitions. -/
  rows : List BindingRow
  /-- The place of the row of a slot. -/
  placeOf : Word → Option Nat

namespace BindingTable

/-- A table without rows. -/
def empty : BindingTable := ⟨[], fun _ => none⟩

/-- The number of a slot. -/
def binding? (t : BindingTable) (slot : Word) : Option Word :=
  (t.placeOf slot).bind fun place => t.rows[place]?.map (·.binding)

/-- Defines a slot, or makes it visible to more stages. There is no result if the place of a slot
has no row. -/
def define (t : BindingTable) (d : SlotDefinition) :
    Option (BindingTable × Option SlotMappingError) :=
  match t.placeOf d.slot with
  | none =>
    some (⟨t.rows ++ [⟨d.slot, UInt32.ofNat t.rows.length, d.kind, d.stages⟩],
      Function.update t.placeOf d.slot (some t.rows.length)⟩, none)
  | some place =>
    t.rows[place]?.map fun row =>
      if row.kind ≠ d.kind then (t, some (.kindConflict d.slot row.kind d.kind))
      else (⟨t.rows.set place { row with stages := row.stages.union d.stages }, t.placeOf⟩, none)

/-- The table behind definitions, beginning with an empty one. -/
def of (ds : List SlotDefinition) : Option BindingTable :=
  ds.foldlM (fun t d => (t.define d).map Prod.fst) empty

/-- The row of an entry. -/
def rowAt (place : Nat) (e : MappedSlot) : BindingRow :=
  ⟨e.slot, UInt32.ofNat place, e.kind, e.stages⟩

/-- A table holds what a mapping does. -/
structure Holds (t : BindingTable) (m : SlotMapping) : Prop where
  rows : t.rows = m.entries.mapIdx rowAt
  places : ∀ slot, t.placeOf slot = m.binding? slot

variable {t : BindingTable} {m : SlotMapping} {d : SlotDefinition}

theorem holds_empty : empty.Holds .empty := ⟨rfl, fun _ => rfl⟩

theorem Holds.getElem?_rows (h : t.Holds m) (place : Nat) :
    t.rows[place]? = m.entries[place]?.map (rowAt place) := by
  rw [h.rows, List.getElem?_mapIdx]

theorem Holds.length_rows (h : t.Holds m) : t.rows.length = m.entries.length := by
  rw [h.rows, List.length_mapIdx]

/-- Numbers are places. -/
theorem Holds.binding_eq (h : t.Holds m) (hm : m.Valid) {place : Nat} {row : BindingRow}
    (hrow : t.rows[place]? = some row) : row.binding.toNat = place := by
  rw [h.getElem?_rows] at hrow
  obtain ⟨e, he, rfl⟩ := Option.map_eq_some_iff.1 hrow
  obtain ⟨hplace, -⟩ := List.getElem?_eq_some_iff.1 he
  exact (UInt32.toNat_ofNat' ..).trans (Nat.mod_eq_of_lt (hplace.trans_le hm.length_le))

/-- A slot has the number of its binding. -/
theorem Holds.binding?_eq (h : t.Holds m) (slot : Word) :
    t.binding? slot = (m.binding? slot).map UInt32.ofNat := by
  rw [binding?, h.places]
  rcases hbinding : m.binding? slot with _ | place
  · rfl
  · obtain ⟨hplace, -⟩ := List.findIdx?_eq_some_iff_getElem.1 hbinding
    rw [Option.bind_some, h.getElem?_rows, List.getElem?_eq_getElem hplace]
    rfl

end BindingTable

namespace SlotMapping

variable {m : SlotMapping} {slot : Word}

/-- A slot has a binding where its entry is. -/
theorem binding?_eq_some_iff (hm : m.Valid) {i : Nat} :
    m.binding? slot = some i ↔ ∃ e, m.entries[i]? = some e ∧ e.slot = slot := by
  constructor
  · intro h
    obtain ⟨hi, hslot, -⟩ := List.findIdx?_eq_some_iff_getElem.1 h
    exact ⟨m.entries[i], List.getElem?_eq_getElem hi, beq_iff_eq.1 hslot⟩
  · rintro ⟨e, he, rfl⟩
    exact binding?_eq_some hm he

theorem binding?_eq_none_iff : m.binding? slot = none ↔ m.find? slot = none := by
  rw [binding?, find?, List.findIdx?_eq_none_iff, List.find?_eq_none]
  simp only [Bool.not_eq_true]

/-- The entry that is found stands at the binding. -/
theorem exists_binding?_of_find? (hm : m.Valid) {e : MappedSlot} (h : m.find? slot = some e) :
    ∃ i, m.binding? slot = some i ∧ m.entries[i]? = some e := by
  obtain ⟨i, hi⟩ := List.mem_iff_getElem?.1 (List.mem_of_find?_eq_some h)
  exact ⟨i, slot_of_find? h ▸ binding?_eq_some hm hi, hi⟩

/-- No other entry is one of the slot. -/
theorem Valid.eq_of_find? (hm : m.Valid) {existing e : MappedSlot}
    (hfind : m.find? slot = some existing) (he : e ∈ m.entries) (hslot : e.slot = slot) :
    e = existing :=
  List.inj_on_of_nodup_map hm he (List.mem_of_find?_eq_some hfind)
    (hslot.trans (slot_of_find? hfind).symm)

/-- A known slot keeps its binding. -/
theorem binding?_widen (m : SlotMapping) (slot slot' : Word) (stages : StageSet) :
    (m.widen slot stages).binding? slot' = m.binding? slot' := by
  have hsame : ((· == slot') ∘ fun e : MappedSlot => e.slot) ∘ (fun e : MappedSlot =>
      if e.slot = slot then { e with stages := e.stages.union stages } else e) =
        (· == slot') ∘ fun e : MappedSlot => e.slot := by
    funext e
    simp only [Function.comp_apply]
    split <;> rfl
  rw [binding?, widen, List.findIdx?_map]
  exact congrArg (List.findIdx? · m.entries) hsame

/-- A new slot has the next binding. -/
theorem binding?_concat (hnew : m.find? slot = none) (kind : ResourceKind) (stages : StageSet)
    (slot' : Word) :
    binding? ⟨m.entries ++ [⟨slot, kind, stages⟩]⟩ slot' =
      if slot' = slot then some m.entries.length else m.binding? slot' := by
  rw [binding?, List.findIdx?_append]
  split
  · next heq =>
    subst heq
    have hnone := binding?_eq_none_iff.2 hnew
    rw [binding?] at hnone
    simp [hnone]
  · next hne => simp [binding?, Ne.symm hne]

/-- More stages see the entry of the slot, and other entries stay as they are. -/
theorem entries_widen (hm : m.Valid) {place : Nat} {existing : MappedSlot}
    (hplace : m.entries[place]? = some existing) (stages : StageSet) :
    (m.widen existing.slot stages).entries =
      m.entries.set place { existing with stages := existing.stages.union stages } := by
  refine List.ext_getElem? fun i => ?_
  obtain ⟨hlt, -⟩ := List.getElem?_eq_some_iff.1 hplace
  rw [widen, List.getElem?_map, List.getElem?_set]
  split
  · next heq =>
    subst heq
    rw [hplace, Option.map_some, if_pos rfl]
  · next hne =>
    rcases he : m.entries[i]? with _ | e
    · rfl
    · rw [Option.map_some, if_neg]
      -- no other entry is one of the slot
      intro heq
      have hbinding := binding?_eq_some hm he
      rw [heq, binding?_eq_some hm hplace] at hbinding
      exact hne (Option.some.inj hbinding)

/-- A definition is refused exactly if its slot has another kind. -/
theorem define_eq_error_iff (hm : m.Valid) {kind : ResourceKind} {stages : StageSet}
    {e : SlotMappingError} :
    m.define slot kind stages = .error e ↔
      ∃ x ∈ m.entries, x.slot = slot ∧ x.kind ≠ kind ∧ e = .kindConflict slot x.kind kind := by
  rcases m.define_cases slot kind stages with
    ⟨hnew, hdefine⟩ | ⟨existing, hfind, hkind, hdefine⟩ | ⟨existing, hfind, hkind, hdefine⟩
  all_goals rw [hdefine]
  · refine ⟨nofun, fun ⟨x, hx, hslot, _⟩ => ?_⟩
    exact (ne_of_find?_eq_none hnew x hx hslot).elim
  · constructor
    · rintro ⟨⟩
      exact ⟨existing, List.mem_of_find?_eq_some hfind, slot_of_find? hfind, hkind, rfl⟩
    · rintro ⟨x, hx, hslot, -, rfl⟩
      rw [hm.eq_of_find? hfind hx hslot]
  · refine ⟨nofun, fun ⟨x, hx, hslot, hne, _⟩ => ?_⟩
    exact (hne (hm.eq_of_find? hfind hx hslot ▸ hkind)).elim

end SlotMapping

namespace BindingTable

variable {t : BindingTable} {m : SlotMapping}

/-- A slot has the number of its row, and no other number. -/
theorem Holds.binding?_eq_some_iff (h : t.Holds m) (hm : m.Valid) {slot b : Word} :
    t.binding? slot = some b ↔ ∃ row, t.rows[b.toNat]? = some row ∧ row.slot = slot := by
  have hrow (i : Nat) : (∃ row, t.rows[i]? = some row ∧ row.slot = slot) ↔
      m.binding? slot = some i := by
    rw [h.getElem?_rows, SlotMapping.binding?_eq_some_iff hm]
    simp only [Option.map_eq_some_iff, ↓existsAndEq, and_assoc, true_and, rowAt]
  rw [hrow, h.binding?_eq, Option.map_eq_some_iff]
  constructor
  · rintro ⟨i, hi, rfl⟩
    obtain ⟨hlt, -⟩ := List.findIdx?_eq_some_iff_getElem.1 hi
    rwa [UInt32.toNat_ofNat', Nat.mod_eq_of_lt (hlt.trans_le hm.length_le)]
  · exact fun hi => ⟨b.toNat, hi, UInt32.ofNat_toNat⟩

/-- A table and a mapping take the same definitions, refuse the same ones, and stay in step. -/
theorem Holds.define (h : t.Holds m) (hm : m.Valid) (d : SlotDefinition) :
    (∀ m', m.define d.slot d.kind d.stages = .ok m' →
      ∃ t', t.define d = some (t', none) ∧ t'.Holds m') ∧
    ∀ e, m.define d.slot d.kind d.stages = .error e → t.define d = some (t, some e) := by
  rcases m.define_cases d.slot d.kind d.stages with
    ⟨hnew, hdefine⟩ | ⟨existing, hfind, hkind, hdefine⟩ | ⟨existing, hfind, hkind, hdefine⟩
  · have hplace : t.placeOf d.slot = none :=
      (h.places d.slot).trans (SlotMapping.binding?_eq_none_iff.2 hnew)
    refine ⟨fun m' hm' => ?_, fun e he => nomatch hdefine.symm.trans he⟩
    cases hdefine.symm.trans hm'
    refine ⟨_, by rw [BindingTable.define, hplace], ?_, fun slot => ?_⟩
    · rw [h.length_rows, h.rows, List.mapIdx_concat]
      rfl
    · rw [SlotMapping.binding?_concat hnew, ← h.length_rows, ← h.places]
      exact Function.update_apply ..
  · obtain ⟨place, hbinding, hentry⟩ := SlotMapping.exists_binding?_of_find? hm hfind
    have hrow : t.rows[place]? = some (rowAt place existing) := by
      rw [h.getElem?_rows, hentry, Option.map_some]
    refine ⟨fun m' hm' => (nomatch hdefine.symm.trans hm'), fun e he => ?_⟩
    cases hdefine.symm.trans he
    rw [BindingTable.define, h.places, hbinding]
    simp only [hrow, Option.map_some]
    rw [if_pos (show (rowAt place existing).kind ≠ d.kind from hkind)]
    rfl
  · obtain ⟨place, hbinding, hentry⟩ := SlotMapping.exists_binding?_of_find? hm hfind
    have hrow : t.rows[place]? = some (rowAt place existing) := by
      rw [h.getElem?_rows, hentry, Option.map_some]
    refine ⟨fun m' hm' => ?_, fun e he => nomatch hdefine.symm.trans he⟩
    cases hdefine.symm.trans hm'
    have hslot := SlotMapping.slot_of_find? hfind
    refine ⟨⟨t.rows.set place (rowAt place { existing with
      stages := existing.stages.union d.stages }), t.placeOf⟩, ?_, ?_, fun slot => ?_⟩
    · rw [BindingTable.define, h.places, hbinding]
      simp only [hrow, Option.map_some]
      rw [if_neg (not_not.2 (show (rowAt place existing).kind = d.kind from hkind))]
      rfl
    · rw [← hslot, SlotMapping.entries_widen hm hentry, List.mapIdx_set, ← h.rows]
    · rw [SlotMapping.binding?_widen]
      exact h.places slot

/-- A table is in the state of a mapping, and stays in step with it. -/
structure Follows (t : BindingTable) (m : SlotMapping) : Prop where
  holds : t.Holds m
  /-- The number of a row is its place. -/
  binding : ∀ (i : Nat) (row : BindingRow), t.rows[i]? = some row → row.binding.toNat = i
  /-- A row is found for its slot, and for no other. -/
  found : ∀ slot b, t.binding? slot = some b ↔ ∃ row, t.rows[b.toNat]? = some row ∧ row.slot = slot
  /-- The table takes the definitions that the mapping takes. -/
  accepts : ∀ (d : SlotDefinition) m', m.define d.slot d.kind d.stages = .ok m' →
    ∃ t', t.define d = some (t', none) ∧ t'.Holds m'
  /-- It refuses those that the mapping refuses, which leave it as it is. -/
  refuses : ∀ (d : SlotDefinition) e, m.define d.slot d.kind d.stages = .error e →
    t.define d = some (t, some e)

theorem Holds.follows (h : t.Holds m) (hm : m.Valid) : t.Follows m where
  holds := h
  binding _ _ := h.binding_eq hm
  found _ _ := h.binding?_eq_some_iff hm
  accepts d := (h.define hm d).1
  refuses d := (h.define hm d).2

/-- Whatever is defined, every place has its row, and the table holds what the mapping does. -/
theorem exists_of (ds : List SlotDefinition) :
    ∃ t, of ds = some t ∧ t.Holds (SlotHistory.of ds).mapping := by
  have hrun (ds : List SlotDefinition) {t : BindingTable} {h : SlotHistory}
      (ht : t.Holds h.mapping) (hm : h.mapping.Valid) :
      ∃ t', ds.foldlM (fun t d => (t.define d).map Prod.fst) t = some t' ∧
        t'.Holds (ds.foldl SlotHistory.add h).mapping := by
    induction ds generalizing t h with
    | nil => exact ⟨t, rfl, ht⟩
    | cons d ds ih =>
      obtain ⟨hok, herror⟩ := ht.define hm d
      rw [List.foldlM_cons, List.foldl_cons]
      rcases hdefine : h.mapping.define d.slot d.kind d.stages with e | m'
      · have hadd : h.add d = h := by simp only [SlotHistory.add, hdefine]
        rw [herror e hdefine, hadd]
        exact ih ht hm
      · obtain ⟨t', ht', hholds⟩ := hok m' hdefine
        have hadd : h.add d = ⟨m', h.accepted ++ [d]⟩ := by simp only [SlotHistory.add, hdefine]
        rw [ht', hadd]
        exact ih hholds (SlotMapping.define_ok hm hdefine).1
  exact hrun ds holds_empty SlotMapping.valid_empty

end BindingTable

/-! ## Numbers -/

namespace SlotHistory

/-- Later definitions leave the bindings of earlier ones alone. -/
theorem binding?_append (ds more : List SlotDefinition) {slot : Word} {i : Nat}
    (hi : (of ds).mapping.binding? slot = some i) :
    (of (ds ++ more)).mapping.binding? slot = some i := by
  induction more generalizing ds with
  | nil => rwa [List.append_nil]
  | cons d more ih =>
    rw [List.append_cons]
    refine ih (ds ++ [d]) ?_
    have hm := (records_of ds).valid
    rw [of, List.foldl_append, ← of, List.foldl_cons, List.foldl_nil, add]
    rcases hdefine : (of ds).mapping.define d.slot d.kind d.stages with e | m'
    · exact hi
    · obtain ⟨hm', hextends, -⟩ := SlotMapping.define_ok hm hdefine
      obtain ⟨e, he, rfl⟩ := (SlotMapping.binding?_eq_some_iff hm).1 hi
      obtain ⟨e', he', hslot, -⟩ := hextends i e he
      exact hslot ▸ SlotMapping.binding?_eq_some hm' he'

/-- What a mapping is after definitions. -/
structure Numbers (ds : List SlotDefinition) : Prop where
  /-- The slots stand in the order of their first definitions, with the kinds of these, and with the
  stages of all definitions of this kind. -/
  records : (of ds).Records ds
  distinct : ((of ds).mapping.entries.map (·.slot)).Nodup
  /-- The binding of a slot is its place. -/
  binding : ∀ slot i, (of ds).mapping.binding? slot = some i ↔
    ∃ e, (of ds).mapping.entries[i]? = some e ∧ e.slot = slot
  /-- A definition is refused if its slot has another kind already, and only then. -/
  refusal : ∀ (d : SlotDefinition) (e : SlotMappingError),
    (of ds).mapping.define d.slot d.kind d.stages = .error e ↔
      ∃ x ∈ (of ds).mapping.entries, x.slot = d.slot ∧ x.kind ≠ d.kind ∧
        e = .kindConflict d.slot x.kind d.kind
  /-- No later definition changes a binding. -/
  stable : ∀ more slot i, (of ds).mapping.binding? slot = some i →
    (of (ds ++ more)).mapping.binding? slot = some i
  /-- A table with a row for each slot and a map to the rows is in the same state all the time. -/
  table : ∃ t, BindingTable.of ds = some t ∧ t.Follows (of ds).mapping

/-- After any definitions, the slots of a mapping are numbered in the order of their first ones, and
a table of rows numbers them in the same way. -/
theorem numbering (ds : List SlotDefinition) : Numbers ds where
  records := records_of ds
  distinct := (records_of ds).valid
  binding _ _ := SlotMapping.binding?_eq_some_iff (records_of ds).valid
  refusal _ _ := SlotMapping.define_eq_error_iff (records_of ds).valid
  stable more _ _ := binding?_append ds more
  table := by
    obtain ⟨t, ht, hholds⟩ := BindingTable.exists_of ds
    exact ⟨t, ht, hholds.follows (records_of ds).valid⟩

end SlotHistory

end ShaderLowering
