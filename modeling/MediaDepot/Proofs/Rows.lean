import MediaDepot.Records.Memory

/-!
# MediaDepot.Proofs.Rows

**What the operations on rows in memory do to the row of one identifier.** A row is added at the
end, settled where it stands, or removed with others that are stale; `Memory.get?_append`,
`get?_finish` and `get?_remove` say what is found afterwards.

`Memory.Distinct` says that no two rows have the same identifier; every operation keeps it.
-/

namespace MediaDepot

@[simp] theorem Record.id_settled (row uploaded : Record) (now : Int) (success : Bool)
    (size : Int) : (row.settled now uploaded success size).id = row.id := by
  cases success <;> rfl

@[simp] theorem Record.id_begun (record : Record) (now : Int) : (record.begun now).id = record.id :=
  rfl

/-! ### Rows in memory -/

namespace Memory

variable {memory : Memory} {row : Record} {id : String}

/-- No two rows have the same identifier. -/
def Distinct (memory : Memory) : Prop := (memory.rows.map (·.id)).Nodup

theorem id_of_get? (h : memory.get? id = some row) : row.id = id := by
  simpa using List.find?_some h

theorem mem_of_get? (h : memory.get? id = some row) : row ∈ memory.rows :=
  List.mem_of_find?_eq_some h

theorem get?_eq_none_iff : memory.get? id = none ↔ ∀ row ∈ memory.rows, row.id ≠ id := by
  simp [get?, List.find?_eq_none]

/-- Among distinct rows the one with an identifier is found. -/
theorem Distinct.get?_of_mem (h : memory.Distinct) (hrow : row ∈ memory.rows) :
    memory.get? row.id = some row := by
  obtain ⟨rows⟩ := memory
  simp only [Distinct, get?] at *
  induction rows with
  | nil => simp at hrow
  | cons first rest ih =>
      obtain ⟨hfirst, hrest⟩ := List.nodup_cons.mp h
      rcases List.mem_cons.mp hrow with rfl | hrow
      · simp
      · have hne : first.id ≠ row.id := fun heq => hfirst (List.mem_map.mpr ⟨row, hrow, heq.symm⟩)
        rw [List.find?_cons_of_neg (by simpa using hne), ih hrest hrow]

/-- Among distinct rows, one has the identifier of some of them only if it is one of these. -/
theorem Distinct.id_mem_map_iff (h : memory.Distinct) {some : List Record}
    (hsome : ∀ other ∈ some, other ∈ memory.rows) (hrow : row ∈ memory.rows) :
    row.id ∈ some.map (·.id) ↔ row ∈ some := by
  constructor
  · intro hmem
    obtain ⟨other, hother, hid⟩ := List.mem_map.mp hmem
    have hsame := (h.get?_of_mem (hsome other hother)).symm.trans (hid ▸ h.get?_of_mem hrow)
    obtain rfl : other = row := Option.some.inj hsame
    exact hother
  · exact fun hmem => List.mem_map.mpr ⟨row, hmem, rfl⟩

/-- The rows with one more at the end. -/
def append (memory : Memory) (record : Record) : Memory := ⟨memory.rows ++ [record]⟩

theorem Distinct.append (h : memory.Distinct) {record : Record}
    (fresh : memory.get? record.id = none) : (memory.append record).Distinct := by
  have hnew : ∀ row ∈ memory.rows, row.id ≠ record.id := get?_eq_none_iff.mp fresh
  simp only [Distinct, Memory.append, List.map_append, List.map_cons, List.map_nil] at *
  refine List.nodup_append.mpr ⟨h, by simp, fun a ha b hb heq => ?_⟩
  obtain ⟨row, hrow, rfl⟩ := List.mem_map.mp ha
  exact hnew row hrow (heq.trans (List.mem_singleton.mp hb))

theorem get?_append (memory : Memory) (record : Record) (id : String) :
    (memory.append record).get? id =
      (memory.get? id).or (if record.id = id then some record else none) := by
  rw [get?, Memory.append, List.find?_append, get?]
  by_cases h : record.id = id <;> simp [h]

/-- Settling keeps the identifiers of all rows. -/
theorem ids_finish (memory : Memory) (now : Int) (record : Record) (success : Bool) (size : Int) :
    (memory.finish now record success size).1.rows.map (·.id) = memory.rows.map (·.id) := by
  simp only [finish, List.map_map]
  refine List.map_congr_left fun row _ => ?_
  by_cases h : row.id = record.id <;> simp [h]

theorem Distinct.finish (h : memory.Distinct) (now : Int) (record : Record) (success : Bool)
    (size : Int) : (memory.finish now record success size).1.Distinct := by
  rw [Distinct, ids_finish]
  exact h

/-- Settling concerns the rows of one identifier. -/
theorem get?_finish (memory : Memory) (now : Int) (record : Record) (success : Bool) (size : Int)
    (id : String) :
    (memory.finish now record success size).1.get? id =
      if id = record.id then (memory.get? id).map (·.settled now record success size)
      else memory.get? id := by
  -- settling keeps identifiers, so looking for one commutes with it
  have hid : (fun row : Record => (if row.id = record.id then
      row.settled now record success size else row).id == id) = fun row => row.id == id := by
    funext row
    by_cases h : row.id = record.id <;> simp [h]
  have hfind : (memory.finish now record success size).1.get? id =
      (memory.get? id).map fun row =>
        if row.id = record.id then row.settled now record success size else row := by
    simp only [get?, Memory.finish, List.find?_map, Function.comp_def, hid]
  rw [hfind]
  cases hrow : memory.get? id with
  | none => simp
  | some row => by_cases h : id = record.id <;> simp [h, id_of_get? hrow]

/-- The new row of an upload is the only one that settling concerns. -/
theorem finish_append_of_fresh {record uploaded : Record} (fresh : memory.get? record.id = none)
    (hid : uploaded.id = record.id) (now : Int) (success : Bool) (size : Int) :
    ((memory.append record).finish now uploaded success size).1 =
      memory.append (record.settled now uploaded success size) := by
  have hother : ∀ row ∈ memory.rows, (if row.id = uploaded.id then
      row.settled now uploaded success size else row) = row := fun row hrow =>
    if_neg (hid ▸ get?_eq_none_iff.mp fresh row hrow)
  simp only [finish, append, List.map_append, List.map_cons, List.map_nil, hid, if_true]
  rw [List.map_congr_left (hid ▸ hother), List.map_id']

theorem Distinct.remove (h : memory.Distinct) (ids : List String) : (memory.remove ids).Distinct :=
  List.Nodup.sublist (List.filter_sublist.map _) h

theorem not_mem_remove {ids : List String} (h : row.id ∈ ids) : row ∉ (memory.remove ids).rows := by
  intro hmem
  have hkept := (List.mem_filter.mp hmem).2
  simp [h] at hkept

/-- Among distinct rows, removing the identifiers of some of them removes just these. -/
theorem Distinct.rows_remove (h : memory.Distinct) {some : List Record}
    (hsome : ∀ other ∈ some, other ∈ memory.rows) :
    (memory.remove (some.map (·.id))).rows = memory.rows.filter (· ∉ some) := by
  refine List.filter_congr fun row hrow => ?_
  simp [h.id_mem_map_iff hsome hrow]

@[simp] theorem remove_nil (memory : Memory) : memory.remove [] = memory := by
  obtain ⟨rows⟩ := memory
  simp [remove]

theorem get?_remove (memory : Memory) (ids : List String) (id : String) :
    (memory.remove ids).get? id = if id ∈ ids then none else memory.get? id := by
  rw [get?, remove, List.find?_filter]
  by_cases h : id ∈ ids
  · rw [if_pos h, List.find?_eq_none]
    intro row _ hrow
    obtain ⟨hnot, hid⟩ : row.id ∉ ids ∧ row.id = id := by simpa using hrow
    exact hnot (hid ▸ h)
  · rw [if_neg h, get?]
    congr 1
    funext row
    by_cases hrow : row.id = id
    · simp [hrow, h]
    · simp [hrow]

/-- A row that is swept is one of the rows, and it is stale. -/
theorem mem_stale {olderThan limit : Int} (h : row ∈ memory.stale olderThan limit) :
    row ∈ memory.rows ∧ row.isStale olderThan = true := by
  have hmem : row ∈ memory.rows.filter fun row => row.isStale olderThan := by
    simp only [stale, firstOf] at h
    split at h <;> exact List.mem_of_mem_take h
  simpa using hmem

/-- Among distinct rows, one has the identifier of a row that is swept only if it is swept. -/
theorem Distinct.id_mem_stale_iff (h : memory.Distinct) {olderThan limit : Int}
    (hrow : row ∈ memory.rows) :
    row.id ∈ (memory.stale olderThan limit).map (·.id) ↔ row ∈ memory.stale olderThan limit :=
  h.id_mem_map_iff (fun _ hswept => (mem_stale hswept).1) hrow

/-- A swept row was not ready. -/
theorem status_of_mem_stale {olderThan limit : Int} (h : row ∈ memory.stale olderThan limit) :
    row.status ≠ .ready := by
  intro hready
  have := (mem_stale h).2
  simp [Record.isStale, Status.isUnused, hready] at this

end Memory

end MediaDepot
