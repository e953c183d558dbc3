import MediaDepot.Proofs.Systems

/-!
# MediaDepot.Proofs.Clashes

**What an upload does to the rows of other files.** An upload under an identifier that is taken is
refused, but its failure is settled by the identifier alone, and so the row that was there is marked
as failed. `Service.row?_upload` says what becomes of each row, and `Service.upload_keeps_iff` that
this is the only harm an upload does: a row stays as it is just when its identifier is not drawn, or
when it looked like the row of an upload that fails at this very moment.
-/

namespace MediaDepot

/-- The rows agree in everything that an upload or a sweep goes by. -/
structure Record.Agrees (row other : Record) : Prop where
  status : row.status = other.status
  size : row.size = other.size
  location : row.location = other.location
  etag : row.etag = other.etag
  updatedAt : row.updatedAt = other.updatedAt

theorem Record.Agrees.refl (row : Record) : row.Agrees row := ⟨rfl, rfl, rfl, rfl, rfl⟩

/-- A row that failed before is the same when it fails again in the same second. -/
theorem Record.abandoned_agrees_iff (row : Record) (now : Int) :
    (row.abandoned now).Agrees row ↔ row = row.abandoned now := by
  constructor
  · rintro ⟨hstatus, hsize, -, -, hupdated⟩
    cases row
    simp_all [abandoned]
  · intro h
    rw [← h]
    exact .refl row

/-- **The depot may be met with**: it began without rows, any tasks may be in flight, and anything
may have happened since. -/
def Depot.Reachable (depot : Depot) : Prop :=
  ∃ handler moves records site, RecordStore.Holds records {} ∧
    depot = (System.run handler moves (System.idle records site)).depot

theorem Depot.Reachable.exists_distinct {depot : Depot} (h : depot.Reachable) :
    ∃ memory, depot.records.Holds memory ∧ memory.Distinct := by
  obtain ⟨handler, moves, records, site, hempty, rfl⟩ := h
  exact (System.Sound.idle hempty site).run handler moves

theorem Depot.Reachable.exists_holds {depot : Depot} (h : depot.Reachable) :
    ∃ memory, depot.records.Holds memory := by
  obtain ⟨memory, hholds, -⟩ := h.exists_distinct
  exact ⟨memory, hholds⟩

namespace Service

variable {depot : Depot} {memory : Memory}

/-- The text of the identifier that is drawn next. -/
def drawnText (depot : Depot) : Option String := (Uid.draw depot.site.lot).1.toOption.map Uid.text

/-- **What becomes of a row when a file is uploaded**: it stays, unless its identifier is drawn. -/
theorem row?_upload (h : depot.records.Holds memory) (handler : Handler) (source : Source)
    (mimeType user : Option String) {id : String} {row : Record}
    (hrow : depot.records.row? id = some row) :
    ((upload handler source mimeType user).run depot).2.records.row? id =
      some (if drawnText depot = some id then row.abandoned depot.site.epoch else row) := by
  rw [h.row?_eq] at hrow
  rcases hdraw : Uid.draw depot.site.lot with ⟨fault | uid, lot⟩
  · have htext : drawnText depot = none := by simp [drawnText, hdraw, Except.toOption]
    rw [run_upload_of_undrawn hdraw, htext, if_neg (by simp), ← hrow]
    exact h.row?_eq id
  · have htext : drawnText depot = some uid.text := by simp [drawnText, hdraw, Except.toOption]
    rw [htext]
    cases htaken : memory.get? uid.text with
    | none =>
        obtain ⟨-, transfer, site, after, -, -, hrun, hafter, -⟩ :=
          run_upload_of_fresh h hdraw htaken handler source mimeType user
        have hne : uid.text ≠ id := by
          rintro rfl
          simp [htaken] at hrow
        rw [hrun, hafter.row?_eq, Memory.get?_append, hrow, Option.some_or,
          if_neg (by simpa using hne)]
    | some old =>
        -- refused, but settled all the same
        obtain ⟨failure, after, hrun, hafter, -⟩ :=
          run_upload_of_taken h hdraw (by simp [htaken]) handler source mimeType user
        have hid : (entered uid mimeType user depot.site.epoch).id = uid.text := rfl
        rw [hrun, hafter.row?_eq, Memory.get?_finish, hrow, hid]
        by_cases hsame : uid.text = id
        · simp [hsame, Record.settled]
        · simp [hsame, Ne.symm hsame]

/-- **When an upload leaves a row alone**: when it draws another identifier, or when the row was
that of an upload that failed in this very second. -/
theorem upload_keeps_iff (h : depot.Reachable) (handler : Handler) (source : Source)
    (mimeType user : Option String) (id : String) (row : Record)
    (hrow : depot.records.row? id = some row) :
    (∃ kept, ((upload handler source mimeType user).run depot).2.records.row? id = some kept ∧
        kept.Agrees row) ↔
      drawnText depot ≠ some id ∨ row = row.abandoned depot.site.epoch := by
  obtain ⟨memory, hholds⟩ := h.exists_holds
  rw [row?_upload hholds handler source mimeType user hrow]
  by_cases hsame : drawnText depot = some id
  · simp [hsame, Record.abandoned_agrees_iff]
  · simpa [hsame] using Record.Agrees.refl row

/-- A file was uploaded, and its identifier is drawn next once more. -/
def drawnTwice : Depot :=
  (System.run (.files {}) [
    .upload ⟨5⟩ (.ofBytes [97, 98, 99]) (some "text/plain") none, .uploadOn 0, .uploadOn 0,
    .elsewhere fun site => { site with lot := { given := [5] } }]
      (System.idle (.memory {}) {})).depot

theorem reachable_drawnTwice : drawnTwice.Reachable :=
  ⟨.files {}, _, .memory {}, {}, rfl, rfl⟩

/-- The row of a file whose identifier is drawn once more is not left alone. -/
theorem upload_keeps_iff_of_drawnTwice :
    ∃ row, drawnTwice.records.row? "BQAAAAAAAAA" = some row ∧
      ((∃ kept, ((upload (.files {}) (.ofBytes []) none none).run drawnTwice).2.records.row?
            "BQAAAAAAAAA" = some kept ∧ kept.Agrees row) ↔
        drawnText drawnTwice ≠ some "BQAAAAAAAAA" ∨ row = row.abandoned drawnTwice.site.epoch) := by
  have hthere : (drawnTwice.records.row? "BQAAAAAAAAA").isSome := by decide +kernel
  obtain ⟨row, hrow⟩ := Option.isSome_iff_exists.mp hthere
  exact ⟨row, hrow, upload_keeps_iff reachable_drawnTwice (.files {}) (.ofBytes []) none none
    "BQAAAAAAAAA" row hrow⟩

/-- The ready row of an uploaded file is marked as failed when its identifier is drawn once more. -/
theorem upload_spoils_ready_row :
    ¬ ∀ (depot : Depot) (handler : Handler) (source : Source) (mimeType user : Option String)
      (id : String) (row : Record), depot.Reachable → depot.records.row? id = some row →
        ∃ kept, ((upload handler source mimeType user).run depot).2.records.row? id = some kept ∧
          kept.Agrees row := by
  intro claimed
  have hready : (drawnTwice.records.row? "BQAAAAAAAAA").map (·.status) = some .ready := by
    decide +kernel
  have hfailed : (((upload (.files {}) (.ofBytes []) none none).run drawnTwice).2.records.row?
      "BQAAAAAAAAA").map (·.status) = some .failed := by decide +kernel
  obtain ⟨row, hrow, hstatus⟩ := Option.map_eq_some_iff.mp hready
  obtain ⟨kept, hkept, hagrees⟩ := claimed drawnTwice (.files {}) (.ofBytes []) none none
    "BQAAAAAAAAA" row reachable_drawnTwice hrow
  rw [hkept] at hfailed
  have hspoiled : kept.status = .failed := Option.some.inj hfailed
  rw [hagrees.status, hstatus] at hspoiled
  cases hspoiled

end Service

end MediaDepot
