import MediaDepot.Proofs.PublicTexts
import MediaDepot.Proofs.Uploads

/-!
# MediaDepot.Proofs.SharedKeys

**When two records share what is stored for them.** The rows of a store are told apart by the texts
of their identifiers, and the stored content by the keys, which are those of the identifiers that
the texts are read as. Since two bits of a text are not looked at, texts that differ in nothing else
are different rows with the same key.

* `Handler.upload_cases` — an upload either is refused, or it is a transfer after the row was
  entered; the rows and the documents that are there already do not matter for that.
* `LocalHandler.upload_spec` — in a folder an upload concerns the file of the key of its record
  alone.

`LocalHandler.shares_iff_twins` says that two records share a key just when their texts are twins,
that the upload of any other record leaves the stored content alone, and that the upload of a twin
replaces it.
-/

namespace MediaDepot

/-! ### Uploads to any store -/

namespace Handler

/-- **An upload** is refused, or its content is transferred once its row is there. -/
theorem upload_cases (handler : Handler) (record : Record) (source : Source) (depot : Depot) :
    let begun := record.begun depot.site.epoch
    ∃ entered : Depot, Site.Noted depot.site entered.site ∧
      ((∃ failure, (handler.upload record source).run depot = (⟨begun, .error failure⟩, entered)) ∨
        (handler.upload record source).run depot =
          (((handler.transfer begun source).run entered.site).1,
            { entered with site := ((handler.transfer begun source).run entered.site).2 })) := by
  intro begun
  have hnoted := RecordStore.noted_insertions depot begun
  obtain ⟨log, hrun⟩ := handler.run_upload_eq record source depot
  rw [hrun]
  cases depot.records.isTaken record.id with
  | true =>
      let noted := depot.noting (depot.records.insertions begun)
      exact ⟨{ noted with site := { noted.site with log } }, hnoted.logged, .inl ⟨_, rfl⟩⟩
  | false => exact ⟨⟨depot.records.append begun, _⟩, hnoted, .inr rfl⟩

/-- An upload is accepted if its identifier is free; its row comes last. -/
theorem records_upload_of_not_taken (handler : Handler) (record : Record) (source : Source)
    {depot : Depot} (hfree : depot.records.isTaken record.id = false) :
    ((handler.upload record source).run depot).2.records =
      depot.records.append (record.begun depot.site.epoch) := by
  obtain ⟨site, -, hrun⟩ := handler.run_upload_of_free record source hfree
  rw [hrun]

end Handler

/-! ### Records with one key -/

theorem Record.key_eq_iff {record other : Record} :
    record.key = other.key ↔ record.uid = other.uid :=
  Uid.key_injective.eq_iff

namespace LocalHandler

variable (handler : LocalHandler)

/-- **An upload to a folder** concerns the file of the key of its record. If it succeeds, this file
holds what the source had to give. -/
theorem upload_spec (record : Record) (source : Source) (depot : Depot) :
    let done := ((Handler.files handler).upload record source).run depot
    FileTree.Spares [record.key] depot.site.files done.2.site.files ∧
      ∀ uploaded, done.1.outcome = .ok uploaded →
        handler.content record.key done.2.site.files = .ok source.rest := by
  intro done
  obtain ⟨entered, hnoted, ⟨failure, hrun⟩ | hrun⟩ :=
    (Handler.files handler).upload_cases record source depot
  · -- a refusal leaves the files alone and is no success
    refine ⟨?_, fun uploaded h => ?_⟩
    · simp only [done, hrun, hnoted.files]
      exact .refl _ _
    · simp [done, hrun] at h
  · obtain ⟨files, hafter, hspares, hstored⟩ :=
      handler.transfer_spec (record.begun depot.site.epoch) source entered.site
    rw [hnoted.files] at hspares
    simp only [done, hrun, Handler.transfer, hafter]
    exact ⟨hspares, fun uploaded h => (hstored uploaded h).1⟩

/-- **Which records share what is stored**: those whose identifiers are twins. The upload of any
other record leaves the stored content alone, whatever becomes of it; the upload of a twin is
accepted if only its own text is free, and puts its content in the place of what was there. Texts
other than the public one of their file are read because two bits are not looked at. -/
theorem shares_iff_twins {stored uploaded : Record} (hstored : stored.uid.isZero = false)
    (huploaded : uploaded.uid.isZero = false) :
    (stored.key = uploaded.key ↔ Uid.Twins stored.id uploaded.id) ∧
      (stored.uid.text = stored.id ↔ (Uid.lastDigit? stored.id).map (· % 4) = some 0) ∧
      ∀ (depot : Depot) (source : Source) (content : Bytes),
        handler.content stored.key depot.site.files = .ok content →
          let done := ((Handler.files handler).upload uploaded source).run depot
          (¬ Uid.Twins stored.id uploaded.id →
            handler.content stored.key done.2.site.files = .ok content) ∧
          (Uid.Twins stored.id uploaded.id →
            (depot.records.isTaken uploaded.id = false →
              done.2.records = depot.records.append (uploaded.begun depot.site.epoch)) ∧
            ∀ receipt, done.1.outcome = .ok receipt →
              handler.content stored.key done.2.site.files = .ok source.rest) := by
  have hkeys : stored.key = uploaded.key ↔ Uid.Twins stored.id uploaded.id :=
    Record.key_eq_iff.trans
      (Uid.parse_eq_iff_twins (Uid.ne_zero_of_isZero hstored) (Uid.ne_zero_of_isZero huploaded))
  refine ⟨hkeys, Uid.text_parse_eq_iff hstored, fun depot source content hcontent => ?_⟩
  obtain ⟨hspares, hplaced⟩ := handler.upload_spec uploaded source depot
  refine ⟨fun hother => ?_, fun htwins => ⟨fun hfree => ?_, fun receipt h => ?_⟩⟩
  · exact handler.content_of_spares hspares (fun hmem => hother (hkeys.mp (by simpa using hmem)))
      hcontent
  · exact Handler.records_upload_of_not_taken (.files handler) uploaded source hfree
  · rw [hkeys.mpr htwins]
    exact hplaced receipt h

/-- The record of a plain text. -/
def plainText (id : String) : Record := { id, mimeType := "text/plain" }

/-- A folder that keeps one plain text, `abc`. -/
def oneText : Depot :=
  (((Handler.files {}).upload (plainText "BQAAAAAAAAA") (.ofBytes [97, 98, 99])).run
    ⟨.memory {}, {}⟩).2

/-- A text and its twin. -/
theorem shares_iff_twins_of_oneText :
    let stored := plainText "BQAAAAAAAAA"
    let uploaded := plainText "BQAAAAAAAAB"
    let done := ((Handler.files {}).upload uploaded (.ofBytes [120, 121, 122])).run oneText
    stored.uid.isZero = false ∧ uploaded.uid.isZero = false ∧ Uid.Twins stored.id uploaded.id ∧
      stored.key = uploaded.key ∧ stored.uid.text = stored.id ∧
      done.2.records = oneText.records.append (uploaded.begun oneText.site.epoch) ∧
      ∀ receipt, done.1.outcome = .ok receipt →
        LocalHandler.content {} stored.key done.2.site.files = .ok [120, 121, 122] := by
  have hstored : (plainText "BQAAAAAAAAA").uid.isZero = false := by decide +kernel
  have huploaded : (plainText "BQAAAAAAAAB").uid.isZero = false := by decide +kernel
  have htwins : Uid.Twins (plainText "BQAAAAAAAAA").id (plainText "BQAAAAAAAAB").id := by
    decide +kernel
  have hfree : oneText.records.isTaken "BQAAAAAAAAB" = false := by decide +kernel
  have hkept : (LocalHandler.content {} (plainText "BQAAAAAAAAA").key oneText.site.files).toOption =
      some [97, 98, 99] := by decide +kernel
  obtain ⟨hkeys, htext, huploads⟩ := shares_iff_twins {} hstored huploaded
  obtain ⟨-, hreplaced⟩ := huploads oneText (.ofBytes [120, 121, 122]) _ (ok_of_toOption hkept)
  exact ⟨hstored, huploaded, htwins, hkeys.mpr htwins, htext.mpr (by decide +kernel),
    (hreplaced htwins).1 hfree, (hreplaced htwins).2⟩

/-- The upload of a twin is accepted, and what was stored is lost. -/
theorem upload_overwrites_twin :
    let stored := plainText "BQAAAAAAAAA"
    let uploaded := plainText "BQAAAAAAAAB"
    let done := ((Handler.files {}).upload uploaded (.ofBytes [120, 121, 122])).run oneText
    stored.id ≠ uploaded.id ∧ stored.uid.isZero = false ∧ uploaded.uid.isZero = false ∧
      stored.key = uploaded.key ∧ uploaded.uid.text ≠ uploaded.id ∧
      oneText.records.rows.map (·.id) = [stored.id] ∧
      done.2.records.rows.map (·.id) = [stored.id, uploaded.id] ∧
      (LocalHandler.content {} stored.key oneText.site.files).toOption = some [97, 98, 99] ∧
      (LocalHandler.content {} stored.key done.2.site.files).toOption = some [120, 121, 122] := by
  decide +kernel

end LocalHandler

end MediaDepot
