import MediaDepot.Proofs.Actions
import MediaDepot.Proofs.Rows

/-!
# MediaDepot.Proofs.Stores

**Both record stores work on rows in the same way.** A store `Holds` rows if they are its rows, or
if its documents are those of the rows, in their order. Writing rows as documents commutes with
every operation of the database, so each operation of a store is the one of `Memory` on the rows it
holds. There is one equation for each operation, the same for both stores: `RecordStore.run_get`,
`run_start_eq`, `run_finish`, `run_removeStale`.
-/

namespace MediaDepot

/-! ### Rows as documents -/

/-- The document of a row. -/
def Record.document (row : Record) : Document := ⟨.str row.id, row.toDocument⟩

@[simp] theorem Record.hasKey_document (row : Record) (id : String) :
    row.document.hasKey id = (row.id == id) := rfl

namespace RecordStore

/-- **The store holds these rows**, in this order and in whatever form it keeps them. -/
def Holds : RecordStore → Memory → Prop
  | .memory held, kept => held = kept
  | .database collection, kept => collection.documents = kept.rows.map Record.document

/-- The rows, as they are read from whatever form the store keeps them in. -/
def rows : RecordStore → List Record
  | .memory held => held.rows
  | .database collection =>
    collection.documents.filterMap fun document => (Record.ofDocument document.fields).toOption

/-- The row with an identifier. -/
def row? (records : RecordStore) (id : String) : Option Record :=
  records.rows.find? fun row => row.id == id

theorem Holds.rows_eq {records : RecordStore} {memory : Memory} (h : records.Holds memory) :
    records.rows = memory.rows := by
  cases records with
  | memory held => exact congrArg Memory.rows h
  | database collection =>
      have hread : (fun row : Record => (Record.ofDocument row.document.fields).toOption) =
          some := by
        funext row
        simp only [Record.document, Record.ofDocument_toDocument]
        rfl
      simp only [rows, show collection.documents = _ from h, List.filterMap_map, Function.comp_def,
        hread, List.filterMap_some]

theorem Holds.row?_eq {records : RecordStore} {memory : Memory} (h : records.Holds memory)
    (id : String) : records.row? id = memory.get? id := by
  rw [row?, h.rows_eq, Memory.get?]

/-- Is there a row or a document with this identifier? -/
def isTaken : RecordStore → String → Bool
  | .memory held, id => (held.get? id).isSome
  | .database collection, id => collection.documents.any (·.hasKey id)

/-- The store with one more row, which comes last. -/
def append : RecordStore → Record → RecordStore
  | .memory held, row => .memory (held.append row)
  | .database collection, row => .database ⟨collection.documents ++ [row.document]⟩

theorem Holds.append {records : RecordStore} {memory : Memory} (h : records.Holds memory)
    (row : Record) : (records.append row).Holds (memory.append row) := by
  cases records with
  | memory held => exact congrArg (Memory.append · row) h
  | database collection =>
      show collection.documents ++ [row.document] = _
      simp [Memory.append, show collection.documents = _ from h]

end RecordStore

namespace Collection

variable {collection : Collection} {memory : Memory}

theorem find?_eq (h : collection.documents = memory.rows.map Record.document) (id : String) :
    collection.find? id = (memory.get? id).map Record.toDocument := by
  simp only [find?, h, List.find?_map, Function.comp_def, Record.hasKey_document, Memory.get?,
    Option.map_map]
  rfl

theorem any_hasKey (h : collection.documents = memory.rows.map Record.document) (id : String) :
    collection.documents.any (·.hasKey id) = (memory.get? id).isSome := by
  rw [h, List.any_map, Memory.get?, List.isSome_find?]
  rfl

/-- Settling a document is settling its row. -/
theorem putAll_settlement (row record : Record) (now : Int) (success : Bool) (size : Int) :
    row.toDocument.putAll (RecordStore.settlement now record success size) =
      (row.settled now record success size).toDocument := by
  cases success <;>
    simp [Fields.putAll, Fields.put, Record.toDocument, RecordStore.settlement, Record.settled,
      Record.finished, Record.abandoned]

theorem update_eq (h : collection.documents = memory.rows.map Record.document) (record : Record)
    (now : Int) (success : Bool) (size : Int) :
    (collection.update record.id
        (RecordStore.settlement now record success size)).documents =
      (memory.finish now record success size).1.rows.map Record.document := by
  simp only [update, h, Memory.finish, List.map_map]
  refine List.map_congr_left fun row _ => ?_
  by_cases hid : row.id = record.id
  · simp [hid, Record.document, putAll_settlement, Document.hasKey]
  · simp [hid]

/-- A document is stale when its row is. -/
theorem isStale_toDocument (row : Record) (olderThan : Int) :
    isStale RecordStore.unusedStatuses olderThan row.toDocument = row.isStale olderThan := by
  cases hstatus : row.status <;>
    simp [isStale, Record.toDocument, Fields.get?, List.lookup_cons, RecordStore.unusedStatuses,
      Record.isStale, Status.isUnused, Status.text, hstatus]

theorem stale_eq (h : collection.documents = memory.rows.map Record.document)
    (olderThan limit : Int) :
    collection.stale RecordStore.unusedStatuses olderThan limit =
      (memory.stale olderThan limit).map Record.toDocument := by
  have hfields : collection.documents.map (·.fields) = memory.rows.map Record.toDocument := by
    rw [h, List.map_map]
    rfl
  have hfilter : (collection.documents.map (·.fields)).filter
      (isStale RecordStore.unusedStatuses olderThan) =
        (memory.rows.filter fun row => row.isStale olderThan).map Record.toDocument := by
    simp only [hfields, List.filter_map, Function.comp_def, isStale_toDocument]
  rw [stale, hfilter, Memory.stale, firstOf, firstOf]
  split <;> simp

theorem delete_eq (h : collection.documents = memory.rows.map Record.document) (ids : List String) :
    (collection.delete ids).documents = (memory.remove ids).rows.map Record.document := by
  simp only [delete, h, Memory.remove, List.filter_map]
  congr 1
  refine List.filter_congr fun row _ => ?_
  simp only [Function.comp_apply, List.contains_eq_any_beq]
  rfl

/-! Documents that are no rows may lie in a collection too; what concerns one identifier does not
touch them. -/

variable {row : Record} (fresh : collection.documents.any (·.hasKey row.id) = false)

include fresh

theorem find?_append :
    find? ⟨collection.documents ++ [row.document]⟩ row.id = some row.toDocument := by
  have hnone : collection.documents.find? (·.hasKey row.id) = none :=
    List.find?_eq_none.mpr (List.any_eq_false.mp fresh)
  rw [find?, List.find?_append, hnone, Option.none_or, List.find?_cons_of_pos (by simp)]
  rfl

/-- Settling the last document leaves those before it alone. -/
theorem update_append (uploaded : Record) (now : Int) (success : Bool) (size : Int) :
    (update ⟨collection.documents ++ [row.document]⟩ row.id
        (RecordStore.settlement now uploaded success size)) =
      ⟨collection.documents ++ [(row.settled now uploaded success size).document]⟩ := by
  have hothers : ∀ document ∈ collection.documents,
      (if document.hasKey row.id then { document with
          fields := document.fields.putAll (RecordStore.settlement now uploaded success size) }
        else document) = document := fun document hdocument =>
    if_neg (List.any_eq_false.mp fresh document hdocument)
  rw [update, List.map_append, List.map_congr_left hothers, List.map_id']
  simp [Record.document, putAll_settlement, Document.hasKey]

end Collection

theorem RecordStore.Holds.isTaken_eq {records : RecordStore} {memory : Memory}
    (h : records.Holds memory) (id : String) : records.isTaken id = (memory.get? id).isSome := by
  cases records with
  | memory held => exact congrArg (fun rows : Memory => (rows.get? id).isSome) h
  | database collection => exact Collection.any_hasKey h id

/-! ### The operations of the stores -/

/-- **Work on the records has come to these rows**: the store holds them, and nothing but notes was
added to the site. -/
structure Depot.Keeps (before after : Depot) (memory : Memory) : Prop where
  holds : after.records.Holds memory
  noted : Site.Noted before.site after.site

theorem Depot.Keeps.trans {first second third : Depot} {kept memory : Memory}
    (h : first.Keeps second kept) (h' : second.Keeps third memory) : first.Keeps third memory :=
  ⟨h'.holds, h.noted.trans h'.noted⟩

/-- The depot with notes of more calls. -/
def Depot.noting (depot : Depot) (calls : List Call) : Depot :=
  { depot with site := { depot.site with calls := depot.site.calls ++ calls } }

namespace Depot

variable (depot : Depot) (calls : List Call)

@[simp] theorem noting_nil : depot.noting [] = depot := by
  simp [noting]

@[simp] theorem records_noting : (depot.noting calls).records = depot.records := rfl

@[simp] theorem files_noting : (depot.noting calls).site.files = depot.site.files := rfl

@[simp] theorem objects_noting : (depot.noting calls).site.objects = depot.site.objects := rfl

@[simp] theorem calls_noting : (depot.noting calls).site.calls = depot.site.calls ++ calls := rfl

end Depot

/-- Documents of records are read back as they were. -/
theorem Record.mapM_ofDocument (rows : List Record) :
    (rows.map toDocument).mapM ofDocument = .ok rows := by
  induction rows with
  | nil => rfl
  | cons row rows ih =>
      rw [List.map_cons, List.mapM_cons, ofDocument_toDocument, ih]
      rfl

namespace RecordStore

variable {depot : Depot} {memory : Memory}

theorem run_get (h : depot.records.Holds memory) (id : String) :
    ∃ after, (get id).run depot = (.ok (memory.get? id), after) ∧ depot.Keeps after memory := by
  obtain ⟨records, site⟩ := depot
  cases records with
  | memory held =>
      obtain rfl : held = memory := h
      exact ⟨_, rfl, ⟨rfl, .refl site⟩⟩
  | database collection =>
      have hfound : decode? (collection.find? id) = .ok (memory.get? id) := by
        rw [Collection.find?_eq h]
        cases memory.get? id with
        | none => rfl
        | some row => simp [decode?, Record.ofDocument_toDocument]; rfl
      refine ⟨⟨.database collection, ((Site.note (.findOne id)).run site).2⟩, ?_, ⟨h, .note rfl _⟩⟩
      simp [get, Action.run_bind, hfound]

/-- The calls that are noted when a row is entered. -/
def insertions : RecordStore → Record → List Call
  | .memory _, _ => []
  | .database _, record => [.insertOne record.toDocument]

/-- What a store says of a row whose identifier is taken. -/
def refusal : RecordStore → String → Failure
  | .memory _, id => .value (.recordExists id)
  | .database _, _ => .fault .duplicateKey

/-- **An upload that starts** adds its row, whatever the store holds, unless the identifier is
taken. -/
theorem run_start_eq (record : Record) (depot : Depot) :
    let noted := depot.noting (depot.records.insertions record)
    (start record).run depot =
      if depot.records.isTaken record.id then (.error (depot.records.refusal record.id), noted)
      else (.ok ⟨⟩, { noted with records := depot.records.append record }) := by
  obtain ⟨records, site⟩ := depot
  cases records with
  | memory rows =>
      have hstart : rows.start record = if isTaken (.memory rows) record.id
        then .error (.recordExists record.id) else .ok (rows.append record) := rfl
      simp only [start, Action.run_bind, Action.run_get, hstart]
      cases isTaken (.memory rows) record.id <;> simp [insertions, refusal, append]
  | database collection =>
      have hinsert : collection.insert record.id record.toDocument =
        if isTaken (.database collection) record.id then .error .duplicateKey
        else .ok ⟨collection.documents ++ [record.document]⟩ := rfl
      simp only [start, Action.run_bind, Action.run_get, run_note, hinsert]
      cases isTaken (.database collection) record.id <;> rfl

theorem noted_insertions (depot : Depot) (record : Record) :
    Site.Noted depot.site (depot.noting (depot.records.insertions record)).site := by
  obtain ⟨records, site⟩ := depot
  cases records with
  | memory =>
      rw [insertions, Depot.noting_nil]
      exact .refl site
  | database => exact .note rfl site

theorem run_start_of_not_taken (record : Record) (fresh : depot.records.isTaken record.id = false) :
    ∃ site, (start record).run depot = (.ok ⟨⟩, ⟨depot.records.append record, site⟩) ∧
      Site.Noted depot.site site :=
  ⟨_, by rw [run_start_eq, fresh]; rfl, noted_insertions depot record⟩

theorem run_start_of_fresh (h : depot.records.Holds memory) (record : Record)
    (fresh : memory.get? record.id = none) :
    ∃ after, (start record).run depot = (.ok ⟨⟩, after) ∧
      depot.Keeps after (memory.append record) := by
  obtain ⟨site, hrun, hnoted⟩ := run_start_of_not_taken record (by rw [h.isTaken_eq, fresh]; rfl)
  exact ⟨_, hrun, h.append record, hnoted⟩

theorem run_start_of_taken (h : depot.records.Holds memory) (record : Record)
    (taken : (memory.get? record.id).isSome) :
    ∃ after, (start record).run depot = (.error (depot.records.refusal record.id), after) ∧
      depot.Keeps after memory :=
  ⟨depot.noting (depot.records.insertions record), by rw [run_start_eq, h.isTaken_eq, taken]; rfl,
    h, noted_insertions depot record⟩

/-- An upload that has come to its end settles its row, and learns what the row is now. -/
theorem run_finish (h : depot.records.Holds memory) (record : Record) (success : Bool)
    (size : Int) : ∃ after, (finish record success size).run depot =
        (.ok ((memory.finish depot.site.epoch record success size).1.get? record.id), after) ∧
      depot.Keeps after (memory.finish depot.site.epoch record success size).1 := by
  obtain ⟨records, site⟩ := depot
  cases records with
  | memory held =>
      obtain rfl : held = memory := h
      exact ⟨⟨.memory (held.finish site.epoch record success size).1, site⟩, rfl, ⟨rfl, .refl site⟩⟩
  | database collection =>
      -- the document is written first and then read again
      let changes := settlement site.epoch record success size
      let noted : Depot :=
        ⟨.database (collection.update record.id changes),
          ((Site.note (.updateOne record.id changes)).run site).2⟩
      have hkeeps : Depot.Keeps ⟨.database collection, site⟩ noted
          (memory.finish site.epoch record success size).1 :=
        ⟨Collection.update_eq h record site.epoch success size, .note rfl _⟩
      obtain ⟨after, hget, hafter⟩ := run_get hkeeps.holds record.id
      refine ⟨after, ?_, hkeeps.trans hafter⟩
      rw [← hget]
      simp [finish, Action.run_bind, noted, changes]

/-- The new row of an upload is settled where it stands, and nothing else changes. -/
theorem run_finish_append {records : RecordStore} {record uploaded : Record}
    (fresh : records.isTaken record.id = false) (hid : uploaded.id = record.id) (success : Bool)
    (size : Int) (site : Site) :
    let settled := record.settled site.epoch uploaded success size
    ∃ after, (finish uploaded success size).run ⟨records.append record, site⟩ =
        (.ok (some settled), ⟨records.append settled, after⟩) ∧ Site.Noted site after := by
  intro settled
  have hsettled : settled.id = record.id := record.id_settled ..
  cases records with
  | memory held =>
      have hfresh : held.get? record.id = none := by simpa [isTaken] using fresh
      refine ⟨site, ?_, .refl site⟩
      have hrow : (held.append settled).get? uploaded.id = some settled := by
        rw [Memory.get?_append, hid, hfresh, if_pos hsettled, Option.none_or]
      simp only [append, finish, Action.run_bind, Action.run_lift, Action.run_epoch, Action.run_get,
        run_put, Action.run_pure]
      rw [show ((held.append record).finish site.epoch uploaded success size).2 =
        ((held.append record).finish site.epoch uploaded success size).1.get? uploaded.id from rfl,
        Memory.finish_append_of_fresh hfresh hid, hrow]
  | database collection =>
      have hfind : decode? (Collection.find? ⟨collection.documents ++ [settled.document]⟩
          uploaded.id) = .ok (some settled) := by
        rw [hid, ← hsettled, Collection.find?_append (by rw [hsettled]; exact fresh), decode?,
          Record.ofDocument_toDocument]
        rfl
      let written := ((Site.note (.updateOne uploaded.id
        (settlement site.epoch uploaded success size))).run site).2
      refine ⟨((Site.note (.findOne uploaded.id)).run written).2, ?_,
        (Site.Noted.note rfl _).trans (.note rfl _)⟩
      have hupdate := Collection.update_append fresh uploaded site.epoch success size
      rw [← hid] at hupdate
      simp [append, finish, get, Action.run_bind, hupdate, hfind, settled, written]

/-- The database finds the rows that are stale. -/
theorem run_findStale {collection : Collection}
    (h : collection.documents = memory.rows.map Record.document) (olderThan limit : Int)
    (depot : Depot) :
    ∃ site, (findStale olderThan limit collection).run depot =
        (.ok (memory.stale olderThan limit), { depot with site }) ∧ Site.Noted depot.site site := by
  refine ⟨((Site.note (.fetch limit)).run
    ((Site.note (.findStale unusedStatuses olderThan)).run depot.site).2).2, ?_,
    (Site.Noted.note rfl _).trans (.note rfl _)⟩
  simp only [findStale, Action.run_bind, run_note, Collection.stale_eq h, Record.mapM_ofDocument,
    Action.run_ofFault_ok]

/-- The database removes the rows with the given identifiers, whatever has become of them. -/
theorem run_deleteMany {collection : Collection} (ids : List String) (site : Site) :
    (deleteMany ids).run ⟨.database collection, site⟩ =
      (.ok ⟨⟩, ⟨.database (collection.delete ids),
        ((Site.note (.deleteMany ids)).run site).2⟩) := by
  simp [deleteMany, Action.run_bind]

/-- The rows of uploads left unfinished go; the result says where their objects are. -/
theorem run_removeStale (h : depot.records.Holds memory) (olderThan limit : Int) :
    ∃ after, (removeStale olderThan limit).run depot =
        (.ok (memory.removeStale olderThan limit).2, after) ∧
      depot.Keeps after (memory.removeStale olderThan limit).1 := by
  obtain ⟨records, site⟩ := depot
  cases records with
  | memory held =>
      obtain rfl : held = memory := h
      exact ⟨⟨.memory (held.removeStale olderThan limit).1, site⟩, rfl, ⟨rfl, .refl site⟩⟩
  | database collection =>
      obtain ⟨found, hfind, hfound⟩ := run_findStale h olderThan limit ⟨.database collection, site⟩
      simp only [removeStale, Action.run_bind, Action.run_get, hfind]
      by_cases hempty : (memory.stale olderThan limit).isEmpty
      · have hnil : memory.stale olderThan limit = [] := by simpa using hempty
        refine ⟨⟨.database collection, found⟩, ?_, ⟨?_, hfound⟩⟩
        · simp [Memory.removeStale, hnil]
        · simpa [Memory.removeStale, hnil] using h
      · -- nothing comes between finding and deleting here
        let ids := (memory.stale olderThan limit).map (·.id)
        refine ⟨⟨.database (collection.delete ids), ((Site.note (.deleteMany ids)).run found).2⟩,
          ?_, ⟨Collection.delete_eq h ids, hfound.trans (.note rfl _)⟩⟩
        rw [if_neg hempty, Action.run_bind, run_deleteMany]
        rfl

end RecordStore

end MediaDepot
