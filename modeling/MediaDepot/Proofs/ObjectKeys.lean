import MediaDepot.Proofs.Redirects
import MediaDepot.Proofs.RoundTrip
import MediaDepot.Proofs.Settling
import MediaDepot.Proofs.Stranding

/-!
# MediaDepot.Proofs.ObjectKeys

**Whoever deals with the object of a file names it by the same key.** An upload derives the key from
its record, a request derives it from its URL, and a sweep takes it from the row, or derives it from
the identifier of the row if the row does not say where the object is. What makes these agree:

* `Memory.Placed` — a row says nothing of a place, or says that its object is at its own key. With
  `Ledger`, the place of a row that is swept is its own key too (`Ledger.staleLocation_eq`).
* `Site.Concerns` — the operations of a handler concern the objects of the keys that they are given:
  `BucketHandler.concerns_transfer`, `concerns_delete`, `headers_spec`.
* `Memory.Stored` — the object of a row that is ready is there under the key of the row. An upload
  that succeeds has put it there (`BucketHandler.stored_of_transfer`), and a sweep takes other rows.

`Run.keys_agree` puts these together for runs of any length: every call about an object names the
key of a row that the event is about, and the objects of all other rows stay what they are.
-/

namespace MediaDepot

/-! ### Operations of a handler -/

/-- The work concerns objects of these keys alone. -/
def Action.Concerns {α : Type} (named : String → Prop) (work : Action α) : Prop :=
  ∀ depot, Site.Concerns named depot.site (work.run depot).2.site

namespace Action.Concerns

variable {α β : Type} {named : String → Prop}

theorem pure (a : α) : Concerns named (Pure.pure a) := fun depot => .refl named depot.site

theorem fault (fault : Fault) : Concerns named (Action.fault fault : Action α) :=
  fun depot => .refl named depot.site

theorem mediaError (error : MediaError) : Concerns named (Action.mediaError error : Action α) :=
  fun depot => .refl named depot.site

theorem ofFault (outcome : Except Fault α) : Concerns named (Action.ofFault outcome) := by
  cases outcome <;> exact fun depot => .refl named depot.site

theorem ask {report : Fault → Failure} {work : StateM Site (Except Fault α)}
    (h : ∀ site, Site.Concerns named site (work.run site).2) :
    Concerns named (Action.ask report work) := fun depot => h depot.site

theorem bind {work : Action α} {next : α → Action β} (h : work.Concerns named)
    (hnext : ∀ a, (next a).Concerns named) : (work >>= next).Concerns named := fun depot =>
  after_bind (fun before after => Site.Concerns named before.site after.site) Site.Concerns.trans
    (h depot) hnext

theorem mono {more : String → Prop} {work : Action α} (h : work.Concerns named)
    (hmore : ∀ key, named key → more key) : work.Concerns more :=
  fun depot => (h depot).mono hmore

end Action.Concerns

/-- Groups of keys hold just the keys. -/
theorem flatten_batches (keys : List String) : (batches keys).flatten = keys := by
  induction keys using batches.induct with
  | case1 => simp [batches]
  | case2 key rest ih =>
      rw [batches, List.flatten_cons, ih, List.cons_append, List.take_append_drop]

namespace BucketHandler

variable (handler : BucketHandler)

theorem withClient_concerns {α : Type} {named : String → Prop} (operation : String)
    {work : Action α}
    (h : work.Concerns named) : (handler.withClient operation work).Concerns named := by
  unfold withClient
  split
  · exact h
  · exact .fault _

/-- **An upload** concerns the object of its record. -/
theorem concerns_transfer (record : Record) (source : Source) (site : Site) :
    Site.Concerns (· = record.key) site ((handler.transfer record source).run site).2 := by
  have hput : Site.Concerns (· = record.key) site
      ((handler.putObject record source).run site).2 := by
    unfold putObject
    split
    · refine .bind (Site.concerns_putObject ..) fun stored after => ?_
      cases stored with
      | error fault => exact .refl _ after
      | ok size => exact Site.concerns_headObject handler.config.bucket record.key after
    · exact .refl _ site
  -- what is known of the object only goes into the record
  refine .bind hput fun known after => ?_
  rcases known with fault | ⟨size, known⟩
  · exact .refl _ after
  · dsimp only
    cases etagOf known <;> exact .refl _ after

/-- An object that was stored and asked after is there. -/
theorem stored_of_putObject {record : Record} {source : Source} {site : Site} {known : Nat × Json}
    (h : ((handler.putObject record source).run site).1 = .ok known) :
    (((handler.putObject record source).run site).2.objects.objects.lookup record.key).isSome := by
  unfold putObject at h ⊢
  split at h
  · next hconnected =>
      rw [if_pos hconnected]
      rw [StateM.run_bind] at h ⊢
      cases hput : ((Site.putObject handler.config.bucket record.key handler.config.cacheControl
        (contentTypeOf record) source).run site).1 with
      | error fault =>
          rw [hput] at h
          cases h
      | ok size => exact Site.stored_of_putObject hput
  · cases h

/-- **An upload that succeeds** leaves the object there. -/
theorem stored_of_transfer {record : Record} {source : Source} {site : Site} {uploaded : Uploaded}
    (h : ((handler.transfer record source).run site).1.outcome = .ok uploaded) :
    (((handler.transfer record source).run site).2.objects.objects.lookup record.key).isSome := by
  rw [transfer, StateM.run_bind] at h ⊢
  rcases hput : ((handler.putObject record source).run site).1 with fault | known
  · rw [hput] at h
    cases h
  · -- what is known of the object only goes into the record
    have hstored := handler.stored_of_putObject hput
    dsimp only
    cases etagOf known.2 <;> exact hstored

theorem concerns_deleteBatches (batches : List (List String)) :
    (handler.deleteBatches batches).Concerns (· ∈ batches.flatten) := by
  induction batches with
  | nil => exact .pure []
  | cons batch rest ih =>
      refine .bind ?_ fun failures => .bind (ih.mono fun key hkey => ?_) fun more => .pure _
      · refine .bind (handler.withClient_concerns _ (.ask fun site => ?_)) fun answer => .ofFault _
        exact (Site.concerns_deleteObjects handler.config.bucket batch site).mono fun key hkey =>
          List.mem_append_left _ hkey
      · exact List.mem_append_right _ hkey

/-- **A deletion** concerns the objects at the locations given. -/
theorem concerns_delete (locations : List String) :
    (handler.delete locations).Concerns (· ∈ locations) := by
  have hbatches := handler.concerns_deleteBatches (batches locations)
  rw [flatten_batches] at hbatches
  refine .bind hbatches fun failures => ?_
  split
  · exact .pure _
  · exact .mediaError _

end BucketHandler

/-! ### Requests -/

namespace Handler

variable {memory : Memory} {config : ServeConfig}

theorem found_eq_ok {url : String} {uid : Uid} {record : Record}
    (h : found memory config url = .ok (uid, record)) :
    Uid.ofUrl url config.serveUrl = .ok uid ∧ memory.get? uid.text = some record := by
  unfold found at h
  split at h
  · cases h
  · next hurl =>
      split at h
      · cases h
      · split at h
        · next hrow =>
            obtain ⟨rfl, rfl⟩ := Prod.mk.inj (Except.ok.inj h)
            exact ⟨hurl, hrow⟩
        · cases h

end Handler

namespace BucketHandler

variable (handler : BucketHandler) {depot : Depot} {memory : Memory}

/-- Signing a link stores and deletes nothing. -/
theorem signed_spec (h : depot.records.Holds memory) (key : String) (link : Link) :
    let after := ((handler.signed key link).run depot).2
    after.records.Holds memory ∧ after.site.objects.objects = depot.site.objects.objects ∧
      Site.Concerns (· = link.key) depot.site after.site := by
  unfold signed withClient
  split
  · exact ⟨h, rfl, Site.concerns_sign link depot.site⟩
  · exact ⟨h, rfl, .refl _ depot.site⟩

/-- **A request** concerns the object of the row that its URL leads to, and leaves rows and objects
as they are. -/
theorem headers_spec (h : depot.records.Holds memory) (request : FileRequest) :
    let after := ((handler.headers request).run depot).2
    after.records.Holds memory ∧ after.site.objects.objects = depot.site.objects.objects ∧
      Site.Concerns (fun key => ∃ uid record, Handler.found memory handler.config.toServeConfig
        request.url = .ok (uid, record) ∧ uid.key = key) depot.site after.site := by
  intro after
  have hlooked := Handler.keeps_noting h fun call (hcall : call ∈ Handler.openingCalls depot.records
    handler.config.toServeConfig (Text.upper request.method) request) =>
      Handler.mem_openingCalls hcall
  simp only [after, run_headers_eq]
  rcases hprogress : (Handler.opening depot.records handler.config.toServeConfig
    (Text.upper request.method) request).map (handler.progress request) with
    failure | result | ⟨uid, record⟩
  · exact ⟨h, rfl, .of_noted hlooked.noted⟩
  · exact ⟨h, rfl, .of_noted hlooked.noted⟩
  · -- the link that is signed carries the key of the identifier in the URL
    have hfound := Handler.resolve_eq_ok_iff.mpr (progress_eq_unsigned_iff.mp hprogress).leads
    rw [Handler.resolve_of_holds h] at hfound
    simp only [redirect, Action.after_map]
    obtain ⟨hsigned, hobjects, hconcerns⟩ := handler.signed_spec hlooked.holds uid.key
      (handler.signing request uid record).link
    exact ⟨hsigned, hobjects, (Site.Concerns.of_noted hlooked.noted).trans
      (hconcerns.mono fun key hkey => ⟨uid, record, hfound, hkey.symm⟩)⟩

end BucketHandler

/-- **A sweep** concerns the objects at the locations of the rows that it takes. -/
theorem Service.concerns_sweep {depot : Depot} {memory : Memory} (h : depot.records.Holds memory)
    (handler : BucketHandler) (size age : Int) :
    Site.Concerns (· ∈ (memory.removeStale (depot.site.epoch - age) size).2) depot.site
      ((sweep (.bucket handler) size age).run depot).2.site := by
  obtain ⟨swept, ⟨-, hswept⟩, -, hafter⟩ := sweep_after h (.bucket handler) size age
  exact ((Site.Concerns.of_noted hswept).trans (handler.concerns_delete _ swept)).trans
    (.of_noted hafter)

/-! ### Rows and their keys -/

namespace Memory

/-- Every row says nothing of a place, or says that its object is at its own key. -/
def Placed (memory : Memory) : Prop :=
  ∀ row ∈ memory.rows, row.location = "" ∨ row.location = row.key

/-- The object of every row that is ready is there under the key of the row. -/
def Stored (memory : Memory) (objects : ObjectStore) : Prop :=
  ∀ row ∈ memory.rows, row.status = .ready → (objects.objects.lookup row.key).isSome

/-- Work on the objects of other rows leaves those of these rows there. -/
theorem Stored.of_concerns {memory : Memory} {named : String → Prop} {before after : Site}
    (h : memory.Stored before.objects) (hconcerns : Site.Concerns named before after)
    (hothers : ∀ row ∈ memory.rows, row.status = .ready → ¬ named row.key) :
    memory.Stored after.objects := by
  intro row hrow hready
  rw [hconcerns.objects row.key (hothers row hrow hready)]
  exact h row hrow hready

end Memory

/-- Rows of different identifiers have different keys. -/
theorem Record.key_ne {row other : Record} (hrow : ∃ uid : Uid, row.id = uid.text)
    (hother : ∃ uid : Uid, other.id = uid.text) (hne : row.id ≠ other.id) :
    row.key ≠ other.key := by
  obtain ⟨uid, hid⟩ := hrow
  obtain ⟨uid', hid'⟩ := hother
  rw [key_eq hid, key_eq hid']
  intro hkey
  exact hne (by rw [hid, hid', Uid.key_injective hkey])

theorem Ledger.exists_uid {seen : List Uid} {memory : Memory} (h : Ledger seen memory)
    {row : Record} (hrow : row ∈ memory.rows) : ∃ uid : Uid, row.id = uid.text := by
  obtain ⟨uid, -, hid⟩ := h.known row hrow
  exact ⟨uid, hid⟩

/-- **Rows and keys go together**: a row says at most its own key, no other row has this key, the
object of a row that is ready is there under this key, and the key is what a sweep learns of each
row that it takes, whether or not the row says it. -/
structure Depot.Keyed (depot : Depot) : Prop where
  placed : ∀ row ∈ depot.records.rows, row.location = "" ∨ row.location = row.key
  apart : ∀ row ∈ depot.records.rows, ∀ other ∈ depot.records.rows,
    row.id ≠ other.id → row.key ≠ other.key
  stored : ∀ row ∈ depot.records.rows, row.status = .ready →
    (depot.site.objects.objects.lookup row.key).isSome
  swept : ∀ olderThan limit,
    let taken := firstOf limit (depot.records.rows.filter fun row => row.isStale olderThan)
    let swept := (RecordStore.removeStale olderThan limit).run depot
    swept.1 = .ok (taken.map Record.key) ∧
      swept.2.records.rows = depot.records.rows.filter (· ∉ taken)

/-- The store holds rows with identifiers of those seen, each of them says at most its own key, and
the objects of those that are ready are there. -/
structure Depot.InOrder (seen : List Uid) (depot : Depot) (memory : Memory) : Prop where
  holds : depot.records.Holds memory
  ledger : Ledger seen memory
  placed : memory.Placed
  stored : memory.Stored depot.site.objects

theorem Depot.InOrder.keyed {seen : List Uid} {depot : Depot} {memory : Memory}
    (h : depot.InOrder seen memory) : depot.Keyed where
  placed := by
    rw [h.holds.rows_eq]
    exact h.placed
  apart := by
    rw [h.holds.rows_eq]
    exact fun row hrow other hother =>
      Record.key_ne (h.ledger.exists_uid hrow) (h.ledger.exists_uid hother)
  stored := by
    rw [h.holds.rows_eq]
    exact h.stored
  swept olderThan limit := by
    obtain ⟨after, hrun, hholds, -⟩ := RecordStore.run_removeStale h.holds olderThan limit
    rw [h.holds.rows_eq, hrun]
    refine ⟨congrArg Except.ok (List.map_congr_left fun row hrow => h.ledger.staleLocation_eq hrow),
      ?_⟩
    rw [hholds.rows_eq, Memory.removeStale]
    exact h.ledger.distinct.rows_remove fun row hrow => (Memory.mem_stale hrow).1

/-! ### Events -/

namespace Event

/-- The depot after an event, whatever the event comes to. -/
def perform (handler : Handler) (depot : Depot) : Event → Depot
  | clock now => { depot with site := { depot.site with now } }
  | upload uid source mimeType user =>
    ((Service.upload handler source mimeType user).run (depot.drawing uid)).2
  | sweep size age => ((Service.sweep handler size age).run depot).2
  | headers request => ((handler.headers request).run depot).2
  | download url => ((handler.download url).run depot).2

/-- The rows that an event is about: the one that an upload adds, those that a sweep takes, the one
that the URL of a request leads to. -/
def IsAbout (config : ServeConfig) (before after : Depot) (row : Record) : Event → Prop
  | clock _ | download _ => False
  | upload uid _ _ _ => row ∈ after.records.rows ∧ row.id = uid.text
  | sweep _ _ => row ∈ before.records.rows ∧ row ∉ after.records.rows
  | headers request =>
    row ∈ before.records.rows ∧ Uid.ofUrl request.url config.serveUrl = .ok row.uid

/-- **An event minds its own objects**: whatever call it makes about an object names the key of a
row that the event is about, and the objects of all other rows stay what they are. -/
structure MindsItsOwn (config : ServeConfig) (before after : Depot) (event : Event) : Prop where
  concerns : Site.Concerns (fun key => ∃ row, event.IsAbout config before after row ∧ row.key = key)
    before.site after.site
  others : ∀ row, row ∈ before.records.rows ∨ row ∈ after.records.rows →
    (∀ own, event.IsAbout config before after own → own.id ≠ row.id) →
      after.site.objects.objects.lookup row.key = before.site.objects.objects.lookup row.key

theorem IsAbout.mem {config : ServeConfig} {before after : Depot} {row : Record} {event : Event}
    (h : event.IsAbout config before after row) :
    row ∈ before.records.rows ∨ row ∈ after.records.rows := by
  cases event with
  | clock now => cases h
  | upload uid source mimeType user => exact .inr h.1
  | sweep size age => exact .inl h.1
  | headers request => exact .inl h.1
  | download url => cases h

variable {depot : Depot} {seen : List Uid} {memory : Memory} (handler : BucketHandler)

/-- **An upload** adds a row in order, and concerns the object of this row. -/
theorem perform_upload (h : depot.InOrder seen memory) {uid : Uid} (fresh : uid ∉ seen)
    (nonzero : uid.isZero = false) (source : Source) (mimeType user : Option String) :
    let after := (upload uid source mimeType user).perform (.bucket handler) depot
    ∃ row, row.id = uid.text ∧ after.InOrder (uid :: seen) (memory.append row) ∧
      Site.Concerns (· = row.key) depot.site after.site := by
  let record := Service.entered uid mimeType user depot.site.epoch
  have hdrawing : (depot.drawing uid).records.Holds memory := h.holds
  have hnew : memory.get? uid.text = none := h.ledger.get?_eq_none fresh
  have hkey : record.key = uid.key := Record.key_eq rfl
  obtain ⟨begun, transfer, site, after, hbegun, htransfer, hrun, hafter, hnoted⟩ :=
    Service.run_upload_of_fresh hdrawing (Uid.draw_drawing nonzero depot) hnew (.bucket handler)
      source mimeType user
  have hdone : ((Handler.bucket handler).transfer record source).run begun.site =
      (transfer, site) :=
    htransfer
  have hconcerns : Site.Concerns (· = record.key) begun.site
      (((Handler.bucket handler).transfer record source).run begun.site).2 :=
    handler.concerns_transfer record source begun.site
  have hspec (uploaded : Uploaded)
      (h : (((Handler.bucket handler).transfer record source).run begun.site).1.outcome =
        .ok uploaded) := (Handler.bucket handler).transfer_spec_of_ok h
  have hput (uploaded : Uploaded)
      (h : (((Handler.bucket handler).transfer record source).run begun.site).1.outcome =
        .ok uploaded) : ((((Handler.bucket handler).transfer record source).run
          begun.site).2.objects.objects.lookup record.key).isSome := handler.stored_of_transfer h
  rw [hdone, hkey] at hconcerns hspec hput
  have hid : (record.settled site.epoch transfer.record transfer.succeeded transfer.size).id =
      uid.text := Record.id_settled ..
  have hall : Site.Concerns (· = uid.key) depot.site after.site :=
    ((Site.Concerns.of_noted hbegun).trans hconcerns).trans (.of_noted hnoted)
  -- the key of the new row is none of those there are
  have hrest : memory.Stored after.site.objects := h.stored.of_concerns hall fun row hrow _ =>
    Record.key_eq hid ▸ Record.key_ne (h.ledger.exists_uid hrow) ⟨uid, hid⟩
      (hid ▸ Memory.get?_eq_none_iff.mp hnew row hrow)
  rw [perform, hrun]
  refine ⟨_, hid, ⟨hafter, h.ledger.append_settled fresh rfl rfl site.epoch transfer,
    fun row hrow => ?_, fun row hrow hready => ?_⟩, ?_⟩
  · rcases List.mem_append.mp hrow with hrow | hrow
    · exact h.placed row hrow
    · obtain rfl := List.mem_singleton.mp hrow
      rw [Record.key_eq hid]
      obtain ⟨moved, failure | uploaded⟩ := transfer
      · exact .inl rfl
      · exact .inr (hspec uploaded rfl).1
  · rcases List.mem_append.mp hrow with hrow | hrow
    · exact hrest row hrow hready
    · obtain rfl := List.mem_singleton.mp hrow
      rw [Record.key_eq hid, hnoted.objects]
      obtain ⟨moved, failure | uploaded⟩ := transfer
      · cases hready
      · exact hput uploaded rfl
  · rwa [Record.key_eq hid]

/-- **A sweep** leaves the other rows in order, and concerns the objects of the rows that it
takes. -/
theorem perform_sweep (h : depot.InOrder seen memory) (size age : Int) :
    let stale := memory.stale (depot.site.epoch - age) size
    let after := (sweep size age).perform (.bucket handler) depot
    after.InOrder seen (memory.remove (stale.map (·.id))) ∧
      Site.Concerns (fun key => ∃ row ∈ stale, row.key = key) depot.site after.site := by
  intro stale after
  obtain ⟨hholds, -⟩ := Service.sweep_spec h.holds (.bucket handler) size age
  have hconcerns : Site.Concerns (fun key => ∃ row ∈ stale, row.key = key) depot.site after.site :=
    (Service.concerns_sweep h.holds handler size age).mono fun key hkey => by
      obtain ⟨row, hrow, rfl⟩ := List.mem_map.mp hkey
      exact ⟨row, hrow, (h.ledger.staleLocation_eq hrow).symm⟩
  rw [Service.swept_eq h.holds] at hholds
  refine ⟨⟨hholds, h.ledger.remove _, fun row hrow => h.placed row (List.mem_filter.mp hrow).1, ?_⟩,
    hconcerns⟩
  have hstored : memory.Stored after.site.objects := h.stored.of_concerns hconcerns ?_
  · exact fun row hrow => hstored row (List.mem_filter.mp hrow).1
  · -- a row that is ready is not stale, so its key is none of those of the stale rows
    rintro row hrow hready ⟨other, hother, hkey⟩
    have hthere := (Memory.mem_stale hother).1
    by_cases hid : other.id = row.id
    · have hmem := (h.ledger.distinct.id_mem_stale_iff hrow).mp
        (List.mem_map.mpr ⟨other, hother, hid⟩)
      exact Memory.status_of_mem_stale hmem hready
    · exact Record.key_ne (h.ledger.exists_uid hthere) (h.ledger.exists_uid hrow) hid hkey

/-- **One event** keeps rows and keys together, and concerns the objects of the rows that it is
about. -/
theorem perform_spec (h : depot.InOrder seen memory) (event : Event)
    (fresh : ∀ uid ∈ event.drawn, uid ∉ seen)
    (nonzero : ∀ uid ∈ event.drawn, uid.isZero = false) :
    let after := event.perform (.bucket handler) depot
    ∃ memory', after.InOrder (event.drawn ++ seen) memory' ∧ Site.Concerns
      (fun key => ∃ row, event.IsAbout handler.config.toServeConfig depot after row ∧ row.key = key)
      depot.site after.site := by
  intro after
  cases event with
  | clock now =>
      exact ⟨memory, ⟨h.holds, h.ledger, h.placed, h.stored⟩, .of_eq rfl, fun _ _ => rfl⟩
  | upload uid source mimeType user =>
      obtain ⟨row, hid, horder, hconcerns⟩ :=
        perform_upload handler h (fresh uid List.mem_cons_self)
        (nonzero uid List.mem_cons_self) source mimeType user
      refine ⟨_, horder, hconcerns.mono fun key hkey => ?_⟩
      have hrow : row ∈ after.records.rows := by
        rw [horder.holds.rows_eq]
        exact List.mem_append_right _ List.mem_cons_self
      exact ⟨row, ⟨hrow, hid⟩, hkey.symm⟩
  | sweep size age =>
      obtain ⟨horder, hconcerns⟩ := perform_sweep handler h size age
      refine ⟨_, horder, hconcerns.mono fun key hkey => ?_⟩
      obtain ⟨row, hrow, hkey⟩ := hkey
      have hthere : row ∈ depot.records.rows := by
        rw [h.holds.rows_eq]
        exact (Memory.mem_stale hrow).1
      have hgone : row ∉ after.records.rows := by
        rw [show after.records.rows = _ from horder.holds.rows_eq]
        exact Memory.not_mem_remove (List.mem_map.mpr ⟨row, hrow, rfl⟩)
      exact ⟨row, ⟨hthere, hgone⟩, hkey⟩
  | headers request =>
      obtain ⟨hholds, hobjects, hconcerns⟩ := handler.headers_spec h.holds request
      refine ⟨memory, ⟨hholds, h.ledger, h.placed, fun row hrow hready => ?_⟩,
        hconcerns.mono fun key hkey => ?_⟩
      · rw [show after.site.objects.objects = _ from hobjects]
        exact h.stored row hrow hready
      · -- the row that was found has the identifier that the URL names
        obtain ⟨uid, row, hfound, rfl⟩ := hkey
        obtain ⟨hurl, hrow⟩ := Handler.found_eq_ok hfound
        have hid : row.id = uid.text := Memory.id_of_get? hrow
        refine ⟨row, ⟨?_, ?_⟩, Record.key_eq hid⟩
        · rw [h.holds.rows_eq]
          exact Memory.mem_of_get? hrow
        · rw [hurl, Record.uid, hid, Uid.parse_text]
  | download url => exact ⟨memory, h, .refl _ _⟩

/-- **One event** minds its own objects. -/
theorem mindsItsOwn (h : depot.InOrder seen memory) (event : Event)
    (fresh : ∀ uid ∈ event.drawn, uid ∉ seen)
    (nonzero : ∀ uid ∈ event.drawn, uid.isZero = false) :
    event.MindsItsOwn handler.config.toServeConfig depot
      (event.perform (.bucket handler) depot) := by
  obtain ⟨memory', horder, hconcerns⟩ := perform_spec handler h event fresh nonzero
  have hnamed (row : Record) (hrow : row ∈ depot.records.rows ∨
      row ∈ (event.perform (.bucket handler) depot).records.rows) : ∃ uid : Uid,
        row.id = uid.text := by
    rw [h.holds.rows_eq, horder.holds.rows_eq] at hrow
    exact hrow.elim h.ledger.exists_uid horder.ledger.exists_uid
  refine ⟨hconcerns, fun row hrow hothers => hconcerns.objects row.key ?_⟩
  rintro ⟨own, habout, hkey⟩
  exact Record.key_ne (hnamed own habout.mem) (hnamed row hrow) (hothers own habout) hkey

end Event

/-! ### Runs -/

namespace Run

/-- The depot after a run. -/
def performed (handler : Handler) (events : List Event) (depot : Depot) : Depot :=
  events.foldl (Event.perform handler) depot

/-- **Everybody names the same key, at every point of every run**: after any events, rows and keys
go together, and whatever happens next minds its own objects. -/
theorem keys_agree (handler : BucketHandler) {records : RecordStore} (hempty : records.Holds {})
    (site : Site) (earlier : List Event) (event : Event)
    (distinct : (drawn (earlier ++ [event])).Nodup)
    (nonzero : ∀ uid ∈ drawn (earlier ++ [event]), uid.isZero = false) :
    let before := performed (.bucket handler) earlier ⟨records, site⟩
    before.Keyed ∧ event.MindsItsOwn handler.config.toServeConfig before
      (event.perform (.bucket handler) before) := by
  intro before
  have hdrawn : drawn (earlier ++ [event]) = drawn earlier ++ event.drawn := by
    simp [drawn]
  rw [hdrawn] at distinct nonzero
  obtain ⟨hearlier, -, hapart⟩ := List.nodup_append.mp distinct
  have hstart : Depot.InOrder [] ⟨records, site⟩ {} :=
    ⟨hempty, .nil, fun _ h => absurd h List.not_mem_nil, fun _ h => absurd h List.not_mem_nil⟩
  -- the depot stays in order for the identifiers drawn so far
  obtain ⟨seen, ⟨memory, horder⟩, hseen⟩ :=
    foldl_keeps (fun seen depot => ∃ memory, depot.InOrder seen memory)
      (fun event hkept hfresh hnonzero => by
        obtain ⟨memory, horder⟩ := hkept
        obtain ⟨memory', horder', -⟩ := event.perform_spec handler horder hfresh hnonzero
        exact ⟨memory', horder'⟩)
      earlier ⟨{}, hstart⟩ hearlier (by simp)
      fun uid huid => nonzero uid (List.mem_append_left _ huid)
  have hfresh : ∀ uid ∈ event.drawn, uid ∉ seen := fun uid huid hmem => by
    rcases hseen uid hmem with hmem | hmem
    · cases hmem
    · exact hapart uid hmem uid huid rfl
  exact ⟨horder.keyed, event.mindsItsOwn handler horder hfresh
    fun uid huid => nonzero uid (List.mem_append_right _ huid)⟩

/-- One upload succeeds and one fails after its object was stored; much later a sweep comes. -/
theorem keys_agree_of_unanswered :
    let script : List (Operation × Behaviour) :=
      [(.headObject, .reply (.obj [])), (.headObject, .fail (.store .noCredentials))]
    let earlier : List Event := [.upload ⟨5⟩ (.ofBytes [97, 98, 99]) (some "image/png") none,
      .upload ⟨6⟩ (.ofBytes [100]) none none, .clock 5000]
    let before := performed (.bucket ⟨{}, true⟩) earlier ⟨.memory {}, { objects := { script } }⟩
    before.records.rows.length = 2 ∧ before.Keyed ∧
      (Event.sweep 10 100).MindsItsOwn {} before
        ((Event.sweep 10 100).perform (.bucket ⟨{}, true⟩) before) := by
  intro script earlier before
  exact ⟨by decide +kernel, keys_agree ⟨{}, true⟩ (show RecordStore.Holds (.memory {}) {} from rfl)
    { objects := { script } } earlier (.sweep 10 100) (by decide) (by decide)⟩

end Run

end MediaDepot
