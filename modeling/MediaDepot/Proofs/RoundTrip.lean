import MediaDepot.Proofs.Requests
import MediaDepot.Proofs.ServeUrl
import MediaDepot.Proofs.Uploads

/-!
# MediaDepot.Proofs.RoundTrip

**What was uploaded is served, for as long as the depot runs.** A run is a list of events: uploads
under identifiers that are drawn for them, sweeps, requests, and the clock being set. Two things are
kept by every event:

* `Ledger` — the rows are those of identifiers that were drawn, no two of the same one, and a row
  that is not ready says nothing of a location. So the location of a row that is swept is the key of
  its own identifier.
* `Stored` — a file that was uploaded has a ready row and its content lies at its key. No other
  upload has that key and no sweep takes it, since keys of different identifiers are different.

`Run.served_as_uploaded` puts the two together with the way from a URL back to the identifier.
-/

namespace MediaDepot

/-- The key of a record is that of the identifier that it carries. -/
theorem Record.key_eq {record : Record} {uid : Uid} (h : record.id = uid.text) :
    record.key = uid.key := by
  rw [Record.key, Record.uid, h, Uid.parse_text]

/-! ### What is kept -/

/-- The rows of uploads whose identifiers are among the given ones. -/
structure Ledger (seen : List Uid) (memory : Memory) : Prop where
  distinct : memory.Distinct
  known : ∀ row ∈ memory.rows, ∃ uid ∈ seen, row.id = uid.text
  unplaced : ∀ row ∈ memory.rows, row.status ≠ .ready → row.location = ""

/-- A file that was uploaded: its row is ready and its content lies at its key. -/
structure Stored (handler : LocalHandler) (uid : Uid) (mimeType : String) (content : Bytes)
    (memory : Memory) (files : FileTree) : Prop where
  row : ∃ row, memory.get? uid.text = some row ∧ row.status = .ready ∧ row.mimeType = mimeType ∧
    row.location = uid.key ∧ row.etag = Digest.Md5.hexDigest content ∧ row.size = content.length
  content : handler.content uid.key files = .ok content

namespace Ledger

variable {seen : List Uid} {memory : Memory}

theorem nil : Ledger [] {} :=
  ⟨List.nodup_nil, fun _ h => absurd h List.not_mem_nil, fun _ h => absurd h List.not_mem_nil⟩

/-- An identifier that was not drawn yet has no row. -/
theorem get?_eq_none (h : Ledger seen memory) {uid : Uid} (fresh : uid ∉ seen) :
    memory.get? uid.text = none := by
  refine Memory.get?_eq_none_iff.mpr fun row hrow hid => ?_
  obtain ⟨other, hother, htext⟩ := h.known row hrow
  exact fresh (Uid.text_injective (htext.symm.trans hid) ▸ hother)

/-- A new row is that of a new identifier. -/
theorem append (h : Ledger seen memory) {uid : Uid} (fresh : uid ∉ seen) {row : Record}
    (hid : row.id = uid.text) (hplace : row.status ≠ .ready → row.location = "") :
    Ledger (uid :: seen) (memory.append row) where
  distinct := h.distinct.append (hid ▸ h.get?_eq_none fresh)
  known := fun other hother => by
    rcases List.mem_append.mp hother with hother | hother
    · obtain ⟨known, hknown, htext⟩ := h.known other hother
      exact ⟨known, List.mem_cons_of_mem uid hknown, htext⟩
    · obtain rfl := List.mem_singleton.mp hother
      exact ⟨uid, List.mem_cons_self, hid⟩
  unplaced := fun other hother => by
    rcases List.mem_append.mp hother with hother | hother
    · exact h.unplaced other hother
    · obtain rfl := List.mem_singleton.mp hother
      exact hplace

/-- An upload that failed leaves no location behind. -/
theorem append_settled (h : Ledger seen memory) {uid : Uid} (fresh : uid ∉ seen) {record : Record}
    (hid : record.id = uid.text) (hplace : record.location = "") (now : Int) (transfer : Transfer) :
    Ledger (uid :: seen) (memory.append
      (record.settled now transfer.record transfer.succeeded transfer.size)) := by
  refine h.append fresh ((Record.id_settled ..).trans hid) fun hstatus => ?_
  cases hsucceeded : transfer.succeeded with
  | true => simp [hsucceeded, Record.settled, Record.finished] at hstatus
  | false => exact hplace

theorem remove (h : Ledger seen memory) (ids : List String) : Ledger seen (memory.remove ids) where
  distinct := h.distinct.remove ids
  known := fun row hrow => h.known row (List.mem_of_mem_filter hrow)
  unplaced := fun row hrow => h.unplaced row (List.mem_of_mem_filter hrow)

/-- **What is swept is not what was uploaded**: a stale row has another identifier. -/
theorem ne_of_mem_stale (h : Ledger seen memory) {uid : Uid} {ready row : Record}
    (hready : memory.get? uid.text = some ready) (hstatus : ready.status = .ready)
    {olderThan limit : Int} (hrow : row ∈ memory.stale olderThan limit) : row.id ≠ uid.text := by
  intro hid
  have hsame := h.distinct.get?_of_mem (Memory.mem_stale hrow).1
  rw [hid, hready] at hsame
  obtain rfl := Option.some.inj hsame
  exact Memory.status_of_mem_stale hrow hstatus

/-- The object of a stale row lies at its own key: the row says nothing of a location. -/
theorem staleLocation_eq (h : Ledger seen memory) {row : Record} {olderThan limit : Int}
    (hrow : row ∈ memory.stale olderThan limit) : row.staleLocation = row.key := by
  have hunplaced : row.location = "" :=
    h.unplaced row (Memory.mem_stale hrow).1 (Memory.status_of_mem_stale hrow)
  simp [Record.staleLocation, hunplaced]

/-- The object of a stale row lies at the key of an identifier that is not the one of an uploaded
file. -/
theorem key_not_mem_staleLocations (h : Ledger seen memory) {uid : Uid} {ready : Record}
    (hready : memory.get? uid.text = some ready) (hstatus : ready.status = .ready)
    (olderThan limit : Int) :
    uid.key ∉ (memory.stale olderThan limit).map (·.staleLocation) := by
  intro hmem
  obtain ⟨row, hrow, hkey⟩ := List.mem_map.mp hmem
  obtain ⟨other, -, htext⟩ := h.known row (Memory.mem_stale hrow).1
  have hlocation : row.staleLocation = other.key :=
    (h.staleLocation_eq hrow).trans (Record.key_eq htext)
  have hsame : other = uid := Uid.key_injective (hlocation.symm.trans hkey)
  exact h.ne_of_mem_stale hready hstatus hrow (htext.trans (congrArg Uid.text hsame))

end Ledger

namespace Stored

variable {handler : LocalHandler} {seen : List Uid} {memory : Memory} {files after : FileTree}
  {uid : Uid} {mimeType : String} {content : Bytes}

theorem mem_seen (h : Stored handler uid mimeType content memory files)
    (hledger : Ledger seen memory) : uid ∈ seen := by
  obtain ⟨row, hrow, -⟩ := h.row
  obtain ⟨known, hknown, htext⟩ := hledger.known row (Memory.mem_of_get? hrow)
  exact Uid.text_injective (htext.symm.trans (Memory.id_of_get? hrow)) ▸ hknown

/-- A later upload has another key. -/
theorem append (h : Stored handler uid mimeType content memory files) (hledger : Ledger seen memory)
    {other : Uid} (fresh : other ∉ seen) (row : Record)
    (hfiles : FileTree.Spares [other.key] files after) :
    Stored handler uid mimeType content (memory.append row) after where
  row := by
    obtain ⟨ready, hready, hrest⟩ := h.row
    exact ⟨ready, by rw [Memory.get?_append, hready, Option.some_or], hrest⟩
  content := by
    refine handler.content_of_spares hfiles (fun hmem => fresh ?_) h.content
    exact Uid.key_injective (List.mem_singleton.mp hmem) ▸ h.mem_seen hledger

/-- A sweep takes other rows and deletes other files. -/
theorem removeStale (h : Stored handler uid mimeType content memory files)
    (hledger : Ledger seen memory) (olderThan limit : Int)
    (hfiles : FileTree.Spares (memory.removeStale olderThan limit).2 files after) :
    Stored handler uid mimeType content (memory.removeStale olderThan limit).1 after := by
  obtain ⟨ready, hready, hstatus, hrest⟩ := h.row
  refine ⟨⟨ready, ?_, hstatus, hrest⟩, ?_⟩
  · rw [Memory.removeStale, Memory.get?_remove, if_neg, hready]
    intro hmem
    obtain ⟨row, hrow, hid⟩ := List.mem_map.mp hmem
    exact hledger.ne_of_mem_stale hready hstatus hrow hid
  · exact handler.content_of_spares hfiles
      (hledger.key_not_mem_staleLocations hready hstatus olderThan limit) h.content

end Stored

/-! ### Events -/

/-- What may happen to a depot. -/
inductive Event where
  /-- The clock is set. -/
  | clock (now : Rat)
  /-- A file is uploaded, and this identifier is drawn for it. -/
  | upload (uid : Uid) (source : Source) (mimeType user : Option String)
  | sweep (size age : Int)
  | headers (request : FileRequest)
  | download (url : String)

/-- The depot in which an identifier is drawn next. -/
def Depot.drawing (depot : Depot) (uid : Uid) : Depot :=
  let lot := { depot.site.lot with given := uid.value.toNat :: depot.site.lot.given }
  { depot with site := { depot.site with lot } }

namespace Event

/-- The depot after an event, whatever the event comes to. -/
def step (handler : LocalHandler) (depot : Depot) : Event → Depot
  | clock now => { depot with site := { depot.site with now } }
  | upload uid source mimeType user =>
    ((Service.upload (.files handler) source mimeType user).run (depot.drawing uid)).2
  | sweep size age => ((Service.sweep (.files handler) size age).run depot).2
  | headers request => ((handler.headers request).run depot).2
  | download url => ((handler.download url).run depot).2

/-- The identifiers that are drawn. -/
def drawn : Event → List Uid
  | upload uid _ _ _ => [uid]
  | _ => []

end Event

namespace Run

/-- The depot after a run. -/
def after (handler : LocalHandler) (events : List Event) (depot : Depot) : Depot :=
  events.foldl (Event.step handler) depot

/-- The identifiers that are drawn in a run. -/
def drawn (events : List Event) : List Uid := events.flatMap Event.drawn

end Run

/-! ### One event -/

variable {depot : Depot} {seen : List Uid} {memory : Memory} (handler : LocalHandler)

theorem Uid.draw_drawing {uid : Uid} (h : uid.isZero = false) (depot : Depot) :
    Uid.draw (depot.drawing uid).site.lot = (.ok uid, depot.site.lot) := by
  have hvalue : uid.value.toNat ≠ 0 := fun hzero => by
    have : uid.value = 0 := UInt64.toNat_inj.mp hzero
    simp [isZero, this] at h
  have hofInt : ofInt? uid.value.toNat = some uid := by
    have hlt : (uid.value.toNat : Int) < UInt64.size := by
      have := uid.value.toNat_lt
      simp only [UInt64.size]
      omega
    rw [ofInt?, if_pos ⟨Int.natCast_nonneg _, hlt⟩]
    simp
  simp [draw, drawGiven, Depot.drawing, hvalue, hofInt]

/-- **An upload to a folder** under an identifier that was not drawn yet is one transfer to a site
with the files of the depot. It spares the files of other names; if it succeeds, the file is there
and the new row says where and what it is. -/
theorem Service.run_upload_folder (h : depot.records.Holds memory) (hledger : Ledger seen memory)
    {uid : Uid} (fresh : uid ∉ seen) (nonzero : uid.isZero = false) (source : Source)
    (mimeType user : Option String) :
    let record := entered uid mimeType user depot.site.epoch
    ∃ (begun : Site) (transfer : Transfer) (site : Site) (after : Depot),
      begun.files = depot.site.files ∧
      (handler.transfer record source).run begun = (transfer, site) ∧
      (upload (.files handler) source mimeType user).run (depot.drawing uid) =
        (transfer.receipt, after) ∧
      after.records.Holds (memory.append
        (record.settled site.epoch transfer.record transfer.succeeded transfer.size)) ∧
      after.site.files = site.files ∧
      FileTree.Spares [uid.key] depot.site.files after.site.files ∧
      ∀ uploaded, transfer.outcome = .ok uploaded →
        handler.content uid.key after.site.files = .ok source.rest ∧
          transfer.record =
            { record with location := uid.key, etag := Digest.Md5.hexDigest source.rest } ∧
          uploaded = ⟨Handler.urlOf handler.config.toServeConfig record, source.rest.length⟩ := by
  intro record
  have hdrawing : (depot.drawing uid).records.Holds memory := h
  have hkey : record.key = uid.key := Record.key_eq rfl
  have hfresh : memory.get? uid.text = none := hledger.get?_eq_none fresh
  obtain ⟨begun, transfer, site, after, hbegun, htransfer, hrun, hafter, hnoted⟩ :=
    run_upload_of_fresh hdrawing (Uid.draw_drawing nonzero depot) hfresh (.files handler) source
      mimeType user
  obtain ⟨files, hsite, hspares, hstored⟩ := handler.transfer_spec record source begun.site
  have hdone : (handler.transfer record source).run begun.site = (transfer, site) := htransfer
  rw [hdone] at hsite hstored
  have hfiles : after.site.files = files := hnoted.files.trans (congrArg Site.files hsite)
  have hbefore : begun.site.files = depot.site.files := hbegun.files
  rw [hbefore, hkey, ← hfiles] at hspares
  rw [hkey, ← hfiles] at hstored
  exact ⟨begun.site, transfer, site, after, hbefore, hdone, hrun, hafter, hnoted.files, hspares,
    hstored⟩

/-- **One upload**: everything that was stored stays so, and if the upload succeeds, its file is
stored too. -/
theorem Event.upload_spec (h : depot.records.Holds memory)
    (hledger : Ledger seen memory) {uid : Uid}
    (fresh : uid ∉ seen) (nonzero : uid.isZero = false) (source : Source)
    (mimeType user : Option String) :
    let done := (Service.upload (.files handler) source mimeType user).run (depot.drawing uid)
    ∃ memory', done.2.records.Holds memory' ∧ Ledger (uid :: seen) memory' ∧
      (∀ other mimeType content, Stored handler other mimeType content memory depot.site.files →
        Stored handler other mimeType content memory' done.2.site.files) ∧
      ∀ receipt, done.1 = .ok receipt →
        Stored handler uid (Service.typeOf mimeType) source.rest memory' done.2.site.files ∧
          receipt = ⟨uid.text, handler.config.serveUrl ++
            fileName uid.text (some (Service.typeOf mimeType)), source.rest.length,
              Service.typeOf mimeType⟩ := by
  let record := Service.entered uid mimeType user depot.site.epoch
  have hid : record.id = uid.text := rfl
  obtain ⟨begun, transfer, site, after, -, -, hrun, hafter, -, hspares, hstored⟩ :=
    Service.run_upload_folder handler h hledger fresh nonzero source mimeType user
  rw [hrun]
  refine ⟨_, hafter, hledger.append_settled fresh hid rfl site.epoch transfer,
    fun other mimeType content hother => hother.append hledger fresh _ hspares,
    fun receipt hreceipt => ?_⟩
  · obtain ⟨uploaded, houtcome⟩ : ∃ uploaded, transfer.outcome = .ok uploaded := by
      cases houtcome : transfer.outcome with
      | ok uploaded => exact ⟨uploaded, rfl⟩
      | error failure => simp [Transfer.receipt, houtcome, Except.map] at hreceipt
    obtain ⟨hcontent, hrecord, huploaded⟩ := hstored uploaded houtcome
    obtain ⟨settled, outcome⟩ := transfer
    obtain rfl : outcome = .ok uploaded := houtcome
    obtain rfl : settled = _ := hrecord
    obtain rfl : _ = receipt := Except.ok.inj hreceipt
    subst huploaded
    have hrow (row : Record) (hrow : row.id = uid.text) :
        (memory.append row).get? uid.text = some row := by
      rw [Memory.get?_append, hledger.get?_eq_none fresh, if_pos hrow, Option.none_or]
    exact ⟨⟨⟨_, hrow _ (Record.id_settled ..), rfl, rfl, rfl, rfl, rfl⟩, hcontent⟩, rfl⟩

/-- **One sweep**: everything that was stored stays so. -/
theorem Event.sweep_spec (h : depot.records.Holds memory) (hledger : Ledger seen memory)
    (size age : Int) :
    let after := ((Service.sweep (.files handler) size age).run depot).2
    ∃ memory', after.records.Holds memory' ∧ Ledger seen memory' ∧
      ∀ other mimeType content, Stored handler other mimeType content memory depot.site.files →
        Stored handler other mimeType content memory' after.site.files := by
  obtain ⟨hholds, hfiles⟩ := Service.sweep_folder h handler size age
  refine ⟨_, hholds, hledger.remove _, fun other mimeType content hother => ?_⟩
  refine hother.removeStale hledger _ size ?_
  rw [hfiles]
  exact handler.deleteAll_spares _ _

/-- **One event**: everything that was stored stays so. -/
theorem Event.step_spec (h : depot.records.Holds memory) (hledger : Ledger seen memory)
    (event : Event) (fresh : ∀ uid ∈ event.drawn, uid ∉ seen)
    (nonzero : ∀ uid ∈ event.drawn, uid.isZero = false) :
    ∃ memory', (event.step handler depot).records.Holds memory' ∧
      Ledger (event.drawn ++ seen) memory' ∧
      ∀ other mimeType content, Stored handler other mimeType content memory depot.site.files →
        Stored handler other mimeType content memory' (event.step handler depot).site.files := by
  cases event with
  | clock now => exact ⟨memory, h, hledger, fun _ _ _ hother => hother⟩
  | upload uid source mimeType user =>
      obtain ⟨memory', hholds, hledger', hothers, -⟩ := Event.upload_spec handler h hledger
        (fresh uid List.mem_cons_self) (nonzero uid List.mem_cons_self) source mimeType user
      exact ⟨memory', hholds, hledger', hothers⟩
  | sweep size age => exact Event.sweep_spec handler h hledger size age
  | headers request =>
      obtain ⟨after, hrun, hholds, hnoted⟩ := handler.run_headers h request
      simp only [step, hrun]
      exact ⟨memory, hholds, hledger, fun _ _ _ hother => hnoted.files ▸ hother⟩
  | download url =>
      obtain ⟨after, hrun, hholds, hnoted⟩ := handler.run_download h url
      simp only [step, hrun]
      exact ⟨memory, hholds, hledger, fun _ _ _ hother => hnoted.files ▸ hother⟩

/-! ### Runs -/

namespace Run

/-- **A whole run keeps what every event keeps**, and draws no identifiers but its own. -/
theorem foldl_keeps {step : Depot → Event → Depot} (Kept : List Uid → Depot → Prop)
    (hstep : ∀ {seen : List Uid} {depot : Depot} (event : Event), Kept seen depot →
      (∀ uid ∈ event.drawn, uid ∉ seen) → (∀ uid ∈ event.drawn, uid.isZero = false) →
        Kept (event.drawn ++ seen) (step depot event))
    (events : List Event) (h : Kept seen depot) (distinct : (drawn events).Nodup)
    (fresh : ∀ uid ∈ drawn events, uid ∉ seen)
    (nonzero : ∀ uid ∈ drawn events, uid.isZero = false) :
    ∃ seen', Kept seen' (events.foldl step depot) ∧
      ∀ uid ∈ seen', uid ∈ seen ∨ uid ∈ drawn events := by
  induction events generalizing depot seen with
  | nil => exact ⟨seen, h, fun _ => Or.inl⟩
  | cons event events ih =>
      have hdrawn : drawn (event :: events) = event.drawn ++ drawn events := rfl
      rw [hdrawn] at distinct
      obtain ⟨-, hrest, hapart⟩ := List.nodup_append.mp distinct
      have hnext := hstep event h (fun uid huid => fresh uid (List.mem_append_left _ huid))
        fun uid huid => nonzero uid (List.mem_append_left _ huid)
      -- what is drawn later was not drawn by this event either
      have hfresh : ∀ uid ∈ drawn events, uid ∉ event.drawn ++ seen := fun uid huid hmem => by
        rcases List.mem_append.mp hmem with hmem | hmem
        · exact hapart uid hmem uid huid rfl
        · exact fresh uid (List.mem_append_right _ huid) hmem
      obtain ⟨known, hknown, hseen⟩ := ih hnext hrest hfresh
        fun uid huid => nonzero uid (List.mem_append_right _ huid)
      refine ⟨known, hknown, fun uid huid => ?_⟩
      simp only [hdrawn, List.mem_append]
      rcases hseen uid huid with hmem | hmem
      · exact (List.mem_append.mp hmem).symm.imp id Or.inl
      · exact Or.inr (Or.inr hmem)

/-- **A whole run**: everything that was stored stays so. -/
theorem after_spec (events : List Event) (h : depot.records.Holds memory)
    (hledger : Ledger seen memory)
    (distinct : (drawn events).Nodup) (fresh : ∀ uid ∈ drawn events, uid ∉ seen)
    (nonzero : ∀ uid ∈ drawn events, uid.isZero = false) :
    ∃ memory' seen', (after handler events depot).records.Holds memory' ∧ Ledger seen' memory' ∧
      (∀ uid ∈ seen', uid ∈ seen ∨ uid ∈ drawn events) ∧
      ∀ other mimeType content, Stored handler other mimeType content memory depot.site.files →
        Stored handler other mimeType content memory' (after handler events depot).site.files := by
  obtain ⟨seen', ⟨memory', hholds, hledger', hkept⟩, hseen⟩ :=
    foldl_keeps (fun seen now => ∃ memory', now.records.Holds memory' ∧ Ledger seen memory' ∧
      ∀ other mimeType content, Stored handler other mimeType content memory depot.site.files →
        Stored handler other mimeType content memory' now.site.files)
      (fun event hrun hfresh hnonzero => by
        obtain ⟨memory', hholds, hledger, hkept⟩ := hrun
        obtain ⟨memory'', hholds', hledger', hothers⟩ :=
          event.step_spec handler hholds hledger hfresh hnonzero
        exact ⟨memory'', hholds', hledger', fun other mimeType content hother =>
          hothers other mimeType content (hkept other mimeType content hother)⟩)
      events ⟨memory, h, hledger, fun _ _ _ hother => hother⟩ distinct fresh nonzero
  exact ⟨memory', seen', hholds, hledger', hseen, hkept⟩

end Run

/-! ### Serving -/

/-- **A file is served as it was uploaded**: the receipt tells its size, a request for headers its
digest, and a download brings its record and its content, also piece by piece. -/
structure Served (handler : LocalHandler) (depot : Depot) (receipt : Receipt) (mimeType : String)
    (content : Bytes) : Prop where
  size : receipt.size = content.length
  headers : ∀ serve, ∃ result,
    ((handler.headers ⟨"GET", receipt.url, [], serve⟩).run depot).1 = .ok result ∧
      result.status = 0 ∧
      result.headers.lookup "ETag" = some ("\"" ++ Digest.Md5.hexDigest content ++ "\"")
  download : ∃ file, ((handler.download receipt.url).run depot).1 = .ok file ∧
    file.record.id = receipt.id ∧ file.record.mimeType = mimeType ∧
      file.record.size = content.length ∧ file.content = content ∧
      ((Counter.of (.ofBytes file.content)).drain LocalHandler.pieceSize).1 = content

/-- A plain request for content is no question about other origins. -/
theorem CrossOrigin.negotiate_get (allowed : List String) (serve : Bool) :
    negotiate "GET" [] allowed serve = ⟨[], 0⟩ := by
  have hpreflight : isPreflight "GET" = false := by decide
  cases serve <;> simp [negotiate, hpreflight, allowedOrigin, answerHeaders, Headers.get?,
    Headers.getAnyCase?]

/-- The URL of a stored file leads to its row. -/
theorem Handler.found_of_get? {config : ServeConfig}
    (hserve : ServePath config.serveUrl) {uid : Uid}
    (nonzero : uid.isZero = false) {row : Record} (hrow : memory.get? uid.text = some row)
    (mimeType : Option String) :
    found memory config (config.serveUrl ++ fileName uid.text mimeType) = .ok (uid, row) := by
  simp [found, Uid.ofUrl_fileName hserve nonzero, nonzero, hrow]

namespace Stored

variable {handler} {uid : Uid} {mimeType : String} {content : Bytes}

/-- The headers of a stored file tell its digest. -/
theorem run_headers (hstored : Stored handler uid mimeType content memory depot.site.files)
    (h : depot.records.Holds memory) (hserve : ServePath handler.config.serveUrl)
    (nonzero : uid.isZero = false) (shown : Option String) (serve : Bool) :
    ((handler.headers
      ⟨"GET", handler.config.serveUrl ++ fileName uid.text shown, [], serve⟩).run depot).1 =
        .ok { headers := [("Cache-Control", handler.config.cacheControl),
          ("ETag", "\"" ++ Digest.Md5.hexDigest content ++ "\"")] } := by
  obtain ⟨⟨row, hrow, -, -, -, hetag, -⟩, -⟩ := hstored
  let request : FileRequest :=
    ⟨"GET", handler.config.serveUrl ++ fileName uid.text shown, [], serve⟩
  have hupper : Text.upper "GET" = "GET" := by decide
  have hbrings : Handler.bringsContent "GET" = false := by decide
  have hnonempty : row.etag.isEmpty = false := by
    simpa [hetag] using Digest.Md5.hexDigest_ne_empty content
  have hopened : Handler.opened memory handler.config.toServeConfig "GET" request =
      .ok (.file uid row []) := by
    simp [Handler.opened, request, CrossOrigin.negotiate_get, hbrings,
      Handler.found_of_get? hserve nonzero hrow, Except.map]
  -- the request carries no tag, so the file is sent whole
  have hanswer : handler.answer request (.file uid row []) =
      { headers := [("Cache-Control", handler.config.cacheControl),
          ("ETag", Handler.quotedEtag row)] } := by
    simp [LocalHandler.answer, request, hnonempty, Handler.holds, Headers.get?, Headers.getAnyCase?]
  obtain ⟨after, hrun, -⟩ := handler.run_headers h request
  rw [hupper, hopened, Except.map, hanswer, Handler.quotedEtag, hetag] at hrun
  exact congrArg Prod.fst hrun

/-- A stored file is downloaded with its record and its content. -/
theorem run_download (hstored : Stored handler uid mimeType content memory depot.site.files)
    (h : depot.records.Holds memory) (hserve : ServePath handler.config.serveUrl)
    (nonzero : uid.isZero = false) (shown : Option String) :
    ∃ record,
      ((handler.download (handler.config.serveUrl ++ fileName uid.text shown)).run depot).1 =
        .ok ⟨record, content⟩ ∧
      record.id = uid.text ∧ record.mimeType = mimeType ∧ record.size = content.length := by
  obtain ⟨⟨row, hrow, -, hmime, hlocation, -, hsize⟩, hcontent⟩ := hstored
  obtain ⟨after, hrun, -⟩ :=
    handler.run_download h (handler.config.serveUrl ++ fileName uid.text shown)
  rw [Handler.found_of_get? hserve nonzero hrow] at hrun
  simp only [Except.bind, hlocation, hcontent] at hrun
  exact ⟨row, congrArg Prod.fst hrun, Memory.id_of_get? hrow, hmime, hsize⟩

/-- **What is stored is served.** -/
theorem served (hstored : Stored handler uid mimeType content memory depot.site.files)
    (h : depot.records.Holds memory) (hserve : ServePath handler.config.serveUrl)
    (nonzero : uid.isZero = false) (shown : Option String) :
    Served handler depot
      ⟨uid.text, handler.config.serveUrl ++ fileName uid.text shown, content.length, mimeType⟩
      mimeType content where
  size := rfl
  headers serve := ⟨_, hstored.run_headers h hserve nonzero shown serve, rfl, rfl⟩
  download := by
    obtain ⟨record, hrun, hid, hmime, hsize⟩ := hstored.run_download h hserve nonzero shown
    have hdrain := (Counter.drain_of (.ofBytes content) LocalHandler.pieceSize_pos
      (LocalHandler.takes_pieceSize _)).1
    exact ⟨_, hrun, hid, hmime, hsize, rfl, hdrain⟩

end Stored

theorem Service.typeOf_eq (mimeType : Option String) :
    typeOf mimeType = (mimeType.filter (· ≠ "")).getD "application/octet-stream" := by
  cases mimeType with
  | none => rfl
  | some given =>
      by_cases h : given = ""
      · simp [h, typeOf, unknownType, Option.filter]
      · simp [h, typeOf, Option.filter]

/-- **What was uploaded is served, however the run goes on.** -/
theorem Run.served_as_uploaded (hserve : ServePath handler.config.serveUrl)
    {records : RecordStore} (hempty : records.Holds {}) (site : Site) (earlier later : List Event)
    (uid : Uid) (source : Source) (mimeType user : Option String)
    (distinct : (drawn (earlier ++ .upload uid source mimeType user :: later)).Nodup)
    (nonzero : ∀ u ∈ drawn (earlier ++ .upload uid source mimeType user :: later), u.isZero = false)
    {receipt : Receipt}
    (returned : ((Service.upload (.files handler) source mimeType user).run
      ((after handler earlier ⟨records, site⟩).drawing uid)).1 = .ok receipt) :
    Served handler
      (after handler (earlier ++ .upload uid source mimeType user :: later) ⟨records, site⟩) receipt
      ((mimeType.filter (· ≠ "")).getD "application/octet-stream") source.rest := by
  have hstart : (Depot.mk records site).records.Holds {} := hempty
  have hdrawn : drawn (earlier ++ .upload uid source mimeType user :: later) =
      drawn earlier ++ uid :: drawn later := by
    simp [drawn, Event.drawn]
  rw [hdrawn] at distinct nonzero
  obtain ⟨hearlier, hrest, hapart⟩ := List.nodup_append.mp distinct
  obtain ⟨hlater, hlaterNodup⟩ := List.nodup_cons.mp hrest
  -- the run up to the upload, the upload, and the rest of the run
  obtain ⟨memory, seen, hholds, hledger, hseen, -⟩ := after_spec handler earlier hstart .nil
    hearlier (by simp)
    fun u hu => nonzero u (List.mem_append_left _ hu)
  have hfresh : uid ∉ seen := fun hmem => by
    rcases hseen uid hmem with hmem | hmem
    · exact absurd hmem List.not_mem_nil
    · exact hapart uid hmem uid List.mem_cons_self rfl
  have huid : uid.isZero = false := nonzero uid (by simp)
  obtain ⟨memory', hholds', hledger', -, hreturned⟩ :=
    Event.upload_spec handler hholds hledger hfresh huid source mimeType user
  obtain ⟨hstored, rfl⟩ := hreturned receipt returned
  have hfreshLater : ∀ u ∈ drawn later, u ∉ uid :: seen := fun u hu hmem => by
    rcases List.mem_cons.mp hmem with rfl | hmem
    · exact hlater hu
    · rcases hseen u hmem with hmem | hmem
      · exact absurd hmem List.not_mem_nil
      · exact hapart u hmem u (List.mem_cons_of_mem uid hu) rfl
  obtain ⟨memory'', seen'', hholds'', -, -, hkept⟩ := after_spec handler later hholds'
    hledger' hlaterNodup hfreshLater fun u hu => nonzero u (by simp [hu])
  have hafter : after handler (earlier ++ .upload uid source mimeType user :: later) ⟨records,
      site⟩ = after handler later ((Event.upload uid source mimeType user).step handler
        (after handler earlier ⟨records, site⟩)) := by
    simp [after, List.foldl_append]
  rw [hafter, ← Service.typeOf_eq]
  exact (hkept uid _ _ hstored).served hholds'' hserve huid (some (Service.typeOf mimeType))

/-- A picture is uploaded after a sweep, and another upload and a sweep follow. -/
theorem Run.served_as_uploaded_picture :
    Served {} (after {}
      ([.sweep 10 60] ++ .upload ⟨5⟩ (.ofBytes [97, 98, 99]) (some "image/png") none ::
        [.upload ⟨6⟩ ⟨[100], some (.io "lost"), false⟩ none none, .clock 5000, .sweep 10 60])
      ⟨.memory {}, {}⟩)
      ⟨"BQAAAAAAAAA", "/v0/file/s/BQAAAAAAAAA.png", 3, "image/png"⟩ "image/png" [97, 98, 99] :=
  served_as_uploaded {} servePath_default
    (show RecordStore.Holds (.memory {}) {} from rfl) {} [.sweep 10 60]
    [.upload ⟨6⟩ ⟨[100], some (.io "lost"), false⟩ none none, .clock 5000, .sweep 10 60] ⟨5⟩
    (.ofBytes [97, 98, 99]) (some "image/png") none (by decide) (by decide)
    (ok_of_toOption (by decide +kernel))

end MediaDepot
