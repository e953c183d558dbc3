import MediaDepot.Proofs.SignedLinks

/-!
# MediaDepot.Proofs.Managers

**Managers with a handler and a record store of their own.** In a `Program` the vault in use is a
handler with its records, so that the handler cannot but work on these. An `Office` tells apart what
a vault puts together: handlers and record stores are objects with numbers, a handler knows the
number of the store that it enters uploads into (`Keeper`), and a `Manager` holds a handler and a
store, which may be another one.

Building a manager from the settings happens step by step: the objects come into being one after the
other, the handler takes its configuration in place, and any step may fail.
`Office.built_configureFromSettings` is what comes of it: a failure leaves new objects that nobody
holds, a success a manager whose handler enters uploads into the store that the manager has. That a
`Program` does the same as its office is said for each call by itself
(`Office.Sound.configureFromSettings_seen`, `getInstance_seen`, `upload_seen`).
-/

namespace MediaDepot

/-! ### Work that is not about the vault in use -/

namespace Program

variable {α β : Type}

/-- The work does not look at the vault in use and does not change it. -/
def Overlooks (work : Work α) : Prop :=
  ∀ program inUse, work.run { program with inUse } =
    ((work.run program).1, { (work.run program).2 with inUse })

theorem Overlooks.bind {work : Work α} {next : α → Work β} (h : Overlooks work)
    (hnext : ∀ a, Overlooks (next a)) : Overlooks (work >>= next) := by
  intro program inUse
  rw [ExceptT.run_bind_state, ExceptT.run_bind_state, h program inUse]
  rcases work.run program with ⟨failure | a, after⟩
  · rfl
  · exact hnext a after inUse

theorem run_onSite (work : StateM Site α) (program : Program) :
    (liftM (onSite work) : Work α).run program =
      (.ok (work.run program.site).1, { program with site := (work.run program.site).2 }) := rfl

theorem overlooks_onSite (work : StateM Site α) : Overlooks (onSite work : StateM Program α) :=
  fun _ _ => rfl

theorem overlooks_throw (failure : Failure) : Overlooks (throw failure : Work α) := fun _ _ => rfl

theorem overlooks_pure (a : α) : Overlooks (pure a : Work α) := fun _ _ => rfl

theorem run_getSettings (program : Program) :
    getSettings.run program =
      match program.settings with
      | some settings => (.ok settings, program)
      | none =>
        match Settings.load program.environment program.site.files with
        | .ok settings => (.ok settings, { program with settings := some settings })
        | .error fault => (.error (.fault fault), program) := by
  rw [getSettings, ExceptT.run_bind_state,
    show (get : Work Program).run program = (.ok program, program) from rfl]
  dsimp only
  cases program.settings with
  | some settings => rfl
  | none =>
      dsimp only
      rw [ExceptT.run_bind_state]
      cases Settings.load program.environment program.site.files <;> rfl

theorem overlooks_getSettings : Overlooks getSettings := by
  intro program inUse
  obtain ⟨site, environment, settings, registry, held, sweeper, requests⟩ := program
  rw [run_getSettings, run_getSettings]
  cases settings with
  | some settings => rfl
  | none =>
      dsimp only
      cases Settings.load environment site.files <;> rfl

theorem overlooks_openRecords (settings : Settings) :
    Overlooks (openRecords settings : StateM Program RecordStore) := by
  intro program inUse
  unfold openRecords
  cases settings.usesDatabase <;> rfl

theorem run_chooseHandler (settings : Settings) (program : Program) :
    (chooseHandler settings).run program =
      let registry := program.registry.withDefaults
      (match registry.create settings.mediaHandler with
        | .ok backend => pure (.new backend)
        | .error error => throw (.media error) : Work Handler).run { program with registry } := rfl

theorem overlooks_chooseHandler (settings : Settings) : Overlooks (chooseHandler settings) := by
  intro program inUse
  rw [run_chooseHandler, run_chooseHandler]
  dsimp only
  cases program.registry.withDefaults.create settings.mediaHandler <;> rfl

/-- Builds a vault from the settings, which is not yet in use. -/
def build : Work Vault := do
  let settings ← getSettings
  let records ← (openRecords settings : StateM Program _)
  let handler ← chooseHandler settings
  let (handler, outcome) ← (onSite (handler.init (configOf settings) false) : StateM Program _)
  match outcome with
  | .error failure => throw failure
  | .ok _ =>
    let line := "media handler '" ++ handler.backend.name ++ "' initialized"
    (onSite (Site.say .info line) : StateM Program Unit)
    return ⟨handler, records⟩

theorem overlooks_build : Overlooks build := by
  refine overlooks_getSettings.bind fun settings => ?_
  refine (overlooks_openRecords settings).bind fun records => ?_
  refine (overlooks_chooseHandler settings).bind fun handler => ?_
  refine (overlooks_onSite _).bind fun made => ?_
  obtain ⟨handler, failure | done⟩ := made
  · exact overlooks_throw failure
  · exact (overlooks_onSite _).bind fun _ => overlooks_pure _

/-- **Configuring the program** is to build a vault, and to put it in use if that has not failed. -/
theorem run_configure (program : Program) :
    configure.run program =
      match build.run program with
      | (.ok vault, after) => (.ok vault, { after with inUse := some vault })
      | (.error failure, after) => (.error failure, after) := by
  rw [configure, build, ExceptT.run_bind_state, ExceptT.run_bind_state]
  rcases getSettings.run program with ⟨failure | settings, read⟩
  · rfl
  dsimp only
  rw [ExceptT.run_bind_state, ExceptT.run_bind_state]
  rcases (liftM (openRecords settings) : Work RecordStore).run read with ⟨failure | records, opened⟩
  · rfl
  dsimp only
  rw [ExceptT.run_bind_state, ExceptT.run_bind_state]
  rcases (chooseHandler settings).run opened with ⟨failure | handler, chosen⟩
  · rfl
  dsimp only
  rw [ExceptT.run_bind_state, ExceptT.run_bind_state]
  rcases (liftM (onSite (handler.init (configOf settings) false)) : Work _).run chosen with
    ⟨failure | ⟨handler, failure | done⟩, ready⟩ <;> rfl

end Program

/-! ### Objects -/

/-- A handler as an object: it enters uploads into the record store of this number. -/
structure Keeper where
  handler : Handler
  store : Nat

/-- A manager: the handler and the record store that it holds, by their numbers. -/
structure Manager where
  keeper : Nat
  store : Nat
  deriving DecidableEq, Repr

/-- A running program in which handlers, record stores and managers are told apart. -/
structure Office where
  program : Program := {}
  stores : List RecordStore := []
  keepers : List Keeper := []
  managers : List Manager := []
  /-- The manager in use. -/
  current : Option Nat := none

/-- Work in an office that may fail. -/
abbrev Task (α : Type) := ExceptT Failure (StateM Office) α

namespace Office

/-- The vault that a manager is. -/
def vaultAt (office : Office) (number : Nat) : Option Vault := do
  let manager ← office.managers[number]?
  let keeper ← office.keepers[manager.keeper]?
  let records ← office.stores[manager.store]?
  return ⟨keeper.handler, records⟩

/-- The running program, where objects are not told apart. -/
def seen (office : Office) : Program :=
  { office.program with inUse := office.current.bind office.vaultAt }

/-- Work of the program that is not about the vault in use. -/
def inProgram {α : Type} (work : Work α) : Task α :=
  ExceptT.mk <| modifyGet fun office =>
    let (outcome, program) := work.run office.program
    (outcome, { office with program })

/-- A new record store. -/
def addStore (records : RecordStore) : StateM Office Nat :=
  modifyGet fun office => (office.stores.length,
    { office with stores := office.stores ++ [records] })

/-- A new handler. -/
def addKeeper (handler : Handler) (store : Nat) : StateM Office Nat :=
  modifyGet fun office =>
    (office.keepers.length, { office with keepers := office.keepers ++ [⟨handler, store⟩] })

/-- A handler takes a new configuration where it stands, and is then as the result says. -/
def initKeeper (number : Nat) (raw : RawConfig) : Task Handler := do
  let some keeper := (← get).keepers[number]? | return default
  let (handler, outcome) ← inProgram
    (Program.onSite (keeper.handler.init raw false) : StateM Program _)
  modify fun office =>
    { office with keepers := office.keepers.set number { keeper with handler } }
  match outcome with
  | .error failure => throw failure
  | .ok _ => return handler

/-- Puts a new manager in use, with a handler and a store. -/
def configure (keeper store : Nat) : StateM Office Nat :=
  modifyGet fun office =>
    let number := office.managers.length
    (number,
      { office with managers := office.managers ++ [⟨keeper, store⟩], current := some number })

/-- Builds a manager from the settings and puts it in use. -/
def configureFromSettings : Task Nat := do
  let settings ← inProgram Program.getSettings
  let records ← inProgram (Program.openRecords settings : StateM Program _)
  let store ← (addStore records : StateM Office _)
  let handler ← inProgram (Program.chooseHandler settings)
  let keeper ← (addKeeper handler store : StateM Office _)
  let handler ← initKeeper keeper (Program.configOf settings)
  let line := "media handler '" ++ handler.backend.name ++ "' initialized"
  inProgram (Program.onSite (Site.say .info line) : StateM Program Unit)
  (configure keeper store : StateM Office _)

/-- The manager in use, built from the settings if there is none. -/
def getInstance : Task Nat := do
  match (← get).current with
  | some number => return number
  | none => configureFromSettings

/-- No manager is in use any more. -/
def reset : StateM Office Unit := modify fun office => { office with current := none }

/-! ### Building a manager -/

theorem run_get (office : Office) : (get : Task Office).run office = (.ok office, office) := rfl

theorem run_inProgram {α : Type} (work : Work α) (office : Office) :
    (inProgram work).run office =
      ((work.run office.program).1, { office with program := (work.run office.program).2 }) := rfl

theorem run_addStore (records : RecordStore) (office : Office) :
    (liftM (addStore records) : Task Nat).run office =
      (.ok office.stores.length, { office with stores := office.stores ++ [records] }) := rfl

theorem run_addKeeper (handler : Handler) (store : Nat) (office : Office) :
    (liftM (addKeeper handler store) : Task Nat).run office =
      (.ok office.keepers.length,
        { office with keepers := office.keepers ++ [⟨handler, store⟩] }) := rfl

theorem run_initKeeper {office : Office} {number : Nat} {keeper : Keeper}
    (h : office.keepers[number]? = some keeper) (raw : RawConfig) :
    (initKeeper number raw).run office =
      let ((handler, outcome), site) := (keeper.handler.init raw false).run office.program.site
      (outcome.map fun _ => handler,
        { office with
          program := { office.program with site }
          keepers := office.keepers.set number { keeper with handler } }) := by
  rw [initKeeper, ExceptT.run_bind_state, run_get]
  simp only [h]
  rw [ExceptT.run_bind_state, run_inProgram, Program.run_onSite]
  rcases (keeper.handler.init raw false).run office.program.site with
    ⟨⟨handler, failure | done⟩, site⟩ <;> rfl

/-- Every object is as it was, and so is the manager in use; there may be new stores and new
handlers. -/
structure Keeps (before after : Office) : Prop where
  current : after.current = before.current
  managers : after.managers = before.managers
  keepers : before.keepers <+: after.keepers
  stores : before.stores <+: after.stores

/-- What building a vault and building a manager come to, side by side. -/
inductive Built (office : Office) :
    Except Failure Vault × Program → Except Failure Nat × Office → Prop
  | failed {failure : Failure} {program : Program} {after : Office}
      (hprogram : after.program = program) (hkeeps : office.Keeps after) :
    Built office (.error failure, program) (.error failure, after)
  /-- The new manager is in use, and its handler enters uploads into the store that the manager
  has. -/
  | made (vault : Vault) (program : Program) :
    Built office (.ok vault, program)
      (.ok office.managers.length,
        { program
          stores := office.stores ++ [vault.records]
          keepers := office.keepers ++ [⟨vault.handler, office.stores.length⟩]
          managers := office.managers ++ [⟨office.keepers.length, office.stores.length⟩]
          current := some office.managers.length })

/-- **Building a manager from the settings** goes with building a vault, step by step. -/
theorem built_configureFromSettings (office : Office) :
    Built office (Program.build.run office.program) (configureFromSettings.run office) := by
  rw [configureFromSettings, Program.build, ExceptT.run_bind_state, ExceptT.run_bind_state,
    run_inProgram]
  rcases Program.getSettings.run office.program with ⟨failure | settings, read⟩
  · exact .failed rfl ⟨rfl, rfl, List.prefix_rfl, List.prefix_rfl⟩
  dsimp only
  rw [ExceptT.run_bind_state, ExceptT.run_bind_state, run_inProgram]
  rcases (liftM (Program.openRecords settings) : Work RecordStore).run read with
    ⟨failure | records, opened⟩
  · exact .failed rfl ⟨rfl, rfl, List.prefix_rfl, List.prefix_rfl⟩
  dsimp only
  -- from here on there is a new store, which nobody holds yet
  rw [ExceptT.run_bind_state (liftM (addStore records)), run_addStore]
  dsimp only
  rw [ExceptT.run_bind_state, ExceptT.run_bind_state, run_inProgram]
  rcases (Program.chooseHandler settings).run opened with ⟨failure | handler, chosen⟩
  · exact .failed rfl ⟨rfl, rfl, List.prefix_rfl, List.prefix_append _ _⟩
  dsimp only
  -- and a new handler, which takes its configuration where it stands
  rw [ExceptT.run_bind_state (liftM (addKeeper handler _)), run_addKeeper]
  dsimp only
  rw [ExceptT.run_bind_state, ExceptT.run_bind_state (initKeeper _ _),
    run_initKeeper List.getElem?_concat_length, Program.run_onSite]
  dsimp only
  rcases (handler.init (Program.configOf settings) false).run chosen.site with
    ⟨⟨configured, failure | done⟩, site⟩
  all_goals
    have hset (before after : Keeper) :
        (office.keepers ++ [before]).set office.keepers.length after = office.keepers ++
          [after] := by simp
    simp only [hset]
  · exact .failed rfl ⟨rfl, rfl, List.prefix_append _ _, List.prefix_append _ _⟩
  · exact .made ⟨configured, records⟩ _

/-! ### What the program sees -/

/-- The objects that managers hold are there, and so is the manager in use. -/
structure Sound (office : Office) : Prop where
  current : ∀ number, office.current = some number → number < office.managers.length
  held : ∀ manager ∈ office.managers,
    manager.keeper < office.keepers.length ∧ manager.store < office.stores.length

/-- What came of work that gives a manager, where objects are not told apart. -/
def seeing (done : Except Failure Nat × Office) : Except Failure Vault × Program :=
  (done.1.map fun number => (done.2.vaultAt number).getD default, done.2.seen)

variable {office : Office}

theorem run_getInstance_of_current {number : Nat} (h : office.current = some number) :
    getInstance.run office = (.ok number, office) := by
  rw [getInstance, ExceptT.run_bind_state, run_get]
  simp only [h]
  rfl

theorem run_getInstance_of_none (h : office.current = none) :
    getInstance.run office = configureFromSettings.run office := by
  rw [getInstance, ExceptT.run_bind_state, run_get]
  simp only [h]

theorem vaultAt_eq_some {number : Nat} {manager : Manager} {keeper : Keeper} {records : RecordStore}
    (hmanager : office.managers[number]? = some manager)
    (hkeeper : office.keepers[manager.keeper]? = some keeper)
    (hrecords : office.stores[manager.store]? = some records) :
    office.vaultAt number = some ⟨keeper.handler, records⟩ := by
  simp [vaultAt, hmanager, hkeeper, hrecords]

/-- A manager is a vault, and stays the same vault while every object stays as it is. -/
theorem Sound.exists_vaultAt (h : office.Sound) {number : Nat}
    (hnumber : number < office.managers.length) : ∃ vault, office.vaultAt number = some vault ∧
      ∀ after, office.Keeps after → after.vaultAt number = some vault := by
  have hmanager := List.getElem?_eq_getElem hnumber
  obtain ⟨hheld, hstored⟩ := h.held _ (List.getElem_mem hnumber)
  have hkeeper := List.getElem?_eq_getElem hheld
  have hrecords := List.getElem?_eq_getElem hstored
  refine ⟨_, vaultAt_eq_some hmanager hkeeper hrecords, ?_⟩
  rintro after ⟨-, hmanagers, ⟨keepers, hkeepers⟩, ⟨stores, hstores⟩⟩
  refine vaultAt_eq_some (by rw [hmanagers, hmanager]) ?_ ?_
  · rw [← hkeepers, List.getElem?_append_left hheld, hkeeper]
  · rw [← hstores, List.getElem?_append_left hstored, hrecords]

/-- New objects that nobody holds are not seen. -/
theorem Sound.seen_eq (h : office.Sound) {after : Office} (hkeeps : office.Keeps after) :
    after.seen = { after.program with inUse := office.seen.inUse } := by
  unfold seen
  rw [hkeeps.current]
  cases hcurrent : office.current with
  | none => rfl
  | some number =>
      obtain ⟨vault, hvault, hlater⟩ := h.exists_vaultAt (h.current number hcurrent)
      simp only [Option.bind_some, hvault, hlater after hkeeps]

/-- **A program configures itself** as its office builds a manager. -/
theorem Sound.configureFromSettings_seen (h : office.Sound) :
    Program.configure.run office.seen = seeing (configureFromSettings.run office) := by
  have hbuilt := office.built_configureFromSettings
  rw [Program.run_configure, seen, Program.overlooks_build]
  generalize Program.build.run office.program = vaultBuilt at hbuilt
  generalize configureFromSettings.run office = managerBuilt at hbuilt
  cases hbuilt with
  | failed hprogram hkeeps =>
      rw [seeing, h.seen_eq hkeeps, hprogram]
      rfl
  | made vault program =>
      have hvault : Office.vaultAt
          { program
            stores := office.stores ++ [vault.records]
            keepers := office.keepers ++ [⟨vault.handler, office.stores.length⟩]
            managers := office.managers ++ [⟨office.keepers.length, office.stores.length⟩]
            current := some office.managers.length } office.managers.length = some vault := by
        simp [vaultAt]
      simp only [seeing, seen, Except.map, Option.bind_some, hvault, Option.getD_some]

/-- **A program gives the vault in use** as its office gives the manager in use. -/
theorem Sound.getInstance_seen (h : office.Sound) :
    Program.vault.run office.seen = seeing (getInstance.run office) := by
  cases hcurrent : office.current with
  | none =>
      have hnone : office.seen.inUse = none := by simp [seen, hcurrent]
      rw [run_getInstance_of_none hcurrent, ← h.configureFromSettings_seen, Program.vault,
        ExceptT.run_bind_state, show (get : Work Program).run office.seen =
          (.ok office.seen, office.seen) from rfl]
      simp only [hnone]
  | some number =>
      obtain ⟨vault, hvault, -⟩ := h.exists_vaultAt (h.current number hcurrent)
      have hinUse : office.seen.inUse = some vault := by simp [seen, hcurrent, hvault]
      rw [run_getInstance_of_current hcurrent, Program.run_vault_of_inUse hinUse, seeing,
        Except.map, hvault, Option.getD_some]

/-! ### Uploads -/

/-- Work with the records of a store. -/
def withStore {α : Type} (store : Nat) (work : Action α) : Task α :=
  ExceptT.mk <| modifyGet fun office =>
    let (outcome, depot) := work.run ⟨office.stores.getD store (.memory {}), office.program.site⟩
    (outcome, { office with
      program := { office.program with site := depot.site }
      stores := office.stores.set store depot.records })

/-- Takes a new file: the handler enters the upload into its own store, and the row is settled in
the store that is named. -/
def upload (keeper : Keeper) (store : Nat) (source : Source) (mimeType user : Option String) :
    Task Receipt := do
  let uid ← withStore store Service.drawUid
  let record := Service.newRecord uid mimeType user
  let transfer ← withStore keeper.store
    (keeper.handler.upload record source : StateM Depot Transfer)
  withStore store (Service.settle transfer)

theorem run_withStore {α : Type} {store : Nat} {records : RecordStore}
    (h : office.stores[store]? = some records) (work : Action α) :
    (withStore store work).run office =
      let (outcome, depot) := work.run ⟨records, office.program.site⟩
      (outcome, { office with
        program := { office.program with site := depot.site }
        stores := office.stores.set store depot.records }) := by
  have hfound : office.stores.getD store (.memory {}) = records := by
    rw [List.getD_eq_getElem?_getD, h, Option.getD_some]
  rw [← hfound]
  rfl

/-- One step after another with the same store. -/
theorem withStore_bind {α β : Type} {store : Nat} (h : store < office.stores.length)
    (work : Action α) (next : α → Action β) :
    (withStore store (work >>= next)).run office =
      (withStore store work >>= fun a => withStore store (next a)).run office := by
  have hrecords := List.getElem?_eq_getElem h
  rw [run_withStore hrecords, Action.run_bind, ExceptT.run_bind_state, run_withStore hrecords]
  rcases work.run ⟨office.stores[store], office.program.site⟩ with ⟨failure | a, depot⟩
  · rfl
  · have hafter : (office.stores.set store depot.records)[store]? = some depot.records := by
      simp [h]
    dsimp only
    rw [run_withStore hafter]
    simp

theorem length_stores_withStore {α : Type} (store : Nat) (work : Action α) (office : Office) :
    ((withStore store work).run office).2.stores.length = office.stores.length :=
  List.length_set

/-- **An upload through a handler of the same store** is an upload to a vault: its start and its end
are about the same rows. -/
theorem upload_of_same_store {keeper : Keeper} (h : keeper.store < office.stores.length)
    (source : Source) (mimeType user : Option String) :
    (upload keeper keeper.store source mimeType user).run office =
      (withStore keeper.store (Service.upload keeper.handler source mimeType user)).run office := by
  rw [Service.upload, withStore_bind h, upload, ExceptT.run_bind_state, ExceptT.run_bind_state]
  have hlength := length_stores_withStore keeper.store Service.drawUid office
  rcases hdraw : (withStore keeper.store Service.drawUid).run office with ⟨failure | uid, drawn⟩
  · rfl
  · rw [hdraw] at hlength
    dsimp only at hlength ⊢
    rw [withStore_bind (by rwa [hlength])]

/-- **A program uploads** as its office does, if the handler in use enters uploads into the store in
use. -/
theorem Sound.upload_seen (h : office.Sound) {number : Nat} {manager : Manager} {keeper : Keeper}
    (hcurrent : office.current = some number) (hmanager : office.managers[number]? = some manager)
    (hkeeper : office.keepers[manager.keeper]? = some keeper) (hsame : keeper.store = manager.store)
    (source : Source) (mimeType user : Option String) :
    (Program.upload source mimeType user).run office.seen =
      let (outcome, after) := (upload keeper manager.store source mimeType user).run office
      (outcome, after.seen) := by
  have hstore := (h.held manager (List.mem_of_getElem? hmanager)).2
  obtain ⟨records, hrecords⟩ : ∃ records, office.stores[manager.store]? = some records :=
    ⟨_, List.getElem?_eq_getElem hstore⟩
  have hinUse : office.seen.inUse = some ⟨keeper.handler, records⟩ := by
    simp [seen, hcurrent, vaultAt_eq_some hmanager hkeeper hrecords]
  rw [Program.upload, Program.run_useVault, Program.run_vault_of_inUse hinUse, ← hsame,
    upload_of_same_store (hsame ▸ hstore), hsame, run_withStore hrecords]
  dsimp only [Vault.run, seen]
  rcases (Service.upload keeper.handler source mimeType user).run ⟨records,
    office.program.site⟩ with
    ⟨outcome, depot⟩
  have hafter : Office.vaultAt { office with
      program := { office.program with site := depot.site }
      stores := office.stores.set manager.store depot.records } number =
        some ⟨keeper.handler, depot.records⟩ :=
    vaultAt_eq_some hmanager hkeeper (by simp [hstore])
  rw [hcurrent] at hafter
  simp only [hcurrent, Option.bind_some, hafter]

end Office

end MediaDepot
