import MediaDepot.Service
import MediaDepot.Settings

/-!
# The running program

What a running program keeps: its settings once they are read, the vault that is in use, and whether
the periodical sweep runs.

* `Vault` — a handler together with the records of its files.
* `Program.configure` — builds a vault from the settings and puts it in use, or fails and leaves the
  one in use as it is.
* `Program.vault` — the vault in use, built from the settings if there is none.
* `Program.startUp`, `shutDown` — beginning and end of a run.
-/

namespace MediaDepot

/-- A handler together with the records of its files. -/
structure Vault where
  handler : Handler
  records : RecordStore
  deriving Inhabited

/-- What a running program keeps. -/
structure Program where
  site : Site := {}
  environment : Environment := []
  /-- The settings, once they are read. -/
  settings : Option Settings := none
  registry : Registry := []
  /-- The vault in use. -/
  inUse : Option Vault := none
  /-- The seconds between two sweeps, if the periodical sweep runs. -/
  sweeper : Option Int := none
  /-- How many requests were given an id. -/
  requests : Nat := 0
  deriving Inhabited

/-- Work of a running program that may fail. What was done before a failure stays done. -/
abbrev Work (α : Type) := ExceptT Failure (StateM Program) α

namespace Vault

/-- Works on a vault at a site. -/
def run {α : Type} (vault : Vault) (site : Site) (work : Handler → Action α) :
    Except Failure α × Vault × Site :=
  let (outcome, depot) := (work vault.handler).run ⟨vault.records, site⟩
  (outcome, { vault with records := depot.records }, depot.site)

/-- Takes a new configuration for the handler. -/
def init (vault : Vault) (site : Site) (raw : RawConfig) (given : Bool) :
    Except Failure Unit × Vault × Site :=
  let ((handler, outcome), site) := (vault.handler.init raw given).run site
  (outcome, { vault with handler }, site)

/-- A vault with a new handler and no records. -/
def new (backend : Backend) (usesDatabase : Bool) : Vault where
  handler := .new backend
  records := if usesDatabase then .database {} else .memory {}

end Vault

namespace Program

/-- Work on the site alone. -/
def onSite {α : Type} (work : StateM Site α) : StateM Program α :=
  modifyGet fun program =>
    let (a, site) := work.run program.site
    (a, { program with site })

/-- The outcome of work, whether it fails or not. -/
def attempt {α : Type} (work : Work α) : Work (Except Failure α) :=
  ExceptT.mk do return .ok (← work.run)

/-- What was read, or the failure for a fault. -/
def ofFault {α : Type} : Except Fault α → Work α
  | .ok a => pure a
  | .error fault => throw (.fault fault)

/-- The settings, which are read only once. -/
def getSettings : Work Settings := do
  let program ← get
  match program.settings with
  | some settings => return settings
  | none =>
    let settings ← ofFault (Settings.load program.environment program.site.files)
    modify fun program => { program with settings := some settings }
    return settings

/-- Replaces the environment; the settings are read anew. -/
def setEnvironment (environment : Environment) : StateM Program Unit :=
  modify fun program => { program with environment, settings := none }

/-- How long, in thousandths of a second, a connection to the database may take. -/
def databaseTimeout : Nat := 2000

/-- The collection of the database that holds the records. -/
def collectionName : String := "files"

/-- The empty record store that the settings choose. -/
def openRecords (settings : Settings) : StateM Program RecordStore := do
  if settings.usesDatabase then
    onSite (Site.note (.openDatabase settings.databaseUrl databaseTimeout))
    onSite (Site.note (.openCollection settings.databaseName collectionName))
    return .database {}
  else return .memory {}

/-- The configuration of the handler in the settings. -/
def configOf (settings : Settings) : RawConfig :=
  match settings.mediaConfig with
  | some text => .text text
  | none => .absent

/-- A new handler of the kind that the settings choose. -/
def chooseHandler (settings : Settings) : Work Handler := do
  let registry := (← get).registry.withDefaults
  modify fun program => { program with registry }
  match registry.create settings.mediaHandler with
  | .ok backend => return .new backend
  | .error error => throw (.media error)

/-- Builds a vault from the settings and puts it in use. -/
def configure : Work Vault := do
  let settings ← getSettings
  let records ← (openRecords settings : StateM Program _)
  let handler ← chooseHandler settings
  let (handler, outcome) ← (onSite (handler.init (configOf settings) false) : StateM Program _)
  match outcome with
  | .error failure => throw failure
  | .ok _ =>
    let line := "media handler '" ++ handler.backend.name ++ "' initialized"
    (onSite (Site.say .info line) : StateM Program Unit)
    let vault : Vault := ⟨handler, records⟩
    modify fun program => { program with inUse := some vault }
    return vault

/-- The vault in use, built from the settings if there is none. -/
def vault : Work Vault := do
  match (← get).inUse with
  | some vault => return vault
  | none => configure

/-- No vault is in use any more. -/
def reset : StateM Program Unit := modify fun program => { program with inUse := none }

/-- Works on the vault in use. -/
def useVault {α : Type} (work : Handler → Action α) : Work α := do
  let vault ← vault
  let program ← get
  let (outcome, vault, site) := vault.run program.site work
  set { program with inUse := some vault, site }
  ExceptT.mk (pure outcome)

/-- Takes a new file. -/
def upload (source : Source) (mimeType user : Option String) : Work Receipt :=
  useVault fun handler => Service.upload handler source mimeType user

/-- Removes unfinished uploads. -/
def sweep (size age : Int) : Work Nat := useVault fun handler => Service.sweep handler size age

/-- The sweep that the clock calls for: a media error is noted and otherwise passed over. -/
def scheduledSweep : Work Unit := do
  let settings ← getSettings
  match ← attempt (sweep settings.sweepSize settings.sweepAge) with
  | .ok _ => return
  | .error (.media _) =>
    (onSite (Site.say .error "scheduled file garbage collection failed") : StateM Program Unit)
  | .error failure => throw failure

/-- The seconds from now to the end of the calendar, which ends with the year 9999. -/
def calendarSpan : Int := 251635075199

/-- Starts the periodical sweep. -/
def startSweeper (period : Int) : Work Unit := do
  if calendarSpan < period then throw (.fault (.overflow "date value out of range"))
  let running := (← get).sweeper.isSome
  modify fun program => { program with sweeper := some period }
  if running then throw (.fault .sweeperRuns)

/-- The beginning of a run: a vault is put in use, and unless the period is zero the periodical
sweep starts. -/
def startUp : Work Unit := do
  let settings ← getSettings
  let _ ← configure
  if 0 < settings.sweepPeriod then startSweeper settings.sweepPeriod

/-- The end of a run. -/
def shutDown : StateM Program Unit := modify fun program => { program with sweeper := none }

end Program

end MediaDepot
