import MediaDepot.Proofs.Actions
import MediaDepot.Proofs.FileNames
import MediaDepot.Settings

/-!
# MediaDepot.Proofs.Startup

**What the checks of the environment are good for.** Loading the settings reads the same variables
as the checks do, so what the checks say of a variable is what loading needs: a check without
complaint is one that ends (`Settings.numberOf_of_numberFault?`, `Settings.configOf_eq_ok`). Two
things about the named file are not foreseen. If its name is too long, the checks themselves break
off (`Settings.invalidVariables_eq_error_iff`), and if it is not well-formed UTF-8, it passes them
and cannot be read. In all other cases loading gives settings to work with or reports every
complaint on a line of its own (`Settings.load_reports`).
-/

namespace MediaDepot

open Number

theorem exists_of_map_eq_ok {ε α β : Type} {work : Except ε α} {f : α → β} {b : β}
    (h : work.map f = .ok b) : ∃ a, work = .ok a ∧ f a = b := by
  cases work with
  | error fault => cases h
  | ok a => exact ⟨a, rfl, Except.ok.inj h⟩

/-! ### Looking for a file -/

namespace FileTree

variable {files : FileTree} {path : FilePath} {fault : Fault}

theorem isFile_eq_error_iff :
    files.isFile path = .error fault ↔ path.holdsNul = false ∧
      files.resolve path = .error .nameTooLong ∧ fault = .path .nameTooLong path.text := by
  unfold isFile
  split
  · next hnul => simp [hnul]
  · next hnul =>
      have hnul : path.holdsNul = false := Bool.eq_false_iff.mpr hnul
      split
      · split <;> simp [*]
      · next htoo => simp [hnul, htoo, eq_comm]
      · next trouble hother htrouble =>
          constructor
          · exact nofun
          · rintro ⟨-, htoo, -⟩
            exact absurd (Except.error.inj (htrouble.symm.trans htoo)) hother

theorem exists_read_of_isFile (h : files.isFile path = .ok true) :
    ∃ content, files.read path = .ok content := by
  unfold isFile at h
  split at h
  · cases Except.ok.inj h
  · next hnul =>
      split at h
      · next place hplace =>
          split at h
          · next content hfile =>
              refine ⟨content, ?_⟩
              simp [read, visit, hnul, hplace, Except.bind, hfile, atPath]
          · cases Except.ok.inj h
      · cases h
      · cases Except.ok.inj h

end FileTree

/-- A variable that is set is not blank. -/
theorem Environment.isBlankText_of_get? {env : Environment} {name value : String}
    (h : env.get? name = some value) : Text.isBlankText value = false := by
  obtain ⟨given, rfl, hempty⟩ : ∃ given, value = Text.trim given ∧
      (Text.trim given).isEmpty = false := by
    unfold Environment.get? at h
    split at h
    · next given _ =>
        obtain ⟨hempty, hvalue⟩ := Option.ite_none_left_eq_some.mp h
        exact ⟨given, (Option.some.inj hvalue).symm, Bool.eq_false_iff.mpr hempty⟩
    · cases h
  obtain ⟨-, hfirst, -⟩ := Text.stripEnds_spec Text.isBlank given.toList
  rw [Text.isBlankText, Text.trim, String.toList_ofList]
  rcases hstripped : Text.stripEnds Text.isBlank given.toList with _ | ⟨c, rest⟩
  · rw [Text.trim, hstripped] at hempty
    cases hempty
  · rw [hstripped] at hfirst
    rw [List.all_cons, hfirst c rfl, Bool.false_and]

namespace Settings

variable {env : Environment} {files : FileTree} {name : String} {fault : Fault}
    {invalid : List String}

/-! ### What the checks say -/

/-- The name of the configuration file is too long to look for it. -/
def NameTooLong (env : Environment) (files : FileTree) (fault : Fault) : Prop :=
  ∃ name, env.get? "MEDIA_CONFIG_FILE" = some name ∧ (FilePath.ofText name).holdsNul = false ∧
    files.resolve (.ofText name) = .error .nameTooLong ∧
      fault = .path .nameTooLong (FilePath.ofText name).text

/-- The configuration file is not well-formed UTF-8. -/
def ForeignFile (env : Environment) (files : FileTree) : Prop :=
  ∃ name content, env.get? "MEDIA_CONFIG_FILE" = some name ∧
    files.read (.ofText name) = .ok content ∧ Text.ofUtf8? content = none

/-- The settings can be worked with. -/
structure Ready (settings : Settings) : Prop where
  handler : settings.mediaHandler ∈ handlerNames
  store : settings.fileStore ∈ storeNames
  period : 0 ≤ settings.sweepPeriod
  size : 0 ≤ settings.sweepSize
  age : 0 ≤ settings.sweepAge
  url : settings.fileStore = "mongodb" → ∃ url, settings.databaseUrl = some url ∧
    Text.isBlankText url = false
  database : settings.fileStore = "mongodb" →
    ∃ name, settings.databaseName = some name ∧ Text.isBlankText name = false
  config : settings.mediaHandler = "s3" → settings.mediaConfig ≠ none

theorem fileFault?_eq_error_iff :
    fileFault? env files = .error fault ↔ NameTooLong env files fault := by
  unfold fileFault? NameTooLong
  split
  · next hname => simp [hname]
  · next name hname =>
      simp only [hname, Option.some.injEq, exists_eq_left', ← FileTree.isFile_eq_error_iff]
      cases files.isFile (.ofText name) <;> simp [Except.map]

/-- **The checks break off** at a name that is too long, and at nothing else. -/
theorem invalidVariables_eq_error_iff :
    invalidVariables env files = .error fault ↔ NameTooLong env files fault := by
  rw [← fileFault?_eq_error_iff, invalidVariables]
  cases fileFault? env files <;> simp [Except.map]

/-- Nothing is said of a configuration file that is not named or is there. -/
theorem isFile_of_fileFault? (h : fileFault? env files = .ok [])
    (hname : env.get? "MEDIA_CONFIG_FILE" = some name) :
    files.isFile (.ofText name) = .ok true := by
  simp only [fileFault?, hname] at h
  obtain ⟨found, hfound, hnil⟩ := exists_of_map_eq_ok h
  cases found with
  | false => cases hnil
  | true => exact hfound

/-- What an empty list of complaints says of the variables. -/
theorem invalidVariables_eq_nil (h : invalidVariables env files = .ok []) :
    handlerOf env ∈ handlerNames ∧ storeOf env ∈ storeNames ∧ fileFault? env files = .ok [] ∧
      ∀ name ∈ numberVariables, numberFault? env name = none := by
  obtain ⟨complaints, hfile, hnil⟩ := exists_of_map_eq_ok h
  simp only [List.append_eq_nil_iff, List.filterMap_eq_nil_iff] at hnil
  obtain ⟨⟨⟨hhandler, hstore⟩, rfl⟩, hnumbers⟩ := hnil
  exact ⟨by simpa using hhandler, by simpa using hstore, hfile, hnumbers⟩

theorem numberOf_of_numberFault? (h : numberFault? env name = none) (default : Int)
    (hdefault : 0 ≤ default) : ∃ n, numberOf env name default = .ok n ∧ 0 ≤ n := by
  unfold numberFault? at h
  unfold numberOf
  split at h
  · exact ⟨default, rfl, hdefault⟩
  · next text _ =>
      have hcount : isCount text = true := by simpa using h
      unfold isCount at hcount
      split at hcount
      · next n hn => exact ⟨n, rfl, of_decide_eq_true hcount⟩
      · cases hcount

/-- The configuration of the handler is read if the named file, if any, is there in UTF-8. -/
theorem configOf_eq_ok (h : fileFault? env files = .ok []) (hforeign : ¬ ForeignFile env files) :
    ∃ config, configOf env files = .ok config ∧
      (config = none → isUnset env "MEDIA_CONFIG" = true ∧
        isUnset env "MEDIA_CONFIG_FILE" = true) := by
  unfold configOf
  split
  · next name hname =>
      obtain ⟨content, hcontent⟩ := FileTree.exists_read_of_isFile (isFile_of_fileFault? h hname)
      rcases htext : Text.ofUtf8? content with _ | text
      · exact absurd ⟨name, content, hname, hcontent, htext⟩ hforeign
      · simp only [readText, hcontent, Except.bind, htext, Except.map, Except.ok.injEq,
          exists_eq_left']
        exact nofun
  · next hname =>
      refine ⟨_, rfl, fun hnone => ⟨?_, ?_⟩⟩
      · rw [isUnset, hnone]
        rfl
      · rw [isUnset, hname]
        rfl

theorem configOf_of_foreignFile (h : ForeignFile env files) :
    configOf env files = .error .notUtf8 := by
  obtain ⟨name, content, hname, hcontent, hforeign⟩ := h
  simp only [configOf, hname, readText, hcontent, Except.bind, hforeign, Except.map]

/-- What an empty list says of the variables that must be set. -/
theorem isUnset_of_missingVariables_eq_nil (h : missingVariables env = []) :
    (storeOf env = "mongodb" → isUnset env "MONGO_URL" = false ∧ isUnset env "DB_NAME" = false) ∧
      (handlerOf env = "s3" → isUnset env "MEDIA_CONFIG" = true →
        isUnset env "MEDIA_CONFIG_FILE" = false) := by
  simp only [missingVariables, List.append_eq_nil_iff] at h
  obtain ⟨⟨hdatabase, hconfig⟩, hurl⟩ := h
  refine ⟨fun hstore => ⟨?_, ?_⟩, fun hhandler hunset => ?_⟩
  · simpa [hstore] using hurl
  · simpa [hstore] using hdatabase
  · simpa [hhandler, hunset] using hconfig

theorem exists_of_isUnset (h : isUnset env name = false) :
    ∃ value, env.get? name = some value ∧ Text.isBlankText value = false := by
  unfold isUnset at h
  rcases hvalue : env.get? name with _ | value
  · rw [hvalue] at h
    cases h
  · exact ⟨value, rfl, Environment.isBlankText_of_get? hvalue⟩

theorem validate_eq_ok (hmissing : missingVariables env = [])
    (hinvalid : invalidVariables env files = .ok []) : validate env files = .ok () := by
  rw [validate, hinvalid, hmissing]
  rfl

/-- **Where the checks have no complaint**, the settings can be worked with, provided that the named
file is well-formed UTF-8. -/
theorem exists_ready (hmissing : missingVariables env = [])
    (hinvalid : invalidVariables env files = .ok [])
    (hforeign : ¬ ForeignFile env files) :
    ∃ settings, load env files = .ok settings ∧ settings.Ready := by
  obtain ⟨hhandler, hstore, hfile, hnumbers⟩ := invalidVariables_eq_nil hinvalid
  obtain ⟨hdatabase, hset⟩ := isUnset_of_missingVariables_eq_nil hmissing
  obtain ⟨config, hconfig, hnone⟩ := configOf_eq_ok hfile hforeign
  simp only [numberVariables, List.forall_mem_cons] at hnumbers
  obtain ⟨hperiod, hsize, hage, -⟩ := hnumbers
  obtain ⟨period, hperiod, hperiod0⟩ := numberOf_of_numberFault? hperiod 60 (by decide)
  obtain ⟨size, hsize, hsize0⟩ := numberOf_of_numberFault? hsize 100 (by decide)
  obtain ⟨age, hage, hage0⟩ := numberOf_of_numberFault? hage 3600 (by decide)
  simp only [load, validate_eq_ok hmissing hinvalid, hconfig, hperiod, hsize, hage, bind,
    Except.bind, pure, Except.pure, Except.ok.injEq, exists_eq_left']
  exact {
    handler := hhandler
    store := hstore
    period := hperiod0
    size := hsize0
    age := hage0
    url := fun h => exists_of_isUnset (hdatabase h).1
    database := fun h => exists_of_isUnset (hdatabase h).2
    config := fun h hno => by
      obtain ⟨hunset, hunset'⟩ := hnone hno
      rw [hset h hunset] at hunset'
      cases hunset' }

theorem load_of_foreignFile (hmissing : missingVariables env = [])
    (hinvalid : invalidVariables env files = .ok []) (h : ForeignFile env files) :
    load env files = .error .notUtf8 := by
  rw [load, validate_eq_ok hmissing hinvalid, configOf_of_foreignFile h]
  rfl

theorem load_of_nameTooLong (h : NameTooLong env files fault) : load env files = .error fault := by
  have hvalidate : validate env files = .error fault := by
    rw [validate, invalidVariables_eq_error_iff.mpr h]
    rfl
  rw [load, hvalidate]
  rfl

/-- A name of so many letters is too long. -/
theorem nameTooLong_of_letters {n : Nat} (hn : FileTree.maxName < n) (rest : Environment)
    (files : FileTree) :
    let name := String.ofList (List.replicate n 'a')
    NameTooLong (("MEDIA_CONFIG_FILE", name) :: rest) files (.path .nameTooLong name) := by
  intro name
  obtain ⟨m, rfl⟩ : ∃ m, n = m + 3 := ⟨n - 3, by unfold FileTree.maxName at hn; omega⟩
  have hlist : name.toList = List.replicate (m + 3) 'a' := String.toList_ofList
  have hletter (c : Char) (hc : c ∈ name.toList) : c = 'a' := List.eq_of_mem_replicate (hlist ▸ hc)
  have hsize : name.utf8ByteSize = m + 3 := by
    rw [Text.utf8ByteSize_ofList_of_ascii fun c hc => by rw [List.eq_of_mem_replicate hc]; rfl,
      List.length_replicate]
  have hne (text : String) (h : text.toList.length < 3) : name ≠ text := by
    rintro heq
    rw [← heq, hlist, List.length_replicate] at h
    omega
  have hname : IsFileName name := by
    refine ⟨hne _ (by decide), fun hslash => ?_, hne _ (by decide), hne _ (by decide)⟩
    exact absurd (hletter _ hslash) (by decide)
  have htrim : Text.trim name = name := by
    rw [Text.trim, Text.stripEnds_eq_self fun c hc => by rw [hletter c hc]; decide,
      String.ofList_toList]
  have hget : Environment.get? (("MEDIA_CONFIG_FILE", name) :: rest) "MEDIA_CONFIG_FILE" =
      some name := by
    have hempty : name.isEmpty = false := by simpa using hname.ne_empty
    simp [Environment.get?, htrim, hempty]
  have htext : (FilePath.ofText name).text = name := by
    rw [hname.ofText_eq]
    simp [FilePath.text]
  refine ⟨name, hget, ?_, ?_, by rw [htext]⟩
  · have hnul : '\x00' ∉ name.toList := fun hin => absurd (hletter _ hin) (by decide)
    rw [hname.ofText_eq]
    simpa [FilePath.holdsNul] using hnul
  · rw [FileTree.resolve]
    -- so may be the path itself
    split
    · rfl
    · rw [hname.ofText_eq]
      have htop : files.find? FileTree.top = some .folder := rfl
      have hstep : FileTree.step FileTree.top name = .error .nameTooLong := by
        rw [FileTree.step, if_neg hname.ne_points, if_pos (by omega)]
      simp only [FileTree.follow, if_true, htop, hstep]
      rfl

/-! ### The report -/

/-- The lines of a text. -/
def linesOf (text : String) : List (List Char) := Text.pieces '\n' text.toList

theorem not_newline_of_missing {entry : String} (h : entry ∈ missingVariables env) :
    '\n' ∉ entry.toList := by
  simp only [missingVariables, List.mem_append, List.mem_ite_nil_right, List.mem_singleton] at h
  rcases h with (⟨-, rfl⟩ | ⟨-, rfl⟩) | ⟨-, rfl⟩
  · decide
  · decide
  · decide

theorem eq_of_mem_fileFault? {complaints : List String} {entry : String}
    (h : fileFault? env files = .ok complaints)
    (hentry : entry ∈ complaints) : entry = "MEDIA_CONFIG_FILE must point to an existing file" := by
  unfold fileFault? at h
  split at h
  · obtain rfl := Except.ok.inj h
    cases hentry
  · obtain ⟨found, -, rfl⟩ := exists_of_map_eq_ok h
    exact List.mem_singleton.mp (List.mem_ite_nil_left.mp hentry).2

theorem not_newline_of_numberFault? {entry : String} (hname : name ∈ numberVariables)
    (h : numberFault? env name = some entry) : '\n' ∉ entry.toList := by
  have hentry : entry = name ++ " must be a non-negative integer" := by
    unfold numberFault? at h
    split at h
    · cases h
    · exact (Option.some.inj (Option.ite_none_left_eq_some.mp h).2).symm
  have hnames : ∀ name ∈ numberVariables,
      '\n' ∉ (name ++ " must be a non-negative integer").toList := by
    decide
  exact hentry ▸ hnames name hname

theorem not_newline_of_invalid {entry : String} (h : invalidVariables env files = .ok invalid)
    (hentry : entry ∈ invalid) : '\n' ∉ entry.toList := by
  obtain ⟨complaints, hfile, rfl⟩ := exists_of_map_eq_ok h
  simp only [List.mem_append, List.mem_ite_nil_left, List.mem_singleton,
    List.mem_filterMap] at hentry
  rcases hentry with ((⟨-, rfl⟩ | ⟨-, rfl⟩) | hentry) | ⟨name, hname, hentry⟩
  · decide
  · decide
  · rw [eq_of_mem_fileFault? hfile hentry]
    decide
  · exact not_newline_of_numberFault? hname hentry

/-- The lines of a report. -/
theorem linesOf_report {missing invalid : List String}
    (h : ∀ entry ∈ missing ++ invalid, '\n' ∉ entry.toList) :
    linesOf (report missing invalid) =
      ("Application startup blocked by invalid environment configuration."
      :: reportPart "Missing required environment variables:" missing
      ++ reportPart "Invalid environment values:" invalid).map String.toList := by
  have hpart {headline : String} {entries : List String} (hheadline : '\n' ∉ headline.toList)
      (hentries : ∀ entry ∈ entries, '\n' ∉ entry.toList) :
      ∀ line ∈ reportPart headline entries, '\n' ∉ line.toList := by
    unfold reportPart
    split
    · exact nofun
    · intro line hline
      simp only [List.mem_cons, List.mem_map] at hline
      rcases hline with rfl | rfl | ⟨entry, hentry, rfl⟩
      · decide
      · exact hheadline
      · simp [hentries entry hentry]
  rw [linesOf, report, String.toList_intercalate]
  refine Text.pieces_intercalate (by simp) fun line hline => ?_
  obtain ⟨text, htext, rfl⟩ := List.mem_map.mp hline
  rcases List.mem_append.mp htext with htext | htext
  · rcases List.mem_cons.mp htext with rfl | htext
    · decide
    · exact hpart (by decide) (fun entry hentry => h entry (List.mem_append_left _ hentry))
        text htext
  · exact hpart (by decide) (fun entry hentry => h entry (List.mem_append_right _ hentry))
      text htext

/-- **Every entry of a report stands on a line of its own.** -/
theorem mem_linesOf_report {missing invalid : List String} {entry : String}
    (hlines : ∀ entry ∈ missing ++ invalid, '\n' ∉ entry.toList) (h : entry ∈ missing ++ invalid) :
    ("- " ++ entry).toList ∈ linesOf (report missing invalid) := by
  have hpart {headline : String} {entries : List String} (hentry : entry ∈ entries) :
      "- " ++ entry ∈ reportPart headline entries := by
    rw [reportPart, if_neg (by simpa using List.ne_nil_of_mem hentry)]
    exact List.mem_cons_of_mem _ (List.mem_cons_of_mem _ (List.mem_map_of_mem hentry))
  rw [linesOf_report hlines]
  refine List.mem_map_of_mem ?_
  rcases List.mem_append.mp h with hentry | hentry
  · exact List.mem_append_left _ (List.mem_cons_of_mem _ (hpart hentry))
  · exact List.mem_append_right _ (hpart hentry)

/-- **What the checks of the environment are good for.** If they have no complaint, loading gives
settings to work with, unless the named file is not well-formed UTF-8; if they have, loading reports
each on a line of its own. The checks break off just at a file name that is too long, and so does
loading then. -/
theorem load_reports (env : Environment) (files : FileTree) :
    (missingVariables env = [] → invalidVariables env files = .ok [] →
        ((∃ settings, load env files = .ok settings ∧ settings.Ready) ↔ ¬ ForeignFile env files) ∧
          (ForeignFile env files → load env files = .error .notUtf8)) ∧
      (∀ invalid, invalidVariables env files = .ok invalid → missingVariables env ++ invalid ≠ [] →
        ∃ report, load env files = .error (.state report) ∧
          ∀ entry ∈ missingVariables env ++ invalid, ("- " ++ entry).toList ∈ linesOf report) ∧
      ∀ fault, (invalidVariables env files = .error fault ↔ NameTooLong env files fault) ∧
        (NameTooLong env files fault → load env files = .error fault) := by
  refine ⟨fun hmissing hinvalid => ⟨⟨?_, exists_ready hmissing hinvalid⟩,
    load_of_foreignFile hmissing hinvalid⟩,
      fun invalid hinvalid hsome => ⟨report (missingVariables env) invalid, ?_,
        fun entry hentry => ?_⟩,
    fun fault => ⟨invalidVariables_eq_error_iff, load_of_nameTooLong⟩⟩
  · rintro ⟨settings, hload, -⟩ hforeign
    rw [load_of_foreignFile hmissing hinvalid hforeign] at hload
    cases hload
  · have hvalidate : validate env files =
        .error (.state (report (missingVariables env) invalid)) := by
      have hcomplaint : ((missingVariables env).isEmpty && invalid.isEmpty) = false := by
        simpa [Bool.and_eq_false_iff] using hsome
      simp only [validate, hinvalid, Except.bind, hcomplaint, Bool.false_eq_true, if_false]
    rw [load, hvalidate]
    rfl
  · refine mem_linesOf_report (fun entry hentry => ?_) hentry
    rcases List.mem_append.mp hentry with hentry | hentry
    · exact not_newline_of_missing hentry
    · exact not_newline_of_invalid hinvalid hentry

/-- An environment that passes the checks, one with a blank variable and a negative number, and one
with a file name that is too long. -/
theorem load_reports_of_three_environments :
    let passing : Environment :=
  [("MEDIA_HANDLER", " S3 "), ("MEDIA_CONFIG", "x"), ("FILE_GC_BLOCK_SIZE", " 7")]
    let failing : Environment :=
      [("FILE_STORE", "mongodb"), ("MONGO_URL", "u"), ("DB_NAME", " "),
        ("FILE_GC_BLOCK_SIZE", "-1")]
    let name : String := String.ofList (List.replicate 300 'a')
    let fault : Fault := .path .nameTooLong name
    (∃ settings, load passing {} = .ok settings ∧ settings.Ready) ∧
      (∃ report, load failing {} = .error (.state report) ∧ "- DB_NAME".toList ∈ linesOf report ∧
        "- FILE_GC_BLOCK_SIZE must be a non-negative integer".toList ∈ linesOf report) ∧
      load [("MEDIA_CONFIG_FILE", name)] {} = .error fault := by
  intro passing failing name fault
  obtain ⟨hpassing, -, -⟩ := load_reports passing {}
  obtain ⟨-, hfailing, -⟩ := load_reports failing {}
  obtain ⟨-, -, hlong⟩ := load_reports [("MEDIA_CONFIG_FILE", name)] {}
  have hmissing : missingVariables failing = ["DB_NAME"] := by decide +kernel
  refine ⟨?_, ?_, ?_⟩
  · have hnofile : ¬ ForeignFile passing {} := by
      rintro ⟨name, content, hname, -⟩
      cases hname
    exact (hpassing (by decide +kernel) (ok_of_toOption (by decide +kernel))).1.mpr hnofile
  · have hinvalid : invalidVariables failing {} =
        .ok ["FILE_GC_BLOCK_SIZE must be a non-negative integer"] :=
      ok_of_toOption (by decide +kernel)
    obtain ⟨report, hload, hlines⟩ := hfailing _ hinvalid (by simp)
    rw [hmissing] at hlines
    exact ⟨report, hload, hlines "DB_NAME" List.mem_cons_self,
      hlines "FILE_GC_BLOCK_SIZE must be a non-negative integer"
        (List.mem_cons_of_mem _ List.mem_cons_self)⟩
  · exact (hlong fault).2 (nameTooLong_of_letters (by decide) _ _)

/-- What the checks do not foresee: a file that is no text, where they have no complaint, and a file
name that is too long, where a variable is missing and is not reported. -/
theorem checks_miss_foreign_file_and_long_name :
    let foreign : Environment := [("MEDIA_CONFIG_FILE", "media.json")]
    let files : FileTree := ⟨[(["tmp", "site", "media.json"], .file [0xFF])]⟩
    let name : String := String.ofList (List.replicate 300 'a')
    let long : Environment :=
  [("MEDIA_CONFIG_FILE", name), ("FILE_STORE", "mongodb"), ("MONGO_URL", "u")]
    (missingVariables foreign = [] ∧ invalidVariables foreign files = .ok [] ∧
        load foreign files = .error .notUtf8) ∧
      missingVariables long = ["DB_NAME"] ∧
        load long {} = .error (.path .nameTooLong name) := by
  intro foreign files name long
  have hmissing : missingVariables foreign = [] := by decide +kernel
  have hinvalid : invalidVariables foreign files = .ok [] := ok_of_toOption (by decide +kernel)
  have hforeign : ForeignFile foreign files :=
    ⟨"media.json", [0xFF], by decide +kernel, ok_of_toOption (by decide +kernel), by decide +kernel⟩
  have hlong : NameTooLong long {} (.path .nameTooLong name) :=
    nameTooLong_of_letters (by decide) _ _
  exact ⟨⟨hmissing, hinvalid, load_of_foreignFile hmissing hinvalid hforeign⟩, by decide +kernel,
    load_of_nameTooLong hlong⟩

end Settings

end MediaDepot
