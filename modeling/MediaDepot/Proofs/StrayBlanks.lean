import MediaDepot.Proofs.Discretion
import MediaDepot.Proofs.RequestIds
import MediaDepot.Proofs.Startup

/-!
# MediaDepot.Proofs.StrayBlanks

**What stray blanks in the environment change.** Nearly all variables are read without regard to
blanks at their ends, by the checks and by loading alike (`Settings.reads_congr`). Two are taken as
they are: the kind of environment and the wish for details. A word with a blank in it is no word any
more, in small letters either (`Text.lower_ne_of_blank`), so a reading of words that minds blanks is
changed just if it found a word and blanks have come to it (`Loosened.contains_lower_iff`). Both
readings are of this kind, and so is the question whether the program runs for its users.
-/

namespace MediaDepot

open Text

/-! ### Blanks and small letters -/

namespace Text

/-- The code points of the blank characters. -/
def blankCodes : List Nat :=
  [9, 10, 11, 12, 13, 28, 29, 30, 31, 32, 133, 160, 5760, 8192, 8193, 8194, 8195, 8196, 8197,
    8198, 8199, 8200, 8201, 8202, 8232, 8233, 8239, 8287, 12288]

theorem toNat_mem_of_isBlank {c : Char} (h : isBlank c = true) : c.toNat ∈ blankCodes := by
  simp only [isBlank, CodeSet.contains, blanks, CodeSet.after] at h
  simp only [blankCodes, List.mem_cons, List.not_mem_nil, or_false]
  grind

/-- A blank character is no letter. -/
theorem isSmall_of_isBlank {c : Char} (h : isBlank c = true) : IsSmall c := by
  have hall : ∀ code ∈ blankCodes, IsSmall (Char.ofNat code) := by decide +kernel
  have hcode := hall c.toNat (toNat_mem_of_isBlank h)
  rwa [Char.ofNat_toNat] at hcode

/-- A character that is its own small form stays in the small-letter form of a text. -/
theorem mem_lowerFrom_of_isSmall {c : Char} (hsmall : IsSmall c) {cs : List Char} (h : c ∈ cs)
    (afterCased : Bool) : c ∈ lowerFrom afterCased cs := by
  induction cs generalizing afterCased with
  | nil => cases h
  | cons d rest ih =>
      rw [lowerFrom, List.mem_append]
      rcases List.mem_cons.mp h with rfl | hrest
      · obtain ⟨hsigma, hself⟩ := hsmall
        exact .inl (by simp [hsigma, hself])
      · exact .inr (ih hrest _)

/-- The small-letter form of a text with a blank is no word without one. -/
theorem lower_ne_of_blank {s word : String} (hs : ∃ c ∈ s.toList, isBlank c = true)
    (hword : word.toList.any isBlank = false) : lower s ≠ word := by
  rintro rfl
  obtain ⟨c, hc, hblank⟩ := hs
  have hmem : c ∈ (lower s).toList := by
    rw [lower, String.toList_ofList]
    exact mem_lowerFrom_of_isSmall (isSmall_of_isBlank hblank) hc false
  exact List.any_eq_false.mp hword c hmem hblank

theorem exists_blank_of_trim_ne {s : String} (h : trim s ≠ s) :
    ∃ c ∈ s.toList, isBlank c = true := by
  by_contra hnone
  have hclear : ∀ c ∈ s.toList, isBlank c = false := by simpa using hnone
  exact h (by rw [trim, stripEnds_eq_self hclear, String.ofList_toList])

end Text

/-! ### Stray blanks -/

/-- **What stray blanks make of the value of a variable**: they stand around it, or in place of
none. -/
inductive Loosened : Option String → Option String → Prop where
  | kept (value : Option String) : Loosened value value
  | around (before value after : String) (hbefore : isBlankText before = true)
    (hafter : isBlankText after = true) : Loosened (some value) (some (before ++ value ++ after))
  | instead (value : String) (hvalue : isBlankText value = true) : Loosened none (some value)

namespace Loosened

variable {value loose : Option String}

/-- A value with stray blanks is the value itself, or there is a blank in it, or it is empty. -/
theorem eq_or_blank (h : Loosened value loose) :
    loose = value ∨ ∃ text, loose = some text ∧
      (text = "" ∨ ∃ c ∈ text.toList, isBlank c = true) := by
  cases h with
  | kept => exact .inl rfl
  | around before text after hbefore hafter =>
      rw [isBlankText, List.all_eq_true] at hbefore hafter
      rcases hpad : before.toList ++ after.toList with _ | ⟨c, more⟩
      · obtain ⟨hb, ha⟩ := List.append_eq_nil_iff.mp hpad
        left
        refine congrArg some (String.toList_injective ?_)
        simp [hb, ha]
      · have hc : c ∈ before.toList ++ after.toList := by simp [hpad]
        refine .inr ⟨_, rfl, .inr ⟨c, ?_, ?_⟩⟩
        · rw [String.toList_append, String.toList_append]
          rcases List.mem_append.mp hc with hc | hc <;> simp [hc]
        · exact (List.mem_append.mp hc).elim (hbefore c) (hafter c)
  | instead text htext =>
      rw [isBlankText, List.all_eq_true] at htext
      refine .inr ⟨text, rfl, ?_⟩
      rcases hcs : text.toList with _ | ⟨c, more⟩
      · exact .inl (String.toList_injective hcs)
      · exact .inr ⟨c, List.mem_cons_self, htext c (hcs ▸ List.mem_cons_self)⟩

/-- **A reading of words that minds blanks** is changed by stray blanks just if it found a word and
there are any. -/
theorem contains_lower_iff (h : Loosened value loose) {words : List String} {default : String}
    (hwords : ∀ word ∈ words, word ≠ "" ∧ word.toList.any isBlank = false) :
    words.contains (lower (loose.getD default)) = words.contains (lower (value.getD default)) ↔
      loose = value ∨ words.contains (lower (value.getD default)) = false := by
  rcases h.eq_or_blank with rfl | ⟨text, rfl, hblank⟩
  · simp
  have hloose : words.contains (lower text) = false := by
    rw [Bool.eq_false_iff, ne_eq, List.contains_iff_mem]
    intro hmem
    obtain ⟨hne, hclear⟩ := hwords _ hmem
    rcases hblank with rfl | hblank
    · exact hne (by decide)
    · exact lower_ne_of_blank hblank hclear rfl
  rw [Option.getD_some, hloose]
  constructor
  · exact fun heq => .inr heq.symm
  · rintro (rfl | hvalue)
    · exact hloose.symm
    · exact hvalue.symm

end Loosened

namespace Environment

/-- The variables of the program. -/
def known : List String := ["ENV", "DEBUG_INCLUDE_ERROR_DETAILS", "MEDIA_HANDLER", "MEDIA_CONFIG",
  "MEDIA_CONFIG_FILE", "FILE_STORE", "MONGO_URL", "DB_NAME", "FILE_GC_PERIOD_SECONDS",
    "FILE_GC_BLOCK_SIZE",
  "FILE_GC_MIN_AGE_SECONDS"]

/-- **The second environment is the first one with stray blanks** in the values of some
variables. -/
def IsLoosened (env loose : Environment) : Prop :=
  ∀ name ∈ known, Loosened (env.lookup name) (loose.lookup name)

variable {env loose : Environment}

theorem IsLoosened.refl (env : Environment) : env.IsLoosened env := fun _ _ => .kept _

/-- One variable more, with or without blanks. -/
theorem IsLoosened.cons (h : env.IsLoosened loose) (name : String) {value other : String}
    (hvalue : Loosened (some value) (some other)) :
    IsLoosened ((name, value) :: env) ((name, other) :: loose) := by
  intro asked hasked
  rw [List.lookup_cons, List.lookup_cons]
  cases asked == name with
  | true => exact hvalue
  | false => exact h asked hasked

/-- One variable more, set to blanks. -/
theorem IsLoosened.blank (h : env.IsLoosened loose) (name : String) {value : String}
    (hunset : env.lookup name = none) (hvalue : isBlankText value = true) :
    IsLoosened env ((name, value) :: loose) := by
  intro asked hasked
  rw [List.lookup_cons]
  rcases hname : asked == name
  · exact h asked hasked
  · rw [beq_iff_eq.mp hname, hunset]
    exact .instead value hvalue

theorem get?_of_loosened {name : String} (h : Loosened (env.lookup name) (loose.lookup name)) :
    loose.get? name = env.get? name := by
  unfold get?
  generalize env.lookup name = value at h ⊢
  generalize loose.lookup name = other at h ⊢
  cases h with
  | kept => rfl
  | around before text after hbefore hafter => simp only [trim_around hbefore hafter]
  | instead text htext => simp [trim_of_isBlankText htext]

end Environment

namespace Settings

variable {env loose : Environment}

/-- The kind of environment, as it is taken. -/
def kindOf (env : Environment) : String := (env.lookup "ENV").getD "development"

/-- Are details wished for? -/
def wishOf (env : Environment) : Bool :=
  yesWords.contains (lower ((env.lookup "DEBUG_INCLUDE_ERROR_DETAILS").getD "false"))

/-- **All that is read without regard to blanks** is read alike. -/
theorem reads_congr (h : env.IsLoosened loose) (files : FileTree) :
    missingVariables loose = missingVariables env ∧
      invalidVariables loose files = invalidVariables env files ∧
      configOf loose files = configOf env files ∧
      (∀ name ∈ numberVariables, ∀ default, numberOf loose name default =
        numberOf env name default) ∧
      handlerOf loose = handlerOf env ∧ storeOf loose = storeOf env ∧
      loose.get? "MONGO_URL" = env.get? "MONGO_URL" ∧
        loose.get? "DB_NAME" = env.get? "DB_NAME" := by
  have hget (name : String) (hname : name ∈ Environment.known) : loose.get? name = env.get? name :=
    Environment.get?_of_loosened (h name hname)
  have hhandler : handlerOf loose = handlerOf env := by
    rw [handlerOf, handlerOf, Environment.word, Environment.word, hget "MEDIA_HANDLER" (by decide)]
  have hstore : storeOf loose = storeOf env := by
    rw [storeOf, storeOf, Environment.word, Environment.word, hget "FILE_STORE" (by decide)]
  have hunset (name : String) (hname : name ∈ Environment.known) : isUnset loose name =
      isUnset env name := by
    rw [isUnset, isUnset, hget name hname]
  have hnumbers : ∀ name ∈ numberVariables, name ∈ Environment.known := by decide
  have hfaults : numberVariables.filterMap (numberFault? loose) =
      numberVariables.filterMap (numberFault? env) := by
    refine List.filterMap_congr fun name hname => ?_
    rw [numberFault?, numberFault?, hget name (hnumbers name hname)]
  refine ⟨?_, ?_, ?_, fun name hname default => ?_, hhandler, hstore, hget _ (by decide),
    hget _ (by decide)⟩
  · simp only [missingVariables, hhandler, hstore, hunset "DB_NAME" (by decide),
      hunset "MEDIA_CONFIG" (by decide), hunset "MEDIA_CONFIG_FILE" (by decide),
        hunset "MONGO_URL" (by decide)]
  · rw [invalidVariables, invalidVariables, fileFault?, fileFault?,
      hget "MEDIA_CONFIG_FILE" (by decide), hhandler, hstore, hfaults]
  · rw [configOf, configOf, hget "MEDIA_CONFIG_FILE" (by decide), hget "MEDIA_CONFIG" (by decide)]
  · rw [numberOf, numberOf, hget name (hnumbers name hname)]

theorem validate_congr (h : env.IsLoosened loose) (files : FileTree) :
    validate loose files = validate env files := by
  obtain ⟨hmissing, hinvalid, -⟩ := reads_congr h files
  rw [validate, validate, hmissing, hinvalid]

/-- The settings are the same but for the two fields that are taken as they are. -/
theorem load_loosened (h : env.IsLoosened loose) (files : FileTree) :
    load loose files = (load env files).map fun settings =>
      { settings with environment := kindOf loose, showDetails := wishOf loose } := by
  obtain ⟨-, -, hconfig, hnumber, hhandler, hstore, hurl, hdatabase⟩ := reads_congr h files
  rw [load, load, validate_congr h, hconfig, hnumber _ (by decide), hnumber _ (by decide),
    hnumber _ (by decide), hhandler, hstore, hurl, hdatabase]
  rcases validate env files with fault | done
  · rfl
  rcases configOf env files with fault | config
  · rfl
  rcases numberOf env "FILE_GC_PERIOD_SECONDS" 60 with fault | period
  · rfl
  rcases numberOf env "FILE_GC_BLOCK_SIZE" 100 with fault | size
  · rfl
  rcases numberOf env "FILE_GC_MIN_AGE_SECONDS" 3600 with fault | age
  · rfl
  rfl

/-- The two fields that are taken as they are. -/
theorem taken_of_load {files : FileTree} {settings : Settings} (h : load env files = .ok settings) :
    settings.environment = kindOf env ∧ settings.showDetails = wishOf env := by
  have hself : env.IsLoosened env := fun name _ => .kept _
  have hload := load_loosened hself files
  rw [h] at hload
  have heq := Except.ok.inj hload
  exact ⟨congrArg Settings.environment heq, congrArg Settings.showDetails heq⟩

/-- Stray blanks always show in the kind of environment. -/
theorem kindOf_eq_iff (h : env.IsLoosened loose) :
    kindOf loose = kindOf env ↔ loose.lookup "ENV" = env.lookup "ENV" := by
  refine ⟨fun heq => ?_, fun heq => by rw [kindOf, kindOf, heq]⟩
  rcases (h "ENV" (by decide)).eq_or_blank with hsame | ⟨text, htext, hblank⟩
  · exact hsame
  rw [kindOf, kindOf, htext, Option.getD_some] at heq
  rcases hvalue : env.lookup "ENV" with _ | value
  · -- what is taken if nothing is set is neither empty nor has it a blank
    rw [hvalue, Option.getD_none] at heq
    subst heq
    rcases hblank with hempty | ⟨c, hc, hblank⟩
    · exact absurd hempty (by decide)
    · have hclear : "development".toList.any isBlank = false := by decide +kernel
      exact absurd hblank (List.any_eq_false.mp hclear c hc)
  · rw [hvalue, Option.getD_some] at heq
    rw [htext, heq]

theorem wishOf_eq_iff (h : env.IsLoosened loose) :
    wishOf loose = wishOf env ↔
      loose.lookup "DEBUG_INCLUDE_ERROR_DETAILS" = env.lookup "DEBUG_INCLUDE_ERROR_DETAILS" ∨
        wishOf env = false :=
  (h _ (by decide)).contains_lower_iff (by decide +kernel)

theorem isProduction_eq (settings : Settings) :
    settings.isProduction = ["production"].contains (lower settings.environment) := by
  rw [isProduction, List.contains_cons, List.contains_nil, Bool.or_false]

/-- **Settings of production hide the texts of faults** just if the word for production is given
without blanks, or no details are wished for. -/
theorem hides_iff {settings : Settings} {value : String} (hkind : settings.environment = value)
    (hproduction : lower (trim value) = "production") :
    (∀ id one other, Http.App.lastResort settings id one = Http.App.lastResort settings id other) ↔
      trim value = value ∨ settings.showDetails = false := by
  rw [Http.App.lastResort_congr_iff, mayShowDetails, isProduction, hkind]
  by_cases htrim : trim value = value
  · rw [htrim] at hproduction
    simp [hproduction, htrim]
  · have hother : lower value ≠ "production" :=
      lower_ne_of_blank (exists_blank_of_trim_ne htrim) (by decide +kernel)
    simp [hother, htrim]

/-- **What stray blanks change.** The checks of an environment say the same with stray blanks in the
values of its variables and without, and loading fails alike. Settings differ in two fields at most:
in the kind of environment just if blanks are strayed over its variable, and in the wish for details
just if that is expressed and blanks are strayed over its variable. Whether it is production changes
just if it was and blanks are strayed over its variable. So settings whose kind is production up to
case and blanks hide the texts of faults just if the word stands without blanks or no details are
wished for. -/
theorem stray_blanks_count_iff (h : env.IsLoosened loose) (files : FileTree) :
    missingVariables loose = missingVariables env ∧
      invalidVariables loose files = invalidVariables env files ∧
      validate loose files = validate env files ∧
      (∀ fault, load env files = .error fault → load loose files = .error fault) ∧
      ∀ settings, load env files = .ok settings → ∃ changed, load loose files = .ok changed ∧
        changed = { settings with
          environment := changed.environment
          showDetails := changed.showDetails } ∧
        (changed.environment = settings.environment ↔ loose.lookup "ENV" = env.lookup "ENV") ∧
        (changed.showDetails = settings.showDetails ↔
          loose.lookup "DEBUG_INCLUDE_ERROR_DETAILS" = env.lookup "DEBUG_INCLUDE_ERROR_DETAILS" ∨
            settings.showDetails = false) ∧
        (changed.isProduction = settings.isProduction ↔
          loose.lookup "ENV" = env.lookup "ENV" ∨ settings.isProduction = false) ∧
        ∀ value, env.lookup "ENV" = some value → lower (trim value) = "production" →
          ((∀ id one other,
              Http.App.lastResort settings id one = Http.App.lastResort settings id other) ↔
            trim value = value ∨ settings.showDetails = false) := by
  obtain ⟨hmissing, hinvalid, -⟩ := reads_congr h files
  refine ⟨hmissing, hinvalid, validate_congr h files, fun fault hfault => ?_,
    fun settings hsettings => ?_⟩
  · rw [load_loosened h, hfault]
    rfl
  obtain ⟨hkind, hwish⟩ := taken_of_load hsettings
  refine ⟨_, by rw [load_loosened h, hsettings]; rfl, rfl, ?_, ?_, ?_,
    fun value hvalue hproduction => ?_⟩
  · rw [hkind]
    exact kindOf_eq_iff h
  · rw [hwish]
    exact wishOf_eq_iff h
  · rw [isProduction_eq, isProduction_eq, hkind]
    exact (h "ENV" (by decide)).contains_lower_iff (by decide +kernel)
  · refine hides_iff ?_ hproduction
    rw [hkind, kindOf, hvalue, Option.getD_some]

/-- A database, a period that is set to blanks, and blanks around the word for production: the
settings are those without the blanks in all but the kind of environment, and the texts of faults
are shown. -/
theorem stray_blanks_count_iff_of_production :
    let env : Environment := [("ENV", "Production"), ("DEBUG_INCLUDE_ERROR_DETAILS", "yes"),
      ("FILE_STORE", "mongodb"), ("MONGO_URL", "u"), ("DB_NAME", "d")]
    let loose : Environment := [("FILE_GC_PERIOD_SECONDS", "\t"), ("ENV", " Production\n"),
      ("DEBUG_INCLUDE_ERROR_DETAILS", "yes"), ("FILE_STORE", "\u2003mongodb "), ("MONGO_URL", "u"),
        ("DB_NAME", " d")]
    env.IsLoosened loose ∧ loose.IsLoosened loose ∧ validate loose {} = .ok () ∧
      ∃ settings changed, load env {} = .ok settings ∧ load loose {} = .ok changed ∧
        changed = { settings with environment := changed.environment } ∧
        changed.environment ≠ settings.environment ∧ changed.isProduction ≠ settings.isProduction ∧
        lower (trim " Production\n") = "production" ∧
        ¬ ∀ id one other, Http.App.lastResort changed id one =
          Http.App.lastResort changed id other := by
  intro env loose
  have hloose : env.IsLoosened loose :=
    ((((((Environment.IsLoosened.refl []).cons "DB_NAME" (.around " " "d" "" rfl rfl)).cons
      "MONGO_URL"
      (.kept (some "u"))).cons "FILE_STORE" (.around "\u2003" "mongodb" " " rfl rfl)).cons
      "DEBUG_INCLUDE_ERROR_DETAILS" (.kept (some "yes"))).cons "ENV"
        (.around " " "Production" "\n" rfl rfl)).blank
      "FILE_GC_PERIOD_SECONDS" rfl rfl
  have hself : loose.IsLoosened loose := .refl loose
  have hvalid : validate env {} = .ok () := ok_of_toOption (by decide +kernel)
  have hload : load env {} = .ok ⟨"Production", true, "fs", none, "mongodb", some "u", some "d", 60,
      100, 3600⟩ :=
    ok_of_toOption (by decide +kernel)
  obtain ⟨-, -, hvalidate, -, hsettings⟩ := stray_blanks_count_iff hloose {}
  obtain ⟨changed, hchanged, heq, hkind, hwish, hproduction, -⟩ := hsettings _ hload
  obtain ⟨-, -, -, -, hsettings⟩ := stray_blanks_count_iff hself {}
  obtain ⟨-, -, -, -, -, -, hhides⟩ := hsettings _ hchanged
  have hdetails : changed.showDetails = true := hwish.mpr (.inl (by decide))
  rw [hdetails] at heq
  refine ⟨hloose, hself, hvalidate.trans hvalid, _, changed, hload, hchanged, heq, ?_,
    ?_, by decide +kernel, ?_⟩
  · exact hkind.not.mpr (by decide)
  · exact hproduction.not.mpr (by decide +kernel)
  · rw [hhides " Production\n" rfl (by decide +kernel), hdetails]
    decide +kernel

/-- **Stray blanks can open production**: with blanks around the word for production, its settings
are no longer those of production, and the texts of faults are shown. -/
theorem blanks_open_production :
    ¬ (∀ (env loose : Environment) (files : FileTree), env.IsLoosened loose →
        validate env files = .ok () → load loose files = load env files) ∧
      ¬ ∀ (env : Environment) (files : FileTree) (value : String) (settings : Settings),
        env.lookup "ENV" = some value → lower (trim value) = "production" →
          load env files = .ok settings →
          ∀ id one other, Http.App.lastResort settings id one =
            Http.App.lastResort settings id other := by
  constructor
  · intro hclaim
    have hloose : Environment.IsLoosened [("ENV", "production")] [("ENV", " production ")] :=
      (Environment.IsLoosened.refl []).cons "ENV" (.around " " "production" " " rfl rfl)
    have hvalid : validate [("ENV", "production")] {} = .ok () := ok_of_toOption (by decide +kernel)
    have hsame := congrArg Except.toOption (hclaim _ _ {} hloose hvalid)
    revert hsame
    decide +kernel
  · intro hclaim
    have hload : load [("ENV", " production "), ("DEBUG_INCLUDE_ERROR_DETAILS", "true")] {} =
        .ok ⟨" production ", true, "fs", none, "memory", none, none, 60, 100, 3600⟩ :=
      ok_of_toOption (by decide +kernel)
    have hsame := congrArg Http.Response.body
      (hclaim _ _ " production " _ rfl (by decide +kernel) hload "r" (.state "one")
        (.state "other"))
    revert hsame
    decide +kernel

end Settings

end MediaDepot
