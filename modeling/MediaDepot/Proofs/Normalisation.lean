import MediaDepot.Proofs.ConfigRefusals
import MediaDepot.Proofs.WholeNumbers

/-!
# MediaDepot.Proofs.Normalisation

**A configuration that is accepted is in normal form.** What counts as nothing takes its default, so
the texts that all handlers need are not empty, and neither is the folder of local files. The
lifetime of signed URLs is compared with zero in one reading and taken in another one; both readings
see the same number (`BucketConfig.whole_eq_of_roughSeconds`), so it is positive. A configuration in
this form is read back from its own fields as it is (`LocalConfig.check_toFields`,
`BucketConfig.check_toFields`).
-/

namespace MediaDepot

open Number

/-! ### Texts -/

namespace Lax

theorem text_eq_ok_iff {value : Json} {s : String} : text value = .ok s ↔ value = .str s := by
  unfold text
  split
  · simp
  · next hstr =>
      constructor
      · exact nofun
      · rintro rfl
        exact absurd rfl (hstr s)

/-- A text in whose place a default stands is not empty. -/
theorem ne_empty_of_textOr {default s : String} {value : Json} (hdefault : default ≠ "")
    (h : textOr default value = .ok s) : s ≠ "" := by
  unfold textOr at h
  split at h
  · next htruthy =>
      obtain rfl := text_eq_ok_iff.mp h
      rintro rfl
      cases htruthy
  · obtain rfl := Except.ok.inj h
    exact hdefault

theorem textOr_str {s : String} (hs : s ≠ "") (default : String) :
    textOr default (.str s) = .ok s := by
  have htruthy : (Json.str s).isTruthy = true := by simpa [Json.isTruthy] using hs
  rw [textOr, if_pos htruthy, text]

theorem whole_str_eq_ok {s : String} {n : Int} (h : whole (.str s) = .ok n) :
    ofDocumentText s = .ok n := by
  rw [whole] at h
  split at h
  · next m hm => rw [hm, Except.ok.inj h]
  · cases h
  · cases h

theorem whole_float_eq_ok {x : Binary64} {n : Int} (h : whole (.float x) = .ok n) :
    x.truncate = some n := by
  rw [whole] at h
  split at h
  · cases h
  · next m hm =>
      split at h
      · cases h
      split at h
      · rw [hm, Except.ok.inj h]
      · cases h

theorem textsFrom_map_str (name : String) (i : Nat) (texts : List String) :
    textsFrom name i (texts.map .str) = .sound texts := by
  induction texts generalizing i with
  | nil => rfl
  | cons s rest ih => rw [List.map_cons, textsFrom, ih]; rfl

theorem texts_map_str (name : String) (list : List String) :
    texts name (.arr (list.map .str)) = .sound list := by
  cases list with
  | nil => rfl
  | cons s rest => exact textsFrom_map_str name 0 (s :: rest)

end Lax

namespace Checked

variable {α : Type} {fields : Fields} {name : String} {value : Json}

theorem optional_of_get? {default a : α} {read : Json → Except Misfit α}
    (hvalue : fields.get? name = some value)
    (hread : read value = .ok a) : optional fields name default read = .sound a :=
  optional_eq_sound_iff.mpr (.inr ⟨value, hvalue, hread⟩)

theorem ne_empty_of_optional {default s : String} (hdefault : default ≠ "")
    (h : optional fields name default (Lax.textOr default) = .sound s) : s ≠ "" := by
  rcases optional_eq_sound_iff.mp h with ⟨-, rfl⟩ | ⟨value, -, hread⟩
  · exact hdefault
  · exact Lax.ne_empty_of_textOr hdefault hread

end Checked

theorem ofChecked_eq_ok_iff {α : Type} {checked : Checked α} {config : α} :
    ofChecked checked = .ok config ↔ checked = .sound config := by
  cases checked <;> simp [ofChecked]

theorem parseConfig_eq_ok {α : Type} {read : Fields → Except Failure α}
    {raw : RawConfig} {config : α}
    (h : parseConfig read raw = .ok config) :
    ∃ fields, raw.fields = .ok fields ∧ read fields = .ok config := by
  unfold parseConfig at h
  split at h
  · next fields hfields => exact ⟨fields, hfields, h⟩
  · cases h

/-! ### What all handlers need -/

namespace ServeConfig

variable {fields : Fields} {config : ServeConfig}

/-- The texts that all handlers need are there. -/
structure Normal (config : ServeConfig) : Prop where
  serveUrl : config.serveUrl ≠ ""
  cacheControl : config.cacheControl ≠ ""

theorem normal_of_check (h : check fields = .sound config) : config.Normal := by
  simp only [check, Checked.seq_eq_sound_iff, Checked.map_eq_sound_iff] at h
  obtain ⟨_, ⟨_, ⟨url, hurl, rfl⟩, origins, -, rfl⟩, cache, hcache, rfl⟩ := h
  exact ⟨Checked.ne_empty_of_optional (by decide) hurl,
    Checked.ne_empty_of_optional (by decide) hcache⟩

theorem check_toFields (h : config.Normal) (more : Fields) :
    check (config.toFields ++ more) = .sound config := by
  simp only [check, Checked.seq_eq_sound_iff, Checked.map_eq_sound_iff]
  refine ⟨_, ⟨_, ⟨config.serveUrl, ?_, rfl⟩, config.origins, ?_, rfl⟩, config.cacheControl, ?_, rfl⟩
  · exact Checked.optional_of_get? rfl (Lax.textOr_str h.serveUrl _)
  · exact Lax.texts_map_str _ config.origins
  · exact Checked.optional_of_get? rfl (Lax.textOr_str h.cacheControl _)

end ServeConfig

/-! ### Local files -/

namespace LocalConfig

variable {fields : Fields} {config : LocalConfig}

/-- The texts that the handler of local files needs are there. -/
structure Normal (config : LocalConfig) : Prop where
  serve : config.toServeConfig.Normal
  uploadDir : config.uploadDir ≠ ""

theorem normal_of_check (h : check fields = .sound config) : config.Normal := by
  simp only [check, Checked.seq_eq_sound_iff, Checked.map_eq_sound_iff] at h
  obtain ⟨_, ⟨serve, hserve, rfl⟩, folder, hfolder, rfl⟩ := h
  exact ⟨ServeConfig.normal_of_check hserve, Checked.ne_empty_of_optional (by decide) hfolder⟩

theorem check_toFields (h : config.Normal) : check config.toFields = .sound config := by
  simp only [check, Checked.seq_eq_sound_iff, Checked.map_eq_sound_iff]
  refine ⟨_, ⟨config.toServeConfig, ServeConfig.check_toFields h.serve _, rfl⟩, config.uploadDir,
    ?_, rfl⟩
  exact Checked.optional_of_get? rfl (Lax.textOr_str h.uploadDir _)

theorem normal_of_parse {raw : RawConfig} (h : parse raw = .ok config) : config.Normal := by
  obtain ⟨fields, -, hread⟩ := parseConfig_eq_ok h
  exact normal_of_check (ofChecked_eq_ok_iff.mp hread)

theorem parse_toFields (h : config.Normal) : parse (.document config.toFields) = .ok config :=
  ofChecked_eq_ok_iff.mpr (check_toFields h)

end LocalConfig

/-! ### Object stores -/

namespace BucketConfig

variable {fields : Fields} {config : BucketConfig} {value : Json} {n m : Int}

theorem truncate_of_roughSeconds {x : Binary64} (h : roughSeconds (.float x) = .ok (some n)) :
    x.truncate = some n := by
  cases x with
  | nan => cases Except.ok.inj h
  | infinite negative => cases h
  | finite negative mantissa exponent => exact Except.ok.inj h

/-- **The lifetime of signed URLs** is the number that was compared with zero. -/
theorem whole_eq_of_roughSeconds (hrough : roughSeconds value = .ok (some n))
    (hwhole : Lax.whole value = .ok m) : m = n := by
  cases value with
  | null => cases hwhole
  | bool b =>
      obtain rfl := Option.some.inj (Except.ok.inj hrough)
      exact (Except.ok.inj hwhole).symm
  | int k =>
      obtain rfl := Option.some.inj (Except.ok.inj hrough)
      exact (Except.ok.inj hwhole).symm
  | str s =>
      exact ofDocumentText_eq_of_ofSettingText? (Except.ok.inj hrough) (Lax.whole_str_eq_ok hwhole)
  | float x =>
      have hsame := (Lax.whole_float_eq_ok hwhole).symm.trans (truncate_of_roughSeconds hrough)
      exact Option.some.inj hsame
  | arr items => cases hwhole
  | obj fields => cases hwhole

theorem one_le_of_linkSecondsOf (h : linkSecondsOf value = .ok (.ok m)) : 1 ≤ m := by
  unfold linkSecondsOf at h
  split at h
  · obtain rfl := Except.ok.inj (Except.ok.inj h)
    decide
  · obtain ⟨rough, hrough, hvalue⟩ := exists_of_bind_eq_ok h
    split at hvalue
    · cases Except.ok.inj hvalue
    · next n =>
        have hvalue : (if n ≤ 0 then .ok defaultLinkSeconds else Lax.whole value) = .ok m :=
          Except.ok.inj hvalue
        split at hvalue
        · obtain rfl := Except.ok.inj hvalue
          decide
        · have hsame := whole_eq_of_roughSeconds hrough hvalue
          omega

theorem linkSecondsOf_int (hn : 1 ≤ n) : linkSecondsOf (.int n) = .ok (.ok n) := by
  have hpositive : ¬ n ≤ 0 := by omega
  have hvalue : linkSecondsOf (.int n) =
      .ok (if n ≤ 0 then .ok defaultLinkSeconds else Lax.whole (.int n)) := rfl
  rw [hvalue, if_neg hpositive, Lax.whole]

/-- A lifetime that is read is positive. -/
theorem one_le_of_checkLinkSeconds (h : checkLinkSeconds fields = .ok (.sound n)) : 1 ≤ n := by
  unfold checkLinkSeconds at h
  split at h
  · obtain rfl := Checked.sound.inj (Except.ok.inj h)
    decide
  · next value hvalue =>
      obtain ⟨seconds, hseconds, hread⟩ := exists_of_bind_eq_ok h
      cases seconds with
      | error misfit => cases Except.ok.inj hread
      | ok m =>
          obtain rfl := Checked.sound.inj (Except.ok.inj hread)
          exact one_le_of_linkSecondsOf hseconds

theorem checkLinkSeconds_of_get? (hvalue : fields.get? "presign_ttl" = some (.int n)) (hn : 1 ≤ n) :
    checkLinkSeconds fields = .ok (.sound n) := by
  rw [checkLinkSeconds, hvalue]
  simp only [linkSecondsOf_int hn]
  rfl

/-- The texts that only object stores need: the names of their fields, and where they are kept. -/
def textFields : List (String × (BucketConfig → String)) := [
  ("access_key_id", (·.accessKey)),
  ("secret_access_key", (·.secretKey)),
  ("region", (·.region)),
  ("endpoint", (·.endpoint)),
  ("bucket", (·.bucket))]

/-- All that handlers need is there, and signed URLs are good for some time. -/
structure Normal (config : BucketConfig) : Prop where
  serve : config.toServeConfig.Normal
  linkSeconds : 1 ≤ config.linkSeconds

theorem of_check {linkSeconds : Checked Int} (h : check fields linkSeconds = .sound config) :
    ServeConfig.check fields = .sound config.toServeConfig ∧
      linkSeconds = .sound config.linkSeconds ∧
      ∀ field ∈ textFields, Checked.optional fields field.1 "" Lax.textOrNull =
        .sound (field.2 config) := by
  simp only [check, Checked.seq_eq_sound_iff, Checked.map_eq_sound_iff] at h
  obtain ⟨_, ⟨_, ⟨_, ⟨_, ⟨_, ⟨_, ⟨_, ⟨_, ⟨serve, hserve, rfl⟩, access, haccess, rfl⟩,
    secret, hsecret, rfl⟩, region, hregion, rfl⟩, tls, -, rfl⟩, style, -, rfl⟩,
    endpoint, hendpoint, rfl⟩, bucket, hbucket, rfl⟩, seconds, hseconds, rfl⟩ := h
  refine ⟨hserve, hseconds, ?_⟩
  simp only [textFields, List.forall_mem_cons, List.not_mem_nil, false_imp_iff, implies_true,
    and_true]
  exact ⟨haccess, hsecret, hregion, hendpoint, hbucket⟩

theorem check_toFields (h : config.Normal) :
    check config.toFields (.sound config.linkSeconds) = .sound config := by
  simp only [check, Checked.seq_eq_sound_iff, Checked.map_eq_sound_iff]
  refine ⟨_, ⟨_, ⟨_, ⟨_, ⟨_, ⟨_, ⟨_, ⟨_,
    ⟨config.toServeConfig, ServeConfig.check_toFields h.serve _, rfl⟩, config.accessKey, ?_, rfl⟩,
    config.secretKey, ?_, rfl⟩, config.region, ?_, rfl⟩, config.disableTls, ?_, rfl⟩,
    config.pathStyle, ?_, rfl⟩, config.endpoint, ?_, rfl⟩, config.bucket, ?_, rfl⟩,
    config.linkSeconds, rfl, rfl⟩
  all_goals exact Checked.optional_of_get? rfl rfl

theorem normal_of_parse {raw : RawConfig} (h : parse raw = .ok config) : config.Normal := by
  obtain ⟨fields, -, hread⟩ := parseConfig_eq_ok h
  split at hread
  · next seconds hseconds =>
      obtain ⟨hserve, rfl, -⟩ := of_check (ofChecked_eq_ok_iff.mp hread)
      exact ⟨ServeConfig.normal_of_check hserve, one_le_of_checkLinkSeconds hseconds⟩
  · cases hread

theorem parse_toFields (h : config.Normal) : parse (.document config.toFields) = .ok config := by
  have hseconds : checkLinkSeconds config.toFields = .ok (.sound config.linkSeconds) :=
    checkLinkSeconds_of_get? rfl h.linkSeconds
  simp only [parse, parseConfig, RawConfig.fields, hseconds]
  exact ofChecked_eq_ok_iff.mpr (check_toFields h)

/-- Null in the place of a text is the empty text. -/
theorem eq_empty_of_null {raw : RawConfig} (h : parse raw = .ok config)
    (hfields : raw.fields = .ok fields)
    {field : String × (BucketConfig → String)} (hfield : field ∈ textFields)
    (hnull : fields.get? field.1 = some .null) : field.2 config = "" := by
  obtain ⟨others, hothers, hread⟩ := parseConfig_eq_ok h
  obtain rfl := Except.ok.inj (hfields.symm.trans hothers)
  split at hread
  · obtain ⟨-, -, htexts⟩ := of_check (ofChecked_eq_ok_iff.mp hread)
    have hempty : Checked.optional fields field.1 "" Lax.textOrNull = .sound "" :=
      Checked.optional_of_get? hnull rfl
    exact Checked.sound.inj ((htexts field hfield).symm.trans hempty)
  · cases hread

end BucketConfig

namespace RawConfig

/-- **A configuration that is accepted is in normal form**, whatever it was made of: what all
handlers need is there, signed URLs are good for some time, and null counts as the empty text.
Reading its fields again gives the same configuration. -/
theorem accepted_in_normal_form (raw : RawConfig) :
    (∀ config, LocalConfig.parse raw = .ok config →
        config.Normal ∧ LocalConfig.parse (.document config.toFields) = .ok config) ∧
      ∀ config, BucketConfig.parse raw = .ok config →
        config.Normal ∧
          (∀ fields, raw.fields = .ok fields → ∀ field ∈ BucketConfig.textFields,
            fields.get? field.1 = some .null → field.2 config = "") ∧
          BucketConfig.parse (.document config.toFields) = .ok config := by
  refine ⟨fun config hparse => ?_, fun config hparse => ?_⟩
  · have hnormal : config.Normal := LocalConfig.normal_of_parse hparse
    exact ⟨hnormal, LocalConfig.parse_toFields hnormal⟩
  · have hnormal : config.Normal := BucketConfig.normal_of_parse hparse
    refine ⟨hnormal, fun fields hfields field hfield hnull => ?_,
      BucketConfig.parse_toFields hnormal⟩
    exact BucketConfig.eq_empty_of_null hparse hfields hfield hnull

/-- A lifetime with blanks around it and an underscore inside of it, and fields that count as
nothing. -/
theorem accepted_in_normal_form_of_loose_fields :
    let fields : Fields := [("serve_url", .str ""), ("region", .null), ("upload_dir", .bool false),
      ("presign_ttl", .str " 1_0 ")]
    let files : LocalConfig := {}
    let bucket : BucketConfig := { linkSeconds := 10 }
    (LocalConfig.parse (.document fields) = .ok files ∧ files.uploadDir ≠ "" ∧
        LocalConfig.parse (.document files.toFields) = .ok files) ∧
      BucketConfig.parse (.document fields) = .ok bucket ∧ bucket.serveUrl ≠ "" ∧
        bucket.region = "" ∧ 1 ≤ bucket.linkSeconds ∧
        BucketConfig.parse (.document bucket.toFields) = .ok bucket := by
  intro fields files bucket
  obtain ⟨hlocal, hbucket⟩ := accepted_in_normal_form (.document fields)
  have hfiles : LocalConfig.parse (.document fields) = .ok files := rfl
  have hparse : BucketConfig.parse (.document fields) = .ok bucket := rfl
  obtain ⟨hnormal, hagain⟩ := hlocal files hfiles
  obtain ⟨hnormal', hnull, hagain'⟩ := hbucket bucket hparse
  refine ⟨⟨hfiles, hnormal.uploadDir, hagain⟩, hparse, hnormal'.serve.serveUrl, ?_,
    hnormal'.linkSeconds, hagain'⟩
  exact hnull fields rfl ("region", (·.region)) (by simp [BucketConfig.textFields]) rfl

end RawConfig

end MediaDepot
