import MediaDepot.Json.Parser
import MediaDepot.Json.Printer
import MediaDepot.Text.Utf8
import Mathlib.Tactic

/-!
# MediaDepot.Proofs.Documents

**What can be read off a written document.** The texts in it are read back as they were written
(`Json.readText_renderText`), and a quote inside of a text is escaped (`Json.getLast?_of_quote`), so
two documents that end in a text are the same only if these texts are
(`Json.renderText_eq_of_suffix`). The names of the fields of an object stand in its document
(`Json.renderText_infix_of_get`), where they cannot be mistaken for a text
(`Json.not_infix_render_singleton`), and a text in the last field can be told from the document
(`Json.eq_of_render_append`).
-/

namespace MediaDepot

/-- Different texts have different bytes. -/
theorem Text.utf8_injective {s t : String} (h : utf8 s = utf8 t) : s = t := by
  apply String.toByteArray_inj.mp
  apply ByteArray.ext
  exact Array.toList_inj.mp h

namespace Json

/-! ### Texts -/

/-- The escape of a control character stands for it. -/
theorem readText_control {code : Nat} (h : code < 32) (done rest : List Char) :
    readText none done ('\\' :: 'u' :: (Text.hexDigits 4 code ++ rest)) =
      readText none (Char.ofNat code :: done) rest := by
  have hdigits : Text.hexDigits 4 code =
      ['0', '0', Bytes.hexDigit (code / 16), Bytes.hexDigit (code % 16)] := by
    have hsmall : code / 16 < 16 := by omega
    simp [Text.hexDigits, Nat.div_eq_of_lt hsmall, Nat.mod_eq_of_lt hsmall]
    decide
  have hquad : ∀ n : Fin 32,
      hexQuad? '0' '0' (Bytes.hexDigit (n.1 / 16)) (Bytes.hexDigit (n.1 % 16)) = some n.1 := by
    decide
  have hfirst : ¬ (0xD800 ≤ code ∧ code < 0xDC00) := by omega
  have hsecond : ¬ (0xDC00 ≤ code ∧ code < 0xE000) := by omega
  rw [hdigits]
  simp only [List.cons_append, List.nil_append, readText, hquad ⟨code, h⟩, bind, Option.bind,
    hfirst, hsecond, if_false]

/-- A character is read back as it is written. -/
theorem readText_renderChar (c : Char) (done rest : List Char) :
    readText none done (renderChar c ++ rest) = readText none (c :: done) rest := by
  unfold renderChar
  split
  case h_8 =>
    split
    · next hcontrol =>
        rw [List.cons_append, List.cons_append, readText_control hcontrol, Char.ofNat_toNat]
    · -- any other character stands for itself
      rw [List.singleton_append, readText.eq_def]
      split <;> simp_all
  all_goals rfl

theorem readText_flatMap (cs done rest : List Char) :
    readText none done (cs.flatMap renderChar ++ '"' :: rest) =
      some (String.ofList (done.reverse ++ cs), rest) := by
  induction cs generalizing done with
  | nil => simp [readText]
  | cons c cs ih =>
      rw [List.flatMap_cons, List.append_assoc, readText_renderChar, ih]
      simp

theorem toList_renderText (s : String) :
    (renderText s).toList = '"' :: (s.toList.flatMap renderChar ++ ['"']) := by
  simp [renderText]

/-- **A text is read back** as it is written. -/
theorem readText_renderText (s : String) :
    readText none [] (s.toList.flatMap renderChar ++ ['"']) = some (s, []) := by
  rw [readText_flatMap]
  simp

theorem renderText_injective {s t : String} (h : (renderText s).toList = (renderText t).toList) :
    s = t := by
  rw [toList_renderText, toList_renderText, List.cons.injEq] at h
  have hread := readText_renderText s
  rw [h.2, readText_renderText] at hread
  exact (Prod.mk.inj (Option.some.inj hread)).1.symm

theorem eq_of_quote_mem_renderChar {c : Char} (h : '"' ∈ renderChar c) : c = '"' := by
  by_contra hne
  revert h
  unfold renderChar
  split
  case h_8 =>
    split
    · next hcontrol =>
        have hdigits : ∀ n : Fin 32, '"' ∉ Text.hexDigits 4 n.1 := by decide
        simpa using hdigits ⟨_, hcontrol⟩
    · simp [Ne.symm hne]
  all_goals simp_all

/-- **A quote inside of a written text is escaped.** -/
theorem getLast?_of_quote {cs front back : List Char}
    (h : cs.flatMap renderChar = front ++ '"' :: back) : front.getLast? = some '\\' := by
  induction cs generalizing front with
  | nil => simp at h
  | cons c cs ih =>
      rw [List.flatMap_cons, List.append_eq_append_iff] at h
      rcases h with ⟨rest, rfl, hrest⟩ | ⟨rest, hchar, hrest⟩
      · rw [List.getLast?_append, ih hrest]
        rfl
      · cases rest with
        | nil => exact absurd (ih (show _ = [] ++ _ from hrest.symm)) (by simp)
        | cons d rest =>
            -- the quote is a part of what is written for the first character
            obtain ⟨rfl, -⟩ := List.cons.inj hrest
            obtain rfl : c = '"' := eq_of_quote_mem_renderChar (by rw [hchar]; simp)
            match front, hchar with
            | [], h => cases h
            | [_], h =>
                cases h
                rfl
            | _ :: _ :: _, h => simp [renderChar] at h

/-- Is the character neither a quote nor the sign that escapes one? -/
def comesBeforeText (c : Char) : Bool := c != '"' && c != '\\'

/-- **The text at the end is determined**, and so is what comes before it. -/
theorem renderText_eq_of_suffix {front front' : List Char} {c c' : Char} {s t : String}
    (hc : comesBeforeText c = true) (hc' : comesBeforeText c' = true)
    (h : front ++ c :: (renderText s).toList = front' ++ c' :: (renderText t).toList) :
    front = front' ∧ c = c' ∧ s = t := by
  wlog hle : front.length ≤ front'.length generalizing s t front front' c c'
  · obtain ⟨hfront, hsep, htext⟩ := this hc' hc h.symm (by omega)
    exact ⟨hfront.symm, hsep.symm, htext.symm⟩
  obtain ⟨more, rfl, hmore⟩ : ∃ more, front' = front ++ more ∧
      c :: (renderText s).toList = more ++ c' :: (renderText t).toList := by
    rcases List.append_eq_append_iff.mp h with ⟨more, hfront, hback⟩ | ⟨more, hfront, hback⟩
    · exact ⟨more, hfront, hback⟩
    · have hlength := congrArg List.length hfront
      rw [List.length_append] at hlength
      obtain rfl : more = [] := List.length_eq_zero_iff.mp (by omega)
      exact ⟨[], by simpa using hfront.symm, by simpa using hback.symm⟩
  simp only [comesBeforeText, Bool.and_eq_true, bne_iff_ne] at hc'
  cases more with
  | nil =>
      obtain ⟨hsep, htext⟩ := List.cons.inj hmore
      exact ⟨(List.append_nil front).symm, hsep, renderText_injective htext⟩
  | cons d more =>
      -- the second text would begin inside of the first one, at a quote that is not escaped
      obtain ⟨rfl, hrest⟩ := List.cons.inj hmore
      rw [toList_renderText, toList_renderText] at hrest
      cases more with
      | nil => exact absurd (List.cons.inj hrest).1.symm hc'.1
      | cons d more =>
          have hinner : s.toList.flatMap renderChar ++ ['"'] =
              ((more ++ [c']) ++ '"' :: t.toList.flatMap renderChar) ++ ['"'] := by
            simpa using (List.cons.inj hrest).2
          have hlast := getLast?_of_quote (List.append_cancel_right hinner)
          rw [List.getLast?_concat] at hlast
          exact absurd (Option.some.inj hlast) hc'.2

/-! ### Objects -/

/-- A field in a document. -/
def renderField (field : String × Json) : String := renderText field.1 ++ ":" ++ render field.2

theorem renderFields_eq_map (fields : Fields) : renderFields fields = fields.map renderField := by
  induction fields with
  | nil => rfl
  | cons field fields ih =>
      obtain ⟨name, value⟩ := field
      rw [renderFields, ih]
      rfl

theorem toList_render_obj (fields : Fields) : (render (.obj fields)).toList =
    '\x7b' :: ([','].intercalate (fields.map fun field => (renderField field).toList) ++
      ['\x7d']) := by
  simp [render, renderFields_eq_map, String.toList_intercalate, Function.comp_def]

theorem infix_intercalate_of_mem {α : Type} {item : List α} {items : List (List α)} (sep : List α)
    (h : item ∈ items) : item <:+: sep.intercalate items := by
  induction items with
  | nil => cases h
  | cons first items ih =>
      rcases List.mem_cons.mp h with rfl | hmem
      · cases items with
        | nil => simp
        | cons second items =>
            rw [List.intercalate_cons_cons, List.append_assoc]
            exact (List.prefix_append ..).isInfix
      · obtain ⟨second, rest, rfl⟩ := List.exists_cons_of_ne_nil (List.ne_nil_of_mem hmem)
        rw [List.intercalate_cons_cons]
        exact (ih hmem).trans (List.suffix_append ..).isInfix

/-- **The name of a field** stands in the document of the object. -/
theorem renderText_infix_of_get {fields : Fields} {name : String} {value : Json}
    (h : fields.get? name = some value) :
    (renderText name).toList ++ [':'] <:+: (render (.obj fields)).toList := by
  obtain ⟨front, back, rfl, -⟩ := List.lookup_eq_some_iff.mp h
  have hname : (renderText name).toList ++ [':'] <:+: (renderField (name, value)).toList := by
    rw [renderField, String.toList_append, String.toList_append]
    exact (List.prefix_append ..).isInfix
  have hfield : (renderField (name, value)).toList <:+:
      [','].intercalate ((front ++ (name, value) :: back).map fun field =>
        (renderField field).toList) :=
    infix_intercalate_of_mem _ (List.mem_map_of_mem (f := fun field => (renderField field).toList)
      (List.mem_append_cons_self))
  rw [toList_render_obj]
  exact hname.trans (hfield.trans
    ((List.prefix_append ..).isInfix.trans (List.suffix_cons ..).isInfix))

/-- In the document of an object with one text, no other colon follows on a quote. -/
theorem not_infix_render_singleton {name text : String} {c : Char} (hc : c ≠ '\\')
    (hname : c ∉ '\x7b' :: ((renderText name).toList ++ [':', '"'])) :
    ¬ [c, '"', ':'] <:+: (render (.obj [(name, .str text)])).toList := by
  rintro ⟨front, back, hdocument⟩
  have hwhole : ('\x7b' :: ((renderText name).toList ++ [':', '"'])) ++
      (text.toList.flatMap renderChar ++ ['"', '\x7d']) = front ++ c :: '"' :: ':' :: back := by
    rw [List.append_assoc] at hdocument
    refine Eq.trans ?_ hdocument.symm
    rw [toList_render_obj]
    simp [renderField, render, toList_renderText]
  obtain ⟨more, hrest⟩ : ∃ more, text.toList.flatMap renderChar ++ ['"', '\x7d'] =
      (more ++ [c]) ++ '"' :: ':' :: back := by
    rcases List.append_eq_append_iff.mp hwhole with ⟨more, -, hrest⟩ | ⟨more, hfront, hrest⟩
    · exact ⟨more, by rw [hrest]; simp⟩
    · cases more with
      | nil => exact ⟨[], hrest.symm⟩
      | cons d more =>
          -- the character would stand before the text
          obtain ⟨rfl, -⟩ := List.cons.inj hrest
          exact absurd (hfront ▸ List.mem_append_right _ List.mem_cons_self) hname
  rcases List.append_eq_append_iff.mp hrest with ⟨last, -, hlast⟩ | ⟨inner, htext, hinner⟩
  · -- nothing but the end follows on the text
    rcases last with _ | ⟨d, _ | ⟨e, last⟩⟩ <;> simp at hlast
  · cases inner with
    | nil => simp at hinner
    | cons d inner =>
        obtain ⟨rfl, -⟩ := List.cons.inj hinner
        have hescaped := getLast?_of_quote htext
        rw [List.getLast?_concat] at hescaped
        exact hc (Option.some.inj hescaped)

/-- **The last field** stands at the end of the document of an object. -/
theorem exists_render_append (fields : Fields) (name : String) (value : Json) :
    ∃ front c, comesBeforeText c = true ∧ (render (.obj (fields ++ [(name, value)]))).toList =
      (front ++ c :: (renderText name).toList) ++ ':' :: ((render value).toList ++ ['\x7d']) := by
  have hfield : (renderField (name, value)).toList =
      (renderText name).toList ++ ':' :: (render value).toList := by
    simp [renderField]
  have hlist : fields = [] ∨ ∃ front, [','].intercalate
      ((fields ++ [(name, value)]).map fun field => (renderField field).toList) =
        front ++ ',' :: (renderField (name, value)).toList := by
    induction fields with
    | nil => exact .inl rfl
    | cons field fields ih =>
        right
        rw [List.cons_append, List.map_cons, List.intercalate_cons_of_ne_nil (by simp)]
        rcases ih with rfl | ⟨front, hfront⟩
        · exact ⟨(renderField field).toList, by simp⟩
        · exact ⟨(renderField field).toList ++ ',' :: front, by rw [hfront]; simp⟩
  rw [toList_render_obj]
  rcases hlist with rfl | ⟨front, hfront⟩
  · exact ⟨[], '\x7b', by decide, by simp [hfield]⟩
  · exact ⟨'\x7b' :: front, ',', by decide, by rw [hfront, hfield]; simp⟩

/-- **Documents that are the same** have the same text in their last fields, under the same name. -/
theorem eq_of_render_append {fields fields' : Fields} {name name' s t : String}
    (h : render (.obj (fields ++ [(name, .str s)])) =
      render (.obj (fields' ++ [(name', .str t)]))) :
    name = name' ∧ s = t := by
  obtain ⟨front, c, hc, hfront⟩ := exists_render_append fields name (.str s)
  obtain ⟨front', c', hc', hfront'⟩ := exists_render_append fields' name' (.str t)
  have hsame := hfront.symm.trans ((congrArg String.toList h).trans hfront')
  simp only [render] at hsame
  have hcolon : comesBeforeText ':' = true := by decide
  have hvalues : (front ++ c :: (renderText name).toList) ++ ':' :: (renderText s).toList =
      (front' ++ c' :: (renderText name').toList) ++ ':' :: (renderText t).toList := by
    refine List.append_cancel_right (show _ ++ ['\x7d'] = _ ++ ['\x7d'] from ?_)
    simpa using hsame
  obtain ⟨hnames, -, htext⟩ := renderText_eq_of_suffix hcolon hcolon hvalues
  exact ⟨(renderText_eq_of_suffix hc hc' hnames).2.2, htext⟩

end Json

end MediaDepot
