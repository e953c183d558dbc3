import MediaDepot.Text.Charset.CodePage
import MediaDepot.Text.Charset.Designations
import MediaDepot.Text.Charset.Escapes
import MediaDepot.Text.Charset.Shifts
import MediaDepot.Text.DomainName
import MediaDepot.Text.Utf8

/-!
# Charsets

A header may name the charset in which texts are sent.

* `Charset.ofName?` — the charset of a name. Capital letters do not matter, nor does what separates
  the words of the name.
* `Charset.decode` — the text that bytes are in a charset, if they are one.
* `Charset.textOf?` — the text that bytes are taken for: what is no text in its charset counts as
  Latin-1, in which all bytes are text.
-/

namespace MediaDepot.Text

/-- A charset. -/
inductive Charset where
  | ascii
  | latin1
  | utf8
  /-- UTF-8 that may begin with a mark. -/
  | markedUtf8
  | utf16 (order : ByteOrder)
  | utf32 (order : ByteOrder)
  | utf7
  | page (page : CodePage)
  | gb2312
  | gbk
  | gb18030
  | hz
  | big5
  | cp950
  /-- Big5 with the characters of Hong Kong. -/
  | hongKong
  | eucKr
  | cp949
  /-- Korean in which a syllable is written by its sounds. -/
  | johab
  | shiftJis
  | cp932
  | eucJp
  /-- Shifted pairs for the two planes of JIS X 0213. -/
  | shiftedPlanes (edition : Edition)
  /-- Pairs, some after a byte of their own, for the two planes of JIS X 0213. -/
  | eucPlanes (edition : Edition)
  | designated (designations : Designations)
  | escapes
  | codeEscapes
  | punycode
  | domainName
  /-- A charset in which only the empty text can be read. -/
  | undefined
  /-- What a name with a NUL stands for: not even the empty text can be read. -/
  | unnamed

namespace Charset

/-! ## Names -/

/-- The letters, digits and points of a name, all small, with an underscore between its words;
`apart` says whether something else stood before. -/
def wordsFrom (apart : Bool) : List Char → List Char
  | [] => []
  | c :: rest =>
    if c.isAlphanum || c == '.' then
      (if apart then ['_', c.toLower] else [c.toLower]) ++ wordsFrom false rest
    else wordsFrom true rest

/-- The form in which names are compared. -/
def plainName (name : String) : String :=
  String.ofList (wordsFrom false (name.toList.dropWhile fun c => !(c.isAlphanum || c == '.')))

/-- Is it one of these names? In all but the main one, a point may stand for an underscore. -/
def isNamed (plain main : String) (others : List String) : Bool :=
  let joined := String.ofList (plain.toList.map fun c => if c = '.' then '_' else c)
  plain == main || others.contains plain || others.contains joined

/-- The charsets that are not code pages, with their names. -/
def named : List (String × List String × Charset) := [
  ("utf_8", ["cp65001", "u8", "utf", "utf8", "utf8_ucs2", "utf8_ucs4"], .utf8),
  ("utf_8_sig", [], .markedUtf8),
  ("ascii", ["646", "ansi_x3.4_1968", "ansi_x3.4_1986", "ansi_x3_4_1968", "cp367", "csascii",
    "ibm367", "iso646_us", "iso_646.irv_1991", "iso_ir_6", "us", "us_ascii"], .ascii),
  ("latin_1", ["8859", "cp819", "csisolatin1", "ibm819", "iso8859", "iso8859_1", "iso_8859_1",
    "iso_8859_1_1987", "iso_ir_100", "l1", "latin", "latin1"], .latin1),
  ("utf_16", ["u16", "utf16"], .utf16 .marked),
  ("utf_16_le", ["unicodelittleunmarked", "utf_16le"], .utf16 .little),
  ("utf_16_be", ["unicodebigunmarked", "utf_16be"], .utf16 .big),
  ("utf_32", ["u32", "utf32"], .utf32 .marked),
  ("utf_32_le", ["utf_32le"], .utf32 .little),
  ("utf_32_be", ["utf_32be"], .utf32 .big),
  ("utf_7", ["u7", "unicode_1_1_utf_7", "utf7"], .utf7),
  ("gb2312", ["chinese", "csiso58gb231280", "euc_cn", "euccn", "eucgb2312_cn", "gb2312_1980",
    "gb2312_80", "iso_ir_58", "x_mac_simp_chinese"], .gb2312),
  ("gbk", ["936", "cp936", "ms936"], .gbk),
  ("gb18030", ["gb18030_2000"], .gb18030),
  ("hz", ["hz_gb", "hz_gb_2312", "hzgb"], .hz),
  ("big5", ["big5_tw", "csbig5", "x_mac_trad_chinese"], .big5),
  ("cp950", ["950", "ms950"], .cp950),
  ("euc_kr", ["euckr", "korean", "ks_c_5601", "ks_c_5601_1987", "ks_x_1001", "ksc5601", "ksx1001",
    "x_mac_korean"], .eucKr),
  ("cp949", ["949", "ms949", "uhc"], .cp949),
  ("shift_jis", ["csshiftjis", "s_jis", "shiftjis", "sjis", "x_mac_japanese"], .shiftJis),
  ("cp932", ["932", "ms932", "ms_kanji", "mskanji"], .cp932),
  ("euc_jp", ["eucjp", "u_jis", "ujis"], .eucJp),
  ("big5hkscs", ["big5_hkscs", "hkscs"], .hongKong),
  ("johab", ["cp1361", "ms1361"], .johab),
  ("shift_jisx0213", ["s_jisx0213", "shiftjisx0213", "sjisx0213"], .shiftedPlanes .first),
  ("shift_jis_2004", ["s_jis_2004", "shiftjis2004", "sjis_2004"], .shiftedPlanes .second),
  ("euc_jisx0213", ["eucjisx0213"], .eucPlanes .first),
  ("euc_jis_2004", ["euc_jis2004", "eucjis2004", "jisx0213"], .eucPlanes .second),
  ("iso2022_kr", ["csiso2022kr", "iso2022kr", "iso_2022_kr"], .designated iso2022Kr),
  ("iso2022_jp", ["csiso2022jp", "iso2022jp", "iso_2022_jp"], .designated iso2022Jp),
  ("iso2022_jp_1", ["iso2022jp_1", "iso_2022_jp_1"], .designated iso2022Jp1),
  ("iso2022_jp_2", ["iso2022jp_2", "iso_2022_jp_2"], .designated iso2022Jp2),
  ("iso2022_jp_3", ["iso2022jp_3", "iso_2022_jp_3"], .designated iso2022Jp3),
  ("iso2022_jp_2004", ["iso2022jp_2004", "iso_2022_jp_2004"], .designated iso2022Jp2004),
  ("iso2022_jp_ext", ["iso2022jp_ext", "iso_2022_jp_ext"], .designated iso2022JpExt),
  ("unicode_escape", [], .escapes),
  ("raw_unicode_escape", [], .codeEscapes),
  ("punycode", [], .punycode),
  ("idna", [], .domainName),
  ("undefined", [], .undefined)]

/-- The charset of a name. -/
def ofName? (name : String) : Option Charset :=
  let plain := plainName name
  if name.toList.contains '\x00' then some .unnamed
  else match named.find? fun (main, others, _) => isNamed plain main others with
  | some (_, _, charset) => some charset
  | none => (codePages.find? fun page => isNamed plain page.name page.others).map .page

/-! ## Texts -/

/-- What was read, if it is a text. -/
def ofLoose : Option LooseText → Except CharsetFault LooseText
  | some text => .ok text
  | none => .error .noText

/-- The characters that were read, if they are a text. -/
def ofCharacters (characters : Option (List Char)) : Except CharsetFault LooseText :=
  ofLoose (characters.map fun cs => cs.map .char)

/-- What was read with designations. It is worth nothing if the end was lost. -/
def ofShift : Option (List Char × Shift) → Except CharsetFault LooseText
  | some (characters, shift) => if shift.isLost then .error .broken else ofCharacters characters
  | none => .error .noText

/-- The text that the bytes are. -/
def decode (charset : Charset) (bytes : Bytes) : Except CharsetFault LooseText :=
  match charset with
  | .ascii => ofCharacters (if bytes.all (· < 128) then some (ofLatin1 bytes).toList else none)
  | .latin1 => ofCharacters (some (ofLatin1 bytes).toList)
  | .utf8 => ofCharacters ((readUtf8 none bytes).mapM id)
  | .markedUtf8 =>
    let unmarked := if [0xEF, 0xBB, 0xBF].isPrefixOf bytes then bytes.drop 3 else bytes
    ofCharacters ((readUtf8 none unmarked).mapM id)
  | .utf16 order => ofCharacters (utf16? order bytes)
  | .utf32 order => ofCharacters (utf32? order bytes)
  | .utf7 => ofLoose (utf7? bytes)
  | .page codePage => ofCharacters (codePage.decode? bytes)
  | .gb2312 => ofCharacters (readAll (readPair gb2312?) () bytes)
  | .gbk => ofCharacters (readAll (readPair gbk?) () bytes)
  | .gb18030 => ofCharacters (readAll (readGb18030 (Thunk.mk fun _ => unpaired)) () bytes)
  | .hz => ofCharacters (readAll readHz false bytes)
  | .big5 => ofCharacters (readAll (readPair big5?) () bytes)
  | .cp950 => ofCharacters (readAll (readPair cp950?) () bytes)
  | .hongKong => ofCharacters (readAll (readPairs hongKong?) () bytes)
  | .eucKr => ofCharacters (readAll readEucKr () bytes)
  | .cp949 => ofCharacters (readAll (readPair cp949?) () bytes)
  | .johab => ofCharacters (readAll (readPair johab?) () bytes)
  | .shiftJis => ofCharacters (readAll readShiftJis () bytes)
  | .cp932 => ofCharacters (readAll readCp932 () bytes)
  | .eucJp => ofCharacters (readAll readEucJp () bytes)
  | .shiftedPlanes edition => ofCharacters (readAll (readShiftedPlanes edition) () bytes)
  | .eucPlanes edition => ofCharacters (readAll (readEucPlanes edition) () bytes)
  | .designated designations => ofShift (readThrough (readDesignated designations) {} bytes)
  | .escapes => ofLoose (escapes? bytes)
  | .codeEscapes => ofLoose (codeEscapes? bytes)
  | .punycode => Punycode.decode bytes
  | .domainName => DomainName.decode bytes
  | .undefined => if bytes.isEmpty then .ok [] else .error .broken
  | .unnamed => .error .broken

/-- The text that bytes are taken for, in a charset that may be unknown; `none` if reading them
breaks off. -/
def textOf? (charset : Option Charset) (bytes : Bytes) : Option LooseText :=
  match charset with
  | none => some (.ofString (ofLatin1 bytes))
  | some charset =>
    match charset.decode bytes with
    | .ok text => some text
    | .error .noText => some (.ofString (ofLatin1 bytes))
    | .error .broken => none

/-- A text in ASCII is the same text in Latin-1. -/
theorem decode_latin1_of_ascii {bytes : Bytes} {text : LooseText}
    (h : decode .ascii bytes = .ok text) : decode .latin1 bytes = .ok text := by
  by_cases hall : bytes.all (· < 128)
  · simpa [decode, hall] using h
  · simp [decode, hall, ofCharacters, ofLoose] at h

end Charset

end MediaDepot.Text
