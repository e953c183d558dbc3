import MediaDepot.Bytes

/-!
# Encodings of text

UTF-8 for bodies, files and percent-decoded query values; Latin-1 for names and values of headers.

One reader serves both strict and forgiving decoding of UTF-8: it yields each character, and a mark
for every longest beginning of a character that is not completed. Strict decoding refuses a mark,
forgiving decoding shows it as U+FFFD.
-/

namespace MediaDepot.Text

/-- A character of several bytes of which some are still `missing`; the next must lie between `low`
and `high`. -/
structure Pending where
  code : Nat
  missing : Nat
  low : UInt8
  high : UInt8

/-- Reads a byte that begins a character: what it yields at once and what it leaves pending. A byte
that begins none yields a mark. -/
def beginCharacter (b : UInt8) : List (Option Char) × Option Pending :=
  if b < 0x80 then ([some (Char.ofNat b.toNat)], none)
  else if 0xC2 ≤ b && b ≤ 0xDF then ([], some ⟨b.toNat - 0xC0, 1, 0x80, 0xBF⟩)
  else if 0xE0 ≤ b && b ≤ 0xEF then
    ([], some ⟨b.toNat - 0xE0, 2, if b = 0xE0 then 0xA0 else 0x80, if b = 0xED then 0x9F else 0xBF⟩)
  else if 0xF0 ≤ b && b ≤ 0xF4 then
    ([], some ⟨b.toNat - 0xF0, 3, if b = 0xF0 then 0x90 else 0x80, if b = 0xF4 then 0x8F else 0xBF⟩)
  else ([none], none)

/-- The characters of the remaining bytes, `none` for each malformed piece. -/
def readUtf8 : Option Pending → Bytes → List (Option Char)
  | none, [] => []
  | some _, [] => [none]
  | none, b :: rest => (beginCharacter b).1 ++ readUtf8 (beginCharacter b).2 rest
  | some p, b :: rest =>
    if p.low ≤ b && b ≤ p.high then
      let code := p.code * 64 + (b.toNat - 0x80)
      if p.missing ≤ 1 then some (Char.ofNat code) :: readUtf8 none rest
      else readUtf8 (some ⟨code, p.missing - 1, 0x80, 0xBF⟩) rest
    else none :: ((beginCharacter b).1 ++ readUtf8 (beginCharacter b).2 rest)

/-- The text encoded by the bytes, if they are well-formed UTF-8. -/
def ofUtf8? (bytes : Bytes) : Option String :=
  ((readUtf8 none bytes).mapM id).map String.ofList

/-- The text encoded by the bytes, with U+FFFD for every malformed piece. -/
def ofUtf8Lossy (bytes : Bytes) : String :=
  String.ofList ((readUtf8 none bytes).map (·.getD '\uFFFD'))

/-- The UTF-8 encoding of a text. -/
def utf8 (s : String) : Bytes := s.toUTF8.data.toList

/-- A text of ASCII characters takes a byte for each. -/
theorem utf8ByteSize_ofList_of_ascii {cs : List Char} (h : ∀ c ∈ cs, c.utf8Size = 1) :
    (String.ofList cs).utf8ByteSize = cs.length := by
  induction cs with
  | nil => rfl
  | cons c cs ih =>
    rw [String.ofList_cons, String.utf8ByteSize_append, String.utf8ByteSize_singleton,
      h c List.mem_cons_self, ih fun c hc => h c (List.mem_cons_of_mem _ hc), List.length_cons,
      Nat.add_comm]

/-- The Latin-1 encoding of a text, if all its characters lie below U+0100. -/
def latin1? (s : String) : Option Bytes :=
  s.toList.mapM fun c => if c.toNat < 256 then some (UInt8.ofNat c.toNat) else none

/-- The text whose Latin-1 encoding the bytes are. -/
def ofLatin1 (bytes : Bytes) : String :=
  String.ofList (bytes.map fun b => Char.ofNat b.toNat)

end MediaDepot.Text
