import MediaDepot.Text.Charset.KsGrid

/-!
# Korean charsets

Korean has a grid. It holds the common syllables; one charset composes the others from their sounds,
another has further pairs for them, in order, and a third composes all syllables by the bits of a
pair.

* `ks?`, `cp949?` — the pairs; the second charset extends the first.
* `readEucKr` — pairs, and syllables composed of sounds.
* `johab?` — the pairs whose bits are the sounds.
-/

namespace MediaDepot.Text

/-- The pairs of KS X 1001. -/
def ks? (first second : Nat) : Option Char :=
  if 0xA1 ≤ first ∧ 0xA1 ≤ second then ksGrid.get? (first - 0xA1) (second - 0xA1) else none

/-- The syllables beyond the grid, in order. -/
def otherSyllables : Array Char := (ksGrid.missing 0xAC00 11172).toArray

/-- The column of a second byte that is a letter or at least 0x81. -/
def letterColumn? (second : Nat) : Option Nat :=
  if 0x41 ≤ second ∧ second ≤ 0x5A then some (second - 0x41)
  else if 0x61 ≤ second ∧ second ≤ 0x7A then some (second - 0x61 + 26)
  else if 0x81 ≤ second ∧ second ≤ 0xFE then some (second - 0x81 + 52)
  else none

/-- The pairs of the extension in the order of the syllables. -/
def otherSyllable? (first second : Nat) : Option Char := do
  let column ← letterColumn? second
  if 0x81 ≤ first ∧ first ≤ 0xA0 then otherSyllables[(first - 0x81) * 178 + column]?
  else if 0xA1 ≤ first ∧ second ≤ 0xA0 then
    otherSyllables[5696 + (first - 0xA1) * 84 + column]?
  else none

/-- The pairs of the numbered page for Korean. -/
def cp949? (first second : Nat) : Option Char :=
  (ks? first second).or (otherSyllable? first second)

/-- The sounds with which syllables begin. -/
def openingSounds : List Char := "ㄱㄲㄴㄷㄸㄹㅁㅂㅃㅅㅆㅇㅈㅉㅊㅋㅌㅍㅎ".toList

/-- The sounds with which syllables may end. -/
def closingSounds : List Char := "ㄱㄲㄳㄴㄵㄶㄷㄹㄺㄻㄼㄽㄾㄿㅀㅁㅂㅄㅅㅆㅇㅈㅊㅋㅌㅍㅎ".toList

/-- The first byte of the sounds. -/
def soundRow : UInt8 := 0xA4

/-- The second byte of the sign for no sound. -/
def noSound : UInt8 := 0xD4

/-- The syllable composed of three sounds, of which the last may be none. -/
def syllable? (opening middle closing : UInt8) : Option Char := do
  let first ← openingSounds.idxOf? (← ks? soundRow.toNat opening.toNat)
  let last ←
    if closing = noSound then some 0
    else (closingSounds.idxOf? (← ks? soundRow.toNat closing.toNat)).map (· + 1)
  if 0xBF ≤ middle ∧ middle ≤ 0xD3 then
    some (Char.ofNat (0xAC00 + (first * 21 + (middle.toNat - 0xBF)) * 28 + last))
  else none

/-- Reads a byte, a pair or, after the sign for no sound, three sounds of a syllable. -/
def readEucKr : Reader Unit
  | _, bytes@(a :: b :: rest) =>
    if a = soundRow ∧ b = noSound then
      match rest with
      | x :: opening :: y :: middle :: z :: closing :: _ =>
        if x = soundRow ∧ y = soundRow ∧ z = soundRow then
          (syllable? opening middle closing).map fun c => ([c], 8, ())
        else none
      | _ => none
    else readPair ks? () bytes
  | _, bytes => readPair ks? () bytes

/-! ## Syllables by bits -/

/-- What five bits say of a sound. -/
inductive SoundCode where
  /-- There is none. -/
  | silent
  /-- The sound at this place in order. -/
  | sound (index : Nat)

/-- The sound with which a syllable begins. -/
def openingCode? (bits : Nat) : Option SoundCode :=
  if bits = 1 then some .silent
  else if 2 ≤ bits ∧ bits ≤ 20 then some (.sound (bits - 2))
  else none

/-- The sound in the middle of a syllable. Groups of six have two codes between them that are not
used. -/
def middleCode? (bits : Nat) : Option SoundCode :=
  if bits = 2 then some .silent
  else if 3 ≤ bits ∧ bits ≤ 29 ∧ 2 ≤ bits % 8 then some (.sound (bits / 8 * 6 + bits % 8 - 3))
  else none

/-- The sound with which a syllable ends. -/
def closingCode? (bits : Nat) : Option SoundCode :=
  if bits = 1 then some .silent
  else if 2 ≤ bits ∧ bits ≤ 17 then some (.sound (bits - 2))
  else if 19 ≤ bits ∧ bits ≤ 29 then some (.sound (bits - 3))
  else none

/-- The syllable or the single sound of three codes. -/
def ofSounds? : SoundCode → SoundCode → SoundCode → Option Char
  | .silent, .silent, .silent => some '\u3000'
  | .silent, .silent, .sound i => closingSounds[i]?
  | .silent, .sound i, .silent => some (Char.ofNat (0x314F + i))
  | .sound i, .silent, .silent => openingSounds[i]?
  | .sound first, .sound middle, closing =>
    let last := match closing with
      | .silent => 0
      | .sound i => i + 1
    some (Char.ofNat (0xAC00 + (first * 21 + middle) * 28 + last))
  | _, _, _ => none

/-- The characters of the grid other than syllables, two rows of which share a first byte. -/
def johabSymbol? (first second : Nat) : Option Char := do
  let column ←
    if 0x31 ≤ second ∧ second ≤ 0x7E then some (second - 0x31)
    else if 0x91 ≤ second ∧ second ≤ 0xFE then some (second - 0x43)
    else none
  let pair ←
    if 0xD9 ≤ first ∧ first ≤ 0xDE then some (2 * (first - 0xD9))
    else if 0xE0 ≤ first ∧ first ≤ 0xF9 then some (2 * (first - 0xE0) + 41)
    else none
  if first = 0xDA ∧ 0xA1 ≤ second ∧ second ≤ 0xD3 then none
  else ksGrid.get? (pair + column / 94) (column % 94)

/-- The pairs whose bits are the sounds of a syllable, and those of other characters. -/
def johab? (first second : Nat) : Option Char :=
  if first < 0xD8 then do
    let opening ← openingCode? (first / 4 % 32)
    let middle ← middleCode? (first % 4 * 8 + second / 32)
    let closing ← closingCode? (second % 32)
    ofSounds? opening middle closing
  else johabSymbol? first second

end MediaDepot.Text
