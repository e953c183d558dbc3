import MediaDepot.Text.Charset.Big5Grid
import MediaDepot.Text.Charset.GbGrid
import MediaDepot.Text.Charset.HongKongGrid

/-!
# Chinese charsets

Simplified Chinese has a grid, an extension in which all further Chinese characters follow in the
order of their numbers, and a second extension by four bytes for everything else. Traditional
Chinese has a grid of its own, with supplementary characters of Hong Kong around it.

* `gb2312?`, `gbk?`, `gb18030?` — the pairs of simplified Chinese; each charset extends the one
  before it.
* `readGb18030` — the same with four bytes.
* `big5?`, `cp950?`, `hongKong?` — the pairs of traditional Chinese.
-/

namespace MediaDepot.Text

/-- The column of a second byte that is at least 0x40 and not 0x7F. -/
def column? (second : Nat) : Option Nat :=
  if 0x40 ≤ second ∧ second ≤ 0x7E then some (second - 0x40)
  else if 0x80 ≤ second ∧ second ≤ 0xFE then some (second - 0x41)
  else none

/-! ## Simplified Chinese -/

/-- The pairs of GB 2312. -/
def gb2312? (first second : Nat) : Option Char :=
  if 0xA1 ≤ first ∧ 0xA1 ≤ second then gbGrid.get? (first - 0xA1) (second - 0xA1) else none

/-- The Chinese characters beyond the grid, in order, and some that are variants. -/
def otherIdeographs : Array Char :=
  (gbGrid.missing 0x4E00 20902
    ++ ("\uf92c\uf979\uf995\uf9e7\uf9f1\ufa0c\ufa0d\ufa0e\ufa0f\ufa11\ufa13\ufa14\ufa18\ufa1f" ++
      "\ufa20\ufa21\ufa23\ufa24\ufa27\ufa28\ufa29").toList).toArray

/-- The pairs of the extension in the order of the characters. -/
def otherIdeograph? (first second : Nat) : Option Char := do
  let column ← column? second
  if 0x81 ≤ first ∧ first ≤ 0xA0 then otherIdeographs[(first - 0x81) * 190 + column]?
  else if 0xAA ≤ first ∧ second ≤ 0xA0 then
    otherIdeographs[6080 + (first - 0xAA) * 96 + column]?
  else none

/-- The symbols of the extension. -/
def gbkRuns : List Run := [
  ⟨0xA1, 0xA4, "·"⟩, ⟨0xA1, 0xAA, "—"⟩, ⟨0xA2, 0xA1, "ⅰⅱⅲⅳⅴⅵⅶⅷⅸⅹ"⟩,
  ⟨0xA6, 0xE0, "︵︶︹︺︿﹀︽︾﹁﹂﹃﹄  ︻︼︷︸︱ ︳︴"⟩, ⟨0xA8, 0xBB, "ɑ ńň ɡ"⟩,
  ⟨0xA8, 0x40, "ˊˋ˙–―‥‵℅℉↖↗↘↙∕∟∣≒≦≧⊿═║╒╓╔╕╖╗╘╙╚╛╜╝╞╟╠╡╢╣╤╥╦╧╨╩╪╫╬╭╮╯╰╱╲╳▁▂▃▄▅▆▇"⟩,
  ⟨0xA8, 0x80, "█▉▊▋▌▍▎▏▓▔▕▼▽◢◣◤◥☉⊕〒〝〞"⟩,
  ⟨0xA9, 0x40, "〡〢〣〤〥〦〧〨〩㊣㎎㎏㎜㎝㎞㎡㏄㏎㏑㏒㏕︰￢￤ ℡㈱ ‐   ー゛゜ヽヾ〆ゝゞ﹉﹊﹋﹌﹍﹎﹏﹐﹑﹒﹔﹕﹖﹗﹙﹚﹛﹜﹝﹞﹟﹠﹡"⟩,
  ⟨0xA9, 0x80, "﹢﹣﹤﹥﹦﹨﹩﹪﹫"⟩, ⟨0xA9, 0x96, "〇"⟩]

/-- The pairs of GBK. -/
def gbk? (first second : Nat) : Option Char :=
  (inRuns? gbkRuns first second).or
    ((gb2312? first second).or (otherIdeograph? first second))

/-- The characters that were added to the pairs later. -/
def gb18030Runs : List Run := [
  ⟨0xA2, 0xE3, "€"⟩, ⟨0xA8, 0xBF, "ǹ"⟩, ⟨0xA9, 0x89, "〾⿰⿱⿲⿳⿴⿵⿶⿷⿸⿹⿺⿻"⟩,
  ⟨0xFE, 0x50, "⺁   ⺄㑳㑇⺈⺋ 㖞㘚㘎⺌⺗㥮㤘 㧏㧟㩳㧐  㭎㱮㳠⺧  ⺪䁖䅟⺮䌷⺳⺶⺷ 䎱䎬⺻䏝䓖䙡䙌"⟩,
  ⟨0xFE, 0x80, "䜣䜩䝼䞍⻊䥇䥺䥽䦂䦃䦅䦆䦟䦛䦷䦶  䲣䲟䲠䲡䱷䲢䴓䴔䴕䴖䴗䴘䴙䶮"⟩]

/-- The gaps between other pairs, as the first byte, the second bytes from one on, their number and
the number of the character for private use that the first of them is. -/
def privateGaps : List (Nat × Nat × Nat × Nat) := [
  (0xA2, 0xAB, 6, 0xE766), (0xA2, 0xE3, 2, 0xE76C), (0xA2, 0xEF, 2, 0xE76E),
  (0xA2, 0xFD, 2, 0xE770), (0xA4, 0xF4, 11, 0xE772), (0xA5, 0xF7, 8, 0xE77D),
  (0xA6, 0xB9, 8, 0xE785), (0xA6, 0xD9, 7, 0xE78D), (0xA6, 0xEC, 2, 0xE794),
  (0xA6, 0xF3, 1, 0xE796), (0xA6, 0xF6, 9, 0xE797), (0xA7, 0xC2, 15, 0xE7A0),
  (0xA7, 0xF2, 13, 0xE7AF), (0xA8, 0x96, 11, 0xE7BC), (0xA8, 0xBC, 1, 0xE7C7),
  (0xA8, 0xBF, 1, 0xE7C8), (0xA8, 0xC1, 4, 0xE7C9), (0xA8, 0xEA, 21, 0xE7CD),
  (0xA9, 0x58, 1, 0xE7E2), (0xA9, 0x5B, 1, 0xE7E3), (0xA9, 0x5D, 3, 0xE7E4),
  (0xA9, 0x89, 13, 0xE7E7), (0xA9, 0x97, 13, 0xE7F4), (0xA9, 0xF0, 15, 0xE801),
  (0xD7, 0xFA, 5, 0xE810), (0xFE, 0x50, 47, 0xE815), (0xFE, 0x80, 33, 0xE844)]

/-- The number of the character for private use that a pair without another character is. -/
def privateCode? (first second : Nat) : Option Nat := do
  let column ← column? second
  if 0xAA ≤ first ∧ first ≤ 0xAF ∧ 0xA1 ≤ second then
    some (0xE000 + (first - 0xAA) * 94 + (second - 0xA1))
  else if 0xF8 ≤ first ∧ first ≤ 0xFE ∧ 0xA1 ≤ second then
    some (0xE234 + (first - 0xF8) * 94 + (second - 0xA1))
  else if 0xA1 ≤ first ∧ first ≤ 0xA7 ∧ second ≤ 0xA0 then
    some (0xE4C6 + (first - 0xA1) * 96 + column)
  else privateGaps.findSome? fun (a, b, count, code) =>
    if a = first ∧ b ≤ second ∧ second < b + count then some (code + (second - b)) else none

/-- The pairs of GB 18030. -/
def gb18030? (first second : Nat) : Option Char :=
  (inRuns? gb18030Runs first second).or
    ((gbk? first second).or ((privateCode? first second).map Char.ofNat))

/-- The characters below U+10000 that are no pair, in order; four bytes stand for them. -/
def unpaired : Array Char :=
  let pairs := (List.range 126).flatMap fun a => (List.range 191).filterMap fun b =>
    gb18030? (0x81 + a) (0x40 + b)
  let paired := pairs.foldl (fun paired c => paired.setIfInBounds c.toNat true)
    (Array.replicate 0x10000 false)
  (((List.range 0x10000).filter fun n => 0x80 ≤ n && n.isValidChar && !paired.getD n false).map
    Char.ofNat).toArray

/-- The character that four bytes stand for, given as their number in order. -/
def fourBytes? (unpaired : Thunk (Array Char)) (n : Nat) : Option Char :=
  if n < 39420 then unpaired.get[n]?
  else if 189000 ≤ n ∧ n < 189000 + 0x100000 then some (Char.ofNat (0x10000 + (n - 189000)))
  else none

/-- Reads one, two or four bytes of GB 18030. -/
def readGb18030 (unpaired : Thunk (Array Char)) : Reader Unit
  | _, a :: b :: c :: d :: rest =>
    if 0x81 ≤ a ∧ a ≤ 0xFE ∧ 0x30 ≤ b ∧ b ≤ 0x39 then
      if 0x81 ≤ c ∧ c ≤ 0xFE ∧ 0x30 ≤ d ∧ d ≤ 0x39 then
        (fourBytes? unpaired (((a.toNat - 0x81) * 10 + (b.toNat - 0x30)) * 1260
          + (c.toNat - 0x81) * 10 + (d.toNat - 0x30))).map fun c => ([c], 4, ())
      else none
    else readPair gb18030? () (a :: b :: c :: d :: rest)
  | _, bytes => readPair gb18030? () bytes

/-! ## Traditional Chinese -/

/-- The column of a second byte of Big5. -/
def big5Column? (second : Nat) : Option Nat :=
  if 0x40 ≤ second ∧ second ≤ 0x7E then some (second - 0x40)
  else if 0xA1 ≤ second then some (second - 0xA1 + 63)
  else none

/-- The pairs of Big5. -/
def big5? (first second : Nat) : Option Char := do
  let column ← big5Column? second
  if first < 0xA1 then none else big5Grid.get? (first - 0xA1) column

/-- The characters in which a numbered page differs from Big5. -/
def cp950Runs : List Run := [
  ⟨0xA1, 0x45, "‧"⟩, ⟨0xA1, 0x4E, "﹑"⟩, ⟨0xA1, 0xC2, "¯"⟩, ⟨0xA1, 0xE3, "～"⟩,
  ⟨0xA1, 0xF2, "⊕⊙"⟩, ⟨0xA2, 0x41, "∕﹨"⟩, ⟨0xA2, 0x44, "￥ ￠￡"⟩, ⟨0xA3, 0xE1, "€"⟩,
  ⟨0xF9, 0xD6, "碁銹裏墻恒粧嫺╔╦╗╠╬╣╚╩╝╒╤╕╞╪╡╘╧╛╓╥╖╟╫╢╙╨╜║═╭╮╰╯▓"⟩]

/-- The pairs of the numbered page for traditional Chinese. -/
def cp950? (first second : Nat) : Option Char :=
  (inRuns? cp950Runs first second).or (big5? first second)

/-- Do the supplementary characters take the place of those of Big5 here? -/
def isHongKongSymbol (first second : Nat) : Bool :=
  (first == 0xC6 && 0xA1 ≤ second) || first == 0xC7 || first == 0xC8

/-- The supplementary characters that are single characters. -/
def hongKongCharacter? (first second : Nat) : Option Char := do
  let column ← big5Column? second
  if isHongKongSymbol first second then hongKongSymbolGrid.get? (first - 0xC6) column
  else if 0xF9 ≤ first then hongKongLateGrid.get? (first - 0xF9) column
  else if 0x87 ≤ first then hongKongEarlyGrid.get? (first - 0x87) column
  else none

/-- The supplementary characters that are letters with a mark of their own. -/
def hongKongMarked : List (Nat × Nat × List Char) := [
  (0x88, 0x62, ['Ê', '\u0304']), (0x88, 0x64, ['Ê', '\u030c']), (0x88, 0xA3, ['ê', '\u0304']),
  (0x88, 0xA5, ['ê', '\u030c'])]

/-- The pairs of Big5 with the supplementary characters. -/
def hongKong? (first second : Nat) : Option (List Char) :=
  match hongKongMarked.find? fun (a, b, _) => a = first ∧ b = second with
  | some (_, _, marked) => some marked
  | none =>
    let common := if isHongKongSymbol first second then none else big5? first second
    (common.or (hongKongCharacter? first second)).map ([·])

end MediaDepot.Text
