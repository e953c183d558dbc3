import MediaDepot.Bytes

/-!
# Code pages

The data behind the charsets in which every byte is a character.

* `CodePage.decode?` — the characters of bytes, unless one of them is none.
* `codePages` — the code pages, by kind: numbered pages, the parts of the standard for eight-bit
  sets, national sets, and the pages of desktop computers.
-/

namespace MediaDepot.Text

/-- A charset in which every byte is a character. Bytes below `start` stand for the characters of
the same number; the rows hold the characters of the others in order, and U+FFFD where a byte is
none. -/
structure CodePage where
  name : String
  others : List String
  start : Nat
  rows : List String

/-- The characters of the bytes from `start` on. -/
def CodePage.characters (page : CodePage) : List Char := page.rows.flatMap String.toList

/-- The characters of bytes that are each one. -/
def CodePage.decode? (page : CodePage) (bytes : Bytes) : Option (List Char) :=
  let characters := page.characters.toArray
  bytes.mapM fun b =>
    if b.toNat < page.start then some (Char.ofNat b.toNat)
    else (characters[b.toNat - page.start]?).filter (· != '\uFFFD')

/-- The numbered pages. -/
def numberedPages : List CodePage := [
  ⟨"cp037", ["037", "csibm037", "ebcdic_cp_ca", "ebcdic_cp_nl", "ebcdic_cp_us", "ebcdic_cp_wt",
    "ibm037", "ibm039"], 0, [
    "\x00\x01\x02\x03\x9c\x09\x86\x7f\x97\x8d\x8e\x0b\x0c\x0d\x0e\x0f",
    "\x10\x11\x12\x13\x9d\x85\x08\x87\x18\x19\x92\x8f\x1c\x1d\x1e\x1f",
    "\x80\x81\x82\x83\x84\x0a\x17\x1b\x88\x89\x8a\x8b\x8c\x05\x06\x07",
    "\x90\x91\x16\x93\x94\x95\x96\x04\x98\x99\x9a\x9b\x14\x15\x9e\x1a",
    " \xa0âäàáãåçñ¢.<(+|",
    "&éêëèíîïìß!$*);¬",
    "\x2d/ÂÄÀÁÃÅÇÑ¦,%_>?",
    "øÉÊËÈÍÎÏÌ`:#@'=\"",
    "Øabcdefghi«»ðýþ±",
    "°jklmnopqrªºæ¸Æ¤",
    "µ~stuvwxyz¡¿ÐÝÞ®",
    "^£¥·©§¶¼½¾[]¯¨´×",
    "\x7bABCDEFGHI\xadôöòóõ",
    "\x7dJKLMNOPQR¹ûüùúÿ",
    "\\÷STUVWXYZ²ÔÖÒÓÕ",
    "0123456789³ÛÜÙÚ\x9f"]⟩,
  ⟨"cp273", ["273", "csibm273", "ibm273"], 0, [
    "\x00\x01\x02\x03\x9c\x09\x86\x7f\x97\x8d\x8e\x0b\x0c\x0d\x0e\x0f",
    "\x10\x11\x12\x13\x9d\x85\x08\x87\x18\x19\x92\x8f\x1c\x1d\x1e\x1f",
    "\x80\x81\x82\x83\x84\x0a\x17\x1b\x88\x89\x8a\x8b\x8c\x05\x06\x07",
    "\x90\x91\x16\x93\x94\x95\x96\x04\x98\x99\x9a\x9b\x14\x15\x9e\x1a",
    " \xa0â\x7bàáãåçñÄ.<(+!",
    "&éêëèíîïì~Ü$*);^",
    "\x2d/Â[ÀÁÃÅÇÑö,%_>?",
    "øÉÊËÈÍÎÏÌ`:#§'=\"",
    "Øabcdefghi«»ðýþ±",
    "°jklmnopqrªºæ¸Æ¤",
    "µßstuvwxyz¡¿ÐÝÞ®",
    "¢£¥·©@¶¼½¾¬|‾¨´×",
    "äABCDEFGHI\xadô¦òóõ",
    "üJKLMNOPQR¹û\x7dùúÿ",
    "Ö÷STUVWXYZ²Ô\\ÒÓÕ",
    "0123456789³Û]ÙÚ\x9f"]⟩,
  ⟨"cp424", ["424", "csibm424", "ebcdic_cp_he", "ibm424"], 0, [
    "\x00\x01\x02\x03\x9c\x09\x86\x7f\x97\x8d\x8e\x0b\x0c\x0d\x0e\x0f",
    "\x10\x11\x12\x13\x9d\x85\x08\x87\x18\x19\x92\x8f\x1c\x1d\x1e\x1f",
    "\x80\x81\x82\x83\x84\x0a\x17\x1b\x88\x89\x8a\x8b\x8c\x05\x06\x07",
    "\x90\x91\x16\x93\x94\x95\x96\x04\x98\x99\x9a\x9b\x14\x15\x9e\x1a",
    " \u05d0\u05d1\u05d2\u05d3\u05d4\u05d5\u05d6\u05d7\u05d8¢.<(+|",
    "&\u05d9\u05da\u05db\u05dc\u05dd\u05de\u05df\u05e0\u05e1!$*);¬",
    "\x2d/\u05e2\u05e3\u05e4\u05e5\u05e6\u05e7\u05e8\u05e9¦,%_>?",
    "\ufffd\u05ea\ufffd\ufffd\xa0\ufffd\ufffd\ufffd‗`:#@'=\"",
    "\ufffdabcdefghi«»\ufffd\ufffd\ufffd±",
    "°jklmnopqr\ufffd\ufffd\ufffd¸\ufffd¤",
    "µ~stuvwxyz\ufffd\ufffd\ufffd\ufffd\ufffd®",
    "^£¥·©§¶¼½¾[]¯¨´×",
    "\x7bABCDEFGHI\xad\ufffd\ufffd\ufffd\ufffd\ufffd",
    "\x7dJKLMNOPQR¹\ufffd\ufffd\ufffd\ufffd\ufffd",
    "\\÷STUVWXYZ²\ufffd\ufffd\ufffd\ufffd\ufffd",
    "0123456789³\ufffd\ufffd\ufffd\ufffd\x9f"]⟩,
  ⟨"cp437", ["437", "cspc8codepage437", "ibm437"], 128, [
    "ÇüéâäàåçêëèïîìÄÅÉæÆôöòûùÿÖÜ¢£¥₧ƒ",
    "áíóúñÑªº¿⌐¬½¼¡«»░▒▓│┤╡╢╖╕╣║╗╝╜╛┐",
    "└┴┬├─┼╞╟╚╔╩╦╠═╬╧╨╤╥╙╘╒╓╫╪┘┌█▄▌▐▀",
    "αßΓπΣσµτΦΘΩδ∞φε∩≡±≥≤⌠⌡÷≈°∙·√ⁿ²■\xa0"]⟩,
  ⟨"cp500", ["500", "csibm500", "ebcdic_cp_be", "ebcdic_cp_ch", "ibm500"], 0, [
    "\x00\x01\x02\x03\x9c\x09\x86\x7f\x97\x8d\x8e\x0b\x0c\x0d\x0e\x0f",
    "\x10\x11\x12\x13\x9d\x85\x08\x87\x18\x19\x92\x8f\x1c\x1d\x1e\x1f",
    "\x80\x81\x82\x83\x84\x0a\x17\x1b\x88\x89\x8a\x8b\x8c\x05\x06\x07",
    "\x90\x91\x16\x93\x94\x95\x96\x04\x98\x99\x9a\x9b\x14\x15\x9e\x1a",
    " \xa0âäàáãåçñ[.<(+!",
    "&éêëèíîïìß]$*);^",
    "\x2d/ÂÄÀÁÃÅÇÑ¦,%_>?",
    "øÉÊËÈÍÎÏÌ`:#@'=\"",
    "Øabcdefghi«»ðýþ±",
    "°jklmnopqrªºæ¸Æ¤",
    "µ~stuvwxyz¡¿ÐÝÞ®",
    "¢£¥·©§¶¼½¾¬|¯¨´×",
    "\x7bABCDEFGHI\xadôöòóõ",
    "\x7dJKLMNOPQR¹ûüùúÿ",
    "\\÷STUVWXYZ²ÔÖÒÓÕ",
    "0123456789³ÛÜÙÚ\x9f"]⟩,
  ⟨"cp720", [], 128, [
    "\x80\x81éâ\x84à\x86ç",
    "êëèïî\x8d\x8e\x8f",
    "\x90\u0651\u0652ô¤\u0640ûù",
    "\u0621\u0622\u0623\u0624£\u0625\u0626\u0627",
    "\u0628\u0629\u062a\u062b\u062c\u062d\u062e\u062f",
    "\u0630\u0631\u0632\u0633\u0634\u0635«»",
    "░▒▓│┤╡╢╖",
    "╕╣║╗╝╜╛┐",
    "└┴┬├─┼╞╟",
    "╚╔╩╦╠═╬╧",
    "╨╤╥╙╘╒╓╫",
    "╪┘┌█▄▌▐▀",
    "\u0636\u0637\u0638\u0639\u063a\u0641µ\u0642",
    "\u0643\u0644\u0645\u0646\u0647\u0648\u0649\u064a",
    "≡\u064b\u064c\u064d\u064e\u064f\u0650≈",
    "°∙·√ⁿ²■\xa0"]⟩,
  ⟨"cp737", [], 128, [
    "ΑΒΓΔΕΖΗΘΙΚΛΜΝΞΟΠΡΣΤΥΦΧΨΩαβγδεζηθ",
    "ικλμνξοπρσςτυφχψ░▒▓│┤╡╢╖╕╣║╗╝╜╛┐",
    "└┴┬├─┼╞╟╚╔╩╦╠═╬╧╨╤╥╙╘╒╓╫╪┘┌█▄▌▐▀",
    "ωάέήϊίόύϋώΆΈΉΊΌΎΏ±≥≤ΪΫ÷≈°∙·√ⁿ²■\xa0"]⟩,
  ⟨"cp775", ["775", "cspc775baltic", "ibm775"], 128, [
    "ĆüéāäģåćłēŖŗīŹÄÅÉæÆōöĢ¢ŚśÖÜø£Ø×¤",
    "ĀĪóŻżź”¦©®¬½¼Ł«»░▒▓│┤ĄČĘĖ╣║╗╝ĮŠ┐",
    "└┴┬├─┼ŲŪ╚╔╩╦╠═╬Žąčęėįšųūž┘┌█▄▌▐▀",
    "ÓßŌŃõÕµńĶķĻļņĒŅ’\xad±“¾¶§÷„°∙·¹³²■\xa0"]⟩,
  ⟨"cp850", ["850", "cspc850multilingual", "ibm850"], 128, [
    "ÇüéâäàåçêëèïîìÄÅÉæÆôöòûùÿÖÜø£Ø×ƒ",
    "áíóúñÑªº¿®¬½¼¡«»░▒▓│┤ÁÂÀ©╣║╗╝¢¥┐",
    "└┴┬├─┼ãÃ╚╔╩╦╠═╬¤ðÐÊËÈıÍÎÏ┘┌█▄¦Ì▀",
    "ÓßÔÒõÕµþÞÚÛÙýÝ¯´\xad±‗¾¶§÷¸°¨·¹³²■\xa0"]⟩,
  ⟨"cp852", ["852", "cspcp852", "ibm852"], 128, [
    "ÇüéâäůćçłëŐőîŹÄĆÉĹĺôöĽľŚśÖÜŤťŁ×č",
    "áíóúĄąŽžĘę¬źČş«»░▒▓│┤ÁÂĚŞ╣║╗╝Żż┐",
    "└┴┬├─┼Ăă╚╔╩╦╠═╬¤đĐĎËďŇÍÎě┘┌█▄ŢŮ▀",
    "ÓßÔŃńňŠšŔÚŕŰýÝţ´\xad˝˛ˇ˘§÷¸°¨˙űŘř■\xa0"]⟩,
  ⟨"cp855", ["855", "csibm855", "ibm855"], 128, [
    "ђЂѓЃёЁєЄѕЅіІїЇјЈљЉњЊћЋќЌўЎџЏюЮъЪ",
    "аАбБцЦдДеЕфФгГ«»░▒▓│┤хХиИ╣║╗╝йЙ┐",
    "└┴┬├─┼кК╚╔╩╦╠═╬¤лЛмМнНоОп┘┌█▄Пя▀",
    "ЯрРсСтТуУжЖвВьЬ№\xadыЫзЗшШэЭщЩчЧ§■\xa0"]⟩,
  ⟨"cp856", [], 128, [
    "\u05d0\u05d1\u05d2\u05d3\u05d4\u05d5\u05d6\u05d7",
    "\u05d8\u05d9\u05da\u05db\u05dc\u05dd\u05de\u05df",
    "\u05e0\u05e1\u05e2\u05e3\u05e4\u05e5\u05e6\u05e7",
    "\u05e8\u05e9\u05ea\ufffd£\ufffd×\ufffd",
    "\ufffd\ufffd\ufffd\ufffd\ufffd\ufffd\ufffd\ufffd",
    "\ufffd®¬½¼\ufffd«»",
    "░▒▓│┤\ufffd\ufffd\ufffd",
    "©╣║╗╝¢¥┐",
    "└┴┬├─┼\ufffd\ufffd",
    "╚╔╩╦╠═╬¤",
    "\ufffd\ufffd\ufffd\ufffd\ufffd\ufffd\ufffd\ufffd",
    "\ufffd┘┌█▄¦\ufffd▀",
    "\ufffd\ufffd\ufffd\ufffd\ufffd\ufffdµ\ufffd",
    "\ufffd\ufffd\ufffd\ufffd\ufffd\ufffd¯´",
    "\xad±‗¾¶§÷¸",
    "°¨·¹³²■\xa0"]⟩,
  ⟨"cp857", ["857", "csibm857", "ibm857"], 128, [
    "ÇüéâäàåçêëèïîıÄÅÉæÆôöòûùİÖÜø£ØŞş",
    "áíóúñÑĞğ¿®¬½¼¡«»░▒▓│┤ÁÂÀ©╣║╗╝¢¥┐",
    "└┴┬├─┼ãÃ╚╔╩╦╠═╬¤ºªÊËÈ\ufffdÍÎÏ┘┌█▄¦Ì▀",
    "ÓßÔÒõÕµ\ufffd×ÚÛÙìÿ¯´\xad±\ufffd¾¶§÷¸°¨·¹³²■\xa0"]⟩,
  ⟨"cp858", ["858", "csibm858", "ibm858"], 128, [
    "ÇüéâäàåçêëèïîìÄÅÉæÆôöòûùÿÖÜø£Ø×ƒ",
    "áíóúñÑªº¿®¬½¼¡«»░▒▓│┤ÁÂÀ©╣║╗╝¢¥┐",
    "└┴┬├─┼ãÃ╚╔╩╦╠═╬¤ðÐÊËÈ€ÍÎÏ┘┌█▄¦Ì▀",
    "ÓßÔÒõÕµþÞÚÛÙýÝ¯´\xad±‗¾¶§÷¸°¨·¹³²■\xa0"]⟩,
  ⟨"cp860", ["860", "csibm860", "ibm860"], 128, [
    "ÇüéâãàÁçêÊèÍÔìÃÂÉÀÈôõòÚùÌÕÜ¢£Ù₧Ó",
    "áíóúñÑªº¿Ò¬½¼¡«»░▒▓│┤╡╢╖╕╣║╗╝╜╛┐",
    "└┴┬├─┼╞╟╚╔╩╦╠═╬╧╨╤╥╙╘╒╓╫╪┘┌█▄▌▐▀",
    "αßΓπΣσµτΦΘΩδ∞φε∩≡±≥≤⌠⌡÷≈°∙·√ⁿ²■\xa0"]⟩,
  ⟨"cp861", ["861", "cp_is", "csibm861", "ibm861"], 128, [
    "ÇüéâäàåçêëèÐðÞÄÅÉæÆôöþûÝýÖÜø£Ø₧ƒ",
    "áíóúÁÍÓÚ¿⌐¬½¼¡«»░▒▓│┤╡╢╖╕╣║╗╝╜╛┐",
    "└┴┬├─┼╞╟╚╔╩╦╠═╬╧╨╤╥╙╘╒╓╫╪┘┌█▄▌▐▀",
    "αßΓπΣσµτΦΘΩδ∞φε∩≡±≥≤⌠⌡÷≈°∙·√ⁿ²■\xa0"]⟩,
  ⟨"cp862", ["862", "cspc862latinhebrew", "ibm862"], 128, [
    "\u05d0\u05d1\u05d2\u05d3\u05d4\u05d5\u05d6\u05d7",
    "\u05d8\u05d9\u05da\u05db\u05dc\u05dd\u05de\u05df",
    "\u05e0\u05e1\u05e2\u05e3\u05e4\u05e5\u05e6\u05e7",
    "\u05e8\u05e9\u05ea¢£¥₧ƒ",
    "áíóúñÑªº",
    "¿⌐¬½¼¡«»",
    "░▒▓│┤╡╢╖",
    "╕╣║╗╝╜╛┐",
    "└┴┬├─┼╞╟",
    "╚╔╩╦╠═╬╧",
    "╨╤╥╙╘╒╓╫",
    "╪┘┌█▄▌▐▀",
    "αßΓπΣσµτ",
    "ΦΘΩδ∞φε∩",
    "≡±≥≤⌠⌡÷≈",
    "°∙·√ⁿ²■\xa0"]⟩,
  ⟨"cp863", ["863", "csibm863", "ibm863"], 128, [
    "ÇüéâÂà¶çêëèïî‗À§ÉÈÊôËÏûù¤ÔÜ¢£ÙÛƒ",
    "¦´óú¨¸³¯Î⌐¬½¼¾«»░▒▓│┤╡╢╖╕╣║╗╝╜╛┐",
    "└┴┬├─┼╞╟╚╔╩╦╠═╬╧╨╤╥╙╘╒╓╫╪┘┌█▄▌▐▀",
    "αßΓπΣσµτΦΘΩδ∞φε∩≡±≥≤⌠⌡÷≈°∙·√ⁿ²■\xa0"]⟩,
  ⟨"cp864", ["864", "csibm864", "ibm864"], 32, [
    " !\"#$٪&'",
    "()*+,\x2d./",
    "01234567",
    "89:;<=>?",
    "@ABCDEFG",
    "HIJKLMNO",
    "PQRSTUVW",
    "XYZ[\\]^_",
    "`abcdefg",
    "hijklmno",
    "pqrstuvw",
    "xyz\x7b|\x7d~\x7f",
    "°·∙√▒─│┼",
    "┤┬├┴┐┌└┘",
    "β∞φ±½¼≈«",
    "»\ufef7\ufef8\ufffd\ufffd\ufefb\ufefc\ufffd",
    "\xa0\xad\ufe82£¤\ufe84\ufffd\ufffd",
    "\ufe8e\ufe8f\ufe95\ufe99،\ufe9d\ufea1\ufea5",
    "\u0660\u0661\u0662\u0663\u0664\u0665\u0666\u0667",
    "\u0668\u0669\ufed1\u061b\ufeb1\ufeb5\ufeb9\u061f",
    "¢\ufe80\ufe81\ufe83\ufe85\ufeca\ufe8b\ufe8d",
    "\ufe91\ufe93\ufe97\ufe9b\ufe9f\ufea3\ufea7\ufea9",
    "\ufeab\ufead\ufeaf\ufeb3\ufeb7\ufebb\ufebf\ufec1",
    "\ufec5\ufecb\ufecf¦¬÷×\ufec9",
    "\u0640\ufed3\ufed7\ufedb\ufedf\ufee3\ufee7\ufeeb",
    "\ufeed\ufeef\ufef3\ufebd\ufecc\ufece\ufecd\ufee1",
    "\ufe7d\u0651\ufee5\ufee9\ufeec\ufef0\ufef2\ufed0",
    "\ufed5\ufef5\ufef6\ufedd\ufed9\ufef1■\ufffd"]⟩,
  ⟨"cp865", ["865", "csibm865", "ibm865"], 128, [
    "ÇüéâäàåçêëèïîìÄÅÉæÆôöòûùÿÖÜø£Ø₧ƒ",
    "áíóúñÑªº¿⌐¬½¼¡«¤░▒▓│┤╡╢╖╕╣║╗╝╜╛┐",
    "└┴┬├─┼╞╟╚╔╩╦╠═╬╧╨╤╥╙╘╒╓╫╪┘┌█▄▌▐▀",
    "αßΓπΣσµτΦΘΩδ∞φε∩≡±≥≤⌠⌡÷≈°∙·√ⁿ²■\xa0"]⟩,
  ⟨"cp866", ["866", "csibm866", "ibm866"], 128, [
    "АБВГДЕЖЗИЙКЛМНОПРСТУФХЦЧШЩЪЫЬЭЮЯ",
    "абвгдежзийклмноп░▒▓│┤╡╢╖╕╣║╗╝╜╛┐",
    "└┴┬├─┼╞╟╚╔╩╦╠═╬╧╨╤╥╙╘╒╓╫╪┘┌█▄▌▐▀",
    "рстуфхцчшщъыьэюяЁёЄєЇїЎў°∙·√№¤■\xa0"]⟩,
  ⟨"cp869", ["869", "cp_gr", "csibm869", "ibm869"], 128, [
    "\ufffd\ufffd\ufffd\ufffd\ufffd\ufffdΆ\ufffd·¬¦‘’Έ―ΉΊΪΌ\ufffd\ufffdΎΫ©Ώ²³ά£έήί",
    "ϊΐόύΑΒΓΔΕΖΗ½ΘΙ«»░▒▓│┤ΚΛΜΝ╣║╗╝ΞΟ┐",
    "└┴┬├─┼ΠΡ╚╔╩╦╠═╬ΣΤΥΦΧΨΩαβγ┘┌█▄δε▀",
    "ζηθικλμνξοπρσςτ΄\xad±υφχ§ψ΅°¨ωϋΰώ■\xa0"]⟩,
  ⟨"cp874", [], 128, [
    "€\ufffd\ufffd\ufffd\ufffd…\ufffd\ufffd\ufffd\ufffd\ufffd\ufffd\ufffd\ufffd\ufffd\ufffd",
    "\ufffd‘’“”•–—\ufffd\ufffd\ufffd\ufffd\ufffd\ufffd\ufffd\ufffd",
    "\xa0กขฃคฅฆงจฉชซฌญฎฏ",
    "ฐฑฒณดตถทธนบปผฝพฟ",
    "ภมยรฤลฦวศษสหฬอฮฯ",
    "ะ\u0e31าำ\u0e34\u0e35\u0e36\u0e37\u0e38\u0e39\u0e3a\ufffd\ufffd\ufffd\ufffd฿",
    "เแโใไๅๆ\u0e47\u0e48\u0e49\u0e4a\u0e4b\u0e4c\u0e4d\u0e4e๏",
    "๐๑๒๓๔๕๖๗๘๙๚๛\ufffd\ufffd\ufffd\ufffd"]⟩,
  ⟨"cp875", [], 0, [
    "\x00\x01\x02\x03\x9c\x09\x86\x7f\x97\x8d\x8e\x0b\x0c\x0d\x0e\x0f",
    "\x10\x11\x12\x13\x9d\x85\x08\x87\x18\x19\x92\x8f\x1c\x1d\x1e\x1f",
    "\x80\x81\x82\x83\x84\x0a\x17\x1b\x88\x89\x8a\x8b\x8c\x05\x06\x07",
    "\x90\x91\x16\x93\x94\x95\x96\x04\x98\x99\x9a\x9b\x14\x15\x9e\x1a",
    " ΑΒΓΔΕΖΗΘΙ[.<(+!",
    "&ΚΛΜΝΞΟΠΡΣ]$*);^",
    "\x2d/ΤΥΦΧΨΩΪΫ|,%_>?",
    "¨ΆΈΉ\xa0ΊΌΎΏ`:#@'=\"",
    "΅abcdefghiαβγδεζ",
    "°jklmnopqrηθικλμ",
    "´~stuvwxyzνξοπρσ",
    "£άέήϊίόύϋώςτυφχψ",
    "\x7bABCDEFGHI\xadωΐΰ‘―",
    "\x7dJKLMNOPQR±½\x1a·’¦",
    "\\\x1aSTUVWXYZ²§\x1a\x1a«¬",
    "0123456789³©\x1a\x1a»\x9f"]⟩,
  ⟨"cp1006", [], 160, [
    "\xa0۰۱۲۳۴۵۶",
    "۷۸۹،\u061b\xad\u061f\ufe81",
    "\ufe8d\ufe8e\ufe8e\ufe8f\ufe91\ufb56\ufb58\ufe93",
    "\ufe95\ufe97\ufb66\ufb68\ufe99\ufe9b\ufe9d\ufe9f",
    "\ufb7a\ufb7c\ufea1\ufea3\ufea5\ufea7\ufea9\ufb84",
    "\ufeab\ufead\ufb8c\ufeaf\ufb8a\ufeb1\ufeb3\ufeb5",
    "\ufeb7\ufeb9\ufebb\ufebd\ufebf\ufec1\ufec5\ufec9",
    "\ufeca\ufecb\ufecc\ufecd\ufece\ufecf\ufed0\ufed1",
    "\ufed3\ufed5\ufed7\ufed9\ufedb\ufb92\ufb94\ufedd",
    "\ufedf\ufee0\ufee1\ufee3\ufb9e\ufee5\ufee7\ufe85",
    "\ufeed\ufba6\ufba8\ufba9\ufbaa\ufe80\ufe89\ufe8a",
    "\ufe8b\ufef1\ufef2\ufef3\ufbb0\ufbae\ufe7c\ufe7d"]⟩,
  ⟨"cp1026", ["1026", "csibm1026", "ibm1026"], 0, [
    "\x00\x01\x02\x03\x9c\x09\x86\x7f\x97\x8d\x8e\x0b\x0c\x0d\x0e\x0f",
    "\x10\x11\x12\x13\x9d\x85\x08\x87\x18\x19\x92\x8f\x1c\x1d\x1e\x1f",
    "\x80\x81\x82\x83\x84\x0a\x17\x1b\x88\x89\x8a\x8b\x8c\x05\x06\x07",
    "\x90\x91\x16\x93\x94\x95\x96\x04\x98\x99\x9a\x9b\x14\x15\x9e\x1a",
    " \xa0âäàáãå\x7bñÇ.<(+!",
    "&éêëèíîïìßĞİ*);^",
    "\x2d/ÂÄÀÁÃÅ[Ñş,%_>?",
    "øÉÊËÈÍÎÏÌı:ÖŞ'=Ü",
    "Øabcdefghi«»\x7d`¦±",
    "°jklmnopqrªºæ¸Æ¤",
    "µöstuvwxyz¡¿]$@®",
    "¢£¥·©§¶¼½¾¬|¯¨´×",
    "çABCDEFGHI\xadô~òóõ",
    "ğJKLMNOPQR¹û\\ùúÿ",
    "ü÷STUVWXYZ²Ô#ÒÓÕ",
    "0123456789³Û\"ÙÚ\x9f"]⟩,
  ⟨"cp1125", ["1125", "cp866u", "ibm1125", "ruscii"], 128, [
    "АБВГДЕЖЗИЙКЛМНОПРСТУФХЦЧШЩЪЫЬЭЮЯ",
    "абвгдежзийклмноп░▒▓│┤╡╢╖╕╣║╗╝╜╛┐",
    "└┴┬├─┼╞╟╚╔╩╦╠═╬╧╨╤╥╙╘╒╓╫╪┘┌█▄▌▐▀",
    "рстуфхцчшщъыьэюяЁёҐґЄєІіЇї·√№¤■\xa0"]⟩,
  ⟨"cp1140", ["1140", "ibm1140"], 0, [
    "\x00\x01\x02\x03\x9c\x09\x86\x7f\x97\x8d\x8e\x0b\x0c\x0d\x0e\x0f",
    "\x10\x11\x12\x13\x9d\x85\x08\x87\x18\x19\x92\x8f\x1c\x1d\x1e\x1f",
    "\x80\x81\x82\x83\x84\x0a\x17\x1b\x88\x89\x8a\x8b\x8c\x05\x06\x07",
    "\x90\x91\x16\x93\x94\x95\x96\x04\x98\x99\x9a\x9b\x14\x15\x9e\x1a",
    " \xa0âäàáãåçñ¢.<(+|",
    "&éêëèíîïìß!$*);¬",
    "\x2d/ÂÄÀÁÃÅÇÑ¦,%_>?",
    "øÉÊËÈÍÎÏÌ`:#@'=\"",
    "Øabcdefghi«»ðýþ±",
    "°jklmnopqrªºæ¸Æ€",
    "µ~stuvwxyz¡¿ÐÝÞ®",
    "^£¥·©§¶¼½¾[]¯¨´×",
    "\x7bABCDEFGHI\xadôöòóõ",
    "\x7dJKLMNOPQR¹ûüùúÿ",
    "\\÷STUVWXYZ²ÔÖÒÓÕ",
    "0123456789³ÛÜÙÚ\x9f"]⟩,
  ⟨"cp1250", ["1250", "windows_1250"], 128, [
    "€\ufffd‚\ufffd„…†‡\ufffd‰Š‹ŚŤŽŹ\ufffd‘’“”•–—\ufffd™š›śťžź",
    "\xa0ˇ˘Ł¤Ą¦§¨©Ş«¬\xad®Ż°±˛ł´µ¶·¸ąş»Ľ˝ľż",
    "ŔÁÂĂÄĹĆÇČÉĘËĚÍÎĎĐŃŇÓÔŐÖ×ŘŮÚŰÜÝŢß",
    "ŕáâăäĺćçčéęëěíîďđńňóôőö÷řůúűüýţ˙"]⟩,
  ⟨"cp1251", ["1251", "windows_1251"], 128, [
    "ЂЃ‚ѓ„…†‡€‰Љ‹ЊЌЋЏђ‘’“”•–—\ufffd™љ›њќћџ",
    "\xa0ЎўЈ¤Ґ¦§Ё©Є«¬\xad®Ї°±Ііґµ¶·ё№є»јЅѕї",
    "АБВГДЕЖЗИЙКЛМНОПРСТУФХЦЧШЩЪЫЬЭЮЯ",
    "абвгдежзийклмнопрстуфхцчшщъыьэюя"]⟩,
  ⟨"cp1252", ["1252", "windows_1252"], 128, [
    "€\ufffd‚ƒ„…†‡ˆ‰Š‹Œ\ufffdŽ\ufffd\ufffd‘’“”•–—˜™š›œ\ufffdžŸ",
    "\xa0¡¢£¤¥¦§¨©ª«¬\xad®¯°±²³´µ¶·¸¹º»¼½¾¿",
    "ÀÁÂÃÄÅÆÇÈÉÊËÌÍÎÏÐÑÒÓÔÕÖ×ØÙÚÛÜÝÞß",
    "àáâãäåæçèéêëìíîïðñòóôõö÷øùúûüýþÿ"]⟩,
  ⟨"cp1253", ["1253", "windows_1253"], 128, [
    "€\ufffd‚ƒ„…†‡\ufffd‰\ufffd‹\ufffd\ufffd\ufffd\ufffd",
    "\ufffd‘’“”•–—\ufffd™\ufffd›\ufffd\ufffd\ufffd\ufffd",
    "\xa0΅Ά£¤¥¦§¨©\ufffd«¬\xad®―",
    "°±²³΄µ¶·ΈΉΊ»Ό½ΎΏ",
    "ΐΑΒΓΔΕΖΗΘΙΚΛΜΝΞΟ",
    "ΠΡ\ufffdΣΤΥΦΧΨΩΪΫάέήί",
    "ΰαβγδεζηθικλμνξο",
    "πρςστυφχψωϊϋόύώ\ufffd"]⟩,
  ⟨"cp1254", ["1254", "windows_1254"], 128, [
    "€\ufffd‚ƒ„…†‡ˆ‰Š‹Œ\ufffd\ufffd\ufffd\ufffd‘’“”•–—˜™š›œ\ufffd\ufffdŸ",
    "\xa0¡¢£¤¥¦§¨©ª«¬\xad®¯°±²³´µ¶·¸¹º»¼½¾¿",
    "ÀÁÂÃÄÅÆÇÈÉÊËÌÍÎÏĞÑÒÓÔÕÖ×ØÙÚÛÜİŞß",
    "àáâãäåæçèéêëìíîïğñòóôõö÷øùúûüışÿ"]⟩,
  ⟨"cp1255", ["1255", "windows_1255"], 128, [
    "€\ufffd‚ƒ„…†‡",
    "ˆ‰\ufffd‹\ufffd\ufffd\ufffd\ufffd",
    "\ufffd‘’“”•–—",
    "˜™\ufffd›\ufffd\ufffd\ufffd\ufffd",
    "\xa0¡¢£₪¥¦§",
    "¨©×«¬\xad®¯",
    "°±²³´µ¶·",
    "¸¹÷»¼½¾¿",
    "\u05b0\u05b1\u05b2\u05b3\u05b4\u05b5\u05b6\u05b7",
    "\u05b8\u05b9\ufffd\u05bb\u05bc\u05bd\u05be\u05bf",
    "\u05c0\u05c1\u05c2\u05c3\u05f0\u05f1\u05f2\u05f3",
    "\u05f4\ufffd\ufffd\ufffd\ufffd\ufffd\ufffd\ufffd",
    "\u05d0\u05d1\u05d2\u05d3\u05d4\u05d5\u05d6\u05d7",
    "\u05d8\u05d9\u05da\u05db\u05dc\u05dd\u05de\u05df",
    "\u05e0\u05e1\u05e2\u05e3\u05e4\u05e5\u05e6\u05e7",
    "\u05e8\u05e9\u05ea\ufffd\ufffd\u200e\u200f\ufffd"]⟩,
  ⟨"cp1256", ["1256", "windows_1256"], 128, [
    "€\u067e‚ƒ„…†‡",
    "ˆ‰\u0679‹Œ\u0686\u0698\u0688",
    "\u06af‘’“”•–—",
    "\u06a9™\u0691›œ\u200c\u200d\u06ba",
    "\xa0،¢£¤¥¦§",
    "¨©\u06be«¬\xad®¯",
    "°±²³´µ¶·",
    "¸¹\u061b»¼½¾\u061f",
    "\u06c1\u0621\u0622\u0623\u0624\u0625\u0626\u0627",
    "\u0628\u0629\u062a\u062b\u062c\u062d\u062e\u062f",
    "\u0630\u0631\u0632\u0633\u0634\u0635\u0636×",
    "\u0637\u0638\u0639\u063a\u0640\u0641\u0642\u0643",
    "à\u0644â\u0645\u0646\u0647\u0648ç",
    "èéêë\u0649\u064aîï",
    "\u064b\u064c\u064d\u064eô\u064f\u0650÷",
    "\u0651ù\u0652ûü\u200e\u200f\u06d2"]⟩,
  ⟨"cp1257", ["1257", "windows_1257"], 128, [
    "€\ufffd‚\ufffd„…†‡\ufffd‰\ufffd‹\ufffd¨ˇ¸\ufffd‘’“”•–—\ufffd™\ufffd›\ufffd¯˛\ufffd",
    "\xa0\ufffd¢£¤\ufffd¦§Ø©Ŗ«¬\xad®Æ°±²³´µ¶·ø¹ŗ»¼½¾æ",
    "ĄĮĀĆÄÅĘĒČÉŹĖĢĶĪĻŠŃŅÓŌÕÖ×ŲŁŚŪÜŻŽß",
    "ąįāćäåęēčéźėģķīļšńņóōõö÷ųłśūüżž˙"]⟩,
  ⟨"cp1258", ["1258", "windows_1258"], 128, [
    "€\ufffd‚ƒ„…†‡ˆ‰\ufffd‹Œ\ufffd\ufffd\ufffd\ufffd‘’“”•–—˜™\ufffd›œ\ufffd\ufffdŸ",
    "\xa0¡¢£¤¥¦§¨©ª«¬\xad®¯°±²³´µ¶·¸¹º»¼½¾¿",
    "ÀÁÂĂÄÅÆÇÈÉÊË\u0300ÍÎÏĐÑ\u0309ÓÔƠÖ×ØÙÚÛÜƯ\u0303ß",
    "àáâăäåæçèéêë\u0301íîïđñ\u0323óôơö÷øùúûüư₫ÿ"]⟩]

/-- The parts of the standard for eight-bit sets, but for the first, which is Latin-1. -/
def standardPages : List CodePage := [
  ⟨"iso8859_2", ["csisolatin2", "iso_8859_2", "iso_8859_2_1987", "iso_ir_101", "l2", "latin2"],
    160, [
    "\xa0Ą˘Ł¤ĽŚ§¨ŠŞŤŹ\xadŽŻ°ą˛ł´ľśˇ¸šşťź˝žż",
    "ŔÁÂĂÄĹĆÇČÉĘËĚÍÎĎĐŃŇÓÔŐÖ×ŘŮÚŰÜÝŢß",
    "ŕáâăäĺćçčéęëěíîďđńňóôőö÷řůúűüýţ˙"]⟩,
  ⟨"iso8859_3", ["csisolatin3", "iso_8859_3", "iso_8859_3_1988", "iso_ir_109", "l3", "latin3"],
    160, [
    "\xa0Ħ˘£¤\ufffdĤ§¨İŞĞĴ\xad\ufffdŻ°ħ²³´µĥ·¸ışğĵ½\ufffdż",
    "ÀÁÂ\ufffdÄĊĈÇÈÉÊËÌÍÎÏ\ufffdÑÒÓÔĠÖ×ĜÙÚÛÜŬŜß",
    "àáâ\ufffdäċĉçèéêëìíîï\ufffdñòóôġö÷ĝùúûüŭŝ˙"]⟩,
  ⟨"iso8859_4", ["csisolatin4", "iso_8859_4", "iso_8859_4_1988", "iso_ir_110", "l4", "latin4"],
    160, [
    "\xa0ĄĸŖ¤ĨĻ§¨ŠĒĢŦ\xadŽ¯°ą˛ŗ´ĩļˇ¸šēģŧŊžŋ",
    "ĀÁÂÃÄÅÆĮČÉĘËĖÍÎĪĐŅŌĶÔÕÖ×ØŲÚÛÜŨŪß",
    "āáâãäåæįčéęëėíîīđņōķôõö÷øųúûüũū˙"]⟩,
  ⟨"iso8859_5", ["csisolatincyrillic", "cyrillic", "iso_8859_5", "iso_8859_5_1988", "iso_ir_144"],
    160, [
    "\xa0ЁЂЃЄЅІЇЈЉЊЋЌ\xadЎЏАБВГДЕЖЗИЙКЛМНОП",
    "РСТУФХЦЧШЩЪЫЬЭЮЯабвгдежзийклмноп",
    "рстуфхцчшщъыьэюя№ёђѓєѕіїјљњћќ§ўџ"]⟩,
  ⟨"iso8859_6", ["arabic", "asmo_708", "csisolatinarabic", "ecma_114", "iso_8859_6",
    "iso_8859_6_1987", "iso_ir_127"], 160, [
    "\xa0\ufffd\ufffd\ufffd¤\ufffd\ufffd\ufffd",
    "\ufffd\ufffd\ufffd\ufffd،\xad\ufffd\ufffd",
    "\ufffd\ufffd\ufffd\ufffd\ufffd\ufffd\ufffd\ufffd",
    "\ufffd\ufffd\ufffd\u061b\ufffd\ufffd\ufffd\u061f",
    "\ufffd\u0621\u0622\u0623\u0624\u0625\u0626\u0627",
    "\u0628\u0629\u062a\u062b\u062c\u062d\u062e\u062f",
    "\u0630\u0631\u0632\u0633\u0634\u0635\u0636\u0637",
    "\u0638\u0639\u063a\ufffd\ufffd\ufffd\ufffd\ufffd",
    "\u0640\u0641\u0642\u0643\u0644\u0645\u0646\u0647",
    "\u0648\u0649\u064a\u064b\u064c\u064d\u064e\u064f",
    "\u0650\u0651\u0652\ufffd\ufffd\ufffd\ufffd\ufffd",
    "\ufffd\ufffd\ufffd\ufffd\ufffd\ufffd\ufffd\ufffd"]⟩,
  ⟨"iso8859_7", ["csisolatingreek", "ecma_118", "elot_928", "greek", "greek8", "iso_8859_7",
    "iso_8859_7_1987", "iso_ir_126"], 160, [
    "\xa0‘’£€₯¦§¨©ͺ«¬\xad\ufffd―°±²³΄΅Ά·ΈΉΊ»Ό½ΎΏ",
    "ΐΑΒΓΔΕΖΗΘΙΚΛΜΝΞΟΠΡ\ufffdΣΤΥΦΧΨΩΪΫάέήί",
    "ΰαβγδεζηθικλμνξοπρςστυφχψωϊϋόύώ\ufffd"]⟩,
  ⟨"iso8859_8", ["csisolatinhebrew", "hebrew", "iso_8859_8", "iso_8859_8_1988", "iso_ir_138"],
    160, [
    "\xa0\ufffd¢£¤¥¦§",
    "¨©×«¬\xad®¯",
    "°±²³´µ¶·",
    "¸¹÷»¼½¾\ufffd",
    "\ufffd\ufffd\ufffd\ufffd\ufffd\ufffd\ufffd\ufffd",
    "\ufffd\ufffd\ufffd\ufffd\ufffd\ufffd\ufffd\ufffd",
    "\ufffd\ufffd\ufffd\ufffd\ufffd\ufffd\ufffd\ufffd",
    "\ufffd\ufffd\ufffd\ufffd\ufffd\ufffd\ufffd‗",
    "\u05d0\u05d1\u05d2\u05d3\u05d4\u05d5\u05d6\u05d7",
    "\u05d8\u05d9\u05da\u05db\u05dc\u05dd\u05de\u05df",
    "\u05e0\u05e1\u05e2\u05e3\u05e4\u05e5\u05e6\u05e7",
    "\u05e8\u05e9\u05ea\ufffd\ufffd\u200e\u200f\ufffd"]⟩,
  ⟨"iso8859_9", ["csisolatin5", "iso_8859_9", "iso_8859_9_1989", "iso_ir_148", "l5", "latin5"],
    160, [
    "\xa0¡¢£¤¥¦§¨©ª«¬\xad®¯°±²³´µ¶·¸¹º»¼½¾¿",
    "ÀÁÂÃÄÅÆÇÈÉÊËÌÍÎÏĞÑÒÓÔÕÖ×ØÙÚÛÜİŞß",
    "àáâãäåæçèéêëìíîïğñòóôõö÷øùúûüışÿ"]⟩,
  ⟨"iso8859_10", ["csisolatin6", "iso_8859_10", "iso_8859_10_1992", "iso_ir_157", "l6", "latin6"],
    160, [
    "\xa0ĄĒĢĪĨĶ§ĻĐŠŦŽ\xadŪŊ°ąēģīĩķ·ļđšŧž―ūŋ",
    "ĀÁÂÃÄÅÆĮČÉĘËĖÍÎÏÐŅŌÓÔÕÖŨØŲÚÛÜÝÞß",
    "āáâãäåæįčéęëėíîïðņōóôõöũøųúûüýþĸ"]⟩,
  ⟨"iso8859_11", ["iso_8859_11", "iso_8859_11_2001", "thai"], 160, [
    "\xa0กขฃคฅฆงจฉชซฌญฎฏ",
    "ฐฑฒณดตถทธนบปผฝพฟ",
    "ภมยรฤลฦวศษสหฬอฮฯ",
    "ะ\u0e31าำ\u0e34\u0e35\u0e36\u0e37\u0e38\u0e39\u0e3a\ufffd\ufffd\ufffd\ufffd฿",
    "เแโใไๅๆ\u0e47\u0e48\u0e49\u0e4a\u0e4b\u0e4c\u0e4d\u0e4e๏",
    "๐๑๒๓๔๕๖๗๘๙๚๛\ufffd\ufffd\ufffd\ufffd"]⟩,
  ⟨"iso8859_13", ["iso_8859_13", "l7", "latin7"], 160, [
    "\xa0”¢£¤„¦§Ø©Ŗ«¬\xad®Æ°±²³“µ¶·ø¹ŗ»¼½¾æ",
    "ĄĮĀĆÄÅĘĒČÉŹĖĢĶĪĻŠŃŅÓŌÕÖ×ŲŁŚŪÜŻŽß",
    "ąįāćäåęēčéźėģķīļšńņóōõö÷ųłśūüżž’"]⟩,
  ⟨"iso8859_14", ["iso_8859_14", "iso_8859_14_1998", "iso_celtic", "iso_ir_199", "l8", "latin8"],
    160, [
    "\xa0Ḃḃ£ĊċḊ§Ẁ©ẂḋỲ\xad®ŸḞḟĠġṀṁ¶ṖẁṗẃṠỳẄẅṡ",
    "ÀÁÂÃÄÅÆÇÈÉÊËÌÍÎÏŴÑÒÓÔÕÖṪØÙÚÛÜÝŶß",
    "àáâãäåæçèéêëìíîïŵñòóôõöṫøùúûüýŷÿ"]⟩,
  ⟨"iso8859_15", ["iso_8859_15", "l9", "latin9"], 160, [
    "\xa0¡¢£€¥Š§š©ª«¬\xad®¯°±²³Žµ¶·ž¹º»ŒœŸ¿",
    "ÀÁÂÃÄÅÆÇÈÉÊËÌÍÎÏÐÑÒÓÔÕÖ×ØÙÚÛÜÝÞß",
    "àáâãäåæçèéêëìíîïðñòóôõö÷øùúûüýþÿ"]⟩,
  ⟨"iso8859_16", ["iso_8859_16", "iso_8859_16_2001", "iso_ir_226", "l10", "latin10"], 160, [
    "\xa0ĄąŁ€„Š§š©Ș«Ź\xadźŻ°±ČłŽ”¶·žčș»ŒœŸż",
    "ÀÁÂĂÄĆÆÇÈÉÊËÌÍÎÏĐŃÒÓÔŐÖŚŰÙÚÛÜĘȚß",
    "àáâăäćæçèéêëìíîïđńòóôőöśűùúûüęțÿ"]⟩]

/-- National and other sets. -/
def nationalPages : List CodePage := [
  ⟨"hp_roman8", ["cp1051", "ibm1051", "r8", "roman8"], 160, [
    "\xa0ÀÂÈÊËÎÏ´ˋˆ¨˜ÙÛ₤¯Ýý°ÇçÑñ¡¿¤£¥§ƒ¢",
    "âêôûáéóúàèòùäëöüÅîØÆåíøæÄìÖÜÉïßÔ",
    "ÁÃãÐðÍÌÓÒÕõŠšÚŸÿÞþ·µ¶¾—¼½ªº«■»±\ufffd"]⟩,
  ⟨"koi8_r", ["cskoi8r"], 128, [
    "─│┌┐└┘├┤┬┴┼▀▄█▌▐░▒▓⌠■∙√≈≤≥\xa0⌡°²·÷",
    "═║╒ё╓╔╕╖╗╘╙╚╛╜╝╞╟╠╡Ё╢╣╤╥╦╧╨╩╪╫╬©",
    "юабцдефгхийклмнопярстужвьызшэщчъ",
    "ЮАБЦДЕФГХИЙКЛМНОПЯРСТУЖВЬЫЗШЭЩЧЪ"]⟩,
  ⟨"koi8_t", [], 128, [
    "қғ‚Ғ„…†‡\ufffd‰ҳ‹ҲҷҶ\ufffdҚ‘’“”•–—\ufffd™\ufffd›\ufffd\ufffd\ufffd\ufffd",
    "\ufffdӯӮё¤ӣ¦§\ufffd\ufffd\ufffd«¬\xad®\ufffd°±²Ё\ufffdӢ¶·\ufffd№\ufffd»\ufffd\ufffd\ufffd©",
    "юабцдефгхийклмнопярстужвьызшэщчъ",
    "ЮАБЦДЕФГХИЙКЛМНОПЯРСТУЖВЬЫЗШЭЩЧЪ"]⟩,
  ⟨"koi8_u", [], 128, [
    "─│┌┐└┘├┤┬┴┼▀▄█▌▐░▒▓⌠■∙√≈≤≥\xa0⌡°²·÷",
    "═║╒ёє╔ії╗╘╙╚╛ґ╝╞╟╠╡ЁЄ╣ІЇ╦╧╨╩╪Ґ╬©",
    "юабцдефгхийклмнопярстужвьызшэщчъ",
    "ЮАБЦДЕФГХИЙКЛМНОПЯРСТУЖВЬЫЗШЭЩЧЪ"]⟩,
  ⟨"kz1048", ["kz_1048", "rk1048", "strk1048_2002"], 128, [
    "ЂЃ‚ѓ„…†‡€‰Љ‹ЊҚҺЏђ‘’“”•–—\ufffd™љ›њқһџ",
    "\xa0ҰұӘ¤Ө¦§Ё©Ғ«¬\xad®Ү°±Ііөµ¶·ё№ғ»әҢңү",
    "АБВГДЕЖЗИЙКЛМНОПРСТУФХЦЧШЩЪЫЬЭЮЯ",
    "абвгдежзийклмнопрстуфхцчшщъыьэюя"]⟩,
  ⟨"palmos", [], 128, [
    "€\x81‚ƒ„…†‡ˆ‰Š‹Œ♦♣♥♠‘’“”•–—˜™š\x9bœ\x9d\x9eŸ",
    "\xa0¡¢£¤¥¦§¨©ª«¬\xad®¯°±²³´µ¶·¸¹º»¼½¾¿",
    "ÀÁÂÃÄÅÆÇÈÉÊËÌÍÎÏÐÑÒÓÔÕÖ×ØÙÚÛÜÝÞß",
    "àáâãäåæçèéêëìíîïðñòóôõö÷øùúûüýþÿ"]⟩,
  ⟨"ptcp154", ["cp154", "csptcp154", "cyrillic_asian", "pt154"], 128, [
    "ҖҒӮғ„…ҶҮҲүҠӢҢҚҺҸҗ‘’“”•–—ҳҷҡӣңқһҹ",
    "\xa0ЎўЈӨҘҰ§Ё©Ә«¬ӯ®Ҝ°ұІіҙө¶·ё№ә»јҪҫҝ",
    "АБВГДЕЖЗИЙКЛМНОПРСТУФХЦЧШЩЪЫЬЭЮЯ",
    "абвгдежзийклмнопрстуфхцчшщъыьэюя"]⟩,
  ⟨"tis_620", ["iso_ir_166", "tis620", "tis_620_0", "tis_620_2529_0", "tis_620_2529_1"], 160, [
    "\ufffdกขฃคฅฆงจฉชซฌญฎฏ",
    "ฐฑฒณดตถทธนบปผฝพฟ",
    "ภมยรฤลฦวศษสหฬอฮฯ",
    "ะ\u0e31าำ\u0e34\u0e35\u0e36\u0e37\u0e38\u0e39\u0e3a\ufffd\ufffd\ufffd\ufffd฿",
    "เแโใไๅๆ\u0e47\u0e48\u0e49\u0e4a\u0e4b\u0e4c\u0e4d\u0e4e๏",
    "๐๑๒๓๔๕๖๗๘๙๚๛\ufffd\ufffd\ufffd\ufffd"]⟩]

/-- The pages of one family of desktop computers. -/
def desktopPages : List CodePage := [
  ⟨"mac_arabic", [], 128, [
    "Ä\xa0ÇÉÑÖÜá",
    "àâä\u06ba«çéè",
    "êëí…îïñó",
    "»ôö÷úùûü",
    " !\"#$٪&'",
    "()*+،\x2d./",
    "\u0660\u0661\u0662\u0663\u0664\u0665\u0666\u0667",
    "\u0668\u0669:\u061b<=>\u061f",
    "❊\u0621\u0622\u0623\u0624\u0625\u0626\u0627",
    "\u0628\u0629\u062a\u062b\u062c\u062d\u062e\u062f",
    "\u0630\u0631\u0632\u0633\u0634\u0635\u0636\u0637",
    "\u0638\u0639\u063a[\\]^_",
    "\u0640\u0641\u0642\u0643\u0644\u0645\u0646\u0647",
    "\u0648\u0649\u064a\u064b\u064c\u064d\u064e\u064f",
    "\u0650\u0651\u0652\u067e\u0679\u0686\u06d5\u06a4",
    "\u06af\u0688\u0691\x7b|\x7d\u0698\u06d2"]⟩,
  ⟨"mac_croatian", [], 128, [
    "ÄÅÇÉÑÖÜáàâäãåçéèêëíìîïñóòôöõúùûü",
    "†°¢£§•¶ß®Š™´¨≠ŽØ∞±≤≥∆µ∂∑∏š∫ªºΩžø",
    "¿¡¬√ƒ≈Ć«Č…\xa0ÀÃÕŒœĐ—“”‘’÷◊\uf8ff©⁄€‹›Æ»",
    "–·‚„‰ÂćÁčÈÍÎÏÌÓÔđÒÚÛÙıˆ˜¯πË˚¸Êæˇ"]⟩,
  ⟨"mac_cyrillic", ["maccyrillic"], 128, [
    "АБВГДЕЖЗИЙКЛМНОПРСТУФХЦЧШЩЪЫЬЭЮЯ",
    "†°Ґ£§•¶І®©™Ђђ≠Ѓѓ∞±≤≥іµґЈЄєЇїЉљЊњ",
    "јЅ¬√ƒ≈∆«»…\xa0ЋћЌќѕ–—“”‘’÷„ЎўЏџ№Ёёя",
    "абвгдежзийклмнопрстуфхцчшщъыьэю€"]⟩,
  ⟨"mac_farsi", [], 128, [
    "Ä\xa0ÇÉÑÖÜá",
    "àâä\u06ba«çéè",
    "êëí…îïñó",
    "»ôö÷úùûü",
    " !\"#$٪&'",
    "()*+،\x2d./",
    "۰۱۲۳۴۵۶۷",
    "۸۹:\u061b<=>\u061f",
    "❊\u0621\u0622\u0623\u0624\u0625\u0626\u0627",
    "\u0628\u0629\u062a\u062b\u062c\u062d\u062e\u062f",
    "\u0630\u0631\u0632\u0633\u0634\u0635\u0636\u0637",
    "\u0638\u0639\u063a[\\]^_",
    "\u0640\u0641\u0642\u0643\u0644\u0645\u0646\u0647",
    "\u0648\u0649\u064a\u064b\u064c\u064d\u064e\u064f",
    "\u0650\u0651\u0652\u067e\u0679\u0686\u06d5\u06a4",
    "\u06af\u0688\u0691\x7b|\x7d\u0698\u06d2"]⟩,
  ⟨"mac_greek", ["macgreek"], 128, [
    "Ä¹²É³ÖÜ΅àâä΄¨çéèêë£™îï•½‰ôö¦€ùûü",
    "†ΓΔΘΛΞΠß®©ΣΪ§≠°·Α±≤≥¥ΒΕΖΗΙΚΜΦΫΨΩ",
    "άΝ¬ΟΡ≈Τ«»…\xa0ΥΧΆΈœ–―“”‘’÷ΉΊΌΎέήίόΏ",
    "ύαβψδεφγηιξκλμνοπώρστθωςχυζϊϋΐΰ\xad"]⟩,
  ⟨"mac_iceland", ["maciceland"], 128, [
    "ÄÅÇÉÑÖÜáàâäãåçéèêëíìîïñóòôöõúùûü",
    "Ý°¢£§•¶ß®©™´¨≠ÆØ∞±≤≥¥µ∂∑∏π∫ªºΩæø",
    "¿¡¬√ƒ≈∆«»…\xa0ÀÃÕŒœ–—“”‘’÷◊ÿŸ⁄€ÐðÞþ",
    "ý·‚„‰ÂÊÁËÈÍÎÏÌÓÔ\uf8ffÒÚÛÙıˆ˜¯˘˙˚¸˝˛ˇ"]⟩,
  ⟨"mac_latin2", ["mac_centeuro", "maccentraleurope", "maclatin2"], 128, [
    "ÄĀāÉĄÖÜáąČäčĆćéŹźĎíďĒēĖóėôöõúĚěü",
    "†°Ę£§•¶ß®©™ę¨≠ģĮįĪ≤≥īĶ∂∑łĻļĽľĹĺŅ",
    "ņŃ¬√ńŇ∆«»…\xa0ňŐÕőŌ–—“”‘’÷◊ōŔŕŘ‹›řŖ",
    "ŗŠ‚„šŚśÁŤťÍŽžŪÓÔūŮÚůŰűŲųÝýķŻŁżĢˇ"]⟩,
  ⟨"mac_roman", ["macintosh", "macroman"], 128, [
    "ÄÅÇÉÑÖÜáàâäãåçéèêëíìîïñóòôöõúùûü",
    "†°¢£§•¶ß®©™´¨≠ÆØ∞±≤≥¥µ∂∑∏π∫ªºΩæø",
    "¿¡¬√ƒ≈∆«»…\xa0ÀÃÕŒœ–—“”‘’÷◊ÿŸ⁄€‹›ﬁﬂ",
    "‡·‚„‰ÂÊÁËÈÍÎÏÌÓÔ\uf8ffÒÚÛÙıˆ˜¯˘˙˚¸˝˛ˇ"]⟩,
  ⟨"mac_romanian", [], 128, [
    "ÄÅÇÉÑÖÜáàâäãåçéèêëíìîïñóòôöõúùûü",
    "†°¢£§•¶ß®©™´¨≠ĂȘ∞±≤≥¥µ∂∑∏π∫ªºΩăș",
    "¿¡¬√ƒ≈∆«»…\xa0ÀÃÕŒœ–—“”‘’÷◊ÿŸ⁄€‹›Țț",
    "‡·‚„‰ÂÊÁËÈÍÎÏÌÓÔ\uf8ffÒÚÛÙıˆ˜¯˘˙˚¸˝˛ˇ"]⟩,
  ⟨"mac_turkish", ["macturkish"], 128, [
    "ÄÅÇÉÑÖÜáàâäãåçéèêëíìîïñóòôöõúùûü",
    "†°¢£§•¶ß®©™´¨≠ÆØ∞±≤≥¥µ∂∑∏π∫ªºΩæø",
    "¿¡¬√ƒ≈∆«»…\xa0ÀÃÕŒœ–—“”‘’÷◊ÿŸĞğİıŞş",
    "‡·‚„‰ÂÊÁËÈÍÎÏÌÓÔ\uf8ffÒÚÛÙ\uf8a0ˆ˜¯˘˙˚¸˝˛ˇ"]⟩]

/-- All code pages. -/
def codePages : List CodePage := numberedPages ++ standardPages ++ nationalPages ++ desktopPages

end MediaDepot.Text
