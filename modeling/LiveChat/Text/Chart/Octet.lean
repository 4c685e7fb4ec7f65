import LiveChat.Text.Chart

/-!
Sets of single octets: what the octets from 0x80 stand for, in rows of 32.
-/

set_option autoImplicit false

namespace LiveChat.Text.Chart

def ibm866 : Chart where
  width := 32
  rows := #[
  "АБВГДЕЖЗИЙКЛМНОПРСТУФХЦЧШЩЪЫЬЭЮЯ", "абвгдежзийклмноп░▒▓│┤╡╢╖╕╣║╗╝╜╛┐",
  "└┴┬├─┼╞╟╚╔╩╦╠═╬╧╨╤╥╙╘╒╓╫╪┘┌█▄▌▐▀", "рстуфхцчшщъыьэюяЁёЄєЇїЎў°∙·√№¤■\u00a0"]
  runs := []

/-- ISO 8859-2. -/
def latin2 : Chart where
  width := 32
  rows := #[
  "", " Ą˘Ł¤ĽŚ§¨ŠŞŤŹ\u00adŽŻ°ą˛ł´ľśˇ¸šşťź˝žż", "ŔÁÂĂÄĹĆÇČÉĘËĚÍÎĎĐŃŇÓÔŐÖ×ŘŮÚŰÜÝŢß",
  "ŕáâăäĺćçčéęëěíîďđńňóôőö÷řůúűüýţ˙"]
  runs := [(0x0, 33, 0x80)]

/-- ISO 8859-3. -/
def latin3 : Chart where
  width := 32
  rows := #[
  "", " Ħ˘£¤ Ĥ§¨İŞĞĴ\u00ad Ż°ħ²³´µĥ·¸ışğĵ½ ż", "ÀÁÂ ÄĊĈÇÈÉÊËÌÍÎÏ ÑÒÓÔĠÖ×ĜÙÚÛÜŬŜß",
  "àáâ äċĉçèéêëìíîï ñòóôġö÷ĝùúûüŭŝ˙"]
  runs := [(0x0, 33, 0x80)]

/-- ISO 8859-4. -/
def latin4 : Chart where
  width := 32
  rows := #[
  "", " ĄĸŖ¤ĨĻ§¨ŠĒĢŦ\u00adŽ¯°ą˛ŗ´ĩļˇ¸šēģŧŊžŋ", "ĀÁÂÃÄÅÆĮČÉĘËĖÍÎĪĐŅŌĶÔÕÖ×ØŲÚÛÜŨŪß",
  "āáâãäåæįčéęëėíîīđņōķôõö÷øųúûüũū˙"]
  runs := [(0x0, 33, 0x80)]

/-- ISO 8859-5. -/
def isoCyrillic : Chart where
  width := 32
  rows := #[
  "", " ЁЂЃЄЅІЇЈЉЊЋЌ\u00adЎЏАБВГДЕЖЗИЙКЛМНОП", "РСТУФХЦЧШЩЪЫЬЭЮЯабвгдежзийклмноп",
  "рстуфхцчшщъыьэюя№ёђѓєѕіїјљњћќ§ўџ"]
  runs := [(0x0, 33, 0x80)]

/-- ISO 8859-6. -/
def isoArabic : Chart where
  width := 32
  rows := #[
  "", "    ¤       ،\u00ad             \u061b   \u061f"]
  runs := [(0x0, 33, 0x80), (0x41, 26, 0x621), (0x60, 19, 0x640)]

/-- ISO 8859-7. -/
def isoGreek : Chart where
  width := 32
  rows := #[
  "", " ‘’£€₯¦§¨©ͺ«¬\u00ad ―°±²³΄΅Ά·ΈΉΊ»Ό½ΎΏ", "ΐΑΒΓΔΕΖΗΘΙΚΛΜΝΞΟΠΡ ΣΤΥΦΧΨΩΪΫάέήί",
  "ΰαβγδεζηθικλμνξοπρςστυφχψωϊϋόύώ"]
  runs := [(0x0, 33, 0x80)]

/-- ISO 8859-8. -/
def isoHebrew : Chart where
  width := 32
  rows := #[
  "", "  ¢£¤¥¦§¨©×«¬\u00ad®¯°±²³´µ¶·¸¹÷»¼½¾", "                               ‗",
  "                             \u200e\u200f"]
  runs := [(0x0, 33, 0x80), (0x60, 27, 0x5D0)]

/-- ISO 8859-10. -/
def latin6 : Chart where
  width := 32
  rows := #[
  "", " ĄĒĢĪĨĶ§ĻĐŠŦŽ\u00adŪŊ°ąēģīĩķ·ļđšŧž―ūŋ", "ĀÁÂÃÄÅÆĮČÉĘËĖÍÎÏÐŅŌÓÔÕÖŨØŲÚÛÜÝÞß",
  "āáâãäåæįčéęëėíîïðņōóôõöũøųúûüýþĸ"]
  runs := [(0x0, 33, 0x80)]

/-- ISO 8859-13. -/
def latin7 : Chart where
  width := 32
  rows := #[
  "", " ”¢£¤„¦§Ø©Ŗ«¬\u00ad®Æ°±²³“µ¶·ø¹ŗ»¼½¾æ", "ĄĮĀĆÄÅĘĒČÉŹĖĢĶĪĻŠŃŅÓŌÕÖ×ŲŁŚŪÜŻŽß",
  "ąįāćäåęēčéźėģķīļšńņóōõö÷ųłśūüżž’"]
  runs := [(0x0, 33, 0x80)]

/-- ISO 8859-14. -/
def latin8 : Chart where
  width := 32
  rows := #[
  "", " Ḃḃ£ĊċḊ§Ẁ©ẂḋỲ\u00ad®ŸḞḟĠġṀṁ¶ṖẁṗẃṠỳẄẅṡ", "ÀÁÂÃÄÅÆÇÈÉÊËÌÍÎÏŴÑÒÓÔÕÖṪØÙÚÛÜÝŶß",
  "àáâãäåæçèéêëìíîïŵñòóôõöṫøùúûüýŷÿ"]
  runs := [(0x0, 33, 0x80)]

/-- ISO 8859-15. -/
def latin9 : Chart where
  width := 32
  rows := #[
  "", " ¡¢£€¥Š§š©ª«¬\u00ad®¯°±²³Žµ¶·ž¹º»ŒœŸ¿", "ÀÁÂÃÄÅÆÇÈÉÊËÌÍÎÏÐÑÒÓÔÕÖ×ØÙÚÛÜÝÞß",
  "àáâãäåæçèéêëìíîïðñòóôõö÷øùúûüýþÿ"]
  runs := [(0x0, 33, 0x80)]

/-- ISO 8859-16. -/
def latin10 : Chart where
  width := 32
  rows := #[
  "", " ĄąŁ€„Š§š©Ș«Ź\u00adźŻ°±ČłŽ”¶·žčș»ŒœŸż", "ÀÁÂĂÄĆÆÇÈÉÊËÌÍÎÏĐŃÒÓÔŐÖŚŰÙÚÛÜĘȚß",
  "àáâăäćæçèéêëìíîïđńòóôőöśűùúûüęțÿ"]
  runs := [(0x0, 33, 0x80)]

def koi8R : Chart where
  width := 32
  rows := #[
  "─│┌┐└┘├┤┬┴┼▀▄█▌▐░▒▓⌠■∙√≈≤≥\u00a0⌡°²·÷", "═║╒ё╓╔╕╖╗╘╙╚╛╜╝╞╟╠╡Ё╢╣╤╥╦╧╨╩╪╫╬©",
  "юабцдефгхийклмнопярстужвьызшэщчъ", "ЮАБЦДЕФГХИЙКЛМНОПЯРСТУЖВЬЫЗШЭЩЧЪ"]
  runs := []

def koi8U : Chart where
  width := 32
  rows := #[
  "─│┌┐└┘├┤┬┴┼▀▄█▌▐░▒▓⌠■∙√≈≤≥\u00a0⌡°²·÷", "═║╒ёє╔ії╗╘╙╚╛ґў╞╟╠╡ЁЄ╣ІЇ╦╧╨╩╪ҐЎ©",
  "юабцдефгхийклмнопярстужвьызшэщчъ", "ЮАБЦДЕФГХИЙКЛМНОПЯРСТУЖВЬЫЗШЭЩЧЪ"]
  runs := []

def macRoman : Chart where
  width := 32
  rows := #[
  "ÄÅÇÉÑÖÜáàâäãåçéèêëíìîïñóòôöõúùûü", "†°¢£§•¶ß®©™´¨≠ÆØ∞±≤≥¥µ∂∑∏π∫ªºΩæø",
  "¿¡¬√ƒ≈∆«»…\u00a0ÀÃÕŒœ–—“”‘’÷◊ÿŸ⁄€‹›ﬁﬂ", "‡·‚„‰ÂÊÁËÈÍÎÏÌÓÔ\uf8ffÒÚÛÙıˆ˜¯˘˙˚¸˝˛ˇ"]
  runs := []

def macCyrillic : Chart where
  width := 32
  rows := #[
  "АБВГДЕЖЗИЙКЛМНОПРСТУФХЦЧШЩЪЫЬЭЮЯ", "†°Ґ£§•¶І®©™Ђђ≠Ѓѓ∞±≤≥іµґЈЄєЇїЉљЊњ",
  "јЅ¬√ƒ≈∆«»…\u00a0ЋћЌќѕ–—“”‘’÷„ЎўЏџ№Ёёя", "абвгдежзийклмнопрстуфхцчшщъыьэю€"]
  runs := []

def windows874 : Chart where
  width := 32
  rows := #[
  "€    …           ‘’“”•–—", " กขฃคฅฆงจฉชซฌญฎฏฐฑฒณดตถทธนบปผฝพฟ",
  "ภมยรฤลฦวศษสหฬอฮฯะ\u0e31าำ           ฿", "เแโใไๅๆ        ๏๐๑๒๓๔๕๖๗๘๙๚๛"]
  runs := [(0x1, 4, 0x81), (0x6, 11, 0x86), (0x18, 9, 0x98), (0x54, 7, 0xE34), (0x67, 8, 0xE47)]

def windows1250 : Chart where
  width := 32
  rows := #[
  "€\u0081‚\u0083„…†‡\u0088‰Š‹ŚŤŽŹ\u0090‘’“”•–—\u0098™š›śťžź",
  "\u00a0ˇ˘Ł¤Ą¦§¨©Ş«¬\u00ad®Ż°±˛ł´µ¶·¸ąş»Ľ˝ľż", "ŔÁÂĂÄĹĆÇČÉĘËĚÍÎĎĐŃŇÓÔŐÖ×ŘŮÚŰÜÝŢß",
  "ŕáâăäĺćçčéęëěíîďđńňóôőö÷řůúűüýţ˙"]
  runs := []

def windows1251 : Chart where
  width := 32
  rows := #[
  "ЂЃ‚ѓ„…†‡€‰Љ‹ЊЌЋЏђ‘’“”•–—\u0098™љ›њќћџ", "\u00a0ЎўЈ¤Ґ¦§Ё©Є«¬\u00ad®Ї°±Ііґµ¶·ё№є»јЅѕї",
  "АБВГДЕЖЗИЙКЛМНОПРСТУФХЦЧШЩЪЫЬЭЮЯ", "абвгдежзийклмнопрстуфхцчшщъыьэюя"]
  runs := []

def windows1252 : Chart where
  width := 32
  rows := #[
  "€\u0081‚ƒ„…†‡ˆ‰Š‹Œ\u008dŽ\u008f\u0090‘’“”•–—˜™š›œ\u009džŸ",
  "\u00a0¡¢£¤¥¦§¨©ª«¬\u00ad®¯°±²³´µ¶·¸¹º»¼½¾¿", "ÀÁÂÃÄÅÆÇÈÉÊËÌÍÎÏÐÑÒÓÔÕÖ×ØÙÚÛÜÝÞß",
  "àáâãäåæçèéêëìíîïðñòóôõö÷øùúûüýþÿ"]
  runs := []

def windows1253 : Chart where
  width := 32
  rows := #[
  "€\u0081‚ƒ„…†‡\u0088‰\u008a‹     ‘’“”•–—\u0098™\u009a›", " ΅Ά£¤¥¦§¨© «¬\u00ad®―°±²³΄µ¶·ΈΉΊ»Ό½ΎΏ",
  "ΐΑΒΓΔΕΖΗΘΙΚΛΜΝΞΟΠΡ ΣΤΥΦΧΨΩΪΫάέήί", "ΰαβγδεζηθικλμνξοπρςστυφχψωϊϋόύώ"]
  runs := [(0xC, 5, 0x8C), (0x1C, 5, 0x9C)]

def windows1254 : Chart where
  width := 32
  rows := #[
  "€\u0081‚ƒ„…†‡ˆ‰Š‹Œ    ‘’“”•–—˜™š›œ\u009d\u009eŸ", "\u00a0¡¢£¤¥¦§¨©ª«¬\u00ad®¯°±²³´µ¶·¸¹º»¼½¾¿",
  "ÀÁÂÃÄÅÆÇÈÉÊËÌÍÎÏĞÑÒÓÔÕÖ×ØÙÚÛÜİŞß", "àáâãäåæçèéêëìíîïğñòóôõö÷øùúûüışÿ"]
  runs := [(0xD, 4, 0x8D)]

def windows1255 : Chart where
  width := 32
  rows := #[
  "€\u0081‚ƒ„…†‡ˆ‰\u008a‹     ‘’“”•–—˜™\u009a›", " ¡¢£₪¥¦§¨©×«¬\u00ad®¯°±²³´µ¶·¸¹÷»¼½¾¿", "",
  "                             \u200e\u200f"]
  runs := [(0xC, 5, 0x8C), (0x1C, 5, 0x9C), (0x40, 20, 0x5B0), (0x54, 5, 0x5F0), (0x60, 27, 0x5D0)]

def windows1256 : Chart where
  width := 32
  rows := #[
  "€\u067e‚ƒ„…†‡ˆ‰\u0679‹Œ\u0686\u0698\u0688\u06af‘’“”•–—\u06a9™\u0691›œ\u200c\u200d\u06ba",
  "\u00a0،¢£¤¥¦§¨©\u06be«¬\u00ad®¯°±²³´µ¶·¸¹\u061b»¼½¾\u061f", "\u06c1                      ×",
  "à\u0644â    çèéêë\u0649\u064aîï    ô\u064f\u0650÷\u0651ù\u0652ûü\u200e\u200f\u06d2"]
  runs := [(0x41, 22, 0x621), (0x58, 4, 0x637), (0x5C, 4, 0x640), (0x63, 4, 0x645), (0x70, 4, 0x64B)
  ]

def windows1257 : Chart where
  width := 32
  rows := #[
  "€\u0081‚\u0083„…†‡\u0088‰\u008a‹\u008c¨ˇ¸\u0090‘’“”•–—\u0098™\u009a›\u009c¯˛\u009f",
  "\u00a0 ¢£¤ ¦§Ø©Ŗ«¬\u00ad®Æ°±²³´µ¶·ø¹ŗ»¼½¾æ", "ĄĮĀĆÄÅĘĒČÉŹĖĢĶĪĻŠŃŅÓŌÕÖ×ŲŁŚŪÜŻŽß",
  "ąįāćäåęēčéźėģķīļšńņóōõö÷ųłśūüżž˙"]
  runs := []

def windows1258 : Chart where
  width := 32
  rows := #[
  "€\u0081‚ƒ„…†‡ˆ‰\u008a‹Œ    ‘’“”•–—˜™\u009a›œ\u009d\u009eŸ",
  "\u00a0¡¢£¤¥¦§¨©ª«¬\u00ad®¯°±²³´µ¶·¸¹º»¼½¾¿", "ÀÁÂĂÄÅÆÇÈÉÊË\u0300ÍÎÏĐÑ\u0309ÓÔƠÖ×ØÙÚÛÜƯ\u0303ß",
  "àáâăäåæçèéêë\u0301íîïđñ\u0323óôơö÷øùúûüư₫ÿ"]
  runs := [(0xD, 4, 0x8D)]

/-- Every octet above ASCII stands for a private use character. -/
def userDefined : Chart where
  width := 32
  rows := #[]
  runs := [(0x0, 128, 0xF780)]

end LiveChat.Text.Chart
