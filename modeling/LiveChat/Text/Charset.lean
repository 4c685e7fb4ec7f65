import LiveChat.Text.Blank
import LiveChat.Text.Charset.Escaped
import LiveChat.Text.Chart.Octet
import LiveChat.Text.Utf16
import LiveChat.Text.Utf8

/-!
Character sets of texts that arrive from a server, by their names. Octets that stand for nothing
in a set come to U+FFFD, so that every text can be read.
-/

set_option autoImplicit false

namespace LiveChat.Text

inductive Charset where
  | utf8
  | utf16 (bigEndian : Bool)
  | octets (chart : Chart)
  | gb18030
  | big5
  | eucKr
  | shiftJis
  | eucJp
  | iso2022Jp
  | unreadable
  deriving Repr

namespace Charset

/-- The sets under their names in lower case. -/
def named : List (List String × Charset) :=
  [(["unicode-1-1-utf-8", "unicode11utf8", "unicode20utf8", "utf-8", "utf8", "x-unicode20utf8"],
      utf8),
    (["csunicode", "iso-10646-ucs-2", "ucs-2", "unicode", "unicodefeff", "utf-16", "utf-16le"],
      utf16 false),
    (["unicodefffe", "utf-16be"], utf16 true),
    (["ansi_x3.4-1968", "ascii", "cp1252", "cp819", "csisolatin1", "ibm819", "iso-8859-1",
        "iso-ir-100", "iso8859-1", "iso88591", "iso_8859-1", "iso_8859-1:1987", "l1", "latin1",
        "us-ascii", "windows-1252", "x-cp1252"], octets .windows1252),
    (["866", "cp866", "csibm866", "ibm866"], octets .ibm866),
    (["csisolatin2", "iso-8859-2", "iso-ir-101", "iso8859-2", "iso88592", "iso_8859-2",
        "iso_8859-2:1987", "l2", "latin2"], octets .latin2),
    (["csisolatin3", "iso-8859-3", "iso-ir-109", "iso8859-3", "iso88593", "iso_8859-3",
        "iso_8859-3:1988", "l3", "latin3"], octets .latin3),
    (["csisolatin4", "iso-8859-4", "iso-ir-110", "iso8859-4", "iso88594", "iso_8859-4",
        "iso_8859-4:1988", "l4", "latin4"], octets .latin4),
    (["csisolatincyrillic", "cyrillic", "iso-8859-5", "iso-ir-144", "iso8859-5", "iso88595",
        "iso_8859-5", "iso_8859-5:1988"], octets .isoCyrillic),
    (["arabic", "asmo-708", "csiso88596e", "csiso88596i", "csisolatinarabic", "ecma-114",
        "iso-8859-6", "iso-8859-6-e", "iso-8859-6-i", "iso-ir-127", "iso8859-6", "iso88596",
        "iso_8859-6", "iso_8859-6:1987"], octets .isoArabic),
    (["csisolatingreek", "ecma-118", "elot_928", "greek", "greek8", "iso-8859-7", "iso-ir-126",
        "iso8859-7", "iso88597", "iso_8859-7", "iso_8859-7:1987", "sun_eu_greek"],
      octets .isoGreek),
    (["csiso88598e", "csiso88598i", "csisolatinhebrew", "hebrew", "iso-8859-8", "iso-8859-8-e",
        "iso-8859-8-i", "iso-ir-138", "iso8859-8", "iso88598", "iso_8859-8", "iso_8859-8:1988",
        "logical", "visual"], octets .isoHebrew),
    (["csisolatin6", "iso-8859-10", "iso-ir-157", "iso8859-10", "iso885910", "l6", "latin6"],
      octets .latin6),
    (["iso-8859-13", "iso8859-13", "iso885913"], octets .latin7),
    (["iso-8859-14", "iso8859-14", "iso885914"], octets .latin8),
    (["csisolatin9", "iso-8859-15", "iso8859-15", "iso885915", "iso_8859-15", "l9"],
      octets .latin9),
    (["iso-8859-16"], octets .latin10),
    (["cskoi8r", "koi", "koi8", "koi8-r", "koi8_r"], octets .koi8R),
    (["koi8-ru", "koi8-u"], octets .koi8U),
    (["csmacintosh", "mac", "macintosh", "x-mac-roman"], octets .macRoman),
    (["x-mac-cyrillic", "x-mac-ukrainian"], octets .macCyrillic),
    (["dos-874", "iso-8859-11", "iso8859-11", "iso885911", "tis-620", "windows-874"],
      octets .windows874),
    (["cp1250", "windows-1250", "x-cp1250"], octets .windows1250),
    (["cp1251", "windows-1251", "x-cp1251"], octets .windows1251),
    (["cp1253", "windows-1253", "x-cp1253"], octets .windows1253),
    (["cp1254", "csisolatin5", "iso-8859-9", "iso-ir-148", "iso8859-9", "iso88599", "iso_8859-9",
        "iso_8859-9:1989", "l5", "latin5", "windows-1254", "x-cp1254"], octets .windows1254),
    (["cp1255", "windows-1255", "x-cp1255"], octets .windows1255),
    (["cp1256", "windows-1256", "x-cp1256"], octets .windows1256),
    (["cp1257", "windows-1257", "x-cp1257"], octets .windows1257),
    (["cp1258", "windows-1258", "x-cp1258"], octets .windows1258),
    (["x-user-defined"], octets .userDefined),
    (["chinese", "csgb2312", "csiso58gb231280", "gb18030", "gb2312", "gb_2312", "gb_2312-80", "gbk",
        "iso-ir-58", "x-gbk"], gb18030),
    (["big5", "big5-hkscs", "cn-big5", "csbig5", "x-x-big5"], big5),
    (["cseuckr", "csksc56011987", "euc-kr", "iso-ir-149", "korean", "ks_c_5601-1987",
        "ks_c_5601-1989", "ksc5601", "ksc_5601", "windows-949"], eucKr),
    (["csshiftjis", "ms932", "ms_kanji", "shift-jis", "shift_jis", "sjis", "windows-31j", "x-sjis"],
      shiftJis),
    (["cseucpkdfmtjapanese", "euc-jp", "x-euc-jp"], eucJp),
    (["csiso2022jp", "iso-2022-jp"], iso2022Jp),
    (["csiso2022kr", "hz-gb-2312", "iso-2022-cn", "iso-2022-cn-ext", "iso-2022-kr", "replacement"],
      unreadable)]

def ofName? (name : String) : Option Charset :=
  let name := String.ofList ((trimChars name.toList).map Char.toLower)
  (named.find? fun (names, _) => names.contains name).map Prod.snd

/-- An octet below 0x80 is ASCII in every set of single octets. -/
def octetChar (chart : Chart) (octet : UInt8) : Char :=
  if octet < 0x80 then Char.ofNat octet.toNat
  else (chart.get? (octet.toNat - 0x80)).getD '\uFFFD'

/-- A text in a set that is not read comes to one U+FFFD, whatever its size. -/
def decode (octets : List UInt8) : Charset → String
  | .utf8 => Utf8.decodeLossy octets
  | .utf16 bigEndian => Utf16.decode bigEndian octets
  | .octets chart => String.ofList (octets.map (octetChar chart))
  | .gb18030 => read Charset.gb18030Piece octets
  | .big5 => read Charset.big5Piece octets
  | .eucKr => read Charset.eucKrPiece octets
  | .shiftJis => read Charset.shiftJisPiece octets
  | .eucJp => read Charset.eucJpPiece octets
  | .iso2022Jp => String.ofList (readFrom Escape.piece [] .start octets)
  | .unreadable => if octets.isEmpty then "" else "\uFFFD"

/-- A byte order mark at the start goes before the set that was named, and is left out. -/
def decodeMarked (octets : List UInt8) (charset : Charset) : String :=
  match octets with
  | 0xEF :: 0xBB :: 0xBF :: rest => decode rest .utf8
  | 0xFF :: 0xFE :: rest => decode rest (.utf16 false)
  | 0xFE :: 0xFF :: rest => decode rest (.utf16 true)
  | _ => decode octets charset

end Charset

end LiveChat.Text
