import PageExtract.Charset.CodePage
import PageExtract.Charset.EastAsian.Japanese
import PageExtract.Charset.EastAsian.Korean
import PageExtract.Charset.EastAsian.Simplified
import PageExtract.Charset.EastAsian.Traditional
import PageExtract.Charset.Utf16

/-!
# Character sets and their labels

A *character set* is a way to read bytes as characters.  Each has a number of
labels, under which documents may declare it, in any case and with space around
them.  Some old character sets are not read at all, since they let a byte hide
the meaning of those after it.  Whatever is not empty reads as a single U+FFFD in
them.
-/

namespace PageExtract

/-- A way to read bytes as characters. -/
inductive Charset where
  /-- One to four bytes for a character. -/
  | utf8
  /-- One or two units of two bytes for a character. -/
  | utf16 (bigEndian : Bool)
  /-- One byte for a character. -/
  | codePage (page : Charset.CodePage)
  /-- Japanese, one or two bytes for a character. -/
  | shiftJis
  /-- Japanese, one to three bytes for a character. -/
  | eucJp
  /-- Japanese, with escape sequences between ways to read bytes. -/
  | iso2022Jp
  /-- Korean. -/
  | eucKr
  /-- Simplified Chinese. -/
  | gb18030
  /-- Traditional Chinese. -/
  | big5
  /-- A character set that is not read. -/
  | unreadable
  deriving DecidableEq, Repr

namespace Charset

/-- The characters that some bytes stand for. -/
def decode (c : Charset) (bytes : List UInt8) : List Char :=
  match c with
  | utf8 => Utf8.decode bytes
  | utf16 bigEndian => Utf16.decode bigEndian bytes
  | codePage page => page.decode bytes
  | shiftJis => decodeBy Japanese.takeShiftJis bytes
  | eucJp => decodeBy Japanese.takeEucJp bytes
  | iso2022Jp => Japanese.decodeIso2022Jp bytes
  | eucKr => decodeBy Korean.take bytes
  | gb18030 => decodeBy Simplified.take bytes
  | big5 => decodeBy Traditional.take bytes
  | unreadable => if bytes.isEmpty then [] else [replacement]

/-- The character sets with their labels. -/
def labels : List (Charset × List String) :=
  [(.utf8,
    ["unicode-1-1-utf-8", "unicode11utf8", "unicode20utf8", "utf-8", "utf8",
      "x-unicode20utf8"]),
   (.utf16 true,
    ["unicodefffe", "utf-16be"]),
   (.utf16 false,
    ["csunicode", "iso-10646-ucs-2", "ucs-2", "unicode", "unicodefeff", "utf-16",
      "utf-16le"]),
   (.unreadable,
    ["csiso2022kr", "hz-gb-2312", "iso-2022-cn", "iso-2022-cn-ext", "iso-2022-kr",
      "replacement"]),
   (.codePage .ibm866,
    ["866", "cp866", "csibm866", "ibm866"]),
   (.codePage .latin2,
    ["csisolatin2", "iso-8859-2", "iso-ir-101", "iso8859-2", "iso88592", "iso_8859-2",
      "iso_8859-2:1987", "l2", "latin2"]),
   (.codePage .latin3,
    ["csisolatin3", "iso-8859-3", "iso-ir-109", "iso8859-3", "iso88593", "iso_8859-3",
      "iso_8859-3:1988", "l3", "latin3"]),
   (.codePage .latin4,
    ["csisolatin4", "iso-8859-4", "iso-ir-110", "iso8859-4", "iso88594", "iso_8859-4",
      "iso_8859-4:1988", "l4", "latin4"]),
   (.codePage .cyrillic,
    ["csisolatincyrillic", "cyrillic", "iso-8859-5", "iso-ir-144", "iso8859-5", "iso88595",
      "iso_8859-5", "iso_8859-5:1988"]),
   (.codePage .arabic,
    ["arabic", "asmo-708", "csiso88596e", "csiso88596i", "csisolatinarabic", "ecma-114",
      "iso-8859-6", "iso-8859-6-e", "iso-8859-6-i", "iso-ir-127", "iso8859-6", "iso88596",
      "iso_8859-6", "iso_8859-6:1987"]),
   (.codePage .greek,
    ["csisolatingreek", "ecma-118", "elot_928", "greek", "greek8", "iso-8859-7",
      "iso-ir-126", "iso8859-7", "iso88597", "iso_8859-7", "iso_8859-7:1987", "sun_eu_greek"]),
   (.codePage .hebrew,
    ["csiso88598e", "csisolatinhebrew", "hebrew", "iso-8859-8", "iso-8859-8-e",
      "iso-ir-138", "iso8859-8", "iso88598", "iso_8859-8", "iso_8859-8:1988", "visual",
      "csiso88598i", "iso-8859-8-i", "logical"]),
   (.codePage .latin6,
    ["csisolatin6", "iso-8859-10", "iso-ir-157", "iso8859-10", "iso885910", "l6", "latin6"]),
   (.codePage .latin7,
    ["iso-8859-13", "iso8859-13", "iso885913"]),
   (.codePage .latin8,
    ["iso-8859-14", "iso8859-14", "iso885914"]),
   (.codePage .latin9,
    ["csisolatin9", "iso-8859-15", "iso8859-15", "iso885915", "iso_8859-15", "l9"]),
   (.codePage .latin10,
    ["iso-8859-16"]),
   (.codePage .koi8r,
    ["cskoi8r", "koi", "koi8", "koi8-r", "koi8_r"]),
   (.codePage .koi8u,
    ["koi8-ru", "koi8-u"]),
   (.codePage .macRoman,
    ["csmacintosh", "mac", "macintosh", "x-mac-roman"]),
   (.codePage .macCyrillic,
    ["x-mac-cyrillic", "x-mac-ukrainian"]),
   (.codePage .windows874,
    ["dos-874", "iso-8859-11", "iso8859-11", "iso885911", "tis-620", "windows-874"]),
   (.codePage .windows1250,
    ["cp1250", "windows-1250", "x-cp1250"]),
   (.codePage .windows1251,
    ["cp1251", "windows-1251", "x-cp1251"]),
   (.codePage .windows1252,
    ["ansi_x3.4-1968", "ascii", "cp1252", "cp819", "csisolatin1", "ibm819", "iso-8859-1",
      "iso-ir-100", "iso8859-1", "iso88591", "iso_8859-1", "iso_8859-1:1987", "l1",
      "latin1", "us-ascii", "windows-1252", "x-cp1252"]),
   (.codePage .windows1253,
    ["cp1253", "windows-1253", "x-cp1253"]),
   (.codePage .windows1254,
    ["cp1254", "csisolatin5", "iso-8859-9", "iso-ir-148", "iso8859-9", "iso88599",
      "iso_8859-9", "iso_8859-9:1989", "l5", "latin5", "windows-1254", "x-cp1254"]),
   (.codePage .windows1255,
    ["cp1255", "windows-1255", "x-cp1255"]),
   (.codePage .windows1256,
    ["cp1256", "windows-1256", "x-cp1256"]),
   (.codePage .windows1257,
    ["cp1257", "windows-1257", "x-cp1257"]),
   (.codePage .windows1258,
    ["cp1258", "windows-1258", "x-cp1258"]),
   (.codePage .userDefined,
    ["x-user-defined"]),
   (.shiftJis,
    ["csshiftjis", "ms932", "ms_kanji", "shift-jis", "shift_jis", "sjis", "windows-31j",
      "x-sjis"]),
   (.eucJp,
    ["cseucpkdfmtjapanese", "euc-jp", "x-euc-jp"]),
   (.iso2022Jp,
    ["csiso2022jp", "iso-2022-jp"]),
   (.eucKr,
    ["cseuckr", "csksc56011987", "euc-kr", "iso-ir-149", "korean", "ks_c_5601-1987",
      "ks_c_5601-1989", "ksc5601", "ksc_5601", "windows-949"]),
   (.gb18030,
    ["chinese", "csgb2312", "csiso58gb231280", "gb18030", "gb2312", "gb_2312",
      "gb_2312-80", "gbk", "iso-ir-58", "x-gbk"]),
   (.big5,
    ["big5", "big5-hkscs", "cn-big5", "csbig5", "x-x-big5"])]

/-- Whether a character is space in a label. -/
def isLabelSpace (c : Char) : Bool :=
  c = ' ' || c = '\t' || c = '\n' || c = '\r' || c = '\x0c'

/-- The character set that a label stands for. -/
def ofLabel? (label : String) : Option Charset :=
  let trimmed := ((label.toList.dropWhile isLabelSpace).reverse.dropWhile isLabelSpace).reverse
  let wanted := String.ofList (trimmed.map Char.toLower)
  (labels.find? fun (_, names) => names.contains wanted).map Prod.fst

end Charset

end PageExtract
