import Postbag.Bytes.Utf16
import Postbag.Charset.SingleByte
/-!
# Label — the names under which charsets are known

The names are those of the WHATWG Encoding Standard for the encodings that are not East Asian, those of UTF-7, and some
that mail programs write without their being standard, such as `iso8859_15`.  Case does not matter.
-/
namespace Postbag

inductive Charset
  | utf8
  | utf16 (order : Utf16.ByteOrder)
  | utf7
  | singleByte (table : Charset.SingleByte)
  /-- ASCII below, a private use character for each octet above. -/
  | userDefined
  /-- Nothing can be read: any octets at all are one replacement character. -/
  | replacement
  deriving Repr, DecidableEq

namespace Charset

def labels : List (Charset × List String) := [
  (.utf7, ["csunicode11utf7", "unicode-1-1-utf-7", "utf-7", "x-unicode-2-0-utf-7"]),
  (.utf8, ["unicode-1-1-utf-8", "unicode11utf8", "unicode20utf8", "utf-8", "utf8", "x-unicode20utf8"]),
  (.utf16 .little, ["csunicode", "iso-10646-ucs-2", "ucs-2", "unicode", "unicodefeff", "utf-16", "utf-16le"]),
  (.utf16 .big, ["unicodefffe", "utf-16be"]),
  (.replacement, ["csiso2022kr", "hz-gb-2312", "iso-2022-cn", "iso-2022-cn-ext", "iso-2022-kr", "replacement"]),
  (.userDefined, ["x-user-defined"]),
  (.singleByte .ibm866, ["866", "cp866", "csibm866", "ibm866"]),
  (.singleByte .windows1252, ["ansi_x3.4-1968", "ascii", "cp1252", "cp819", "csisolatin1", "ibm819", "iso-8859-1",
      "iso-ir-100", "iso8859-1", "iso88591", "iso_8859-1", "iso_8859-1:1987", "l1", "latin1", "us-ascii",
      "windows-1252", "x-cp1252"]),
  (.singleByte .iso8859_6, ["arabic", "asmo-708", "csiso88596e", "csiso88596i", "csisolatinarabic", "ecma-114",
      "iso-8859-6", "iso-8859-6-e", "iso-8859-6-i", "iso-ir-127", "iso8859-6", "iso88596", "iso_8859-6",
      "iso_8859-6:1987"]),
  (.singleByte .windows1250, ["cp1250", "windows-1250", "x-cp1250"]),
  (.singleByte .windows1251, ["cp1251", "windows-1251", "x-cp1251"]),
  (.singleByte .windows1253, ["cp1253", "windows-1253", "x-cp1253"]),
  (.singleByte .windows1254, ["cp1254", "csisolatin5", "iso-8859-9", "iso-ir-148", "iso8859-9", "iso88599",
      "iso_8859-9", "iso_8859-9:1989", "l5", "latin5", "windows-1254", "x-cp1254"]),
  (.singleByte .windows1255, ["cp1255", "windows-1255", "x-cp1255"]),
  (.singleByte .windows1256, ["cp1256", "windows-1256", "x-cp1256"]),
  (.singleByte .windows1257, ["cp1257", "windows-1257", "x-cp1257"]),
  (.singleByte .windows1258, ["cp1258", "windows-1258", "x-cp1258"]),
  (.singleByte .iso8859_8, ["csiso88598e", "csiso88598i", "csisolatinhebrew", "hebrew", "iso-8859-8",
      "iso-8859-8-e", "iso-8859-8-i", "iso-ir-138", "iso8859-8", "iso88598", "iso_8859-8", "iso_8859-8:1988",
      "logical", "visual"]),
  (.singleByte .iso8859_2, ["csisolatin2", "iso-8859-2", "iso-ir-101", "iso8859-2", "iso88592", "iso_8859-2",
      "iso_8859-2:1987", "l2", "latin2"]),
  (.singleByte .iso8859_3, ["csisolatin3", "iso-8859-3", "iso-ir-109", "iso8859-3", "iso88593", "iso_8859-3",
      "iso_8859-3:1988", "l3", "latin3"]),
  (.singleByte .iso8859_4, ["csisolatin4", "iso-8859-4", "iso-ir-110", "iso8859-4", "iso88594", "iso_8859-4",
      "iso_8859-4:1988", "l4", "latin4"]),
  (.singleByte .iso8859_10, ["csisolatin6", "iso-8859-10", "iso-ir-157", "iso8859-10", "iso885910", "l6", "latin6"]),
  (.singleByte .iso8859_15, ["csisolatin9", "iso-8859-15", "iso8859-15", "iso885915", "iso_8859-15", "l9"]),
  (.singleByte .iso8859_5, ["csisolatincyrillic", "cyrillic", "iso-8859-5", "iso-ir-144", "iso8859-5", "iso88595",
      "iso_8859-5", "iso_8859-5:1988"]),
  (.singleByte .iso8859_7, ["csisolatingreek", "ecma-118", "elot_928", "greek", "greek8", "iso-8859-7",
      "iso-ir-126", "iso8859-7", "iso88597", "iso_8859-7", "iso_8859-7:1987", "sun_eu_greek"]),
  (.singleByte .koi8R, ["cskoi8r", "koi", "koi8", "koi8-r", "koi8_r"]),
  (.singleByte .macintosh, ["csmacintosh", "mac", "macintosh", "x-mac-roman"]),
  (.singleByte .windows874, ["dos-874", "iso-8859-11", "iso8859-11", "iso885911", "tis-620", "windows-874"]),
  (.singleByte .iso8859_13, ["iso-8859-13", "iso8859-13", "iso885913"]),
  (.singleByte .iso8859_14, ["iso-8859-14", "iso8859-14", "iso885914"]),
  (.singleByte .iso8859_16, ["iso-8859-16"]),
  (.singleByte .koi8U, ["koi8-ru", "koi8-u"]),
  (.singleByte .macCyrillic, ["x-mac-cyrillic", "x-mac-ukrainian"])
]

/-- Names that are in no standard, with the standard name of the same charset. -/
def aliases : List (String × String) := [
  ("iso8859_1", "iso-8859-1"),
  ("iso8859_2", "iso-8859-2"),
  ("iso8859_3", "iso-8859-3"),
  ("iso8859_4", "iso-8859-4"),
  ("iso8859_5", "iso-8859-5"),
  ("iso8859_6", "iso-8859-6"),
  ("iso8859_7", "iso-8859-7"),
  ("iso8859_9", "iso-8859-9"),
  ("iso8859_13", "iso-8859-13"),
  ("iso8859_15", "iso-8859-15"),
  ("koi8_u", "koi8-u"),
  ("ms874", "windows-874"),
  ("tis620", "windows-874"),
  ("x-windows-874", "windows-874")
]

def find? (name : String) : Option Charset := (labels.find? fun row => row.2.contains name).map Prod.fst

def ofLabel? (label : List Char) : Option Charset :=
  let name := String.ofList (label.map Char.toLower)
  find? ((aliases.lookup name).getD name)

end Charset
end Postbag
