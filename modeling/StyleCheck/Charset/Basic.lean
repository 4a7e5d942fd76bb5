import StyleCheck.Charset.EastAsian
import StyleCheck.Charset.Gb18030
import StyleCheck.Charset.Table.SingleByte
import StyleCheck.Text.Case
import StyleCheck.Text.Utf16
import StyleCheck.Text.Utf8

/-!
# Charsets

The charsets that text can be stored in, their names, and strict decoding: bytes that a charset
does not define make the whole text undecodable. A byte order mark is kept as a character.

A charset has one canonical name and may have further ones. Names are compared without case,
hyphens and underscores.
-/

namespace StyleCheck

/-- A charset. -/
inductive Charset
  | utf8
  | utf16 (order : Text.ByteOrder)
  | utf32 (order : Text.ByteOrder)
  | singleByte (charset : Charset.SingleByte)
  /-- Hebrew in logical order, which has the characters of Hebrew in visual order. -/
  | logicalHebrew
  | shiftJis
  | eucJp
  | iso2022Jp
  | eucKr
  | gb18030
  | gbk
  | big5
  | hz
  deriving DecidableEq, Repr

namespace Charset

/-- The text of a byte string; `none` unless all of it is text of the charset. -/
def decode? (charset : Charset) (bytes : List UInt8) : Option (List Char) :=
  match charset with
  | utf8 => Text.Utf8.decode? bytes
  | utf16 order => Text.Utf16.decode? order bytes
  | utf32 order => Text.Utf32.decode? order bytes
  | singleByte charset => charset.decode? bytes
  | logicalHebrew => SingleByte.iso8859Part8.decode? bytes
  | shiftJis => Reader.shiftJis.decode? bytes
  | eucJp => Reader.eucJp.decode? bytes
  | iso2022Jp => Iso2022Jp.decode? bytes
  | eucKr => Reader.eucKr.decode? bytes
  | gb18030 | gbk => Reader.gb18030.decode? bytes
  | big5 => Reader.big5.decode? bytes
  | hz => Hz.decode? bytes

/-! ## Names -/

/-- The canonical name. -/
def name : Charset → String
  | utf8 => "UTF-8"
  | utf16 .little => "UTF-16LE"
  | utf16 .big => "UTF-16BE"
  | utf32 .little => "UTF-32LE"
  | utf32 .big => "UTF-32BE"
  | singleByte .ibm866 => "IBM866"
  | singleByte .iso8859Part2 => "ISO-8859-2"
  | singleByte .iso8859Part3 => "ISO-8859-3"
  | singleByte .iso8859Part4 => "ISO-8859-4"
  | singleByte .iso8859Part5 => "ISO-8859-5"
  | singleByte .iso8859Part6 => "ISO-8859-6"
  | singleByte .iso8859Part7 => "ISO-8859-7"
  | singleByte .iso8859Part8 => "ISO-8859-8"
  | singleByte .iso8859Part10 => "ISO-8859-10"
  | singleByte .iso8859Part13 => "ISO-8859-13"
  | singleByte .iso8859Part14 => "ISO-8859-14"
  | singleByte .iso8859Part15 => "ISO-8859-15"
  | singleByte .iso8859Part16 => "ISO-8859-16"
  | singleByte .koi8R => "KOI8-R"
  | singleByte .koi8U => "KOI8-U"
  | singleByte .macintosh => "macintosh"
  | singleByte .windows874 => "windows-874"
  | singleByte .windows1250 => "windows-1250"
  | singleByte .windows1251 => "windows-1251"
  | singleByte .windows1252 => "windows-1252"
  | singleByte .windows1253 => "windows-1253"
  | singleByte .windows1254 => "windows-1254"
  | singleByte .windows1255 => "windows-1255"
  | singleByte .windows1256 => "windows-1256"
  | singleByte .windows1257 => "windows-1257"
  | singleByte .windows1258 => "windows-1258"
  | singleByte .macCyrillic => "x-mac-cyrillic"
  | logicalHebrew => "ISO-8859-8-I"
  | shiftJis => "Shift_JIS"
  | eucJp => "EUC-JP"
  | iso2022Jp => "ISO-2022-JP"
  | eucKr => "EUC-KR"
  | gb18030 => "gb18030"
  | gbk => "GBK"
  | big5 => "Big5"
  | hz => "HZ-GB-2312"

/-- The names that are understood, in the form in which names are compared. -/
def keys : List (List String × Charset) := [
  (["utf8", "utf8bom", "unicode11utf8"], utf8),
  (["utf16le", "utf16"], utf16 .little),
  (["utf16be"], utf16 .big),
  (["utf32le", "utf32"], utf32 .little),
  (["utf32be"], utf32 .big),
  (["usascii", "ascii", "latin1", "iso88591", "windows1252", "cp1252"], singleByte .windows1252),
  (["iso88592", "latin2"], singleByte .iso8859Part2),
  (["iso88593"], singleByte .iso8859Part3),
  (["iso88594"], singleByte .iso8859Part4),
  (["iso88595"], singleByte .iso8859Part5),
  (["iso88596"], singleByte .iso8859Part6),
  (["iso88597"], singleByte .iso8859Part7),
  (["iso88598"], singleByte .iso8859Part8),
  (["iso88598i"], logicalHebrew),
  (["iso88599", "windows1254"], singleByte .windows1254),
  (["iso885910"], singleByte .iso8859Part10),
  (["iso885911", "windows874"], singleByte .windows874),
  (["iso885913"], singleByte .iso8859Part13),
  (["iso885914"], singleByte .iso8859Part14),
  (["iso885915", "latin9"], singleByte .iso8859Part15),
  (["iso885916"], singleByte .iso8859Part16),
  (["windows1250", "cp1250"], singleByte .windows1250),
  (["windows1251", "cp1251"], singleByte .windows1251),
  (["windows1253"], singleByte .windows1253),
  (["windows1255"], singleByte .windows1255),
  (["windows1256"], singleByte .windows1256),
  (["windows1257"], singleByte .windows1257),
  (["windows1258"], singleByte .windows1258),
  (["ibm866", "cp866"], singleByte .ibm866),
  (["koi8r"], singleByte .koi8R),
  (["koi8u"], singleByte .koi8U),
  (["macintosh", "macroman"], singleByte .macintosh),
  (["xmaccyrillic"], singleByte .macCyrillic),
  (["shiftjis", "sjis", "windows31j"], shiftJis),
  (["eucjp"], eucJp),
  (["iso2022jp"], iso2022Jp),
  (["euckr", "windows949"], eucKr),
  (["gb18030"], gb18030),
  (["gbk", "gb2312"], gbk),
  (["big5", "big5hkscs"], big5),
  (["hzgb2312", "hz"], hz)]

/-- The form in which names are compared. -/
def key (name : String) : String :=
  String.ofList (Text.lowerEach (name.toList.filter fun c => c != '-' && c != '_'))

/-- The charset of a name. -/
def ofName? (name : String) : Option Charset :=
  (keys.find? fun (names, _) => names.contains (key name)).map Prod.snd

end Charset

end StyleCheck
