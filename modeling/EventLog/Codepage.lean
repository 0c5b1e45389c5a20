import EventLog.Charset.Chinese
import EventLog.Charset.Japanese
import EventLog.Charset.Korean
import EventLog.Charset.SingleByte
import EventLog.Charset.Taiwanese
import EventLog.Error

/-!
# Codepages for narrow strings

A codepage is known by a number. Text in a log is UTF-16, so that a codepage matters only where a
string is asked for in bytes. Encoding refuses a text with a character that the codepage lacks;
decoding replaces bytes without a meaning.
-/

namespace EventLog

/-- A known codepage. -/
inductive Codepage where
  | ascii | latin1 | latin2 | latin3 | latin4 | isoCyrillic | isoArabic | isoGreek | isoHebrew
  | latin5 | latin6 | isoThai | latin7 | latin8 | latin9 | latin10 | koi8Russian | koi8Ukrainian
  | thai | japanese | chinese | korean | taiwanese
  | centralEuropean | cyrillic | western | greek | turkish | hebrew | arabic | baltic | vietnamese
  deriving DecidableEq, Repr

namespace Codepage

/-- The codepages with their numbers. -/
def catalogue : List (Nat × Codepage) :=
  [(20127, ascii), (28591, latin1), (28592, latin2), (28593, latin3), (28594, latin4),
    (28595, isoCyrillic), (28596, isoArabic), (28597, isoGreek), (28598, isoHebrew),
    (28599, latin5), (28600, latin6), (28601, isoThai), (28603, latin7), (28604, latin8),
    (28605, latin9), (28606, latin10), (20866, koi8Russian), (21866, koi8Ukrainian), (874, thai),
    (932, japanese), (936, chinese), (949, korean), (950, taiwanese), (1250, centralEuropean),
    (1251, cyrillic), (1252, western), (1253, greek), (1254, turkish), (1255, hebrew),
    (1256, arabic), (1257, baltic), (1258, vietnamese)]

/-- The number of a codepage. -/
def number (codepage : Codepage) : Nat :=
  ((catalogue.find? fun (_, known) => known == codepage).map Prod.fst).getD 0

/-- The codepage with a number; any other number is an error. -/
def ofNumber (number : UInt32) : Except LogError Codepage :=
  match catalogue.find? fun (known, _) => known == number.toNat with
  | some (_, codepage) => .ok codepage
  | none => .error (.unsupportedCodepage number)

/-- The character set of a codepage. Turkish and Thai have their ISO sets within the larger Windows
sets, which stand for both. -/
def charset : Codepage → Charset
  | ascii => .ascii
  | latin1 => .latin1
  | latin2 => Charset.UpperHalf.latin2.charset
  | latin3 => Charset.UpperHalf.latin3.charset
  | latin4 => Charset.UpperHalf.latin4.charset
  | isoCyrillic => Charset.UpperHalf.isoCyrillic.charset
  | isoArabic => Charset.UpperHalf.isoArabic.charset
  | isoGreek => Charset.UpperHalf.isoGreek.charset
  | isoHebrew => Charset.UpperHalf.isoHebrew.charset
  | latin5 | turkish => Charset.UpperHalf.turkish.charset
  | latin6 => Charset.UpperHalf.latin6.charset
  | isoThai | thai => Charset.UpperHalf.thai.charset
  | latin7 => Charset.UpperHalf.latin7.charset
  | latin8 => Charset.UpperHalf.latin8.charset
  | latin9 => Charset.UpperHalf.latin9.charset
  | latin10 => Charset.UpperHalf.latin10.charset
  | koi8Russian => Charset.UpperHalf.koi8Russian.charset
  | koi8Ukrainian => Charset.UpperHalf.koi8Ukrainian.charset
  | japanese => Charset.Japanese.charset
  | chinese => Charset.Chinese.charset
  | korean => Charset.Korean.charset
  | taiwanese => Charset.Taiwanese.charset
  | centralEuropean => Charset.UpperHalf.centralEuropean.charset
  | cyrillic => Charset.UpperHalf.cyrillic.charset
  | western => Charset.UpperHalf.western.charset
  | greek => Charset.UpperHalf.greek.charset
  | hebrew => Charset.UpperHalf.hebrew.charset
  | arabic => Charset.UpperHalf.arabic.charset
  | baltic => Charset.UpperHalf.baltic.charset
  | vietnamese => Charset.UpperHalf.vietnamese.charset

/-- The bytes of a text in a codepage. -/
def encode (codepage : Codepage) (text : String) : Except DecodeError Bytes :=
  match codepage.charset.encode? text.toList with
  | some bytes => .ok bytes
  | none => .error (.unencodable text (UInt32.ofNat codepage.number))

/-- The text that bytes stand for in a codepage. -/
def decode (codepage : Codepage) (bytes : Bytes) : String :=
  String.ofList (codepage.charset.decode bytes)

end Codepage

end EventLog
