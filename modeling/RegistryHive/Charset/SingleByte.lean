import RegistryHive.Charset.Decoder

namespace RegistryHive.Charset

/-- Thai. -/
def thaiGrid : Grid := .ofRows
  [ "€\u0081\u0082\u0083\u0084…\u0086\u0087\u0088\u0089\u008a\u008b\u008c\u008d\u008e\u008f",
    "\u0090‘’“”•–—\u0098\u0099\u009a\u009b\u009c\u009d\u009e\u009f",
    "\u00a0กขฃคฅฆงจฉชซฌญฎฏ",
    "ฐฑฒณดตถทธนบปผฝพฟ",
    "ภมยรฤลฦวศษสหฬอฮฯ",
    "ะ\u0e31าำ\u0e34\u0e35\u0e36\u0e37\u0e38\u0e39\u0e3a    ฿",
    "เแโใไๅๆ\u0e47\u0e48\u0e49\u0e4a\u0e4b\u0e4c\u0e4d\u0e4e๏",
    "๐๑๒๓๔๕๖๗๘๙๚๛" ]

/-- Central European. -/
def centralEuropeanGrid : Grid := .ofRows
  [ "€\u0081‚\u0083„…†‡\u0088‰Š‹ŚŤŽŹ",
    "\u0090‘’“”•–—\u0098™š›śťžź",
    "\u00a0ˇ˘Ł¤Ą¦§¨©Ş«¬\u00ad®Ż",
    "°±˛ł´µ¶·¸ąş»Ľ˝ľż",
    "ŔÁÂĂÄĹĆÇČÉĘËĚÍÎĎ",
    "ĐŃŇÓÔŐÖ×ŘŮÚŰÜÝŢß",
    "ŕáâăäĺćçčéęëěíîď",
    "đńňóôőö÷řůúűüýţ˙" ]

/-- Cyrillic. -/
def cyrillicGrid : Grid := .ofRows
  [ "ЂЃ‚ѓ„…†‡€‰Љ‹ЊЌЋЏ",
    "ђ‘’“”•–—\u0098™љ›њќћџ",
    "\u00a0ЎўЈ¤Ґ¦§Ё©Є«¬\u00ad®Ї",
    "°±Ііґµ¶·ё№є»јЅѕї",
    "АБВГДЕЖЗИЙКЛМНОП",
    "РСТУФХЦЧШЩЪЫЬЭЮЯ",
    "абвгдежзийклмноп",
    "рстуфхцчшщъыьэюя" ]

/-- Western European. -/
def westernGrid : Grid := .ofRows
  [ "€\u0081‚ƒ„…†‡ˆ‰Š‹Œ\u008dŽ\u008f",
    "\u0090‘’“”•–—˜™š›œ\u009džŸ",
    "\u00a0¡¢£¤¥¦§¨©ª«¬\u00ad®¯",
    "°±²³´µ¶·¸¹º»¼½¾¿",
    "ÀÁÂÃÄÅÆÇÈÉÊËÌÍÎÏ",
    "ÐÑÒÓÔÕÖ×ØÙÚÛÜÝÞß",
    "àáâãäåæçèéêëìíîï",
    "ðñòóôõö÷øùúûüýþÿ" ]

/-- Greek. -/
def greekGrid : Grid := .ofRows
  [ "€\u0081‚ƒ„…†‡\u0088‰\u008a‹\u008c\u008d\u008e\u008f",
    "\u0090‘’“”•–—\u0098™\u009a›\u009c\u009d\u009e\u009f",
    "\u00a0΅Ά£¤¥¦§¨© «¬\u00ad®―",
    "°±²³΄µ¶·ΈΉΊ»Ό½ΎΏ",
    "ΐΑΒΓΔΕΖΗΘΙΚΛΜΝΞΟ",
    "ΠΡ ΣΤΥΦΧΨΩΪΫάέήί",
    "ΰαβγδεζηθικλμνξο",
    "πρςστυφχψωϊϋόύώ" ]

/-- Turkish. -/
def turkishGrid : Grid := .ofRows
  [ "€\u0081‚ƒ„…†‡ˆ‰Š‹Œ\u008d\u008e\u008f",
    "\u0090‘’“”•–—˜™š›œ\u009d\u009eŸ",
    "\u00a0¡¢£¤¥¦§¨©ª«¬\u00ad®¯",
    "°±²³´µ¶·¸¹º»¼½¾¿",
    "ÀÁÂÃÄÅÆÇÈÉÊËÌÍÎÏ",
    "ĞÑÒÓÔÕÖ×ØÙÚÛÜİŞß",
    "àáâãäåæçèéêëìíîï",
    "ğñòóôõö÷øùúûüışÿ" ]

/-- Hebrew. -/
def hebrewGrid : Grid := .ofRows
  [ "€\u0081‚ƒ„…†‡ˆ‰\u008a‹\u008c\u008d\u008e\u008f",
    "\u0090‘’“”•–—˜™\u009a›\u009c\u009d\u009e\u009f",
    "\u00a0¡¢£₪¥¦§¨©×«¬\u00ad®¯",
    "°±²³´µ¶·¸¹÷»¼½¾¿",
    "\u05b0\u05b1\u05b2\u05b3\u05b4\u05b5\u05b6\u05b7\u05b8\u05b9\u05ba\u05bb\u05bc\u05bd־\u05bf",
    "׀\u05c1\u05c2׃װױײ׳״",
    "אבגדהוזחטיךכלםמן",
    "נסעףפץצקרשת  \u200e\u200f" ]

/-- Arabic. -/
def arabicGrid : Grid := .ofRows
  [ "€پ‚ƒ„…†‡ˆ‰ٹ‹Œچژڈ",
    "گ‘’“”•–—ک™ڑ›œ\u200c\u200dں",
    "\u00a0،¢£¤¥¦§¨©ھ«¬\u00ad®¯",
    "°±²³´µ¶·¸¹؛»¼½¾؟",
    "ہءآأؤإئابةتثجحخد",
    "ذرزسشصض×طظعغـفقك",
    "àلâمنهوçèéêëىيîï",
    "\u064b\u064c\u064d\u064eô\u064f\u0650÷\u0651ù\u0652ûü\u200e\u200fے" ]

/-- Baltic. -/
def balticGrid : Grid := .ofRows
  [ "€\u0081‚\u0083„…†‡\u0088‰\u008a‹\u008c¨ˇ¸",
    "\u0090‘’“”•–—\u0098™\u009a›\u009c¯˛\u009f",
    "\u00a0 ¢£¤ ¦§Ø©Ŗ«¬\u00ad®Æ",
    "°±²³´µ¶·ø¹ŗ»¼½¾æ",
    "ĄĮĀĆÄÅĘĒČÉŹĖĢĶĪĻ",
    "ŠŃŅÓŌÕÖ×ŲŁŚŪÜŻŽß",
    "ąįāćäåęēčéźėģķīļ",
    "šńņóōõö÷ųłśūüżž˙" ]

/-- Vietnamese. -/
def vietnameseGrid : Grid := .ofRows
  [ "€\u0081‚ƒ„…†‡ˆ‰\u008a‹Œ\u008d\u008e\u008f",
    "\u0090‘’“”•–—˜™\u009a›œ\u009d\u009eŸ",
    "\u00a0¡¢£¤¥¦§¨©ª«¬\u00ad®¯",
    "°±²³´µ¶·¸¹º»¼½¾¿",
    "ÀÁÂĂÄÅÆÇÈÉÊË\u0300ÍÎÏ",
    "ĐÑ\u0309ÓÔƠÖ×ØÙÚÛÜƯ\u0303ß",
    "àáâăäåæçèéêë\u0301íîï",
    "đñ\u0323óôơö÷øùúûüư₫ÿ" ]

namespace SingleByte

/-- ASCII below 80; above, the places of `grid`, sixteen to a row. -/
def character (grid : Grid) (byte : UInt8) : Char :=
  if byte < 0x80 then asciiChar byte
  else (grid.cell? (byte.toNat / 16 - 8) (byte.toNat % 16)).getD replacement

def decoder (grid : Grid) : Decoder where
  feed _ byte := ⟨[character grid byte], .nothing⟩

/-- ASCII alone. -/
def ascii : Decoder := decoder (.ofRows [])

end SingleByte

end RegistryHive.Charset
