import RegistryHive.Bytes
import RegistryHive.Charset.SingleByte
import RegistryHive.Charset.ShiftJis
import RegistryHive.Charset.Gb18030
import RegistryHive.Charset.Hangul
import RegistryHive.Charset.Big5

namespace RegistryHive

open Charset

inductive Codepage where
  | ascii
  | windows874
  | windows932
  | windows936
  | windows949
  | windows950
  | windows1250
  | windows1251
  | windows1252
  | windows1253
  | windows1254
  | windows1255
  | windows1256
  | windows1257
  | windows1258
deriving DecidableEq, Repr

namespace Codepage

/-- Western European, the codepage of a file until another one is chosen. -/
def standard : Codepage := .windows1252

instance : Inhabited Codepage := ⟨standard⟩

def all : List Codepage :=
  [.ascii, .windows874, .windows932, .windows936, .windows949, .windows950, .windows1250,
    .windows1251, .windows1252, .windows1253, .windows1254, .windows1255, .windows1256,
    .windows1257, .windows1258]

def number : Codepage → Nat
  | .ascii => 20127
  | .windows874 => 874
  | .windows932 => 932
  | .windows936 => 936
  | .windows949 => 949
  | .windows950 => 950
  | .windows1250 => 1250
  | .windows1251 => 1251
  | .windows1252 => 1252
  | .windows1253 => 1253
  | .windows1254 => 1254
  | .windows1255 => 1255
  | .windows1256 => 1256
  | .windows1257 => 1257
  | .windows1258 => 1258

/-- The identifier by which users choose the codepage. -/
def name : Codepage → String
  | .ascii => "ascii"
  | codepage => s!"cp{codepage.number}"

/-- The name that descriptions of open files show. -/
def title : Codepage → String
  | .ascii => "Ascii"
  | codepage => s!"Windows{codepage.number}"

/-- Looks up an identifier, with ASCII letters of either case. -/
def ofName (name : String) : Except Error Codepage :=
  match all.find? fun codepage => codepage.name.toList == name.toList.map Char.toLower with
  | some codepage => .ok codepage
  | none => .error (.unsupportedCodepage name)

def ofNumber (number : Nat) : Except Error Codepage :=
  match all.find? fun codepage => codepage.number == number with
  | some codepage => .ok codepage
  | none => .error (.unsupportedCodepage (toString number))

def decoder : Codepage → Decoder
  | .ascii => SingleByte.ascii
  | .windows874 => SingleByte.decoder thaiGrid
  | .windows932 => ShiftJis.decoder
  | .windows936 => Gb18030.decoder
  | .windows949 => Hangul.decoder
  | .windows950 => Big5.decoder
  | .windows1250 => SingleByte.decoder centralEuropeanGrid
  | .windows1251 => SingleByte.decoder cyrillicGrid
  | .windows1252 => SingleByte.decoder westernGrid
  | .windows1253 => SingleByte.decoder greekGrid
  | .windows1254 => SingleByte.decoder turkishGrid
  | .windows1255 => SingleByte.decoder hebrewGrid
  | .windows1256 => SingleByte.decoder arabicGrid
  | .windows1257 => SingleByte.decoder balticGrid
  | .windows1258 => SingleByte.decoder vietnameseGrid

/-- All characters of `data`, a final NUL included. -/
def characters (codepage : Codepage) (data : Bytes) : List Char := codepage.decoder.decode data

/-- The text in `data`, without the NUL characters that end it. -/
def decode (codepage : Codepage) (data : Bytes) : String :=
  String.ofList ((codepage.characters data).reverse.dropWhile (· == '\x00')).reverse

end Codepage

end RegistryHive
