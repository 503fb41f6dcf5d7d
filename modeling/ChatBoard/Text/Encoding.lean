import ChatBoard.Text.Encoding.Chinese
import ChatBoard.Text.Encoding.Japanese
import ChatBoard.Text.Encoding.Korean
import ChatBoard.Text.Encoding.SingleOctet
import ChatBoard.Text.Encoding.Utf16

/-!
# Encodings

Text arrives as octets in an encoding, which a label names: labels are compared without case and
without blanks around them. A byte order mark at the start of the octets overrides the label, and is
not part of the text. Reading never fails: what stands for no character becomes U+FFFD.
-/

namespace ChatBoard.Text

/-- How text is written in octets. -/
inductive Encoding where
  | utf8
  | utf16 (highFirst : Bool)
  | singleOctet (set : SingleOctet)
  | privateUse
  | shiftJis
  | eucJp
  | iso2022Jp
  | eucKr
  | gb18030
  | big5
  | unread
  deriving DecidableEq, Repr

namespace Encoding

/-- The labels of the encodings, with a blank between those of one. Some labels name encodings that
are not read at all. -/
def labels : List (Encoding × String) :=
  [(.utf8, "unicode-1-1-utf-8 unicode11utf8 unicode20utf8 utf8 utf-8 x-unicode20utf8"),
   (.singleOctet .ibm866, "866 cp866 csibm866 ibm866"),
   (.singleOctet .latin2, "csisolatin2 iso-8859-2 iso-ir-101 iso8859-2 iso88592 iso_8859-2"),
   (.singleOctet .latin2, "iso_8859-2:1987 l2 latin2"),
   (.singleOctet .latin3, "csisolatin3 iso-8859-3 iso-ir-109 iso8859-3 iso88593 iso_8859-3"),
   (.singleOctet .latin3, "iso_8859-3:1988 l3 latin3"),
   (.singleOctet .latin4, "csisolatin4 iso-8859-4 iso-ir-110 iso8859-4 iso88594 iso_8859-4"),
   (.singleOctet .latin4, "iso_8859-4:1988 l4 latin4"),
   (.singleOctet .isoCyrillic, "csisolatincyrillic cyrillic iso-8859-5 iso-ir-144 iso8859-5"),
   (.singleOctet .isoCyrillic, "iso88595 iso_8859-5 iso_8859-5:1988"),
   (.singleOctet .isoArabic, "arabic asmo-708 csiso88596e csiso88596i csisolatinarabic ecma-114"),
   (.singleOctet .isoArabic, "iso-8859-6 iso-8859-6-e iso-8859-6-i iso-ir-127 iso8859-6 iso88596"),
   (.singleOctet .isoArabic, "iso_8859-6 iso_8859-6:1987"),
   (.singleOctet .isoGreek, "csisolatingreek ecma-118 elot_928 greek greek8 iso-8859-7 iso-ir-126"),
   (.singleOctet .isoGreek, "iso8859-7 iso88597 iso_8859-7 iso_8859-7:1987 sun_eu_greek"),
   (.singleOctet .isoHebrew, "csiso88598e csisolatinhebrew hebrew iso-8859-8 iso-8859-8-e"),
   (.singleOctet .isoHebrew, "iso-ir-138 iso8859-8 iso88598 iso_8859-8 iso_8859-8:1988 visual"),
   (.singleOctet .isoHebrew, "csiso88598i iso-8859-8-i logical"),
   (.singleOctet .latin6, "csisolatin6 iso-8859-10 iso-ir-157 iso8859-10 iso885910 l6 latin6"),
   (.singleOctet .latin7, "iso-8859-13 iso8859-13 iso885913"),
   (.singleOctet .latin8, "iso-8859-14 iso8859-14 iso885914"),
   (.singleOctet .latin9, "csisolatin9 iso-8859-15 iso8859-15 iso885915 iso_8859-15 l9"),
   (.singleOctet .latin10, "iso-8859-16"),
   (.singleOctet .koi8R, "cskoi8r koi koi8 koi8-r koi8_r"),
   (.singleOctet .koi8U, "koi8-ru koi8-u"),
   (.singleOctet .macintosh, "csmacintosh mac macintosh x-mac-roman"),
   (.singleOctet .windows874, "dos-874 iso-8859-11 iso8859-11 iso885911 tis-620 windows-874"),
   (.singleOctet .windows1250, "cp1250 windows-1250 x-cp1250"),
   (.singleOctet .windows1251, "cp1251 windows-1251 x-cp1251"),
   (.singleOctet .windows1252, "ansi_x3.4-1968 ascii cp1252 cp819 csisolatin1 ibm819 iso-8859-1"),
   (.singleOctet .windows1252, "iso-ir-100 iso8859-1 iso88591 iso_8859-1 iso_8859-1:1987 l1"),
   (.singleOctet .windows1252, "latin1 us-ascii windows-1252 x-cp1252"),
   (.singleOctet .windows1253, "cp1253 windows-1253 x-cp1253"),
   (.singleOctet .windows1254, "cp1254 csisolatin5 iso-8859-9 iso-ir-148 iso8859-9 iso88599"),
   (.singleOctet .windows1254, "iso_8859-9 iso_8859-9:1989 l5 latin5 windows-1254 x-cp1254"),
   (.singleOctet .windows1255, "cp1255 windows-1255 x-cp1255"),
   (.singleOctet .windows1256, "cp1256 windows-1256 x-cp1256"),
   (.singleOctet .windows1257, "cp1257 windows-1257 x-cp1257"),
   (.singleOctet .windows1258, "cp1258 windows-1258 x-cp1258"),
   (.singleOctet .macCyrillic, "x-mac-cyrillic x-mac-ukrainian"),
   (.gb18030, "chinese csgb2312 csiso58gb231280 gb2312 gb_2312 gb_2312-80 gbk iso-ir-58 x-gbk"),
   (.gb18030, "gb18030"),
   (.big5, "big5 big5-hkscs cn-big5 csbig5 x-x-big5"),
   (.eucJp, "cseucpkdfmtjapanese euc-jp x-euc-jp"),
   (.iso2022Jp, "csiso2022jp iso-2022-jp"),
   (.shiftJis, "csshiftjis ms932 ms_kanji shift-jis shift_jis sjis windows-31j x-sjis"),
   (.eucKr, "cseuckr csksc56011987 euc-kr iso-ir-149 korean ks_c_5601-1987 ks_c_5601-1989 ksc5601"),
   (.eucKr, "ksc_5601 windows-949"),
   (.unread, "csiso2022kr hz-gb-2312 iso-2022-cn iso-2022-cn-ext iso-2022-kr replacement"),
   (.utf16 true, "unicodefffe utf-16be"),
   (.utf16 false, "csunicode iso-10646-ucs-2 ucs-2 unicode unicodefeff utf-16le utf-16"),
   (.privateUse, "x-user-defined")]

/-- A blank around a label. -/
def isBlank (b : UInt8) : Bool :=
  b == 0x20 || b == 0x09 || b == 0x0a || b == 0x0c || b == 0x0d

/-- The encoding that a label names. -/
def ofLabel? (label : Octets) : Option Encoding :=
  let name := (Octets.trim isBlank label).map Octets.lower
  (labels.find? fun e => (e.2.splitOn " ").any fun l => Octets.ofText l == name).map (·.1)

/-- The encoding that a byte order mark announces, and the octets after it. -/
def marked? : Octets → Option (Encoding × Octets)
  | 0xef :: 0xbb :: 0xbf :: rest => some (.utf8, rest)
  | 0xfe :: 0xff :: rest => some (.utf16 true, rest)
  | 0xff :: 0xfe :: rest => some (.utf16 false, rest)
  | _ => none

/-- An octet of the upper half stands for a private character of its own. -/
def privateChar (b : UInt8) : Char :=
  if b < 0x80 then Char.ofNat b.toNat else Char.ofNat (0xf700 + b.toNat)

/-- The text of octets, without heed to a byte order mark. -/
def text (e : Encoding) (bs : Octets) : String :=
  match e with
  | utf8 => repaired bs
  | utf16 highFirst => String.ofList (Utf16.decode highFirst bs)
  | singleOctet set => String.ofList (set.decode bs)
  | privateUse => String.ofList (bs.map privateChar)
  | shiftJis => String.ofList (readItems ShiftJis.item bs)
  | eucJp => String.ofList (readItems EucJp.item bs)
  | iso2022Jp => String.ofList (Iso2022Jp.decode bs)
  | eucKr => String.ofList (readItems EucKr.item bs)
  | gb18030 => String.ofList (readItems Gb18030.item bs)
  | big5 => String.ofList (readItems Big5.item bs)
  | unread => if bs.isEmpty then "" else String.singleton replacement

/-- The text of octets. -/
def decode (e : Encoding) (bs : Octets) : String :=
  match marked? bs with
  | some (announced, rest) => announced.text rest
  | none => e.text bs

end Encoding

end ChatBoard.Text
