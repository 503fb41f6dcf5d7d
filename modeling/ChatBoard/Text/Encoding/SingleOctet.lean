import ChatBoard.Octets
import ChatBoard.Text.Encoding.Runs
import ChatBoard.Text.Utf8

/-!
# Encodings of single octets

In these encodings every octet is a character. The lower half is ASCII in all of them; the upper
half differs. An octet below 0xa0 that an encoding leaves open is the control of that number, any
other open octet is no character.
-/

namespace ChatBoard.Text

/-- An encoding whose characters are single octets. -/
inductive SingleOctet where
  | ibm866
  | latin2
  | latin3
  | latin4
  | isoCyrillic
  | isoArabic
  | isoGreek
  | isoHebrew
  | latin6
  | latin7
  | latin8
  | latin9
  | latin10
  | koi8R
  | koi8U
  | macintosh
  | windows874
  | windows1250
  | windows1251
  | windows1252
  | windows1253
  | windows1254
  | windows1255
  | windows1256
  | windows1257
  | windows1258
  | macCyrillic
  deriving DecidableEq, Repr

namespace SingleOctet

/-- The characters of the upper half. -/
def runs : SingleOctet → Runs
  | ibm866 =>
    [(128, "АБВГДЕЖЗИЙКЛМНОПРСТУФХЦЧШЩЪЫЬЭЮЯабвгдежзийклмноп░▒▓│┤╡╢╖╕╣║╗╝╜╛┐└┴┬├─┼╞╟╚╔╩╦╠═╬╧╨╤╥╙╘"),
     (213, "╒╓╫╪┘┌█▄▌▐▀рстуфхцчшщъыьэюяЁёЄєЇїЎў°∙·√№¤■\xa0")]
  | latin2 =>
    [(160, "\xa0Ą˘Ł¤ĽŚ§¨ŠŞŤŹ\xadŽŻ°ą˛ł´ľśˇ¸šşťź˝žżŔÁÂĂÄĹĆÇČÉĘËĚÍÎĎĐŃŇÓÔŐÖ×ŘŮÚŰÜÝŢßŕáâăäĺćçčéęëěíî"),
     (239, "ďđńňóôőö÷řůúűüýţ˙")]
  | latin3 =>
    [(160, "\xa0Ħ˘£¤"), (166, "Ĥ§¨İŞĞĴ\xad"), (175, "Ż°ħ²³´µĥ·¸ışğĵ½"), (191, "żÀÁÂ"),
     (196, "ÄĊĈÇÈÉÊËÌÍÎÏ"), (209, "ÑÒÓÔĠÖ×ĜÙÚÛÜŬŜßàáâ"), (228, "äċĉçèéêëìíîï"),
     (241, "ñòóôġö÷ĝùúûüŭŝ˙")]
  | latin4 =>
    [(160, "\xa0ĄĸŖ¤ĨĻ§¨ŠĒĢŦ\xadŽ¯°ą˛ŗ´ĩļˇ¸šēģŧŊžŋĀÁÂÃÄÅÆĮČÉĘËĖÍÎĪĐŅŌĶÔÕÖ×ØŲÚÛÜŨŪßāáâãäåæįčéęëėíî"),
     (239, "īđņōķôõö÷øųúûüũū˙")]
  | isoCyrillic =>
    [(160, "\xa0ЁЂЃЄЅІЇЈЉЊЋЌ\xadЎЏАБВГДЕЖЗИЙКЛМНОПРСТУФХЦЧШЩЪЫЬЭЮЯабвгдежзийклмнопрстуфхцчшщъыьэю"),
     (239, "я№ёђѓєѕіїјљњћќ§ўџ")]
  | isoArabic =>
    [(160, "\xa0"), (164, "¤"), (172, "\u060c\xad"), (187, "\u061b"), (191, "\u061f"),
     (193, "\u0621\u0622\u0623\u0624\u0625\u0626\u0627\u0628\u0629\u062a\u062b\u062c\u062d\u062e"),
     (207, "\u062f\u0630\u0631\u0632\u0633\u0634\u0635\u0636\u0637\u0638\u0639\u063a"),
     (224, "\u0640\u0641\u0642\u0643\u0644\u0645\u0646\u0647\u0648\u0649\u064a\u064b\u064c\u064d"),
     (238, "\u064e\u064f\u0650\u0651\u0652")]
  | isoGreek =>
    [(160, "\xa0‘’£€₯¦§¨©ͺ«¬\xad"), (175, "―°±²³΄΅Ά·ΈΉΊ»Ό½ΎΏΐΑΒΓΔΕΖΗΘΙΚΛΜΝΞΟΠΡ"),
     (211, "ΣΤΥΦΧΨΩΪΫάέήίΰαβγδεζηθικλμνξοπρςστυφχψωϊϋόύώ")]
  | isoHebrew =>
    [(160, "\xa0"), (162, "¢£¤¥¦§¨©×«¬\xad®¯°±²³´µ¶·¸¹÷»¼½¾"),
     (223, "‗\u05d0\u05d1\u05d2\u05d3\u05d4\u05d5\u05d6\u05d7\u05d8\u05d9\u05da\u05db\u05dc\u05dd"),
     (238, "\u05de\u05df\u05e0\u05e1\u05e2\u05e3\u05e4\u05e5\u05e6\u05e7\u05e8\u05e9\u05ea"),
     (253, "\u200e\u200f")]
  | latin6 =>
    [(160, "\xa0ĄĒĢĪĨĶ§ĻĐŠŦŽ\xadŪŊ°ąēģīĩķ·ļđšŧž―ūŋĀÁÂÃÄÅÆĮČÉĘËĖÍÎÏÐŅŌÓÔÕÖŨØŲÚÛÜÝÞßāáâãäåæįčéęëėíî"),
     (239, "ïðņōóôõöũøųúûüýþĸ")]
  | latin7 =>
    [(160, "\xa0”¢£¤„¦§Ø©Ŗ«¬\xad®Æ°±²³“µ¶·ø¹ŗ»¼½¾æĄĮĀĆÄÅĘĒČÉŹĖĢĶĪĻŠŃŅÓŌÕÖ×ŲŁŚŪÜŻŽßąįāćäåęēčéźėģķī"),
     (239, "ļšńņóōõö÷ųłśūüżž’")]
  | latin8 =>
    [(160, "\xa0Ḃḃ£ĊċḊ§Ẁ©ẂḋỲ\xad®ŸḞḟĠġṀṁ¶ṖẁṗẃṠỳẄẅṡÀÁÂÃÄÅÆÇÈÉÊËÌÍÎÏŴÑÒÓÔÕÖṪØÙÚÛÜÝŶßàáâãäåæçèéêëìíî"),
     (239, "ïŵñòóôõöṫøùúûüýŷÿ")]
  | latin9 =>
    [(160, "\xa0¡¢£€¥Š§š©ª«¬\xad®¯°±²³Žµ¶·ž¹º»ŒœŸ¿ÀÁÂÃÄÅÆÇÈÉÊËÌÍÎÏÐÑÒÓÔÕÖ×ØÙÚÛÜÝÞßàáâãäåæçèéêëìíî"),
     (239, "ïðñòóôõö÷øùúûüýþÿ")]
  | latin10 =>
    [(160, "\xa0ĄąŁ€„Š§š©Ș«Ź\xadźŻ°±ČłŽ”¶·žčș»ŒœŸżÀÁÂĂÄĆÆÇÈÉÊËÌÍÎÏĐŃÒÓÔŐÖŚŰÙÚÛÜĘȚßàáâăäćæçèéêëìíî"),
     (239, "ïđńòóôőöśűùúûüęțÿ")]
  | koi8R =>
    [(128, "─│┌┐└┘├┤┬┴┼▀▄█▌▐░▒▓⌠■∙√≈≤≥\xa0⌡°²·÷═║╒ё╓╔╕╖╗╘╙╚╛╜╝╞╟╠╡Ё╢╣╤╥╦╧╨╩╪╫╬©юабцдефгхийклмнопя"),
     (210, "рстужвьызшэщчъЮАБЦДЕФГХИЙКЛМНОПЯРСТУЖВЬЫЗШЭЩЧЪ")]
  | koi8U =>
    [(128, "─│┌┐└┘├┤┬┴┼▀▄█▌▐░▒▓⌠■∙√≈≤≥\xa0⌡°²·÷═║╒ёє╔ії╗╘╙╚╛ґў╞╟╠╡ЁЄ╣ІЇ╦╧╨╩╪ҐЎ©юабцдефгхийклмнопя"),
     (210, "рстужвьызшэщчъЮАБЦДЕФГХИЙКЛМНОПЯРСТУЖВЬЫЗШЭЩЧЪ")]
  | macintosh =>
    [(128, "ÄÅÇÉÑÖÜáàâäãåçéèêëíìîïñóòôöõúùûü†°¢£§•¶ß®©™´¨≠ÆØ∞±≤≥¥µ∂∑∏π∫ªºΩæø¿¡¬√ƒ≈∆«»…\xa0ÀÃÕŒœ–—"),
     (210, "“”‘’÷◊ÿŸ⁄€‹›ﬁﬂ‡·‚„‰ÂÊÁËÈÍÎÏÌÓÔ\uf8ffÒÚÛÙıˆ˜¯˘˙˚¸˝˛ˇ")]
  | windows874 =>
    [(128, "€"), (133, "…"), (145, "‘’“”•–—"),
     (160, "\xa0กขฃคฅฆงจฉชซฌญฎฏฐฑฒณดตถทธนบปผฝพฟภมยรฤลฦวศษสหฬอฮฯะ\u0e31าำ\u0e34\u0e35\u0e36\u0e37"),
     (216, "\u0e38\u0e39\u0e3a"),
     (223, "฿เแโใไๅๆ\u0e47\u0e48\u0e49\u0e4a\u0e4b\u0e4c\u0e4d\u0e4e๏๐๑๒๓๔๕๖๗๘๙๚๛")]
  | windows1250 =>
    [(128, "€"), (130, "‚"), (132, "„…†‡"), (137, "‰Š‹ŚŤŽŹ"), (145, "‘’“”•–—"),
     (153, "™š›śťžź\xa0ˇ˘Ł¤Ą¦§¨©Ş«¬\xad®Ż°±˛ł´µ¶·¸ąş»Ľ˝ľżŔÁÂĂÄĹĆÇČÉĘËĚÍÎĎĐŃŇÓÔŐÖ×ŘŮÚŰÜÝŢßŕáâăäĺćç"),
     (232, "čéęëěíîďđńňóôőö÷řůúűüýţ˙")]
  | windows1251 =>
    [(128, "ЂЃ‚ѓ„…†‡€‰Љ‹ЊЌЋЏђ‘’“”•–—"),
     (153, "™љ›њќћџ\xa0ЎўЈ¤Ґ¦§Ё©Є«¬\xad®Ї°±Ііґµ¶·ё№є»јЅѕїАБВГДЕЖЗИЙКЛМНОПРСТУФХЦЧШЩЪЫЬЭЮЯабвгдежз"),
     (232, "ийклмнопрстуфхцчшщъыьэюя")]
  | windows1252 =>
    [(128, "€"), (130, "‚ƒ„…†‡ˆ‰Š‹Œ"), (142, "Ž"), (145, "‘’“”•–—˜™š›œ"),
     (158, "žŸ\xa0¡¢£¤¥¦§¨©ª«¬\xad®¯°±²³´µ¶·¸¹º»¼½¾¿ÀÁÂÃÄÅÆÇÈÉÊËÌÍÎÏÐÑÒÓÔÕÖ×ØÙÚÛÜÝÞßàáâãäåæçèéêëì"),
     (237, "íîïðñòóôõö÷øùúûüýþÿ")]
  | windows1253 =>
    [(128, "€"), (130, "‚ƒ„…†‡"), (137, "‰"), (139, "‹"), (145, "‘’“”•–—"), (153, "™"), (155, "›"),
     (160, "\xa0΅Ά£¤¥¦§¨©"), (171, "«¬\xad®―°±²³΄µ¶·ΈΉΊ»Ό½ΎΏΐΑΒΓΔΕΖΗΘΙΚΛΜΝΞΟΠΡ"),
     (211, "ΣΤΥΦΧΨΩΪΫάέήίΰαβγδεζηθικλμνξοπρςστυφχψωϊϋόύώ")]
  | windows1254 =>
    [(128, "€"), (130, "‚ƒ„…†‡ˆ‰Š‹Œ"), (145, "‘’“”•–—˜™š›œ"),
     (159, "Ÿ\xa0¡¢£¤¥¦§¨©ª«¬\xad®¯°±²³´µ¶·¸¹º»¼½¾¿ÀÁÂÃÄÅÆÇÈÉÊËÌÍÎÏĞÑÒÓÔÕÖ×ØÙÚÛÜİŞßàáâãäåæçèéêëìí"),
     (238, "îïğñòóôõö÷øùúûüışÿ")]
  | windows1255 =>
    [(128, "€"), (130, "‚ƒ„…†‡ˆ‰"), (139, "‹"), (145, "‘’“”•–—˜™"), (155, "›"),
     (160, "\xa0¡¢£₪¥¦§¨©×«¬\xad®¯°±²³´µ¶·¸¹÷»¼½¾¿\u05b0\u05b1\u05b2\u05b3\u05b4\u05b5\u05b6"),
     (199, "\u05b7\u05b8\u05b9\u05ba\u05bb\u05bc\u05bd\u05be\u05bf\u05c0\u05c1\u05c2\u05c3\u05f0"),
     (213, "\u05f1\u05f2\u05f3\u05f4"),
     (224, "\u05d0\u05d1\u05d2\u05d3\u05d4\u05d5\u05d6\u05d7\u05d8\u05d9\u05da\u05db\u05dc\u05dd"),
     (238, "\u05de\u05df\u05e0\u05e1\u05e2\u05e3\u05e4\u05e5\u05e6\u05e7\u05e8\u05e9\u05ea"),
     (253, "\u200e\u200f")]
  | windows1256 =>
    [(128, "€\u067e‚ƒ„…†‡ˆ‰\u0679‹Œ\u0686\u0698\u0688\u06af‘’“”•–—\u06a9™\u0691›œ\u200c\u200d"),
     (159, "\u06ba\xa0\u060c¢£¤¥¦§¨©\u06be«¬\xad®¯°±²³´µ¶·¸¹\u061b»¼½¾\u061f\u06c1\u0621\u0622"),
     (195, "\u0623\u0624\u0625\u0626\u0627\u0628\u0629\u062a\u062b\u062c\u062d\u062e\u062f\u0630"),
     (209, "\u0631\u0632\u0633\u0634\u0635\u0636×\u0637\u0638\u0639\u063a\u0640\u0641\u0642\u0643"),
     (224, "à\u0644â\u0645\u0646\u0647\u0648çèéêë\u0649\u064aîï\u064b\u064c\u064d\u064eô\u064f"),
     (246, "\u0650÷\u0651ù\u0652ûü\u200e\u200f\u06d2")]
  | windows1257 =>
    [(128, "€"), (130, "‚"), (132, "„…†‡"), (137, "‰"), (139, "‹"), (141, "¨ˇ¸"), (145, "‘’“”•–—"),
     (153, "™"), (155, "›"), (157, "¯˛"), (160, "\xa0"), (162, "¢£¤"),
     (166, "¦§Ø©Ŗ«¬\xad®Æ°±²³´µ¶·ø¹ŗ»¼½¾æĄĮĀĆÄÅĘĒČÉŹĖĢĶĪĻŠŃŅÓŌÕÖ×ŲŁŚŪÜŻŽßąįāćäåęēčéźėģķīļšńņóōõö÷"),
     (248, "ųłśūüżž˙")]
  | windows1258 =>
    [(128, "€"), (130, "‚ƒ„…†‡ˆ‰"), (139, "‹Œ"), (145, "‘’“”•–—˜™"), (155, "›œ"),
     (159, "Ÿ\xa0¡¢£¤¥¦§¨©ª«¬\xad®¯°±²³´µ¶·¸¹º»¼½¾¿ÀÁÂĂÄÅÆÇÈÉÊË\u0300ÍÎÏĐÑ\u0309ÓÔƠÖ×ØÙÚÛÜƯ\u0303"),
     (223, "ßàáâăäåæçèéêë\u0301íîïđñ\u0323óôơö÷øùúûüư₫ÿ")]
  | macCyrillic =>
    [(128, "АБВГДЕЖЗИЙКЛМНОПРСТУФХЦЧШЩЪЫЬЭЮЯ†°Ґ£§•¶І®©™Ђђ≠Ѓѓ∞±≤≥іµґЈЄєЇїЉљЊњјЅ¬√ƒ≈∆«»…\xa0ЋћЌќѕ–—"),
     (210, "“”‘’÷„ЎўЏџ№Ёёяабвгдежзийклмнопрстуфхцчшщъыьэю€")]

/-- What an octet is read as. -/
def char (table : Array (Option Char)) (b : UInt8) : Char :=
  match table[b.toNat]?.join with
  | some c => c
  | none => if b < 0xa0 then Char.ofNat b.toNat else replacement

/-- The characters of octets. -/
def decode (e : SingleOctet) (bs : Octets) : List Char := bs.map (char (e.runs.table 256))

end SingleOctet

end ChatBoard.Text
