import Catalog.Charset.Basic
/-!
This module contains the sets of characters in which every byte stands for one character.
-/

namespace Catalog.Charset

def ofTableBut (others : List (UInt8 × Char)) (names : List String) (first : Nat) (table : String) :
    Charset :=
  let chars := table.toList.toArray
  ofStep names fun b _ =>
    if b.toNat < first then
      some ((others.lookup b).getD (Char.ofNat b.toNat), 0)
    else
      (chars[b.toNat - first]?.filter (· != ' ')).map (·, 0)

def ofTable : List String → Nat → String → Charset := ofTableBut []

def ascii : Charset :=
  ofTable
    ["us-ascii", "ascii", "iso646-us", "iso-ir-6", "ansi_x3.4-1968", "ansi_x3.4-1986", "cp367",
      "ibm367", "us", "csascii"]
    0x80 ""

def iso646Jp : Charset :=
  ofTableBut [(0x5C, '¥'), (0x7E, '‾')]
    ["iso646-jp", "jis_c6220-1969-ro", "iso-ir-14", "jp", "csiso14jisc6220ro"] 0x80 ""

def iso646Cn : Charset :=
  ofTableBut [(0x24, '¥'), (0x7E, '‾')]
    ["iso646-cn", "gb_1988-80", "iso-ir-57", "cn", "csiso57gb1988"] 0x80 ""

def latin1 : Charset :=
  ofTable
    ["iso-8859-1", "iso_8859-1", "iso8859-1", "iso-ir-100", "cp819", "ibm819", "latin1", "l1",
      "csisolatin1", "iso-latin-1"]
    0x100 ""

def latinGreek : Charset :=
  ofTable ["iso-8859-7", "iso_8859-7", "iso8859-7", "iso-ir-126", "ecma-118", "elot_928", "greek8",
      "greek", "csisolatingreek"]
    0xA1 ("‘’£€₯¦§¨©ͺ«¬\xad ―°±²³΄΅Ά·ΈΉΊ»Ό½ΎΏΐΑΒΓΔΕΖΗΘΙΚΛΜΝΞΟΠΡ ΣΤΥΦΧΨΩΪΫάέήίΰαβγδεζηθικλμνξοπρ" ++
     "ςστυφχψωϊϋόύώ")

def viscii : Charset :=
  ofTableBut
    [(0x02, 'Ẳ'), (0x05, 'Ẵ'), (0x06, 'Ẫ'), (0x14, 'Ỷ'), (0x19, 'Ỹ'), (0x1E, 'Ỵ')]
    ["viscii", "viscii1.1-1", "csviscii"]
    0x80 ("ẠẮẰẶẤẦẨẬẼẸẾỀỂỄỆỐỒỔỖỘỢỚỜỞỊỎỌỈỦŨỤỲÕắằặấầẩậẽẹếềểễệốồổỗỠƠộờởịỰỨỪỬơớƯÀÁÂÃẢĂẳẵÈÉÊẺÌÍĨỳĐứÒ" ++
      "ÓÔạỷừửÙÚỹỵÝỡưàáâãảăữẫèéêẻìíĩỉđựòóôõỏọụùúũủýợỮ")

def tables : List Charset := [
  ofTable ["iso-8859-2", "iso_8859-2", "iso8859-2", "iso-ir-101", "latin2", "l2", "csisolatin2"]
    0xA1 ("Ą˘Ł¤ĽŚ§¨ŠŞŤŹ\xadŽŻ°ą˛ł´ľśˇ¸šşťź˝žżŔÁÂĂÄĹĆÇČÉĘËĚÍÎĎĐŃŇÓÔŐÖ×ŘŮÚŰÜÝŢßŕáâăäĺćçčéęëěíîďđń" ++
     "ňóôőö÷řůúűüýţ˙"),
  ofTable ["iso-8859-3", "iso_8859-3", "iso8859-3", "iso-ir-109", "latin3", "l3", "csisolatin3"]
    0xA1 ("Ħ˘£¤ Ĥ§¨İŞĞĴ\xad Ż°ħ²³´µĥ·¸ışğĵ½ żÀÁÂ ÄĊĈÇÈÉÊËÌÍÎÏ ÑÒÓÔĠÖ×ĜÙÚÛÜŬŜßàáâ äċĉçèéêëìíîï ñ" ++
     "òóôġö÷ĝùúûüŭŝ˙"),
  ofTable ["iso-8859-4", "iso_8859-4", "iso8859-4", "iso-ir-110", "latin4", "l4", "csisolatin4"]
    0xA1 ("ĄĸŖ¤ĨĻ§¨ŠĒĢŦ\xadŽ¯°ą˛ŗ´ĩļˇ¸šēģŧŊžŋĀÁÂÃÄÅÆĮČÉĘËĖÍÎĪĐŅŌĶÔÕÖ×ØŲÚÛÜŨŪßāáâãäåæįčéęëėíîīđņ" ++
     "ōķôõö÷øųúûüũū˙"),
  ofTable ["iso-8859-5", "iso_8859-5", "iso8859-5", "iso-ir-144", "cyrillic", "csisolatincyrillic"]
    0xA1 ("ЁЂЃЄЅІЇЈЉЊЋЌ\xadЎЏАБВГДЕЖЗИЙКЛМНОПРСТУФХЦЧШЩЪЫЬЭЮЯабвгдежзийклмнопрстуфхцчшщъыьэюя№ё" ++
     "ђѓєѕіїјљњћќ§ўџ"),
  ofTable ["iso-8859-6", "iso_8859-6", "iso8859-6", "iso-ir-127", "ecma-114", "asmo-708", "arabic",
      "csisolatinarabic"]
    0xA1 ("   ¤       ،\xad             \u061b   \u061f \u0621\u0622\u0623\u0624\u0625\u0626" ++
     "\u0627\u0628\u0629\u062a\u062b\u062c\u062d\u062e\u062f\u0630\u0631\u0632\u0633\u0634" ++
     "\u0635\u0636\u0637\u0638\u0639\u063a     \u0640\u0641\u0642\u0643\u0644\u0645\u0646" ++
     "\u0647\u0648\u0649\u064a\u064b\u064c\u064d\u064e\u064f\u0650\u0651\u0652"),
  ofTable ["iso-8859-8", "iso_8859-8", "iso8859-8", "iso-ir-138", "hebrew", "csisolatinhebrew"]
    0xA1 (" ¢£¤¥¦§¨©×«¬\xad®¯°±²³´µ¶·¸¹÷»¼½¾                                ‗\u05d0\u05d1\u05d2" ++
     "\u05d3\u05d4\u05d5\u05d6\u05d7\u05d8\u05d9\u05da\u05db\u05dc\u05dd\u05de\u05df\u05e0" ++
     "\u05e1\u05e2\u05e3\u05e4\u05e5\u05e6\u05e7\u05e8\u05e9\u05ea  \u200e\u200f"),
  ofTable ["iso-8859-9", "iso_8859-9", "iso8859-9", "iso-ir-148", "latin5", "l5", "csisolatin5"]
    0xD0 "ĞÑÒÓÔÕÖ×ØÙÚÛÜİŞßàáâãäåæçèéêëìíîïğñòóôõö÷øùúûüışÿ",
  ofTable ["iso-8859-10", "iso_8859-10", "iso8859-10", "iso-ir-157", "latin6", "l6", "csisolatin6"]
    0xA1 ("ĄĒĢĪĨĶ§ĻĐŠŦŽ\xadŪŊ°ąēģīĩķ·ļđšŧž―ūŋĀÁÂÃÄÅÆĮČÉĘËĖÍÎÏÐŅŌÓÔÕÖŨØŲÚÛÜÝÞßāáâãäåæįčéęëėíîïðņ" ++
     "ōóôõöũøųúûüýþĸ"),
  ofTable ["iso-8859-11", "iso_8859-11", "iso8859-11"]
    0xA1 ("กขฃคฅฆงจฉชซฌญฎฏฐฑฒณดตถทธนบปผฝพฟภมยรฤลฦวศษสหฬอฮฯะ\u0e31าำ\u0e34\u0e35\u0e36\u0e37" ++
     "\u0e38\u0e39\u0e3a    ฿เแโใไๅๆ\u0e47\u0e48\u0e49\u0e4a\u0e4b\u0e4c\u0e4d\u0e4e๏๐๑๒๓๔" ++
     "๕๖๗๘๙๚๛"),
  ofTable ["iso-8859-13", "iso_8859-13", "iso8859-13", "iso-ir-179", "latin7", "l7"]
    0xA1 ("”¢£¤„¦§Ø©Ŗ«¬\xad®Æ°±²³“µ¶·ø¹ŗ»¼½¾æĄĮĀĆÄÅĘĒČÉŹĖĢĶĪĻŠŃŅÓŌÕÖ×ŲŁŚŪÜŻŽßąįāćäåęēčéźėģķīļšń" ++
     "ņóōõö÷ųłśūüżž’"),
  ofTable ["iso-8859-14", "iso_8859-14", "iso8859-14", "iso-ir-199", "latin8", "l8", "iso-celtic"]
    0xA1 ("Ḃḃ£ĊċḊ§Ẁ©ẂḋỲ\xad®ŸḞḟĠġṀṁ¶ṖẁṗẃṠỳẄẅṡÀÁÂÃÄÅÆÇÈÉÊËÌÍÎÏŴÑÒÓÔÕÖṪØÙÚÛÜÝŶßàáâãäåæçèéêëìíîïŵñ" ++
     "òóôõöṫøùúûüýŷÿ"),
  ofTable ["iso-8859-15", "iso_8859-15", "iso8859-15", "iso-ir-203", "latin-9"]
    0xA4 ("€¥Š§š©ª«¬\xad®¯°±²³Žµ¶·ž¹º»ŒœŸ¿ÀÁÂÃÄÅÆÇÈÉÊËÌÍÎÏÐÑÒÓÔÕÖ×ØÙÚÛÜÝÞßàáâãäåæçèéêëìíîïðñòóô" ++
     "õö÷øùúûüýþÿ"),
  ofTable ["iso-8859-16", "iso_8859-16", "iso8859-16", "iso-ir-226", "latin10", "l10"]
    0xA1 ("ĄąŁ€„Š§š©Ș«Ź\xadźŻ°±ČłŽ”¶·žčș»ŒœŸżÀÁÂĂÄĆÆÇÈÉÊËÌÍÎÏĐŃÒÓÔŐÖŚŰÙÚÛÜĘȚßàáâăäćæçèéêëìíîïđń" ++
     "òóôőöśűùúûüęțÿ"),
  ofTable ["koi8-r", "cskoi8r"]
    0x80 ("─│┌┐└┘├┤┬┴┼▀▄█▌▐░▒▓⌠■∙√≈≤≥\xa0⌡°²·÷═║╒ё╓╔╕╖╗╘╙╚╛╜╝╞╟╠╡Ё╢╣╤╥╦╧╨╩╪╫╬©юабцдефгхийклмноп" ++
     "ярстужвьызшэщчъЮАБЦДЕФГХИЙКЛМНОПЯРСТУЖВЬЫЗШЭЩЧЪ"),
  ofTable ["koi8-u"]
    0x80 ("─│┌┐└┘├┤┬┴┼▀▄█▌▐░▒▓⌠■∙√≈≤≥\xa0⌡°²·÷═║╒ёє╔ії╗╘╙╚╛ґ╝╞╟╠╡ЁЄ╣ІЇ╦╧╨╩╪Ґ╬©юабцдефгхийклмноп" ++
     "ярстужвьызшэщчъЮАБЦДЕФГХИЙКЛМНОПЯРСТУЖВЬЫЗШЭЩЧЪ"),
  ofTable ["koi8-ru"]
    0x80 ("─│┌┐└┘├┤┬┴┼▀▄█▌▐░▒▓⌠■∙√≈≤≥\xa0⌡°²·÷═║╒ёє╔ії╗╘╙╚╛ґў╞╟╠╡ЁЄ╣ІЇ╦╧╨╩╪ҐЎ©юабцдефгхийклмноп" ++
     "ярстужвьызшэщчъЮАБЦДЕФГХИЙКЛМНОПЯРСТУЖВЬЫЗШЭЩЧЪ"),
  ofTable ["koi8-t"]
    0x80 ("қғ‚Ғ„…†‡ ‰ҳ‹ҲҷҶ Қ‘’“”•–— ™ ›     ӯӮё¤ӣ¦§   «¬\xad® °±²Ё Ӣ¶· № »   ©юабцдефгхийклмноп" ++
     "ярстужвьызшэщчъЮАБЦДЕФГХИЙКЛМНОПЯРСТУЖВЬЫЗШЭЩЧЪ"),
  ofTable ["cp1250", "windows-1250", "ms-ee"]
    0x80 ("€ ‚ „…†‡ ‰Š‹ŚŤŽŹ ‘’“”•–— ™š›śťžź\xa0ˇ˘Ł¤Ą¦§¨©Ş«¬\xad®Ż°±˛ł´µ¶·¸ąş»Ľ˝ľżŔÁÂĂÄĹĆÇČÉĘËĚÍ" ++
     "ÎĎĐŃŇÓÔŐÖ×ŘŮÚŰÜÝŢßŕáâăäĺćçčéęëěíîďđńňóôőö÷řůúűüýţ˙"),
  ofTable ["cp1251", "windows-1251", "ms-cyrl"]
    0x80 ("ЂЃ‚ѓ„…†‡€‰Љ‹ЊЌЋЏђ‘’“”•–— ™љ›њќћџ\xa0ЎўЈ¤Ґ¦§Ё©Є«¬\xad®Ї°±Ііґµ¶·ё№є»јЅѕїАБВГДЕЖЗИЙКЛМН" ++
     "ОПРСТУФХЦЧШЩЪЫЬЭЮЯабвгдежзийклмнопрстуфхцчшщъыьэюя"),
  ofTable ["cp1252", "windows-1252", "ms-ansi"]
    0x80 ("€ ‚ƒ„…†‡ˆ‰Š‹Œ Ž  ‘’“”•–—˜™š›œ žŸ\xa0¡¢£¤¥¦§¨©ª«¬\xad®¯°±²³´µ¶·¸¹º»¼½¾¿ÀÁÂÃÄÅÆÇÈÉÊËÌÍ" ++
     "ÎÏÐÑÒÓÔÕÖ×ØÙÚÛÜÝÞßàáâãäåæçèéêëìíîïðñòóôõö÷øùúûüýþÿ"),
  ofTable ["cp1253", "windows-1253", "ms-greek"]
    0x80 ("€ ‚ƒ„…†‡ ‰ ‹     ‘’“”•–— ™ ›    \xa0΅Ά£¤¥¦§¨© «¬\xad®―°±²³΄µ¶·ΈΉΊ»Ό½ΎΏΐΑΒΓΔΕΖΗΘΙΚΛΜΝ" ++
     "ΞΟΠΡ ΣΤΥΦΧΨΩΪΫάέήίΰαβγδεζηθικλμνξοπρςστυφχψωϊϋόύώ"),
  ofTable ["cp1254", "windows-1254", "ms-turk"]
    0x80 ("€ ‚ƒ„…†‡ˆ‰Š‹Œ    ‘’“”•–—˜™š›œ  Ÿ\xa0¡¢£¤¥¦§¨©ª«¬\xad®¯°±²³´µ¶·¸¹º»¼½¾¿ÀÁÂÃÄÅÆÇÈÉÊËÌÍ" ++
     "ÎÏĞÑÒÓÔÕÖ×ØÙÚÛÜİŞßàáâãäåæçèéêëìíîïğñòóôõö÷øùúûüışÿ"),
  ofTable ["cp1256", "windows-1256", "ms-arab"]
    0x80 ("€\u067e‚ƒ„…†‡ˆ‰\u0679‹Œ\u0686\u0698\u0688\u06af‘’“”•–—\u06a9™\u0691›œ\u200c\u200d" ++
     "\u06ba\xa0،¢£¤¥¦§¨©\u06be«¬\xad®¯°±²³´µ¶·¸¹\u061b»¼½¾\u061f\u06c1\u0621\u0622\u0623" ++
     "\u0624\u0625\u0626\u0627\u0628\u0629\u062a\u062b\u062c\u062d\u062e\u062f\u0630\u0631" ++
     "\u0632\u0633\u0634\u0635\u0636×\u0637\u0638\u0639\u063a\u0640\u0641\u0642\u0643à" ++
     "\u0644â\u0645\u0646\u0647\u0648çèéêë\u0649\u064aîï\u064b\u064c\u064d\u064eô\u064f" ++
     "\u0650÷\u0651ù\u0652ûü\u200e\u200f\u06d2"),
  ofTable ["cp1257", "windows-1257", "winbaltrim"]
    0x80 ("€ ‚ „…†‡ ‰ ‹ ¨ˇ¸ ‘’“”•–— ™ › ¯˛ \xa0 ¢£¤ ¦§Ø©Ŗ«¬\xad®Æ°±²³´µ¶·ø¹ŗ»¼½¾æĄĮĀĆÄÅĘĒČÉŹĖĢĶ" ++
     "ĪĻŠŃŅÓŌÕÖ×ŲŁŚŪÜŻŽßąįāćäåęēčéźėģķīļšńņóōõö÷ųłśūüżž˙"),
  ofTable ["cp850", "ibm850", "cspc850multilingual"]
    0x80 ("ÇüéâäàåçêëèïîìÄÅÉæÆôöòûùÿÖÜø£Ø×ƒáíóúñÑªº¿®¬½¼¡«»░▒▓│┤ÁÂÀ©╣║╗╝¢¥┐└┴┬├─┼ãÃ╚╔╩╦╠═╬¤ðÐÊË" ++
     "ÈıÍÎÏ┘┌█▄¦Ì▀ÓßÔÒõÕµþÞÚÛÙýÝ¯´\xad±‗¾¶§÷¸°¨·¹³²■\xa0"),
  ofTable ["cp862", "ibm862", "cspc862latinhebrew"]
    0x80 ("\u05d0\u05d1\u05d2\u05d3\u05d4\u05d5\u05d6\u05d7\u05d8\u05d9\u05da\u05db\u05dc\u05dd" ++
     "\u05de\u05df\u05e0\u05e1\u05e2\u05e3\u05e4\u05e5\u05e6\u05e7\u05e8\u05e9\u05ea¢£¥₧ƒá" ++
     "íóúñÑªº¿⌐¬½¼¡«»░▒▓│┤╡╢╖╕╣║╗╝╜╛┐└┴┬├─┼╞╟╚╔╩╦╠═╬╧╨╤╥╙╘╒╓╫╪┘┌█▄▌▐▀αßΓπΣσµτΦΘΩδ∞φε∩≡±≥≤⌠" ++
     "⌡÷≈°∙·√ⁿ²■\xa0"),
  ofTable ["cp866", "ibm866", "csibm866"]
    0x80 ("АБВГДЕЖЗИЙКЛМНОПРСТУФХЦЧШЩЪЫЬЭЮЯабвгдежзийклмноп░▒▓│┤╡╢╖╕╣║╗╝╜╛┐└┴┬├─┼╞╟╚╔╩╦╠═╬╧╨╤╥╙" ++
     "╘╒╓╫╪┘┌█▄▌▐▀рстуфхцчшщъыьэюяЁёЄєЇїЎў°∙·√№¤■\xa0"),
  ofTable ["cp874", "windows-874"]
    0x80 ("€    …           ‘’“”•–—        \xa0กขฃคฅฆงจฉชซฌญฎฏฐฑฒณดตถทธนบปผฝพฟภมยรฤลฦวศษสหฬอฮฯะ" ++
     "\u0e31าำ\u0e34\u0e35\u0e36\u0e37\u0e38\u0e39\u0e3a    ฿เแโใไๅๆ\u0e47\u0e48\u0e49" ++
     "\u0e4a\u0e4b\u0e4c\u0e4d\u0e4e๏๐๑๒๓๔๕๖๗๘๙๚๛"),
  ofTable ["cp1131"]
    0x80 ("АБВГДЕЖЗИЙКЛМНОПРСТУФХЦЧШЩЪЫЬЭЮЯабвгдежзийклмноп░▒▓│┤╡╢╖╕╣║╗╝╜╛┐└┴┬├─┼╞╟╚╔╩╦╠═╬╧╨╤╥╙" ++
     "╘╒╓╫╪┘┌█▄▌▐▀рстуфхцчшщъыьэюяЁёЄєЇїЎўІі·¤Ґґ∙\xa0"),
  ofTable ["cp1133", "ibm-cp1133"]
    0xA1 ("ກຂຄງຈສຊຍດຕຖທນບປຜຝພຟມຢຣລວຫອຮ   ຯະາຳ\u0eb4\u0eb5\u0eb6\u0eb7\u0eb8\u0eb9\u0ebc\u0eb1" ++
     "\u0ebbຽ   ເແໂໃໄ\u0ec8\u0ec9\u0eca\u0ecb\u0ecc\u0ecdໆ ໜໝ₭                ໐໑໒໓໔໕໖໗໘໙  " ++
     "¢¬¦"),
  ofTable ["mulelao-1"]
    0xA1 ("ກຂ ຄ  ງຈ ຊ  ຍ      ດຕຖທ ນບປຜຝພຟ ມຢຣ ລ ວ  ສຫ ອຮຯະ\u0eb1າຳ\u0eb4\u0eb5\u0eb6\u0eb7" ++
     "\u0eb8\u0eb9 \u0ebb\u0ebcຽ  ເແໂໃໄ ໆ \u0ec8\u0ec9\u0eca\u0ecb\u0ecc\u0ecd  ໐໑໒໓໔໕໖໗໘໙" ++
     "  ໜໝ"),
  ofTable ["macroman", "macintosh", "mac", "csmacintosh"]
    0x80 ("ÄÅÇÉÑÖÜáàâäãåçéèêëíìîïñóòôöõúùûü†°¢£§•¶ß®©™´¨≠ÆØ∞±≤≥¥µ∂∑∏π∫ªºΩæø¿¡¬√ƒ≈∆«»…\xa0ÀÃÕŒœ–" ++
     "—“”‘’÷◊ÿŸ⁄¤‹›ﬁﬂ‡·‚„‰ÂÊÁËÈÍÎÏÌÓÔ ÒÚÛÙıˆ˜¯˘˙˚¸˝˛ˇ"),
  ofTable ["maccentraleurope"]
    0x80 ("ÄĀāÉĄÖÜáąČäčĆćéŹźĎíďĒēĖóėôöõúĚěü†°Ę£§•¶ß®©™ę¨≠ģĮįĪ≤≥īĶ∂∑łĻļĽľĹĺŅņŃ¬√ńŇ∆«»…\xa0ňŐÕőŌ–" ++
     "—“”‘’÷◊ōŔŕŘ‹›řŖŗŠ‚„šŚśÁŤťÍŽžŪÓÔūŮÚůŰűŲųÝýķŻŁżĢˇ"),
  ofTable ["maciceland"]
    0x80 ("ÄÅÇÉÑÖÜáàâäãåçéèêëíìîïñóòôöõúùûüÝ°¢£§•¶ß®©™´¨≠ÆØ∞±≤≥¥µ∂∑∏π∫ªºΩæø¿¡¬√ƒ≈∆«»…\xa0ÀÃÕŒœ–" ++
     "—“”‘’÷◊ÿŸ⁄¤ÐðÞþý·‚„‰ÂÊÁËÈÍÎÏÌÓÔ ÒÚÛÙıˆ˜¯˘˙˚¸˝˛ˇ"),
  ofTable ["maccroatian"]
    0x80 ("ÄÅÇÉÑÖÜáàâäãåçéèêëíìîïñóòôöõúùûü†°¢£§•¶ß®Š™´¨≠ŽØ∞±≤≥∆µ∂∑∏š∫ªºΩžø¿¡¬√ƒ≈Ć«Č…\xa0ÀÃÕŒœĐ" ++
     "—“”‘’÷◊ ©⁄¤‹›Æ»–·‚„‰ÂćÁčÈÍÎÏÌÓÔđÒÚÛÙıˆ˜¯πË˚¸Êæˇ"),
  ofTable ["macromania"]
    0x80 ("ÄÅÇÉÑÖÜáàâäãåçéèêëíìîïñóòôöõúùûü†°¢£§•¶ß®©™´¨≠ĂŞ∞±≤≥¥µ∂∑∏π∫ªºΩăş¿¡¬√ƒ≈∆«»…\xa0ÀÃÕŒœ–" ++
     "—“”‘’÷◊ÿŸ⁄¤‹›Ţţ‡·‚„‰ÂÊÁËÈÍÎÏÌÓÔ ÒÚÛÙıˆ˜¯˘˙˚¸˝˛ˇ"),
  ofTable ["maccyrillic"]
    0x80 ("АБВГДЕЖЗИЙКЛМНОПРСТУФХЦЧШЩЪЫЬЭЮЯ†°¢£§•¶І®©™Ђђ≠Ѓѓ∞±≤≥іµ∂ЈЄєЇїЉљЊњјЅ¬√ƒ≈∆«»…\xa0ЋћЌќѕ–" ++
     "—“”‘’÷„ЎўЏџ№Ёёяабвгдежзийклмнопрстуфхцчшщъыьэю¤"),
  ofTable ["macukraine"]
    0x80 ("АБВГДЕЖЗИЙКЛМНОПРСТУФХЦЧШЩЪЫЬЭЮЯ†°Ґ£§•¶І®©™Ђђ≠Ѓѓ∞±≤≥іµґЈЄєЇїЉљЊњјЅ¬√ƒ≈∆«»…\xa0ЋћЌќѕ–" ++
     "—“”‘’÷„ЎўЏџ№Ёёяабвгдежзийклмнопрстуфхцчшщъыьэю¤"),
  ofTable ["macgreek"]
    0x80 ("Ä¹²É³ÖÜ΅àâä΄¨çéèêë£™îï•½‰ôö¦\xadùûü†ΓΔΘΛΞΠß®©ΣΪ§≠°·Α±≤≥¥ΒΕΖΗΙΚΜΦΫΨΩάΝ¬ΟΡ≈Τ«»…\xa0ΥΧΆ" ++
     "Έœ–―“”‘’÷ΉΊΌΎέήίόΏύαβψδεφγηιξκλμνοπώρστθωςχυζϊϋΐΰ"),
  ofTable ["macturkish"]
    0x80 ("ÄÅÇÉÑÖÜáàâäãåçéèêëíìîïñóòôöõúùûü†°¢£§•¶ß®©™´¨≠ÆØ∞±≤≥¥µ∂∑∏π∫ªºΩæø¿¡¬√ƒ≈∆«»…\xa0ÀÃÕŒœ–" ++
     "—“”‘’÷◊ÿŸĞğİıŞş‡·‚„‰ÂÊÁËÈÍÎÏÌÓÔ ÒÚÛÙ ˆ˜¯˘˙˚¸˝˛ˇ"),
  ofTable ["machebrew"]
    0x80 ("Ä\ufb1fÇÉÑÖÜáàâäãåçéèêëíìîïñóòôöõúùûü      ₪                          „    \u05bc" ++
     "\ufb4b\ufb35…\xa0\u05b8\u05b7\u05b5\u05b6\u05b4–—“”‘’\ufb2a\ufb2b\u05bf\u05b0\u05b2" ++
     "\u05b1\u05bb\u05b9 \u05b3\u05d0\u05d1\u05d2\u05d3\u05d4\u05d5\u05d6\u05d7\u05d8" ++
     "\u05d9\u05da\u05db\u05dc\u05dd\u05de\u05df\u05e0\u05e1\u05e2\u05e3\u05e4\u05e5\u05e6" ++
     "\u05e7\u05e8\u05e9\u05ea"),
  ofTable ["macarabic"]
    0x80 ("Ä\xa0ÇÉÑÖÜáàâä\u06ba«çéèêëí…îïñó»ôö÷úùûü     ٪      ،   \u0660\u0661\u0662\u0663" ++
     "\u0664\u0665\u0666\u0667\u0668\u0669 \u061b   \u061f\u066d\u0621\u0622\u0623\u0624" ++
     "\u0625\u0626\u0627\u0628\u0629\u062a\u062b\u062c\u062d\u062e\u062f\u0630\u0631\u0632" ++
     "\u0633\u0634\u0635\u0636\u0637\u0638\u0639\u063a     \u0640\u0641\u0642\u0643\u0644" ++
     "\u0645\u0646\u0647\u0648\u0649\u064a\u064b\u064c\u064d\u064e\u064f\u0650\u0651\u0652" ++
     "\u067e\u0679\u0686\u06d5\u06a4\u06af\u0688\u0691   \u0698\u06d2"),
  ofTable ["macthai"]
    0x80 ("«»…\uf88c\uf88f\uf892\uf895\uf898\uf88b\uf88e\uf891\uf894\uf897“”\uf899 •\uf884" ++
     "\uf889\uf885\uf886\uf887\uf888\uf88a\uf88d\uf890\uf893\uf896‘’ \xa0กขฃคฅฆงจฉชซฌญฎฏฐฑ" ++
     "ฒณดตถทธนบปผฝพฟภมยรฤลฦวศษสหฬอฮฯะ\u0e31าำ\u0e34\u0e35\u0e36\u0e37\u0e38\u0e39\u0e3a" ++
     "\ufeff\u200b–—฿เแโใไๅๆ\u0e47\u0e48\u0e49\u0e4a\u0e4b\u0e4c\u0e4d™๏๐๑๒๓๔๕๖๗๘๙®©"),
  ofTable ["nextstep"]
    0x80 ("\xa0ÀÁÂÃÄÅÇÈÉÊËÌÍÎÏÐÑÒÓÔÕÖÙÚÛÜÝÞµ×÷©¡¢£⁄¥ƒ§¤’“«‹›ﬁﬂ®–†‡·¦¶•‚„”»…‰¬¿¹ˋ´ˆ˜¯˘˙¨²˚¸³˝˛ˇ—" ++
     "±¼½¾àáâãäåçèéêëìÆíªîïðñŁØŒºòóôõöæùúûıüýłøœßþÿ"),
  ofTable ["hp-roman8", "roman8", "r8", "cshproman8"]
    0xA1 ("ÀÂÈÊËÎÏ´ˋˆ¨˜ÙÛ₤¯Ýý°ÇçÑñ¡¿¤£¥§ƒ¢âêôûáéóúàèòùäëöüÅîØÆåíøæÄìÖÜÉïßÔÁÃãÐðÍÌÓÒÕõŠšÚŸÿÞþ·µ¶" ++
     "¾—¼½ªº«■»±"),
  ofTable ["pt154", "ptcp154", "cp154", "cyrillic-asian", "csptcp154"]
    0x80 ("ҖҒӮғ„…ҶҮҲүҠӢҢҚҺҸҗ‘’“”•–—ҳҷҡӣңқһҹ\xa0ЎўЈӨҘҰ§Ё©Ә«¬ӯ®Ҝ°ұІіҙө¶·ё№ә»јҪҫҝАБВГДЕЖЗИЙКЛМНОПР" ++
     "СТУФХЦЧШЩЪЫЬЭЮЯабвгдежзийклмнопрстуфхцчшщъыьэюя"),
  ofTable ["kz-1048", "rk1048", "strk1048-2002", "cskz1048"]
    0x80 ("ЂЃ‚ѓ„…†‡€‰Љ‹ЊҚҺЏђ‘’“”•–— ™љ›њқһџ\xa0ҰұӘ¤Ө¦§Ё©Ғ«¬\xad®Ү°±Ііөµ¶·ё№ғ»әҢңүАБВГДЕЖЗИЙКЛМН" ++
     "ОПРСТУФХЦЧШЩЪЫЬЭЮЯабвгдежзийклмнопрстуфхцчшщъыьэюя"),
  ofTable ["armscii-8"]
    0xA1 (" և։)(»«—.՝,-֊…՜՛՞ԱաԲբԳգԴդԵեԶզԷէԸըԹթԺժԻիԼլԽխԾծԿկՀհՁձՂղՃճՄմՅյՆնՇշՈոՉչՊպՋջՌռՍսՎվՏտՐրՑցՒ" ++
     "ւՓփՔքՕօՖֆ՚"),
  ofTable ["georgian-academy"]
    0x82 ("‚ƒ„…†‡ˆ‰Š‹Œ\x8d\x8e\x8f\x90‘’“”•–—˜™š›œ\x9d\x9eŸ\xa0¡¢£¤¥¦§¨©ª«¬\xad®¯°±²³´µ¶·¸¹º»¼½" ++
     "¾¿აბგდევზთიკლმნოპჟრსტუფქღყშჩცძწჭხჯჰჱჲჳჴჵჶçèéêëìíîïðñòóôõö÷øùúûüýþÿ"),
  ofTable ["georgian-ps"]
    0x82 ("‚ƒ„…†‡ˆ‰Š‹Œ\x8d\x8e\x8f\x90‘’“”•–—˜™š›œ\x9d\x9eŸ\xa0¡¢£¤¥¦§¨©ª«¬\xad®¯°±²³´µ¶·¸¹º»¼½" ++
     "¾¿აბგდევზჱთიკლმნჲოპჟრსტჳუფქღყშჩცძწჭხჴჯჰჵæçèéêëìíîïðñòóôõö÷øùúûüýþÿ"),
  ofTable ["tis-620", "tis620", "tis620-0", "tis620.2529-1", "tis620.2533-0", "tis620.2533-1",
      "iso-ir-166"]
    0x80 ("                                 กขฃคฅฆงจฉชซฌญฎฏฐฑฒณดตถทธนบปผฝพฟภมยรฤลฦวศษสหฬอฮฯะ" ++
     "\u0e31าำ\u0e34\u0e35\u0e36\u0e37\u0e38\u0e39\u0e3a    ฿เแโใไๅๆ\u0e47\u0e48\u0e49" ++
     "\u0e4a\u0e4b\u0e4c\u0e4d\u0e4e๏๐๑๒๓๔๕๖๗๘๙๚๛")]

def singleByte : List Charset :=
  ascii :: iso646Jp :: iso646Cn :: latin1 :: latinGreek :: viscii :: tables

end Catalog.Charset
