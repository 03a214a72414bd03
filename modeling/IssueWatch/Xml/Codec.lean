import IssueWatch.Xml.Element

/-!
# Character sets of documents

The declaration in front of a document may name the character set in which its bytes are to be read. Three
names are known to the parser; all others are looked up among the registered character sets, where letter
case and the marks between the parts of a name do not matter. Only sets with a character for a single byte
can be used, and in them every byte below 0x80 that may be part of markup is an ASCII character.
-/
namespace IssueWatch.Xml

/-- Why a document cannot be read in the character set that it names, although it may be well-formed: there
is no such set, its characters take several bytes, it decodes nothing at all, or not every byte. -/
inductive EncodingFault where
  | unknown
  | wide
  | failing
  | undecodable
  deriving DecidableEq, Repr

/-- A character set: the characters of the bytes from 0x80 on, with the replacement character for none, and the
ASCII characters that it lacks; or one in which markup is not ASCII; or one that cannot be used for another
reason. -/
inductive Codec where
  | bytes (upper : String) (lacking : List Char)
  | foreign
  | faulty (fault : EncodingFault)
  deriving DecidableEq, Repr

namespace Codec

/-- The names of the character sets that only have ASCII characters in single bytes, each with its aliases. -/
def asciiNames : List (String × List String) :=
  [("ascii", ["646", "ansi_x3.4_1968", "ansi_x3.4_1986", "ansi_x3_4_1968", "cp367", "csascii",
      "ibm367", "iso646_us", "iso_646.irv_1991", "iso_ir_6", "us", "us_ascii"]),
    ("iso2022_jp", ["csiso2022jp", "iso2022jp", "iso_2022_jp"]),
    ("iso2022_jp_1", ["iso2022jp_1", "iso_2022_jp_1"]),
    ("iso2022_jp_2", ["iso2022jp_2", "iso_2022_jp_2"]),
    ("iso2022_jp_2004", ["iso2022jp_2004", "iso_2022_jp_2004"]),
    ("iso2022_jp_3", ["iso2022jp_3", "iso_2022_jp_3"]),
    ("iso2022_jp_ext", ["iso2022jp_ext", "iso_2022_jp_ext"]),
    ("utf_8", ["cp65001", "u8", "utf", "utf8", "utf8_ucs2", "utf8_ucs4"]),
    ("utf_8_sig", [])]

/-- The names of the character sets in which a byte is the character of the same code. -/
def latinNames : List (String × List String) :=
  [("charmap", []),
    ("iso8859_1", []),
    ("latin_1", ["8859", "cp819", "csisolatin1", "ibm819", "iso8859", "iso8859_1", "iso_8859_1",
      "iso_8859_1_1987", "iso_ir_100", "l1", "latin", "latin1"]),
    ("raw_unicode_escape", []),
    ("unicode_escape", [])]

/-- The names of the character sets with several bytes for a character. -/
def wideNames : List (String × List String) :=
  [("big5", ["big5_tw", "csbig5", "x_mac_trad_chinese"]),
    ("big5hkscs", ["big5_hkscs", "hkscs"]),
    ("cp932", ["932", "ms932", "ms_kanji", "mskanji"]),
    ("cp949", ["949", "ms949", "uhc"]),
    ("cp950", ["950", "ms950"]),
    ("euc_jis_2004", ["euc_jis2004", "eucjis2004", "jisx0213"]),
    ("euc_jisx0213", ["eucjisx0213"]),
    ("euc_jp", ["eucjp", "u_jis", "ujis"]),
    ("euc_kr", ["euckr", "korean", "ks_c_5601", "ks_c_5601_1987", "ks_x_1001", "ksc5601", "ksx1001",
      "x_mac_korean"]),
    ("gb18030", ["gb18030_2000"]),
    ("gb2312", ["chinese", "csiso58gb231280", "euc_cn", "euccn", "eucgb2312_cn", "gb2312_1980",
      "gb2312_80", "iso_ir_58", "x_mac_simp_chinese"]),
    ("gbk", ["936", "cp936", "ms936"]),
    ("iso2022_kr", ["csiso2022kr", "iso2022kr", "iso_2022_kr"]),
    ("johab", ["cp1361", "ms1361"]),
    ("shift_jis", ["csshiftjis", "s_jis", "shiftjis", "sjis", "x_mac_japanese"]),
    ("shift_jis_2004", ["s_jis_2004", "shiftjis2004", "sjis_2004"]),
    ("shift_jisx0213", ["s_jisx0213", "shiftjisx0213", "sjisx0213"]),
    ("utf_16", ["u16", "utf16"]),
    ("utf_16_be", ["unicodebigunmarked", "utf_16be"]),
    ("utf_16_le", ["unicodelittleunmarked", "utf_16le"]),
    ("utf_32", ["u32", "utf32"]),
    ("utf_32_be", ["utf_32be"]),
    ("utf_32_le", ["utf_32le"]),
    ("utf_7", ["u7", "unicode_1_1_utf_7", "utf7"])]

/-- The names of the character sets in which markup is not ASCII. -/
def foreignNames : List (String × List String) :=
  [("cp037", ["037", "csibm037", "ebcdic_cp_ca", "ebcdic_cp_nl", "ebcdic_cp_us", "ebcdic_cp_wt",
      "ibm037", "ibm039"]),
    ("cp1026", ["1026", "csibm1026", "ibm1026"]),
    ("cp1140", ["1140", "ibm1140"]),
    ("cp273", ["273", "csibm273", "ibm273"]),
    ("cp424", ["424", "csibm424", "ebcdic_cp_he", "ibm424"]),
    ("cp500", ["500", "csibm500", "ebcdic_cp_be", "ebcdic_cp_ch", "ibm500"]),
    ("cp864", ["864", "csibm864", "ibm864"]),
    ("cp875", []),
    ("mac_arabic", []),
    ("mac_farsi", [])]

/-- The other character sets. Where the characters of only 96 bytes are listed, control characters stand in
front of them. -/
def tables : List (String × List String × String) :=
  [("cp1006", [],
      "\xa0\u06F0\u06F1\u06F2\u06F3\u06F4\u06F5\u06F6\u06F7\u06F8\u06F9\u060C\u061B\xad\u061F\uFE81" ++
      "\uFE8D\uFE8E\uFE8E\uFE8F\uFE91\uFB56\uFB58\uFE93\uFE95\uFE97\uFB66\uFB68\uFE99\uFE9B\uFE9D" ++
      "\uFE9F\uFB7A\uFB7C\uFEA1\uFEA3\uFEA5\uFEA7\uFEA9\uFB84\uFEAB\uFEAD\uFB8C\uFEAF\uFB8A\uFEB1" ++
      "\uFEB3\uFEB5\uFEB7\uFEB9\uFEBB\uFEBD\uFEBF\uFEC1\uFEC5\uFEC9\uFECA\uFECB\uFECC\uFECD\uFECE" ++
      "\uFECF\uFED0\uFED1\uFED3\uFED5\uFED7\uFED9\uFEDB\uFB92\uFB94\uFEDD\uFEDF\uFEE0\uFEE1\uFEE3" ++
      "\uFB9E\uFEE5\uFEE7\uFE85\uFEED\uFBA6\uFBA8\uFBA9\uFBAA\uFE80\uFE89\uFE8A\uFE8B\uFEF1\uFEF2" ++
      "\uFEF3\uFBB0\uFBAE\uFE7C\uFE7D"),
    ("cp1125", ["1125", "cp866u", "ibm1125", "ruscii"],
      "АБВГДЕЖЗИЙКЛМНОПРСТУФХЦЧШЩЪЫЬЭЮЯабвгдежзийклмноп░▒▓│┤╡╢╖╕╣║╗╝╜╛┐└┴┬├─┼╞╟╚╔╩╦╠═╬╧╨╤╥╙╘╒╓╫╪┘┌█" ++
      "▄▌▐▀рстуфхцчшщъыьэюяЁёҐґЄєІіЇї·√№¤■\xa0"),
    ("cp1250", ["1250", "windows_1250"],
      "€\uFFFD‚\uFFFD„…†‡\uFFFD‰Š‹ŚŤŽŹ\uFFFD‘’“”•–—\uFFFD™š›śťžź\xa0\u02C7˘Ł¤Ą¦§¨©Ş«¬\xad®Ż°±˛ł´µ¶·" ++
      "¸ąş»Ľ˝ľżŔÁÂĂÄĹĆÇČÉĘËĚÍÎĎĐŃŇÓÔŐÖ×ŘŮÚŰÜÝŢßŕáâăäĺćçčéęëěíîďđńňóôőö÷řůúűüýţ˙"),
    ("cp1251", ["1251", "windows_1251"],
      "ЂЃ‚ѓ„…†‡€‰Љ‹ЊЌЋЏђ‘’“”•–—\uFFFD™љ›њќћџ\xa0ЎўЈ¤Ґ¦§Ё©Є«¬\xad®Ї°±Ііґµ¶·ё№є»јЅѕїАБВГДЕЖЗИЙКЛМНОПР" ++
      "СТУФХЦЧШЩЪЫЬЭЮЯабвгдежзийклмнопрстуфхцчшщъыьэюя"),
    ("cp1252", ["1252", "windows_1252"],
      "€\uFFFD‚ƒ„…†‡\u02C6‰Š‹Œ\uFFFDŽ\uFFFD\uFFFD‘’“”•–—˜™š›œ\uFFFDžŸ\xa0¡¢£¤¥¦§¨©\xaa«¬\xad®¯°±²³´" ++
      "µ¶·¸¹\xba»¼½¾¿ÀÁÂÃÄÅÆÇÈÉÊËÌÍÎÏÐÑÒÓÔÕÖ×ØÙÚÛÜÝÞßàáâãäåæçèéêëìíîïðñòóôõö÷øùúûüýþÿ"),
    ("cp1253", ["1253", "windows_1253"],
      "€\uFFFD‚ƒ„…†‡\uFFFD‰\uFFFD‹\uFFFD\uFFFD\uFFFD\uFFFD\uFFFD‘’“”•–—\uFFFD™\uFFFD›\uFFFD\uFFFD" ++
      "\uFFFD\uFFFD\xa0΅Ά£¤¥¦§¨©\uFFFD«¬\xad®―°±²³΄µ¶·ΈΉΊ»Ό½ΎΏΐΑΒΓΔΕΖΗΘΙΚΛΜΝΞΟΠΡ\uFFFDΣΤΥΦΧΨΩΪΫάέήί" ++
      "ΰαβγδεζηθικλμνξοπρςστυφχψωϊϋόύώ\uFFFD"),
    ("cp1254", ["1254", "windows_1254"],
      "€\uFFFD‚ƒ„…†‡\u02C6‰Š‹Œ\uFFFD\uFFFD\uFFFD\uFFFD‘’“”•–—˜™š›œ\uFFFD\uFFFDŸ\xa0¡¢£¤¥¦§¨©\xaa«¬" ++
      "\xad®¯°±²³´µ¶·¸¹\xba»¼½¾¿ÀÁÂÃÄÅÆÇÈÉÊËÌÍÎÏĞÑÒÓÔÕÖ×ØÙÚÛÜİŞßàáâãäåæçèéêëìíîïğñòóôõö÷øùúûüışÿ"),
    ("cp1255", ["1255", "windows_1255"],
      "€\uFFFD‚ƒ„…†‡\u02C6‰\uFFFD‹\uFFFD\uFFFD\uFFFD\uFFFD\uFFFD‘’“”•–—˜™\uFFFD›\uFFFD\uFFFD\uFFFD" ++
      "\uFFFD\xa0¡¢£₪¥¦§¨©×«¬\xad®¯°±²³´µ¶·¸¹÷»¼½¾¿\u05B0\u05B1\u05B2\u05B3\u05B4\u05B5\u05B6\u05B7" ++
      "\u05B8\u05B9\uFFFD\u05BB\u05BC\u05BD\u05BE\u05BF\u05C0\u05C1\u05C2\u05C3\u05F0\u05F1\u05F2" ++
      "\u05F3\u05F4\uFFFD\uFFFD\uFFFD\uFFFD\uFFFD\uFFFD\uFFFD\u05D0\u05D1\u05D2\u05D3\u05D4\u05D5" ++
      "\u05D6\u05D7\u05D8\u05D9\u05DA\u05DB\u05DC\u05DD\u05DE\u05DF\u05E0\u05E1\u05E2\u05E3\u05E4" ++
      "\u05E5\u05E6\u05E7\u05E8\u05E9\u05EA\uFFFD\uFFFD\u200E\u200F\uFFFD"),
    ("cp1256", ["1256", "windows_1256"],
      "€\u067E‚ƒ„…†‡\u02C6‰\u0679‹Œ\u0686\u0698\u0688\u06AF‘’“”•–—\u06A9™\u0691›œ\u200C\u200D\u06BA" ++
      "\xa0\u060C¢£¤¥¦§¨©\u06BE«¬\xad®¯°±²³´µ¶·¸¹\u061B»¼½¾\u061F\u06C1\u0621\u0622\u0623\u0624" ++
      "\u0625\u0626\u0627\u0628\u0629\u062A\u062B\u062C\u062D\u062E\u062F\u0630\u0631\u0632\u0633" ++
      "\u0634\u0635\u0636×\u0637\u0638\u0639\u063A\u0640\u0641\u0642\u0643à\u0644â\u0645\u0646" ++
      "\u0647\u0648çèéêë\u0649\u064Aîï\u064B\u064C\u064D\u064Eô\u064F\u0650÷\u0651ù\u0652ûü\u200E" ++
      "\u200F\u06D2"),
    ("cp1257", ["1257", "windows_1257"],
      "€\uFFFD‚\uFFFD„…†‡\uFFFD‰\uFFFD‹\uFFFD¨\u02C7¸\uFFFD‘’“”•–—\uFFFD™\uFFFD›\uFFFD¯˛\uFFFD\xa0" ++
      "\uFFFD¢£¤\uFFFD¦§Ø©Ŗ«¬\xad®Æ°±²³´µ¶·ø¹ŗ»¼½¾æĄĮĀĆÄÅĘĒČÉŹĖĢĶĪĻŠŃŅÓŌÕÖ×ŲŁŚŪÜŻŽßąįāćäåęēčéźėģķīļ" ++
      "šńņóōõö÷ųłśūüżž˙"),
    ("cp1258", ["1258", "windows_1258"],
      "€\uFFFD‚ƒ„…†‡\u02C6‰\uFFFD‹Œ\uFFFD\uFFFD\uFFFD\uFFFD‘’“”•–—˜™\uFFFD›œ\uFFFD\uFFFDŸ\xa0¡¢£¤¥¦" ++
      "§¨©\xaa«¬\xad®¯°±²³´µ¶·¸¹\xba»¼½¾¿ÀÁÂĂÄÅÆÇÈÉÊË\u0300ÍÎÏĐÑ\u0309ÓÔƠÖ×ØÙÚÛÜƯ\u0303ßàáâăäåæçèéê" ++
      "ë\u0301íîïđñ\u0323óôơö÷øùúûüư₫ÿ"),
    ("cp437", ["437", "cspc8codepage437", "ibm437"],
      "ÇüéâäàåçêëèïîìÄÅÉæÆôöòûùÿÖÜ¢£¥₧ƒáíóúñÑ\xaa\xba¿⌐¬½¼¡«»░▒▓│┤╡╢╖╕╣║╗╝╜╛┐└┴┬├─┼╞╟╚╔╩╦╠═╬╧╨╤╥╙╘╒" ++
      "╓╫╪┘┌█▄▌▐▀αßΓπΣσµτΦΘΩδ∞φε∩≡±≥≤⌠⌡÷≈°∙·√\u207F²■\xa0"),
    ("cp720", [],
      "\x80\x81éâ\x84à\x86çêëèïî\x8d\x8e\x8f\x90\u0651\u0652ô¤\u0640ûù\u0621\u0622\u0623\u0624£" ++
      "\u0625\u0626\u0627\u0628\u0629\u062A\u062B\u062C\u062D\u062E\u062F\u0630\u0631\u0632\u0633" ++
      "\u0634\u0635«»░▒▓│┤╡╢╖╕╣║╗╝╜╛┐└┴┬├─┼╞╟╚╔╩╦╠═╬╧╨╤╥╙╘╒╓╫╪┘┌█▄▌▐▀\u0636\u0637\u0638\u0639\u063A" ++
      "\u0641µ\u0642\u0643\u0644\u0645\u0646\u0647\u0648\u0649\u064A≡\u064B\u064C\u064D\u064E\u064F" ++
      "\u0650≈°∙·√\u207F²■\xa0"),
    ("cp737", [],
      "ΑΒΓΔΕΖΗΘΙΚΛΜΝΞΟΠΡΣΤΥΦΧΨΩαβγδεζηθικλμνξοπρσςτυφχψ░▒▓│┤╡╢╖╕╣║╗╝╜╛┐└┴┬├─┼╞╟╚╔╩╦╠═╬╧╨╤╥╙╘╒╓╫╪┘┌█" ++
      "▄▌▐▀ωάέήϊίόύϋώΆΈΉΊΌΎΏ±≥≤ΪΫ÷≈°∙·√\u207F²■\xa0"),
    ("cp775", ["775", "cspc775baltic", "ibm775"],
      "ĆüéāäģåćłēŖŗīŹÄÅÉæÆōöĢ¢ŚśÖÜø£Ø×¤ĀĪóŻżź”¦©®¬½¼Ł«»░▒▓│┤ĄČĘĖ╣║╗╝ĮŠ┐└┴┬├─┼ŲŪ╚╔╩╦╠═╬Žąčęėįšųūž┘┌█" ++
      "▄▌▐▀ÓßŌŃõÕµńĶķĻļņĒŅ’\xad±“¾¶§÷„°∙·¹³²■\xa0"),
    ("cp850", ["850", "cspc850multilingual", "ibm850"],
      "ÇüéâäàåçêëèïîìÄÅÉæÆôöòûùÿÖÜø£Ø×ƒáíóúñÑ\xaa\xba¿®¬½¼¡«»░▒▓│┤ÁÂÀ©╣║╗╝¢¥┐└┴┬├─┼ãÃ╚╔╩╦╠═╬¤ðÐÊËÈı" ++
      "ÍÎÏ┘┌█▄¦Ì▀ÓßÔÒõÕµþÞÚÛÙýÝ¯´\xad±‗¾¶§÷¸°¨·¹³²■\xa0"),
    ("cp852", ["852", "cspcp852", "ibm852"],
      "ÇüéâäůćçłëŐőîŹÄĆÉĹĺôöĽľŚśÖÜŤťŁ×čáíóúĄąŽžĘę¬źČş«»░▒▓│┤ÁÂĚŞ╣║╗╝Żż┐└┴┬├─┼Ăă╚╔╩╦╠═╬¤đĐĎËďŇÍÎě┘┌█" ++
      "▄ŢŮ▀ÓßÔŃńňŠšŔÚŕŰýÝţ´\xad˝˛\u02C7˘§÷¸°¨˙űŘř■\xa0"),
    ("cp855", ["855", "csibm855", "ibm855"],
      "ђЂѓЃёЁєЄѕЅіІїЇјЈљЉњЊћЋќЌўЎџЏюЮъЪаАбБцЦдДеЕфФгГ«»░▒▓│┤хХиИ╣║╗╝йЙ┐└┴┬├─┼кК╚╔╩╦╠═╬¤лЛмМнНоОп┘┌█" ++
      "▄Пя▀ЯрРсСтТуУжЖвВьЬ№\xadыЫзЗшШэЭщЩчЧ§■\xa0"),
    ("cp856", [],
      "\u05D0\u05D1\u05D2\u05D3\u05D4\u05D5\u05D6\u05D7\u05D8\u05D9\u05DA\u05DB\u05DC\u05DD\u05DE" ++
      "\u05DF\u05E0\u05E1\u05E2\u05E3\u05E4\u05E5\u05E6\u05E7\u05E8\u05E9\u05EA\uFFFD£\uFFFD×\uFFFD" ++
      "\uFFFD\uFFFD\uFFFD\uFFFD\uFFFD\uFFFD\uFFFD\uFFFD\uFFFD®¬½¼\uFFFD«»░▒▓│┤\uFFFD\uFFFD\uFFFD©╣║" ++
      "╗╝¢¥┐└┴┬├─┼\uFFFD\uFFFD╚╔╩╦╠═╬¤\uFFFD\uFFFD\uFFFD\uFFFD\uFFFD\uFFFD\uFFFD\uFFFD\uFFFD┘┌█▄¦" ++
      "\uFFFD▀\uFFFD\uFFFD\uFFFD\uFFFD\uFFFD\uFFFDµ\uFFFD\uFFFD\uFFFD\uFFFD\uFFFD\uFFFD\uFFFD¯´\xad" ++
      "±‗¾¶§÷¸°¨·¹³²■\xa0"),
    ("cp857", ["857", "csibm857", "ibm857"],
      "ÇüéâäàåçêëèïîıÄÅÉæÆôöòûùİÖÜø£ØŞşáíóúñÑĞğ¿®¬½¼¡«»░▒▓│┤ÁÂÀ©╣║╗╝¢¥┐└┴┬├─┼ãÃ╚╔╩╦╠═╬¤\xba\xaaÊËÈ" ++
      "\uFFFDÍÎÏ┘┌█▄¦Ì▀ÓßÔÒõÕµ\uFFFD×ÚÛÙìÿ¯´\xad±\uFFFD¾¶§÷¸°¨·¹³²■\xa0"),
    ("cp858", ["858", "csibm858", "ibm858"],
      "ÇüéâäàåçêëèïîìÄÅÉæÆôöòûùÿÖÜø£Ø×ƒáíóúñÑ\xaa\xba¿®¬½¼¡«»░▒▓│┤ÁÂÀ©╣║╗╝¢¥┐└┴┬├─┼ãÃ╚╔╩╦╠═╬¤ðÐÊËÈ€" ++
      "ÍÎÏ┘┌█▄¦Ì▀ÓßÔÒõÕµþÞÚÛÙýÝ¯´\xad±‗¾¶§÷¸°¨·¹³²■\xa0"),
    ("cp860", ["860", "csibm860", "ibm860"],
      "ÇüéâãàÁçêÊèÍÔìÃÂÉÀÈôõòÚùÌÕÜ¢£Ù₧ÓáíóúñÑ\xaa\xba¿Ò¬½¼¡«»░▒▓│┤╡╢╖╕╣║╗╝╜╛┐└┴┬├─┼╞╟╚╔╩╦╠═╬╧╨╤╥╙╘╒" ++
      "╓╫╪┘┌█▄▌▐▀αßΓπΣσµτΦΘΩδ∞φε∩≡±≥≤⌠⌡÷≈°∙·√\u207F²■\xa0"),
    ("cp861", ["861", "cp_is", "csibm861", "ibm861"],
      "ÇüéâäàåçêëèÐðÞÄÅÉæÆôöþûÝýÖÜø£Ø₧ƒáíóúÁÍÓÚ¿⌐¬½¼¡«»░▒▓│┤╡╢╖╕╣║╗╝╜╛┐└┴┬├─┼╞╟╚╔╩╦╠═╬╧╨╤╥╙╘╒╓╫╪┘┌█" ++
      "▄▌▐▀αßΓπΣσµτΦΘΩδ∞φε∩≡±≥≤⌠⌡÷≈°∙·√\u207F²■\xa0"),
    ("cp862", ["862", "cspc862latinhebrew", "ibm862"],
      "\u05D0\u05D1\u05D2\u05D3\u05D4\u05D5\u05D6\u05D7\u05D8\u05D9\u05DA\u05DB\u05DC\u05DD\u05DE" ++
      "\u05DF\u05E0\u05E1\u05E2\u05E3\u05E4\u05E5\u05E6\u05E7\u05E8\u05E9\u05EA¢£¥₧ƒáíóúñÑ\xaa\xba¿" ++
      "⌐¬½¼¡«»░▒▓│┤╡╢╖╕╣║╗╝╜╛┐└┴┬├─┼╞╟╚╔╩╦╠═╬╧╨╤╥╙╘╒╓╫╪┘┌█▄▌▐▀αßΓπΣσµτΦΘΩδ∞φε∩≡±≥≤⌠⌡÷≈°∙·√\u207F²■" ++
      "\xa0"),
    ("cp863", ["863", "csibm863", "ibm863"],
      "ÇüéâÂà¶çêëèïî‗À§ÉÈÊôËÏûù¤ÔÜ¢£ÙÛƒ¦´óú¨¸³¯Î⌐¬½¼¾«»░▒▓│┤╡╢╖╕╣║╗╝╜╛┐└┴┬├─┼╞╟╚╔╩╦╠═╬╧╨╤╥╙╘╒╓╫╪┘┌█" ++
      "▄▌▐▀αßΓπΣσµτΦΘΩδ∞φε∩≡±≥≤⌠⌡÷≈°∙·√\u207F²■\xa0"),
    ("cp865", ["865", "csibm865", "ibm865"],
      "ÇüéâäàåçêëèïîìÄÅÉæÆôöòûùÿÖÜø£Ø₧ƒáíóúñÑ\xaa\xba¿⌐¬½¼¡«¤░▒▓│┤╡╢╖╕╣║╗╝╜╛┐└┴┬├─┼╞╟╚╔╩╦╠═╬╧╨╤╥╙╘╒" ++
      "╓╫╪┘┌█▄▌▐▀αßΓπΣσµτΦΘΩδ∞φε∩≡±≥≤⌠⌡÷≈°∙·√\u207F²■\xa0"),
    ("cp866", ["866", "csibm866", "ibm866"],
      "АБВГДЕЖЗИЙКЛМНОПРСТУФХЦЧШЩЪЫЬЭЮЯабвгдежзийклмноп░▒▓│┤╡╢╖╕╣║╗╝╜╛┐└┴┬├─┼╞╟╚╔╩╦╠═╬╧╨╤╥╙╘╒╓╫╪┘┌█" ++
      "▄▌▐▀рстуфхцчшщъыьэюяЁёЄєЇїЎў°∙·√№¤■\xa0"),
    ("cp869", ["869", "cp_gr", "csibm869", "ibm869"],
      "\uFFFD\uFFFD\uFFFD\uFFFD\uFFFD\uFFFDΆ\uFFFD·¬¦‘’Έ―ΉΊΪΌ\uFFFD\uFFFDΎΫ©Ώ²³ά£έήίϊΐόύΑΒΓΔΕΖΗ½ΘΙ«" ++
      "»░▒▓│┤ΚΛΜΝ╣║╗╝ΞΟ┐└┴┬├─┼ΠΡ╚╔╩╦╠═╬ΣΤΥΦΧΨΩαβγ┘┌█▄δε▀ζηθικλμνξοπρσςτ΄\xad±υφχ§ψ΅°¨ωϋΰώ■\xa0"),
    ("cp874", [],
      "€\uFFFD\uFFFD\uFFFD\uFFFD…\uFFFD\uFFFD\uFFFD\uFFFD\uFFFD\uFFFD\uFFFD\uFFFD\uFFFD\uFFFD\uFFFD" ++
      "‘’“”•–—\uFFFD\uFFFD\uFFFD\uFFFD\uFFFD\uFFFD\uFFFD\uFFFD\xa0\u0E01\u0E02\u0E03\u0E04\u0E05" ++
      "\u0E06\u0E07\u0E08\u0E09\u0E0A\u0E0B\u0E0C\u0E0D\u0E0E\u0E0F\u0E10\u0E11\u0E12\u0E13\u0E14" ++
      "\u0E15\u0E16\u0E17\u0E18\u0E19\u0E1A\u0E1B\u0E1C\u0E1D\u0E1E\u0E1F\u0E20\u0E21\u0E22\u0E23" ++
      "\u0E24\u0E25\u0E26\u0E27\u0E28\u0E29\u0E2A\u0E2B\u0E2C\u0E2D\u0E2E\u0E2F\u0E30\u0E31\u0E32" ++
      "\u0E33\u0E34\u0E35\u0E36\u0E37\u0E38\u0E39\u0E3A\uFFFD\uFFFD\uFFFD\uFFFD\u0E3F\u0E40\u0E41" ++
      "\u0E42\u0E43\u0E44\u0E45\u0E46\u0E47\u0E48\u0E49\u0E4A\u0E4B\u0E4C\u0E4D\u0E4E\u0E4F\u0E50" ++
      "\u0E51\u0E52\u0E53\u0E54\u0E55\u0E56\u0E57\u0E58\u0E59\u0E5A\u0E5B\uFFFD\uFFFD\uFFFD\uFFFD"),
    ("hp_roman8", ["cp1051", "csHPRoman8", "ibm1051", "r8", "roman8"],
      "\xa0ÀÂÈÊËÎÏ´\u02CB\u02C6¨˜ÙÛ₤¯Ýý°ÇçÑñ¡¿¤£¥§ƒ¢âêôûáéóúàèòùäëöüÅîØÆåíøæÄìÖÜÉïßÔÁÃãÐðÍÌÓÒÕõŠšÚŸ" ++
      "ÿÞþ·µ¶¾—¼½\xaa\xba«■»±\uFFFD"),
    ("iso8859_10", ["csisolatin6", "iso_8859_10", "iso_8859_10_1992", "iso_ir_157", "l6", "latin6"],
      "\xa0ĄĒĢĪĨĶ§ĻĐŠŦŽ\xadŪŊ°ąēģīĩķ·ļđšŧž―ūŋĀÁÂÃÄÅÆĮČÉĘËĖÍÎÏÐŅŌÓÔÕÖŨØŲÚÛÜÝÞßāáâãäåæįčéęëėíîïðņōóôõ" ++
      "öũøųúûüýþĸ"),
    ("iso8859_11", ["iso_8859_11", "iso_8859_11_2001", "thai"],
      "\xa0\u0E01\u0E02\u0E03\u0E04\u0E05\u0E06\u0E07\u0E08\u0E09\u0E0A\u0E0B\u0E0C\u0E0D\u0E0E" ++
      "\u0E0F\u0E10\u0E11\u0E12\u0E13\u0E14\u0E15\u0E16\u0E17\u0E18\u0E19\u0E1A\u0E1B\u0E1C\u0E1D" ++
      "\u0E1E\u0E1F\u0E20\u0E21\u0E22\u0E23\u0E24\u0E25\u0E26\u0E27\u0E28\u0E29\u0E2A\u0E2B\u0E2C" ++
      "\u0E2D\u0E2E\u0E2F\u0E30\u0E31\u0E32\u0E33\u0E34\u0E35\u0E36\u0E37\u0E38\u0E39\u0E3A\uFFFD" ++
      "\uFFFD\uFFFD\uFFFD\u0E3F\u0E40\u0E41\u0E42\u0E43\u0E44\u0E45\u0E46\u0E47\u0E48\u0E49\u0E4A" ++
      "\u0E4B\u0E4C\u0E4D\u0E4E\u0E4F\u0E50\u0E51\u0E52\u0E53\u0E54\u0E55\u0E56\u0E57\u0E58\u0E59" ++
      "\u0E5A\u0E5B\uFFFD\uFFFD\uFFFD\uFFFD"),
    ("iso8859_13", ["iso_8859_13", "l7", "latin7"],
      "\xa0”¢£¤„¦§Ø©Ŗ«¬\xad®Æ°±²³“µ¶·ø¹ŗ»¼½¾æĄĮĀĆÄÅĘĒČÉŹĖĢĶĪĻŠŃŅÓŌÕÖ×ŲŁŚŪÜŻŽßąįāćäåęēčéźėģķīļšńņóōõ" ++
      "ö÷ųłśūüżž’"),
    ("iso8859_14", ["iso_8859_14", "iso_8859_14_1998", "iso_celtic", "iso_ir_199", "l8", "latin8"],
      "\xa0Ḃḃ£ĊċḊ§Ẁ©ẂḋỲ\xad®ŸḞḟĠġṀṁ¶ṖẁṗẃṠỳẄẅṡÀÁÂÃÄÅÆÇÈÉÊËÌÍÎÏŴÑÒÓÔÕÖṪØÙÚÛÜÝŶßàáâãäåæçèéêëìíîïŵñòóôõ" ++
      "öṫøùúûüýŷÿ"),
    ("iso8859_15", ["iso_8859_15", "l9", "latin9"],
      "\xa0¡¢£€¥Š§š©\xaa«¬\xad®¯°±²³Žµ¶·ž¹\xba»ŒœŸ¿ÀÁÂÃÄÅÆÇÈÉÊËÌÍÎÏÐÑÒÓÔÕÖ×ØÙÚÛÜÝÞßàáâãäåæçèéêëìíîï" ++
      "ðñòóôõö÷øùúûüýþÿ"),
    ("iso8859_16", ["iso_8859_16", "iso_8859_16_2001", "iso_ir_226", "l10", "latin10"],
      "\xa0ĄąŁ€„Š§š©Ș«Ź\xadźŻ°±ČłŽ”¶·žčș»ŒœŸżÀÁÂĂÄĆÆÇÈÉÊËÌÍÎÏĐŃÒÓÔŐÖŚŰÙÚÛÜĘȚßàáâăäćæçèéêëìíîïđńòóôő" ++
      "öśűùúûüęțÿ"),
    ("iso8859_2", ["csisolatin2", "iso_8859_2", "iso_8859_2_1987", "iso_ir_101", "l2", "latin2"],
      "\xa0Ą˘Ł¤ĽŚ§¨ŠŞŤŹ\xadŽŻ°ą˛ł´ľś\u02C7¸šşťź˝žżŔÁÂĂÄĹĆÇČÉĘËĚÍÎĎĐŃŇÓÔŐÖ×ŘŮÚŰÜÝŢßŕáâăäĺćçčéęëěíîďđ" ++
      "ńňóôőö÷řůúűüýţ˙"),
    ("iso8859_3", ["csisolatin3", "iso_8859_3", "iso_8859_3_1988", "iso_ir_109", "l3", "latin3"],
      "\xa0Ħ˘£¤\uFFFDĤ§¨İŞĞĴ\xad\uFFFDŻ°ħ²³´µĥ·¸ışğĵ½\uFFFDżÀÁÂ\uFFFDÄĊĈÇÈÉÊËÌÍÎÏ\uFFFDÑÒÓÔĠÖ×ĜÙÚÛÜ" ++
      "ŬŜßàáâ\uFFFDäċĉçèéêëìíîï\uFFFDñòóôġö÷ĝùúûüŭŝ˙"),
    ("iso8859_4", ["csisolatin4", "iso_8859_4", "iso_8859_4_1988", "iso_ir_110", "l4", "latin4"],
      "\xa0ĄĸŖ¤ĨĻ§¨ŠĒĢŦ\xadŽ¯°ą˛ŗ´ĩļ\u02C7¸šēģŧŊžŋĀÁÂÃÄÅÆĮČÉĘËĖÍÎĪĐŅŌĶÔÕÖ×ØŲÚÛÜŨŪßāáâãäåæįčéęëėíîīđ" ++
      "ņōķôõö÷øųúûüũū˙"),
    ("iso8859_5", ["csisolatincyrillic", "cyrillic", "iso_8859_5", "iso_8859_5_1988", "iso_ir_144"],
      "\xa0ЁЂЃЄЅІЇЈЉЊЋЌ\xadЎЏАБВГДЕЖЗИЙКЛМНОПРСТУФХЦЧШЩЪЫЬЭЮЯабвгдежзийклмнопрстуфхцчшщъыьэюя№ёђѓєѕ" ++
      "іїјљњћќ§ўџ"),
    ("iso8859_6", ["arabic", "asmo_708", "csisolatinarabic", "ecma_114", "iso_8859_6",
      "iso_8859_6_1987", "iso_ir_127"],
      "\xa0\uFFFD\uFFFD\uFFFD¤\uFFFD\uFFFD\uFFFD\uFFFD\uFFFD\uFFFD\uFFFD\u060C\xad\uFFFD\uFFFD" ++
      "\uFFFD\uFFFD\uFFFD\uFFFD\uFFFD\uFFFD\uFFFD\uFFFD\uFFFD\uFFFD\uFFFD\u061B\uFFFD\uFFFD\uFFFD" ++
      "\u061F\uFFFD\u0621\u0622\u0623\u0624\u0625\u0626\u0627\u0628\u0629\u062A\u062B\u062C\u062D" ++
      "\u062E\u062F\u0630\u0631\u0632\u0633\u0634\u0635\u0636\u0637\u0638\u0639\u063A\uFFFD\uFFFD" ++
      "\uFFFD\uFFFD\uFFFD\u0640\u0641\u0642\u0643\u0644\u0645\u0646\u0647\u0648\u0649\u064A\u064B" ++
      "\u064C\u064D\u064E\u064F\u0650\u0651\u0652\uFFFD\uFFFD\uFFFD\uFFFD\uFFFD\uFFFD\uFFFD\uFFFD" ++
      "\uFFFD\uFFFD\uFFFD\uFFFD\uFFFD"),
    ("iso8859_7", ["csisolatingreek", "ecma_118", "elot_928", "greek", "greek8", "iso_8859_7",
      "iso_8859_7_1987", "iso_ir_126"],
      "\xa0‘’£€₯¦§¨©\u037A«¬\xad\uFFFD―°±²³΄΅Ά·ΈΉΊ»Ό½ΎΏΐΑΒΓΔΕΖΗΘΙΚΛΜΝΞΟΠΡ\uFFFDΣΤΥΦΧΨΩΪΫάέήίΰαβγδεζ" ++
      "ηθικλμνξοπρςστυφχψωϊϋόύώ\uFFFD"),
    ("iso8859_8", ["csisolatinhebrew", "hebrew", "iso_8859_8", "iso_8859_8_1988", "iso_ir_138"],
      "\xa0\uFFFD¢£¤¥¦§¨©×«¬\xad®¯°±²³´µ¶·¸¹÷»¼½¾\uFFFD\uFFFD\uFFFD\uFFFD\uFFFD\uFFFD\uFFFD\uFFFD" ++
      "\uFFFD\uFFFD\uFFFD\uFFFD\uFFFD\uFFFD\uFFFD\uFFFD\uFFFD\uFFFD\uFFFD\uFFFD\uFFFD\uFFFD\uFFFD" ++
      "\uFFFD\uFFFD\uFFFD\uFFFD\uFFFD\uFFFD\uFFFD\uFFFD\uFFFD‗\u05D0\u05D1\u05D2\u05D3\u05D4\u05D5" ++
      "\u05D6\u05D7\u05D8\u05D9\u05DA\u05DB\u05DC\u05DD\u05DE\u05DF\u05E0\u05E1\u05E2\u05E3\u05E4" ++
      "\u05E5\u05E6\u05E7\u05E8\u05E9\u05EA\uFFFD\uFFFD\u200E\u200F\uFFFD"),
    ("iso8859_9", ["csisolatin5", "iso_8859_9", "iso_8859_9_1989", "iso_ir_148", "l5", "latin5"],
      "\xa0¡¢£¤¥¦§¨©\xaa«¬\xad®¯°±²³´µ¶·¸¹\xba»¼½¾¿ÀÁÂÃÄÅÆÇÈÉÊËÌÍÎÏĞÑÒÓÔÕÖ×ØÙÚÛÜİŞßàáâãäåæçèéêëìíîï" ++
      "ğñòóôõö÷øùúûüışÿ"),
    ("koi8_r", ["cskoi8r"],
      "─│┌┐└┘├┤┬┴┼▀▄█▌▐░▒▓⌠■∙√≈≤≥\xa0⌡°²·÷═║╒ё╓╔╕╖╗╘╙╚╛╜╝╞╟╠╡Ё╢╣╤╥╦╧╨╩╪╫╬©юабцдефгхийклмнопярстужвь" ++
      "ызшэщчъЮАБЦДЕФГХИЙКЛМНОПЯРСТУЖВЬЫЗШЭЩЧЪ"),
    ("koi8_t", [],
      "қғ‚Ғ„…†‡\uFFFD‰ҳ‹ҲҷҶ\uFFFDҚ‘’“”•–—\uFFFD™\uFFFD›\uFFFD\uFFFD\uFFFD\uFFFD\uFFFDӯӮё¤ӣ¦§\uFFFD" ++
      "\uFFFD\uFFFD«¬\xad®\uFFFD°±²Ё\uFFFDӢ¶·\uFFFD№\uFFFD»\uFFFD\uFFFD\uFFFD©юабцдефгхийклмнопярст" ++
      "ужвьызшэщчъЮАБЦДЕФГХИЙКЛМНОПЯРСТУЖВЬЫЗШЭЩЧЪ"),
    ("koi8_u", [],
      "─│┌┐└┘├┤┬┴┼▀▄█▌▐░▒▓⌠■∙√≈≤≥\xa0⌡°²·÷═║╒ёє╔ії╗╘╙╚╛ґ╝╞╟╠╡ЁЄ╣ІЇ╦╧╨╩╪Ґ╬©юабцдефгхийклмнопярстужвь" ++
      "ызшэщчъЮАБЦДЕФГХИЙКЛМНОПЯРСТУЖВЬЫЗШЭЩЧЪ"),
    ("kz1048", ["kz_1048", "rk1048", "strk1048_2002"],
      "ЂЃ‚ѓ„…†‡€‰Љ‹ЊҚҺЏђ‘’“”•–—\uFFFD™љ›њқһџ\xa0ҰұӘ¤Ө¦§Ё©Ғ«¬\xad®Ү°±Ііөµ¶·ё№ғ»әҢңүАБВГДЕЖЗИЙКЛМНОПР" ++
      "СТУФХЦЧШЩЪЫЬЭЮЯабвгдежзийклмнопрстуфхцчшщъыьэюя"),
    ("mac_croatian", [],
      "ÄÅÇÉÑÖÜáàâäãåçéèêëíìîïñóòôöõúùûü†°¢£§•¶ß®Š™´¨≠ŽØ∞±≤≥∆µ∂∑∏š∫\xaa\xbaΩžø¿¡¬√ƒ≈Ć«Č…\xa0ÀÃÕŒœĐ—“" ++
      "”‘’÷◊\uF8FF©⁄€‹›Æ»–·‚„‰ÂćÁčÈÍÎÏÌÓÔđÒÚÛÙı\u02C6˜¯πË˚¸Êæ\u02C7"),
    ("mac_cyrillic", ["maccyrillic"],
      "АБВГДЕЖЗИЙКЛМНОПРСТУФХЦЧШЩЪЫЬЭЮЯ†°Ґ£§•¶І®©™Ђђ≠Ѓѓ∞±≤≥іµґЈЄєЇїЉљЊњјЅ¬√ƒ≈∆«»…\xa0ЋћЌќѕ–—“”‘’÷„Ў" ++
      "ўЏџ№Ёёяабвгдежзийклмнопрстуфхцчшщъыьэю€"),
    ("mac_greek", ["macgreek"],
      "Ä¹²É³ÖÜ΅àâä΄¨çéèêë£™îï•½‰ôö¦€ùûü†ΓΔΘΛΞΠß®©ΣΪ§≠°·Α±≤≥¥ΒΕΖΗΙΚΜΦΫΨΩάΝ¬ΟΡ≈Τ«»…\xa0ΥΧΆΈœ–―“”‘’÷ΉΊ" ++
      "ΌΎέήίόΏύαβψδεφγηιξκλμνοπώρστθωςχυζϊϋΐΰ\xad"),
    ("mac_iceland", ["maciceland"],
      "ÄÅÇÉÑÖÜáàâäãåçéèêëíìîïñóòôöõúùûüÝ°¢£§•¶ß®©™´¨≠ÆØ∞±≤≥¥µ∂∑∏π∫\xaa\xbaΩæø¿¡¬√ƒ≈∆«»…\xa0ÀÃÕŒœ–—“" ++
      "”‘’÷◊ÿŸ⁄€ÐðÞþý·‚„‰ÂÊÁËÈÍÎÏÌÓÔ\uF8FFÒÚÛÙı\u02C6˜¯˘˙˚¸˝˛\u02C7"),
    ("mac_latin2", ["mac_centeuro", "maccentraleurope", "maclatin2"],
      "ÄĀāÉĄÖÜáąČäčĆćéŹźĎíďĒēĖóėôöõúĚěü†°Ę£§•¶ß®©™ę¨≠ģĮįĪ≤≥īĶ∂∑łĻļĽľĹĺŅņŃ¬√ńŇ∆«»…\xa0ňŐÕőŌ–—“”‘’÷◊ō" ++
      "ŔŕŘ‹›řŖŗŠ‚„šŚśÁŤťÍŽžŪÓÔūŮÚůŰűŲųÝýķŻŁżĢ\u02C7"),
    ("mac_roman", ["macintosh", "macroman"],
      "ÄÅÇÉÑÖÜáàâäãåçéèêëíìîïñóòôöõúùûü†°¢£§•¶ß®©™´¨≠ÆØ∞±≤≥¥µ∂∑∏π∫\xaa\xbaΩæø¿¡¬√ƒ≈∆«»…\xa0ÀÃÕŒœ–—“" ++
      "”‘’÷◊ÿŸ⁄€‹›ﬁﬂ‡·‚„‰ÂÊÁËÈÍÎÏÌÓÔ\uF8FFÒÚÛÙı\u02C6˜¯˘˙˚¸˝˛\u02C7"),
    ("mac_romanian", [],
      "ÄÅÇÉÑÖÜáàâäãåçéèêëíìîïñóòôöõúùûü†°¢£§•¶ß®©™´¨≠ĂȘ∞±≤≥¥µ∂∑∏π∫\xaa\xbaΩăș¿¡¬√ƒ≈∆«»…\xa0ÀÃÕŒœ–—“" ++
      "”‘’÷◊ÿŸ⁄€‹›Țț‡·‚„‰ÂÊÁËÈÍÎÏÌÓÔ\uF8FFÒÚÛÙı\u02C6˜¯˘˙˚¸˝˛\u02C7"),
    ("mac_turkish", ["macturkish"],
      "ÄÅÇÉÑÖÜáàâäãåçéèêëíìîïñóòôöõúùûü†°¢£§•¶ß®©™´¨≠ÆØ∞±≤≥¥µ∂∑∏π∫\xaa\xbaΩæø¿¡¬√ƒ≈∆«»…\xa0ÀÃÕŒœ–—“" ++
      "”‘’÷◊ÿŸĞğİıŞş‡·‚„‰ÂÊÁËÈÍÎÏÌÓÔ\uF8FFÒÚÛÙ\uF8A0\u02C6˜¯˘˙˚¸˝˛\u02C7"),
    ("palmos", [],
      "€\x81‚ƒ„…†‡\u02C6‰Š‹Œ♦♣♥♠‘’“”•–—˜™š\x9bœ\x9d\x9eŸ\xa0¡¢£¤¥¦§¨©\xaa«¬\xad®¯°±²³´µ¶·¸¹\xba»¼½¾" ++
      "¿ÀÁÂÃÄÅÆÇÈÉÊËÌÍÎÏÐÑÒÓÔÕÖ×ØÙÚÛÜÝÞßàáâãäåæçèéêëìíîïðñòóôõö÷øùúûüýþÿ"),
    ("ptcp154", ["cp154", "csptcp154", "cyrillic_asian", "pt154"],
      "ҖҒӮғ„…ҶҮҲүҠӢҢҚҺҸҗ‘’“”•–—ҳҷҡӣңқһҹ\xa0ЎўЈӨҘҰ§Ё©Ә«¬ӯ®Ҝ°ұІіҙө¶·ё№ә»јҪҫҝАБВГДЕЖЗИЙКЛМНОПРСТУФХЦЧШ" ++
      "ЩЪЫЬЭЮЯабвгдежзийклмнопрстуфхцчшщъыьэюя"),
    ("tis_620", ["iso_ir_166", "tis620", "tis_620_0", "tis_620_2529_0", "tis_620_2529_1"],
      "\uFFFD\u0E01\u0E02\u0E03\u0E04\u0E05\u0E06\u0E07\u0E08\u0E09\u0E0A\u0E0B\u0E0C\u0E0D\u0E0E" ++
      "\u0E0F\u0E10\u0E11\u0E12\u0E13\u0E14\u0E15\u0E16\u0E17\u0E18\u0E19\u0E1A\u0E1B\u0E1C\u0E1D" ++
      "\u0E1E\u0E1F\u0E20\u0E21\u0E22\u0E23\u0E24\u0E25\u0E26\u0E27\u0E28\u0E29\u0E2A\u0E2B\u0E2C" ++
      "\u0E2D\u0E2E\u0E2F\u0E30\u0E31\u0E32\u0E33\u0E34\u0E35\u0E36\u0E37\u0E38\u0E39\u0E3A\uFFFD" ++
      "\uFFFD\uFFFD\uFFFD\u0E3F\u0E40\u0E41\u0E42\u0E43\u0E44\u0E45\u0E46\u0E47\u0E48\u0E49\u0E4A" ++
      "\u0E4B\u0E4C\u0E4D\u0E4E\u0E4F\u0E50\u0E51\u0E52\u0E53\u0E54\u0E55\u0E56\u0E57\u0E58\u0E59" ++
      "\u0E5A\u0E5B\uFFFD\uFFFD\uFFFD\uFFFD")]

/-- The characters of some codes in a row. -/
def charactersFrom (first count : Nat) : String :=
  String.ofList ((List.range count).map fun index => Char.ofNat (first + index))

/-- The characters of the bytes from 0x80 on, of which the control characters may not be listed. -/
def completed (upper : String) : String :=
  if upper.length = 96 then charactersFrom 0x80 32 ++ upper else upper

def ascii : Codec := .bytes "" []

/-- The character set in which a byte is the character of the same code. -/
def latin : Codec := .bytes (charactersFrom 0x80 0x80) []

/-- All registered character sets with their names and aliases. -/
def registered : List (String × List String × Codec) :=
  asciiNames.map (fun (name, aliases) => (name, aliases, ascii)) ++
    latinNames.map (fun (name, aliases) => (name, aliases, latin)) ++
    wideNames.map (fun (name, aliases) => (name, aliases, .faulty .wide)) ++
    foreignNames.map (fun (name, aliases) => (name, aliases, .foreign)) ++
    tables.map (fun (name, aliases, upper) => (name, aliases, .bytes (completed upper) [])) ++
    [("hz", ["hzgb", "hz_gb", "hz_gb_2312"], .bytes "" ['~']),
      ("idna", [], .faulty .failing), ("undefined", [], .faulty .failing),
      ("punycode", [], .faulty .undecodable)]

/-- Whether a character belongs to a part of a name. -/
def isPartCharacter (c : Char) : Bool :=
  c.isAlphanum || c == '.'

/-- A name in lower case with a single underscore for every run of marks between its parts. -/
def normalNameFrom : List Char → List Char
  | [] => []
  | [c] => if isPartCharacter c then [c.toLower] else []
  | c :: d :: rest =>
    if isPartCharacter c then c.toLower :: normalNameFrom (d :: rest)
    else if isPartCharacter d then '_' :: normalNameFrom (d :: rest)
    else normalNameFrom (d :: rest)

def normalName (name : List Char) : List Char :=
  normalNameFrom (name.dropWhile fun c => !isPartCharacter c)

/-- The registered character set with a name. Dots count as marks between the parts of an alias. -/
def lookUp (name : List Char) : Codec :=
  let normal := String.ofList (normalName name)
  let undotted := normal.map fun c => if c = '.' then '_' else c
  match registered.find? fun (known, aliases, _) =>
      known = normal || aliases.contains normal || aliases.contains undotted with
  | some (_, _, codec) => codec
  | none => .faulty .unknown

/-- The character set that a document names. Nothing is changed in a document in the first one. One that is
written in characters of two bytes cannot say so in single bytes. -/
def ofName (name : List Char) : Option Codec :=
  match (String.ofList name).map Char.toUpper with
  | "UTF-8" => none
  | "US-ASCII" => some ascii
  | "ISO-8859-1" => some latin
  | "UTF-16" | "UTF-16BE" | "UTF-16LE" => some .foreign
  | _ => some (lookUp name)

/-- The character of a byte, given those of the bytes from 0x80 on and the ASCII characters that are lacking. -/
def characterOf? (upper lacking : List Char) (byte : UInt8) : Option Char :=
  if byte < 0x80 then
    let c := Char.ofNat byte.toNat
    if lacking.contains c then none else some c
  else (upper[byte.toNat - 0x80]?).filter (· != '\uFFFD')

end Codec
end IssueWatch.Xml
