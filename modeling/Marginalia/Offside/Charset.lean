import Marginalia.Offside.Source

/-!
# Charsets

The codecs that this library brings along.  Most of them read each byte as a
character.  Where a charset also has characters of several bytes, only the bytes
that are characters of their own are read.
-/

namespace Marginalia.Offside

/-- What the bytes of a charset mean. -/
inductive Repertoire where
  /-- Characters in UTF-8. -/
  | utf8
  /-- A character each: the last ones those of `upper`, where a question mark stands
  for no character, and the others the characters of the same numbers.  The bytes in
  `changed` mean what is said there, if anything. -/
  | bytes (changed : List (Char × Option Char)) (upper : String)

/-- A charset with its names. -/
structure Charset where
  name : String
  aliases : List String := []
  repertoire : Repertoire

/-! ## Reading -/

/-- The character that a byte means. -/
def byteMeaning? (changed : List (Char × Option Char)) (upper : Text) (byte : UInt8) :
    Option Char :=
  let c := Char.ofNat byte.toNat
  match changed.lookup c with
  | some meant => meant
  | none =>
    if byte < 0x80 then some c
    else
      match upper.reverse[255 - byte.toNat]? with
      | some meant => if meant.toNat < 0x80 then none else some meant
      | none => some c

/-- How a repertoire reads bytes. -/
def Repertoire.codec : Repertoire → Codec
  | .utf8 => Bytes.toText?
  | .bytes changed upper =>
    let upper := upper.toList
    fun bytes => bytes.mapM (byteMeaning? changed upper)

/-! ## Names -/

/-- A name in lower case, with one underscore between its parts, given whether a part
came before and whether anything came since. -/
def canonicalName (started gap : Bool) : Text → Text
  | [] => []
  | c :: rest =>
    if c.isAlphanum || c == '.' then
      let more := c.toLower :: canonicalName true false rest
      if started && gap then '_' :: more else more
    else canonicalName started true rest

/-- Whether a charset has a canonical name.  A dot counts as an underscore in an
alias. -/
def Charset.answersTo (charset : Charset) (name : Text) : Bool :=
  charset.name.toList == name || charset.aliases.any fun other =>
    other.toList == name || other.toList == name.map fun c => if c == '.' then '_' else c

/-! ## Tables -/

/-- No byte beyond ASCII means anything alone. -/
def noBytes : String :=
  String.ofList (List.replicate 128 '?')

/-- The charsets of Unicode and its first characters. -/
def universalCharsets : List Charset :=
  [{ name := "utf_8", aliases := ["cp65001", "u8", "utf", "utf8", "utf8_ucs2", "utf8_ucs4"]
     repertoire := .utf8 },
    { name := "utf_8_sig", repertoire := .utf8 },
    { name := "latin_1", aliases := ["8859", "cp819", "csisolatin1", "ibm819", "iso8859",
        "iso8859_1", "iso_8859_1", "iso_8859_1_1987", "iso_ir_100", "l1", "latin", "latin1"]
      repertoire := .bytes [] "" },
    { name := "charmap", repertoire := .bytes [] "" },
    { name := "unicode_escape", repertoire := .bytes [('\\', none)] "" },
    { name := "raw_unicode_escape", repertoire := .bytes [('\\', none)] "" }]

/-- Signs that have a second byte, for writing from right to left. -/
def mirroredSigns : List (Char × Option Char) :=
  [('\xa0', some ' '), ('\xa1', some '!'), ('\xa2', some '"'), ('\xa3', some '#'),
    ('\xa4', some '$'), ('\xa6', some '&'), ('\xa7', some '\''), ('\xa8', some '('),
    ('\xa9', some ')'), ('\xaa', some '*'), ('\xab', some '+'), ('\xad', some '-'),
    ('\xae', some '.'), ('\xaf', some '/'), ('\xba', some ':'), ('\xbc', some '<'),
    ('\xbd', some '='), ('\xbe', some '>'), ('\xdb', some '['), ('\xdc', some '\\'),
    ('\xdd', some ']'), ('\xde', some '^'), ('\xdf', some '_'), ('\xfb', some '\x7b'),
    ('\xfc', some '|'), ('\xfd', some '\x7d')]

/-- The charsets with one byte for each character. -/
def byteCharsets : List Charset :=
  [{ name := "cp1006"
     repertoire := .bytes [] <|
       "۰۱۲۳۴۵۶۷۸۹،؛\u00ad؟ﺁﺍﺎﺎﺏﺑﭖﭘﺓﺕﺗﭦﭨﺙﺛﺝﺟﭺﭼﺡﺣﺥﺧﺩﮄﺫﺭﮌﺯﮊﺱﺳﺵﺷﺹﺻﺽﺿﻁﻅﻉﻊﻋﻌﻍﻎﻏﻐﻑﻓﻕﻗﻙﻛﮒﮔﻝﻟﻠﻡﻣﮞﻥ" ++
       "ﻧﺅﻭﮦﮨﮩﮪﺀﺉﺊﺋﻱﻲﻳﮰﮮﹼﹽ" },
    { name := "cp1125", aliases := ["1125", "cp866u", "ibm1125", "ruscii"]
      repertoire := .bytes [] <|
        "АБВГДЕЖЗИЙКЛМНОПРСТУФХЦЧШЩЪЫЬЭЮЯабвгдежзийклмноп░▒▓│┤╡╢╖╕╣║╗╝╜╛┐└┴┬├─┼╞╟╚╔╩╦╠═╬╧╨╤" ++
        "╥╙╘╒╓╫╪┘┌█▄▌▐▀рстуфхцчшщъыьэюяЁёҐґЄєІіЇї·√№¤■\u00a0" },
    { name := "cp1250", aliases := ["1250", "windows_1250"]
      repertoire := .bytes [] <|
        "€?‚?„…†‡?‰Š‹ŚŤŽŹ?‘’“”•–—?™š›śťžź\u00a0ˇ˘Ł¤Ą¦§¨©Ş«¬\u00ad®Ż°±˛ł´µ¶·¸ąş»Ľ˝ľżŔÁÂĂÄĹĆÇ" ++
        "ČÉĘËĚÍÎĎĐŃŇÓÔŐÖ×ŘŮÚŰÜÝŢßŕáâăäĺćçčéęëěíîďđńňóôőö÷řůúűüýţ˙" },
    { name := "cp1251", aliases := ["1251", "windows_1251"]
      repertoire := .bytes [] <|
        "ЂЃ‚ѓ„…†‡€‰Љ‹ЊЌЋЏђ‘’“”•–—?™љ›њќћџ\u00a0ЎўЈ¤Ґ¦§Ё©Є«¬\u00ad®Ї°±Ііґµ¶·ё№є»јЅѕїАБВГДЕЖЗ" ++
        "ИЙКЛМНОПРСТУФХЦЧШЩЪЫЬЭЮЯабвгдежзийклмнопрстуфхцчшщъыьэюя" },
    { name := "cp1252", aliases := ["1252", "windows_1252"]
      repertoire := .bytes [] <|
        "€?‚ƒ„…†‡ˆ‰Š‹Œ?Ž??‘’“”•–—˜™š›œ?žŸ\u00a0¡¢£¤¥¦§¨©ª«¬\u00ad®¯°±²³´µ¶·¸¹º»¼½¾¿ÀÁÂÃÄÅÆÇ" ++
        "ÈÉÊËÌÍÎÏÐÑÒÓÔÕÖ×ØÙÚÛÜÝÞßàáâãäåæçèéêëìíîïðñòóôõö÷øùúûüýþÿ" },
    { name := "cp1253", aliases := ["1253", "windows_1253"]
      repertoire := .bytes [] <|
        "€?‚ƒ„…†‡?‰?‹?????‘’“”•–—?™?›????\u00a0΅Ά£¤¥¦§¨©?«¬\u00ad®―°±²³΄µ¶·ΈΉΊ»Ό½ΎΏΐΑΒΓΔΕΖΗ" ++
        "ΘΙΚΛΜΝΞΟΠΡ?ΣΤΥΦΧΨΩΪΫάέήίΰαβγδεζηθικλμνξοπρςστυφχψωϊϋόύώ?" },
    { name := "cp1254", aliases := ["1254", "windows_1254"]
      repertoire := .bytes [] <|
        "€?‚ƒ„…†‡ˆ‰Š‹Œ????‘’“”•–—˜™š›œ??Ÿ\u00a0¡¢£¤¥¦§¨©ª«¬\u00ad®¯°±²³´µ¶·¸¹º»¼½¾¿ÀÁÂÃÄÅÆÇ" ++
        "ÈÉÊËÌÍÎÏĞÑÒÓÔÕÖ×ØÙÚÛÜİŞßàáâãäåæçèéêëìíîïğñòóôõö÷øùúûüışÿ" },
    { name := "cp1255", aliases := ["1255", "windows_1255"]
      repertoire := .bytes [] <|
        "€?‚ƒ„…†‡ˆ‰?‹?????‘’“”•–—˜™?›????\u00a0¡¢£₪¥¦§¨©×«¬\u00ad®¯°±²³´µ¶·¸¹÷»¼½¾¿\u05b0" ++
        "\u05b1\u05b2\u05b3\u05b4\u05b5\u05b6\u05b7\u05b8\u05b9?\u05bb\u05bc\u05bd־\u05bf׀" ++
        "\u05c1\u05c2׃װױײ׳״???????אבגדהוזחטיךכלםמןנסעףפץצקרשת??\u200e\u200f?" },
    { name := "cp1256", aliases := ["1256", "windows_1256"]
      repertoire := .bytes [] <|
        "€پ‚ƒ„…†‡ˆ‰ٹ‹Œچژڈگ‘’“”•–—ک™ڑ›œ\u200c\u200dں\u00a0،¢£¤¥¦§¨©ھ«¬\u00ad®¯°±²³´µ¶·¸¹؛»¼½" ++
        "¾؟ہءآأؤإئابةتثجحخدذرزسشصض×طظعغـفقكàلâمنهوçèéêëىيîï\u064b\u064c\u064d\u064eô\u064f" ++
        "\u0650÷\u0651ù\u0652ûü\u200e\u200fے" },
    { name := "cp1257", aliases := ["1257", "windows_1257"]
      repertoire := .bytes [] <|
        "€?‚?„…†‡?‰?‹?¨ˇ¸?‘’“”•–—?™?›?¯˛?\u00a0?¢£¤?¦§Ø©Ŗ«¬\u00ad®Æ°±²³´µ¶·ø¹ŗ»¼½¾æĄĮĀĆÄÅĘĒ" ++
        "ČÉŹĖĢĶĪĻŠŃŅÓŌÕÖ×ŲŁŚŪÜŻŽßąįāćäåęēčéźėģķīļšńņóōõö÷ųłśūüżž˙" },
    { name := "cp1258", aliases := ["1258", "windows_1258"]
      repertoire := .bytes [] <|
        "€?‚ƒ„…†‡ˆ‰?‹Œ????‘’“”•–—˜™?›œ??Ÿ\u00a0¡¢£¤¥¦§¨©ª«¬\u00ad®¯°±²³´µ¶·¸¹º»¼½¾¿ÀÁÂĂÄÅÆÇ" ++
        "ÈÉÊË\u0300ÍÎÏĐÑ\u0309ÓÔƠÖ×ØÙÚÛÜƯ\u0303ßàáâăäåæçèéêë\u0301íîïđñ\u0323óôơö÷øùúûüư₫ÿ" },
    { name := "cp437", aliases := ["437", "cspc8codepage437", "ibm437"]
      repertoire := .bytes [] <|
        "ÇüéâäàåçêëèïîìÄÅÉæÆôöòûùÿÖÜ¢£¥₧ƒáíóúñÑªº¿⌐¬½¼¡«»░▒▓│┤╡╢╖╕╣║╗╝╜╛┐└┴┬├─┼╞╟╚╔╩╦╠═╬╧╨╤" ++
        "╥╙╘╒╓╫╪┘┌█▄▌▐▀αßΓπΣσµτΦΘΩδ∞φε∩≡±≥≤⌠⌡÷≈°∙·√ⁿ²■\u00a0" },
    { name := "cp720"
      repertoire := .bytes [] <|
        "éâ\u0084à\u0086çêëèïî\u008d\u008e\u008f\u0090\u0651\u0652ô¤ـûùءآأؤ£إئابةتثجحخدذرزس" ++
        "شص«»░▒▓│┤╡╢╖╕╣║╗╝╜╛┐└┴┬├─┼╞╟╚╔╩╦╠═╬╧╨╤╥╙╘╒╓╫╪┘┌█▄▌▐▀ضطظعغفµقكلمنهوىي≡\u064b\u064c" ++
        "\u064d\u064e\u064f\u0650≈°∙·√ⁿ²■\u00a0" },
    { name := "cp737"
      repertoire := .bytes [] <|
        "ΑΒΓΔΕΖΗΘΙΚΛΜΝΞΟΠΡΣΤΥΦΧΨΩαβγδεζηθικλμνξοπρσςτυφχψ░▒▓│┤╡╢╖╕╣║╗╝╜╛┐└┴┬├─┼╞╟╚╔╩╦╠═╬╧╨╤" ++
        "╥╙╘╒╓╫╪┘┌█▄▌▐▀ωάέήϊίόύϋώΆΈΉΊΌΎΏ±≥≤ΪΫ÷≈°∙·√ⁿ²■\u00a0" },
    { name := "cp775", aliases := ["775", "cspc775baltic", "ibm775"]
      repertoire := .bytes [] <|
        "ĆüéāäģåćłēŖŗīŹÄÅÉæÆōöĢ¢ŚśÖÜø£Ø×¤ĀĪóŻżź”¦©®¬½¼Ł«»░▒▓│┤ĄČĘĖ╣║╗╝ĮŠ┐└┴┬├─┼ŲŪ╚╔╩╦╠═╬Žąč" ++
        "ęėįšųūž┘┌█▄▌▐▀ÓßŌŃõÕµńĶķĻļņĒŅ’\u00ad±“¾¶§÷„°∙·¹³²■\u00a0" },
    { name := "cp850", aliases := ["850", "cspc850multilingual", "ibm850"]
      repertoire := .bytes [] <|
        "ÇüéâäàåçêëèïîìÄÅÉæÆôöòûùÿÖÜø£Ø×ƒáíóúñÑªº¿®¬½¼¡«»░▒▓│┤ÁÂÀ©╣║╗╝¢¥┐└┴┬├─┼ãÃ╚╔╩╦╠═╬¤ðÐ" ++
        "ÊËÈıÍÎÏ┘┌█▄¦Ì▀ÓßÔÒõÕµþÞÚÛÙýÝ¯´\u00ad±‗¾¶§÷¸°¨·¹³²■\u00a0" },
    { name := "cp852", aliases := ["852", "cspcp852", "ibm852"]
      repertoire := .bytes [] <|
        "ÇüéâäůćçłëŐőîŹÄĆÉĹĺôöĽľŚśÖÜŤťŁ×čáíóúĄąŽžĘę¬źČş«»░▒▓│┤ÁÂĚŞ╣║╗╝Żż┐└┴┬├─┼Ăă╚╔╩╦╠═╬¤đĐ" ++
        "ĎËďŇÍÎě┘┌█▄ŢŮ▀ÓßÔŃńňŠšŔÚŕŰýÝţ´\u00ad˝˛ˇ˘§÷¸°¨˙űŘř■\u00a0" },
    { name := "cp855", aliases := ["855", "csibm855", "ibm855"]
      repertoire := .bytes [] <|
        "ђЂѓЃёЁєЄѕЅіІїЇјЈљЉњЊћЋќЌўЎџЏюЮъЪаАбБцЦдДеЕфФгГ«»░▒▓│┤хХиИ╣║╗╝йЙ┐└┴┬├─┼кК╚╔╩╦╠═╬¤лЛ" ++
        "мМнНоОп┘┌█▄Пя▀ЯрРсСтТуУжЖвВьЬ№\u00adыЫзЗшШэЭщЩчЧ§■\u00a0" },
    { name := "cp856"
      repertoire := .bytes [] <|
        "אבגדהוזחטיךכלםמןנסעףפץצקרשת?£?×??????????®¬½¼?«»░▒▓│┤???©╣║╗╝¢¥┐└┴┬├─┼??╚╔╩╦╠═╬¤??" ++
        "???????┘┌█▄¦?▀??????µ???????¯´\u00ad±‗¾¶§÷¸°¨·¹³²■\u00a0" },
    { name := "cp857", aliases := ["857", "csibm857", "ibm857"]
      repertoire := .bytes [] <|
        "ÇüéâäàåçêëèïîıÄÅÉæÆôöòûùİÖÜø£ØŞşáíóúñÑĞğ¿®¬½¼¡«»░▒▓│┤ÁÂÀ©╣║╗╝¢¥┐└┴┬├─┼ãÃ╚╔╩╦╠═╬¤ºª" ++
        "ÊËÈ?ÍÎÏ┘┌█▄¦Ì▀ÓßÔÒõÕµ?×ÚÛÙìÿ¯´\u00ad±?¾¶§÷¸°¨·¹³²■\u00a0" },
    { name := "cp858", aliases := ["858", "csibm858", "ibm858"]
      repertoire := .bytes [] <|
        "ÇüéâäàåçêëèïîìÄÅÉæÆôöòûùÿÖÜø£Ø×ƒáíóúñÑªº¿®¬½¼¡«»░▒▓│┤ÁÂÀ©╣║╗╝¢¥┐└┴┬├─┼ãÃ╚╔╩╦╠═╬¤ðÐ" ++
        "ÊËÈ€ÍÎÏ┘┌█▄¦Ì▀ÓßÔÒõÕµþÞÚÛÙýÝ¯´\u00ad±‗¾¶§÷¸°¨·¹³²■\u00a0" },
    { name := "cp860", aliases := ["860", "csibm860", "ibm860"]
      repertoire := .bytes [] <|
        "ÇüéâãàÁçêÊèÍÔìÃÂÉÀÈôõòÚùÌÕÜ¢£Ù₧ÓáíóúñÑªº¿Ò¬½¼¡«»░▒▓│┤╡╢╖╕╣║╗╝╜╛┐└┴┬├─┼╞╟╚╔╩╦╠═╬╧╨╤" ++
        "╥╙╘╒╓╫╪┘┌█▄▌▐▀αßΓπΣσµτΦΘΩδ∞φε∩≡±≥≤⌠⌡÷≈°∙·√ⁿ²■\u00a0" },
    { name := "cp861", aliases := ["861", "cp_is", "csibm861", "ibm861"]
      repertoire := .bytes [] <|
        "ÇüéâäàåçêëèÐðÞÄÅÉæÆôöþûÝýÖÜø£Ø₧ƒáíóúÁÍÓÚ¿⌐¬½¼¡«»░▒▓│┤╡╢╖╕╣║╗╝╜╛┐└┴┬├─┼╞╟╚╔╩╦╠═╬╧╨╤" ++
        "╥╙╘╒╓╫╪┘┌█▄▌▐▀αßΓπΣσµτΦΘΩδ∞φε∩≡±≥≤⌠⌡÷≈°∙·√ⁿ²■\u00a0" },
    { name := "cp862", aliases := ["862", "cspc862latinhebrew", "ibm862"]
      repertoire := .bytes [] <|
        "אבגדהוזחטיךכלםמןנסעףפץצקרשת¢£¥₧ƒáíóúñÑªº¿⌐¬½¼¡«»░▒▓│┤╡╢╖╕╣║╗╝╜╛┐└┴┬├─┼╞╟╚╔╩╦╠═╬╧╨╤" ++
        "╥╙╘╒╓╫╪┘┌█▄▌▐▀αßΓπΣσµτΦΘΩδ∞φε∩≡±≥≤⌠⌡÷≈°∙·√ⁿ²■\u00a0" },
    { name := "cp863", aliases := ["863", "csibm863", "ibm863"]
      repertoire := .bytes [] <|
        "ÇüéâÂà¶çêëèïî‗À§ÉÈÊôËÏûù¤ÔÜ¢£ÙÛƒ¦´óú¨¸³¯Î⌐¬½¼¾«»░▒▓│┤╡╢╖╕╣║╗╝╜╛┐└┴┬├─┼╞╟╚╔╩╦╠═╬╧╨╤" ++
        "╥╙╘╒╓╫╪┘┌█▄▌▐▀αßΓπΣσµτΦΘΩδ∞φε∩≡±≥≤⌠⌡÷≈°∙·√ⁿ²■\u00a0" },
    { name := "cp864", aliases := ["864", "csibm864", "ibm864"]
      repertoire := .bytes [('%', some '٪')] <|
        "°·∙√▒─│┼┤┬├┴┐┌└┘β∞φ±½¼≈«»ﻷﻸ??ﻻﻼ?\u00a0\u00adﺂ£¤ﺄ??ﺎﺏﺕﺙ،ﺝﺡﺥ٠١٢٣٤٥٦٧٨٩ﻑ؛ﺱﺵﺹ؟¢ﺀﺁﺃﺅﻊﺋﺍ" ++
        "ﺑﺓﺗﺛﺟﺣﺧﺩﺫﺭﺯﺳﺷﺻﺿﻁﻅﻋﻏ¦¬÷×ﻉـﻓﻗﻛﻟﻣﻧﻫﻭﻯﻳﺽﻌﻎﻍﻡﹽ\u0651ﻥﻩﻬﻰﻲﻐﻕﻵﻶﻝﻙﻱ■?" },
    { name := "cp865", aliases := ["865", "csibm865", "ibm865"]
      repertoire := .bytes [] <|
        "ÇüéâäàåçêëèïîìÄÅÉæÆôöòûùÿÖÜø£Ø₧ƒáíóúñÑªº¿⌐¬½¼¡«¤░▒▓│┤╡╢╖╕╣║╗╝╜╛┐└┴┬├─┼╞╟╚╔╩╦╠═╬╧╨╤" ++
        "╥╙╘╒╓╫╪┘┌█▄▌▐▀αßΓπΣσµτΦΘΩδ∞φε∩≡±≥≤⌠⌡÷≈°∙·√ⁿ²■\u00a0" },
    { name := "cp866", aliases := ["866", "csibm866", "ibm866"]
      repertoire := .bytes [] <|
        "АБВГДЕЖЗИЙКЛМНОПРСТУФХЦЧШЩЪЫЬЭЮЯабвгдежзийклмноп░▒▓│┤╡╢╖╕╣║╗╝╜╛┐└┴┬├─┼╞╟╚╔╩╦╠═╬╧╨╤" ++
        "╥╙╘╒╓╫╪┘┌█▄▌▐▀рстуфхцчшщъыьэюяЁёЄєЇїЎў°∙·√№¤■\u00a0" },
    { name := "cp869", aliases := ["869", "cp_gr", "csibm869", "ibm869"]
      repertoire := .bytes [] <|
        "??????Ά?·¬¦‘’Έ―ΉΊΪΌ??ΎΫ©Ώ²³ά£έήίϊΐόύΑΒΓΔΕΖΗ½ΘΙ«»░▒▓│┤ΚΛΜΝ╣║╗╝ΞΟ┐└┴┬├─┼ΠΡ╚╔╩╦╠═╬ΣΤΥ" ++
        "ΦΧΨΩαβγ┘┌█▄δε▀ζηθικλμνξοπρσςτ΄\u00ad±υφχ§ψ΅°¨ωϋΰώ■\u00a0" },
    { name := "cp874"
      repertoire := .bytes [] <|
        "€????…???????????‘’“”•–—????????\u00a0กขฃคฅฆงจฉชซฌญฎฏฐฑฒณดตถทธนบปผฝพฟภมยรฤลฦวศษสหฬ" ++
        "อฮฯะ\u0e31าำ\u0e34\u0e35\u0e36\u0e37\u0e38\u0e39\u0e3a????฿เแโใไๅๆ\u0e47\u0e48" ++
        "\u0e49\u0e4a\u0e4b\u0e4c\u0e4d\u0e4e๏๐๑๒๓๔๕๖๗๘๙๚๛????" },
    { name := "hp_roman8", aliases := ["cp1051", "ibm1051", "r8", "roman8"]
      repertoire := .bytes [] <|
        "ÀÂÈÊËÎÏ´ˋˆ¨˜ÙÛ₤¯Ýý°ÇçÑñ¡¿¤£¥§ƒ¢âêôûáéóúàèòùäëöüÅîØÆåíøæÄìÖÜÉïßÔÁÃãÐðÍÌÓÒÕõŠšÚŸÿÞþ·" ++
        "µ¶¾—¼½ªº«■»±?" },
    { name := "iso8859_10", aliases := ["csisolatin6", "iso_8859_10", "iso_8859_10_1992",
        "iso_ir_157", "l6", "latin6"]
      repertoire := .bytes [] <|
        "ĄĒĢĪĨĶ§ĻĐŠŦŽ\u00adŪŊ°ąēģīĩķ·ļđšŧž―ūŋĀÁÂÃÄÅÆĮČÉĘËĖÍÎÏÐŅŌÓÔÕÖŨØŲÚÛÜÝÞßāáâãäåæįčéęëėí" ++
        "îïðņōóôõöũøųúûüýþĸ" },
    { name := "iso8859_11", aliases := ["iso_8859_11", "iso_8859_11_2001", "thai"]
      repertoire := .bytes [] <|
        "กขฃคฅฆงจฉชซฌญฎฏฐฑฒณดตถทธนบปผฝพฟภมยรฤลฦวศษสหฬอฮฯะ\u0e31าำ\u0e34\u0e35\u0e36\u0e37" ++
        "\u0e38\u0e39\u0e3a????฿เแโใไๅๆ\u0e47\u0e48\u0e49\u0e4a\u0e4b\u0e4c\u0e4d\u0e4e๏๐๑๒" ++
        "๓๔๕๖๗๘๙๚๛????" },
    { name := "iso8859_13", aliases := ["iso_8859_13", "l7", "latin7"]
      repertoire := .bytes [] <|
        "”¢£¤„¦§Ø©Ŗ«¬\u00ad®Æ°±²³“µ¶·ø¹ŗ»¼½¾æĄĮĀĆÄÅĘĒČÉŹĖĢĶĪĻŠŃŅÓŌÕÖ×ŲŁŚŪÜŻŽßąįāćäåęēčéźėģķ" ++
        "īļšńņóōõö÷ųłśūüżž’" },
    { name := "iso8859_14", aliases := ["iso_8859_14", "iso_8859_14_1998", "iso_celtic",
        "iso_ir_199", "l8", "latin8"]
      repertoire := .bytes [] <|
        "Ḃḃ£ĊċḊ§Ẁ©ẂḋỲ\u00ad®ŸḞḟĠġṀṁ¶ṖẁṗẃṠỳẄẅṡÀÁÂÃÄÅÆÇÈÉÊËÌÍÎÏŴÑÒÓÔÕÖṪØÙÚÛÜÝŶßàáâãäåæçèéêëìí" ++
        "îïŵñòóôõöṫøùúûüýŷÿ" },
    { name := "iso8859_15", aliases := ["iso_8859_15", "l9", "latin9"]
      repertoire := .bytes [] <|
        "€¥Š§š©ª«¬\u00ad®¯°±²³Žµ¶·ž¹º»ŒœŸ¿ÀÁÂÃÄÅÆÇÈÉÊËÌÍÎÏÐÑÒÓÔÕÖ×ØÙÚÛÜÝÞßàáâãäåæçèéêëìíîïð" ++
        "ñòóôõö÷øùúûüýþÿ" },
    { name := "iso8859_16", aliases := ["iso_8859_16", "iso_8859_16_2001", "iso_ir_226", "l10",
        "latin10"]
      repertoire := .bytes [] <|
        "ĄąŁ€„Š§š©Ș«Ź\u00adźŻ°±ČłŽ”¶·žčș»ŒœŸżÀÁÂĂÄĆÆÇÈÉÊËÌÍÎÏĐŃÒÓÔŐÖŚŰÙÚÛÜĘȚßàáâăäćæçèéêëìí" ++
        "îïđńòóôőöśűùúûüęțÿ" },
    { name := "iso8859_2", aliases := ["csisolatin2", "iso_8859_2", "iso_8859_2_1987", "iso_ir_101",
        "l2", "latin2"]
      repertoire := .bytes [] <|
        "Ą˘Ł¤ĽŚ§¨ŠŞŤŹ\u00adŽŻ°ą˛ł´ľśˇ¸šşťź˝žżŔÁÂĂÄĹĆÇČÉĘËĚÍÎĎĐŃŇÓÔŐÖ×ŘŮÚŰÜÝŢßŕáâăäĺćçčéęëěí" ++
        "îďđńňóôőö÷řůúűüýţ˙" },
    { name := "iso8859_3", aliases := ["csisolatin3", "iso_8859_3", "iso_8859_3_1988", "iso_ir_109",
        "l3", "latin3"]
      repertoire := .bytes [] <|
        "Ħ˘£¤?Ĥ§¨İŞĞĴ\u00ad?Ż°ħ²³´µĥ·¸ışğĵ½?żÀÁÂ?ÄĊĈÇÈÉÊËÌÍÎÏ?ÑÒÓÔĠÖ×ĜÙÚÛÜŬŜßàáâ?äċĉçèéêëìí" ++
        "îï?ñòóôġö÷ĝùúûüŭŝ˙" },
    { name := "iso8859_4", aliases := ["csisolatin4", "iso_8859_4", "iso_8859_4_1988", "iso_ir_110",
        "l4", "latin4"]
      repertoire := .bytes [] <|
        "ĄĸŖ¤ĨĻ§¨ŠĒĢŦ\u00adŽ¯°ą˛ŗ´ĩļˇ¸šēģŧŊžŋĀÁÂÃÄÅÆĮČÉĘËĖÍÎĪĐŅŌĶÔÕÖ×ØŲÚÛÜŨŪßāáâãäåæįčéęëėí" ++
        "îīđņōķôõö÷øųúûüũū˙" },
    { name := "iso8859_5", aliases := ["csisolatincyrillic", "cyrillic", "iso_8859_5",
        "iso_8859_5_1988", "iso_ir_144"]
      repertoire := .bytes [] <|
        "ЁЂЃЄЅІЇЈЉЊЋЌ\u00adЎЏАБВГДЕЖЗИЙКЛМНОПРСТУФХЦЧШЩЪЫЬЭЮЯабвгдежзийклмнопрстуфхцчшщъыьэ" ++
        "юя№ёђѓєѕіїјљњћќ§ўџ" },
    { name := "iso8859_6", aliases := ["arabic", "asmo_708", "csisolatinarabic", "ecma_114",
        "iso_8859_6", "iso_8859_6_1987", "iso_ir_127"]
      repertoire := .bytes [] <|
        "???¤???????،\u00ad?????????????؛???؟?ءآأؤإئابةتثجحخدذرزسشصضطظعغ?????ـفقكلمنهوىي" ++
        "\u064b\u064c\u064d\u064e\u064f\u0650\u0651\u0652?????????????" },
    { name := "iso8859_7", aliases := ["csisolatingreek", "ecma_118", "elot_928", "greek", "greek8",
        "iso_8859_7", "iso_8859_7_1987", "iso_ir_126"]
      repertoire := .bytes [] <|
        "‘’£€₯¦§¨©ͺ«¬\u00ad?―°±²³΄΅Ά·ΈΉΊ»Ό½ΎΏΐΑΒΓΔΕΖΗΘΙΚΛΜΝΞΟΠΡ?ΣΤΥΦΧΨΩΪΫάέήίΰαβγδεζηθικλμν" ++
        "ξοπρςστυφχψωϊϋόύώ?" },
    { name := "iso8859_8", aliases := ["csisolatinhebrew", "hebrew", "iso_8859_8",
        "iso_8859_8_1988", "iso_ir_138"]
      repertoire := .bytes [] <|
        "?¢£¤¥¦§¨©×«¬\u00ad®¯°±²³´µ¶·¸¹÷»¼½¾????????????????????????????????‗אבגדהוזחטיךכלם" ++
        "מןנסעףפץצקרשת??\u200e\u200f?" },
    { name := "iso8859_9", aliases := ["csisolatin5", "iso_8859_9", "iso_8859_9_1989", "iso_ir_148",
        "l5", "latin5"]
      repertoire := .bytes [] <|
        "ĞÑÒÓÔÕÖ×ØÙÚÛÜİŞßàáâãäåæçèéêëìíîïğñòóôõö÷øùúûüışÿ" },
    { name := "koi8_r", aliases := ["cskoi8r"]
      repertoire := .bytes [] <|
        "─│┌┐└┘├┤┬┴┼▀▄█▌▐░▒▓⌠■∙√≈≤≥\u00a0⌡°²·÷═║╒ё╓╔╕╖╗╘╙╚╛╜╝╞╟╠╡Ё╢╣╤╥╦╧╨╩╪╫╬©юабцдефгхийкл" ++
        "мнопярстужвьызшэщчъЮАБЦДЕФГХИЙКЛМНОПЯРСТУЖВЬЫЗШЭЩЧЪ" },
    { name := "koi8_t"
      repertoire := .bytes [] <|
        "қғ‚Ғ„…†‡?‰ҳ‹ҲҷҶ?Қ‘’“”•–—?™?›?????ӯӮё¤ӣ¦§???«¬\u00ad®?°±²Ё?Ӣ¶·?№?»???©юабцдефгхийкл" ++
        "мнопярстужвьызшэщчъЮАБЦДЕФГХИЙКЛМНОПЯРСТУЖВЬЫЗШЭЩЧЪ" },
    { name := "koi8_u"
      repertoire := .bytes [] <|
        "─│┌┐└┘├┤┬┴┼▀▄█▌▐░▒▓⌠■∙√≈≤≥\u00a0⌡°²·÷═║╒ёє╔ії╗╘╙╚╛ґ╝╞╟╠╡ЁЄ╣ІЇ╦╧╨╩╪Ґ╬©юабцдефгхийкл" ++
        "мнопярстужвьызшэщчъЮАБЦДЕФГХИЙКЛМНОПЯРСТУЖВЬЫЗШЭЩЧЪ" },
    { name := "kz1048", aliases := ["kz_1048", "rk1048", "strk1048_2002"]
      repertoire := .bytes [] <|
        "ЂЃ‚ѓ„…†‡€‰Љ‹ЊҚҺЏђ‘’“”•–—?™љ›њқһџ\u00a0ҰұӘ¤Ө¦§Ё©Ғ«¬\u00ad®Ү°±Ііөµ¶·ё№ғ»әҢңүАБВГДЕЖЗ" ++
        "ИЙКЛМНОПРСТУФХЦЧШЩЪЫЬЭЮЯабвгдежзийклмнопрстуфхцчшщъыьэюя" },
    { name := "mac_arabic"
      repertoire := .bytes mirroredSigns <|
        "Ä\u00a0ÇÉÑÖÜáàâäں«çéèêëí…îïñó»ôö÷úùûü?????٪??????،???٠١٢٣٤٥٦٧٨٩?؛???؟❊ءآأؤإئابةتثج" ++
        "حخدذرزسشصضطظعغ?????ـفقكلمنهوىي\u064b\u064c\u064d\u064e\u064f\u0650\u0651\u0652پٹچە" ++
        "ڤگڈڑ???ژے" },
    { name := "mac_croatian"
      repertoire := .bytes [] <|
        "ÄÅÇÉÑÖÜáàâäãåçéèêëíìîïñóòôöõúùûü†°¢£§•¶ß®Š™´¨≠ŽØ∞±≤≥∆µ∂∑∏š∫ªºΩžø¿¡¬√ƒ≈Ć«Č…\u00a0ÀÃ" ++
        "ÕŒœĐ—“”‘’÷◊\uf8ff©⁄€‹›Æ»–·‚„‰ÂćÁčÈÍÎÏÌÓÔđÒÚÛÙıˆ˜¯πË˚¸Êæˇ" },
    { name := "mac_cyrillic", aliases := ["maccyrillic"]
      repertoire := .bytes [] <|
        "АБВГДЕЖЗИЙКЛМНОПРСТУФХЦЧШЩЪЫЬЭЮЯ†°Ґ£§•¶І®©™Ђђ≠Ѓѓ∞±≤≥іµґЈЄєЇїЉљЊњјЅ¬√ƒ≈∆«»…\u00a0Ћћ" ++
        "Ќќѕ–—“”‘’÷„ЎўЏџ№Ёёяабвгдежзийклмнопрстуфхцчшщъыьэю€" },
    { name := "mac_farsi"
      repertoire := .bytes mirroredSigns <|
        "Ä\u00a0ÇÉÑÖÜáàâäں«çéèêëí…îïñó»ôö÷úùûü?????٪??????،???۰۱۲۳۴۵۶۷۸۹?؛???؟❊ءآأؤإئابةتثج" ++
        "حخدذرزسشصضطظعغ?????ـفقكلمنهوىي\u064b\u064c\u064d\u064e\u064f\u0650\u0651\u0652پٹچە" ++
        "ڤگڈڑ???ژے" },
    { name := "mac_greek", aliases := ["macgreek"]
      repertoire := .bytes [] <|
        "Ä¹²É³ÖÜ΅àâä΄¨çéèêë£™îï•½‰ôö¦€ùûü†ΓΔΘΛΞΠß®©ΣΪ§≠°·Α±≤≥¥ΒΕΖΗΙΚΜΦΫΨΩάΝ¬ΟΡ≈Τ«»…\u00a0ΥΧ" ++
        "ΆΈœ–―“”‘’÷ΉΊΌΎέήίόΏύαβψδεφγηιξκλμνοπώρστθωςχυζϊϋΐΰ\u00ad" },
    { name := "mac_iceland", aliases := ["maciceland"]
      repertoire := .bytes [] <|
        "ÄÅÇÉÑÖÜáàâäãåçéèêëíìîïñóòôöõúùûüÝ°¢£§•¶ß®©™´¨≠ÆØ∞±≤≥¥µ∂∑∏π∫ªºΩæø¿¡¬√ƒ≈∆«»…\u00a0ÀÃ" ++
        "ÕŒœ–—“”‘’÷◊ÿŸ⁄€ÐðÞþý·‚„‰ÂÊÁËÈÍÎÏÌÓÔ\uf8ffÒÚÛÙıˆ˜¯˘˙˚¸˝˛ˇ" },
    { name := "mac_latin2", aliases := ["mac_centeuro", "maccentraleurope", "maclatin2"]
      repertoire := .bytes [] <|
        "ÄĀāÉĄÖÜáąČäčĆćéŹźĎíďĒēĖóėôöõúĚěü†°Ę£§•¶ß®©™ę¨≠ģĮįĪ≤≥īĶ∂∑łĻļĽľĹĺŅņŃ¬√ńŇ∆«»…\u00a0ňŐ" ++
        "ÕőŌ–—“”‘’÷◊ōŔŕŘ‹›řŖŗŠ‚„šŚśÁŤťÍŽžŪÓÔūŮÚůŰűŲųÝýķŻŁżĢˇ" },
    { name := "mac_roman", aliases := ["macintosh", "macroman"]
      repertoire := .bytes [] <|
        "ÄÅÇÉÑÖÜáàâäãåçéèêëíìîïñóòôöõúùûü†°¢£§•¶ß®©™´¨≠ÆØ∞±≤≥¥µ∂∑∏π∫ªºΩæø¿¡¬√ƒ≈∆«»…\u00a0ÀÃ" ++
        "ÕŒœ–—“”‘’÷◊ÿŸ⁄€‹›ﬁﬂ‡·‚„‰ÂÊÁËÈÍÎÏÌÓÔ\uf8ffÒÚÛÙıˆ˜¯˘˙˚¸˝˛ˇ" },
    { name := "mac_romanian"
      repertoire := .bytes [] <|
        "ÄÅÇÉÑÖÜáàâäãåçéèêëíìîïñóòôöõúùûü†°¢£§•¶ß®©™´¨≠ĂȘ∞±≤≥¥µ∂∑∏π∫ªºΩăș¿¡¬√ƒ≈∆«»…\u00a0ÀÃ" ++
        "ÕŒœ–—“”‘’÷◊ÿŸ⁄€‹›Țț‡·‚„‰ÂÊÁËÈÍÎÏÌÓÔ\uf8ffÒÚÛÙıˆ˜¯˘˙˚¸˝˛ˇ" },
    { name := "mac_turkish", aliases := ["macturkish"]
      repertoire := .bytes [] <|
        "ÄÅÇÉÑÖÜáàâäãåçéèêëíìîïñóòôöõúùûü†°¢£§•¶ß®©™´¨≠ÆØ∞±≤≥¥µ∂∑∏π∫ªºΩæø¿¡¬√ƒ≈∆«»…\u00a0ÀÃ" ++
        "ÕŒœ–—“”‘’÷◊ÿŸĞğİıŞş‡·‚„‰ÂÊÁËÈÍÎÏÌÓÔ\uf8ffÒÚÛÙ\uf8a0ˆ˜¯˘˙˚¸˝˛ˇ" },
    { name := "palmos"
      repertoire := .bytes [] <|
        "€\u0081‚ƒ„…†‡ˆ‰Š‹Œ♦♣♥♠‘’“”•–—˜™š\u009bœ\u009d\u009eŸ\u00a0¡¢£¤¥¦§¨©ª«¬\u00ad®¯°±²³" ++
        "´µ¶·¸¹º»¼½¾¿ÀÁÂÃÄÅÆÇÈÉÊËÌÍÎÏÐÑÒÓÔÕÖ×ØÙÚÛÜÝÞßàáâãäåæçèéêëìíîïðñòóôõö÷øùúûüýþÿ" },
    { name := "ptcp154", aliases := ["cp154", "csptcp154", "cyrillic_asian", "pt154"]
      repertoire := .bytes [] <|
        "ҖҒӮғ„…ҶҮҲүҠӢҢҚҺҸҗ‘’“”•–—ҳҷҡӣңқһҹ\u00a0ЎўЈӨҘҰ§Ё©Ә«¬ӯ®Ҝ°ұІіҙө¶·ё№ә»јҪҫҝАБВГДЕЖЗИЙКЛМ" ++
        "НОПРСТУФХЦЧШЩЪЫЬЭЮЯабвгдежзийклмнопрстуфхцчшщъыьэюя" },
    { name := "tis_620", aliases := ["iso_ir_166", "tis620", "tis_620_0", "tis_620_2529_0",
        "tis_620_2529_1"]
      repertoire := .bytes [] <|
        "?กขฃคฅฆงจฉชซฌญฎฏฐฑฒณดตถทธนบปผฝพฟภมยรฤลฦวศษสหฬอฮฯะ\u0e31าำ\u0e34\u0e35\u0e36\u0e37" ++
        "\u0e38\u0e39\u0e3a????฿เแโใไๅๆ\u0e47\u0e48\u0e49\u0e4a\u0e4b\u0e4c\u0e4d\u0e4e๏๐๑๒" ++
        "๓๔๕๖๗๘๙๚๛????" }]

/-- ASCII, and the charsets with characters of several bytes. -/
def mixedCharsets : List Charset :=
  [{ name := "ascii", aliases := ["646", "ansi_x3.4_1968", "ansi_x3.4_1986", "ansi_x3_4_1968",
       "cp367", "csascii", "ibm367", "iso646_us", "iso_646.irv_1991", "iso_ir_6", "us", "us_ascii"]
     repertoire := .bytes [] noBytes },
    { name := "big5", aliases := ["big5_tw", "csbig5", "x_mac_trad_chinese"]
      repertoire := .bytes [] noBytes },
    { name := "big5hkscs", aliases := ["big5_hkscs", "hkscs"], repertoire := .bytes [] noBytes },
    { name := "cp932", aliases := ["932", "ms932", "ms_kanji", "mskanji"]
      repertoire := .bytes [] noBytes },
    { name := "cp949", aliases := ["949", "ms949", "uhc"], repertoire := .bytes [] noBytes },
    { name := "cp950", aliases := ["950", "ms950"], repertoire := .bytes [] noBytes },
    { name := "euc_jis_2004", aliases := ["euc_jis2004", "eucjis2004", "jisx0213"]
      repertoire := .bytes [] noBytes },
    { name := "euc_jisx0213", aliases := ["eucjisx0213"], repertoire := .bytes [] noBytes },
    { name := "euc_jp", aliases := ["eucjp", "u_jis", "ujis"], repertoire := .bytes [] noBytes },
    { name := "euc_kr", aliases := ["euckr", "korean", "ks_c_5601", "ks_c_5601_1987", "ks_x_1001",
        "ksc5601", "ksx1001", "x_mac_korean"]
      repertoire := .bytes [] noBytes },
    { name := "gb18030", aliases := ["gb18030_2000"], repertoire := .bytes [] noBytes },
    { name := "gb2312", aliases := ["chinese", "csiso58gb231280", "euc_cn", "euccn", "eucgb2312_cn",
        "gb2312_1980", "gb2312_80", "iso_ir_58", "x_mac_simp_chinese"]
      repertoire := .bytes [] noBytes },
    { name := "gbk", aliases := ["936", "cp936", "ms936"], repertoire := .bytes [] noBytes },
    { name := "idna", repertoire := .bytes [] noBytes },
    { name := "johab", aliases := ["cp1361", "ms1361"], repertoire := .bytes [] noBytes },
    { name := "shift_jis", aliases := ["csshiftjis", "s_jis", "shiftjis", "sjis", "x_mac_japanese"]
      repertoire := .bytes [] noBytes },
    { name := "hz", aliases := ["hz_gb", "hz_gb_2312", "hzgb"]
      repertoire := .bytes [('~', none)] noBytes },
    { name := "iso2022_jp", aliases := ["csiso2022jp", "iso2022jp", "iso_2022_jp"]
      repertoire := .bytes [('\x1b', none)] noBytes },
    { name := "iso2022_jp_1", aliases := ["iso2022jp_1", "iso_2022_jp_1"]
      repertoire := .bytes [('\x1b', none)] noBytes },
    { name := "iso2022_jp_2", aliases := ["iso2022jp_2", "iso_2022_jp_2"]
      repertoire := .bytes [('\x1b', none)] noBytes },
    { name := "iso2022_jp_2004", aliases := ["iso2022jp_2004", "iso_2022_jp_2004"]
      repertoire := .bytes [('\x1b', none)] noBytes },
    { name := "iso2022_jp_3", aliases := ["iso2022jp_3", "iso_2022_jp_3"]
      repertoire := .bytes [('\x1b', none)] noBytes },
    { name := "iso2022_jp_ext", aliases := ["iso2022jp_ext", "iso_2022_jp_ext"]
      repertoire := .bytes [('\x1b', none)] noBytes },
    { name := "iso2022_kr", aliases := ["csiso2022kr", "iso2022kr", "iso_2022_kr"]
      repertoire := .bytes [('\x0e', none), ('\x0f', none), ('\x1b', none)] noBytes },
    { name := "shift_jis_2004", aliases := ["s_jis_2004", "shiftjis2004", "sjis_2004"]
      repertoire := .bytes [('\\', some '¥'), ('~', some '‾')] noBytes },
    { name := "shift_jisx0213", aliases := ["s_jisx0213", "shiftjisx0213", "sjisx0213"]
      repertoire := .bytes [('\\', some '¥'), ('~', some '‾')] noBytes },
    { name := "utf_7", aliases := ["u7", "unicode_1_1_utf_7", "utf7"]
      repertoire := .bytes [('+', none)] noBytes }]

/-- All charsets of this library. -/
def charsets : List Charset :=
  universalCharsets ++ byteCharsets ++ mixedCharsets

/-- The codecs of this library. -/
def ownCodecs : Codecs :=
  fun name =>
    (charsets.find? (·.answersTo (canonicalName false false name))).map (·.repertoire.codec)

end Marginalia.Offside
